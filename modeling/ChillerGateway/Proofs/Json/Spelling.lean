import ChillerGateway.Proofs.Json.Number

/-!
# The tokens of a written text

A word or a number ends only where something follows that cannot belong to it; strings and
punctuation end by themselves.  So a text is *finished* when it gives the same tokens whatever
follows, and it *spells* tokens when it gives them before any such end.

* `Spells.mark` — punctuation finishes a text.
* `spells_word`, `Number.Restores.spells`, `Finished.string` — words, numbers and strings.
* `Spells.tokens?_eq` — the tokens of the whole text.
-/

namespace ChillerGateway

namespace Json

/-! ## Pieces of strings -/

/-- A piece stands for a character as it is, or for a control character by its number. -/
def Piece.Names (p : Piece) (c : Char) : Prop := p = .char c ∨ p = .unit c.toNat ∧ c.toNat < 0x20

theorem Piece.Names.join?_cons {p : Piece} {c : Char} (h : p.Names c) (pieces : List Piece)
    (out : List Char) : join? (p :: pieces) out = join? pieces (c :: out) := by
  rcases h with rfl | ⟨rfl, hc⟩
  · rw [join?]
  · have hhigh : ¬ (0xD800 ≤ c.toNat ∧ c.toNat < 0xDC00) := by omega
    have hlow : ¬ (0xDC00 ≤ c.toNat ∧ c.toNat < 0xE000) := by omega
    have hany : ¬ (0xD800 ≤ c.toNat ∧ c.toNat < 0xE000) := by omega
    cases pieces with
    | nil => simp [join?, hany, Char.ofNat_toNat]
    | cons q pieces =>
      cases q with
      | char => simp [join?, hany, Char.ofNat_toNat]
      | unit => simp [join?, hhigh, hlow, Char.ofNat_toNat]

/-! ## Steps of the lexer -/

namespace Lexer

theorem run?_step {state state' : Lexer} {read read' : List Token} {c : Char}
    (h : state.step? read c = some (state', read')) (rest : List Char) :
    run? (c :: rest) state read = run? rest state' read' := by
  rw [run?, h]

theorem run?_start {state' : Lexer} {read read' : List Token} {c : Char}
    (h : start? read c = some (state', read')) (rest : List Char) :
    run? (c :: rest) .between read = run? rest state' read' := by
  rw [run?, step?, h]

theorem digit?_hexDigit : ∀ n < 16, Text.digit? 16 (hexDigit n) = some n := by decide

/-- A code of four digits that begins with two zeros. -/
theorem run?_code {n : Nat} (hn : n < 256) (parts : List Piece) (read : List Token)
    (rest : List Char) :
    run? ('\\' :: 'u' :: '0' :: '0' :: hexDigit (n / 16) :: hexDigit (n % 16) :: rest)
        (.string parts) read = run? rest (.string (.unit n :: parts)) read := by
  have hhigh := digit?_hexDigit (n / 16) (by omega)
  have hlow := digit?_hexDigit (n % 16) (by omega)
  have hvalue : n / 16 * 16 + n % 16 = n := Nat.div_add_mod' n 16
  have hzeros : run? ('\\' :: 'u' :: '0' :: '0' :: hexDigit (n / 16) :: hexDigit (n % 16) :: rest)
      (.string parts) read =
        run? (hexDigit (n / 16) :: hexDigit (n % 16) :: rest) (.code parts [0, 0]) read := rfl
  have hthird : step? (.code parts [0, 0]) read (hexDigit (n / 16)) =
      some (.code parts [n / 16, 0, 0], read) := by simp [step?, hhigh]
  have hfourth : step? (.code parts [n / 16, 0, 0]) read (hexDigit (n % 16)) =
      some (.string (.unit n :: parts), read) := by simp [step?, hlow, hvalue]
  rw [hzeros, run?_step hthird, run?_step hfourth]

/-- A character of a string, as it is written. -/
theorem run?_renderChar (c : Char) :
    ∃ p : Piece, p.Names c ∧ ∀ parts read rest,
      run? ((renderChar c).toList ++ rest) (.string parts) read =
        run? rest (.string (p :: parts)) read := by
  have hescape : ∀ {e : Char}, escaped? e = some c → e ≠ 'u' → ∀ parts read rest,
      run? ('\\' :: e :: rest) (.string parts) read =
        run? rest (.string (.char c :: parts)) read := by
    intro e he hu parts read rest
    have hstep : step? (.escape parts) read e = some (.string (.char c :: parts), read) := by
      simp [step?, hu, he]
    exact run?_step hstep rest
  unfold renderChar
  split
  · rename_i hc
    exact ⟨.char c, .inl rfl, hescape (hc ▸ rfl) (by decide)⟩
  split
  · rename_i hc
    exact ⟨.char c, .inl rfl, hescape (hc ▸ rfl) (by decide)⟩
  split
  · rename_i hquote hslash hprint
    refine ⟨.char c, .inl rfl, fun parts read rest => ?_⟩
    have hstep : step? (.string parts) read c = some (.string (.char c :: parts), read) := by
      simp [step?, hquote, hslash, Nat.not_lt.mpr hprint]
    rw [Char.toString_eq_singleton, String.toList_singleton]
    exact run?_step hstep rest
  · rename_i hcontrol
    split
    · exact ⟨.char _, .inl rfl, hescape rfl (by decide)⟩
    · exact ⟨.char _, .inl rfl, hescape rfl (by decide)⟩
    · exact ⟨.char _, .inl rfl, hescape rfl (by decide)⟩
    · exact ⟨.char _, .inl rfl, hescape rfl (by decide)⟩
    · exact ⟨.char _, .inl rfl, hescape rfl (by decide)⟩
    · refine ⟨.unit c.toNat, .inr ⟨rfl, by omega⟩, fun parts read rest => ?_⟩
      rw [String.toList_ofList]
      exact run?_code (n := c.toNat) (by omega) parts read rest

/-- The characters of a string, as they are written, are read as pieces that are put together to
them. -/
theorem run?_renderChars (cs : List Char) :
    ∃ pieces : List Piece, (∀ out, join? pieces out = some (out.reverse ++ cs)) ∧
      ∀ parts read rest,
        run? (cs.flatMap (fun c => (renderChar c).toList) ++ rest) (.string parts) read =
          run? rest (.string (pieces.reverse ++ parts)) read := by
  induction cs with
  | nil => exact ⟨[], fun out => by simp [join?], fun _ _ _ => rfl⟩
  | cons c cs ih =>
    obtain ⟨p, hp, hfirst⟩ := run?_renderChar c
    obtain ⟨pieces, hjoin, hrest⟩ := ih
    refine ⟨p :: pieces, fun out => ?_, fun parts read rest => ?_⟩
    · rw [hp.join?_cons, hjoin]
      simp
    · rw [List.flatMap_cons, List.append_assoc, hfirst, hrest]
      simp

/-! ## Where a word or a number ends -/

/-- Nothing follows that could belong to a word or a number. -/
def Stops (rest : List Char) : Prop := ∀ c ∈ rest.head?, c.isLower = false ∧ isNumberChar c = false

/-- A word or a number is a token of its own where it stops. -/
theorem run?_stop {state : Lexer} {t : Token} {read : List Token} {rest : List Char}
    (hfinish : state.finish? read = some (t :: read)) (hrest : Stops rest)
    (hclose : ∀ c, c.isLower = false → isNumberChar c = false →
      state.step? read c = step?.close? state read c) :
    run? rest state read = run? rest .between (t :: read) := by
  cases rest with
  | nil => exact hfinish
  | cons c rest =>
    obtain ⟨hlower, hnumber⟩ := hrest c rfl
    have hsame : state.step? read c = step? .between (t :: read) c := by
      rw [hclose c hlower hnumber, step?.close?, hfinish]
      rfl
    rw [run?, run?, hsame]

theorem run?_word {cs : List Char} (h : cs.all Char.isLower = true) (text : List Char)
    (read : List Token) (rest : List Char) :
    run? (cs ++ rest) (.word text) read = run? rest (.word (cs.reverse ++ text)) read := by
  induction cs generalizing text with
  | nil => rfl
  | cons c cs ih =>
    rw [List.all_cons, Bool.and_eq_true] at h
    have hstep : step? (.word text) read c = some (.word (c :: text), read) := by
      simp [step?, h.1]
    rw [List.cons_append, run?_step hstep, ih h.2]
    simp

theorem run?_number {cs : List Char} (h : ∀ c ∈ cs, isNumberChar c = true) (text : List Char)
    (read : List Token) (rest : List Char) :
    run? (cs ++ rest) (.number text) read = run? rest (.number (cs.reverse ++ text)) read := by
  induction cs generalizing text with
  | nil => rfl
  | cons c cs ih =>
    rw [List.forall_mem_cons] at h
    have hstep : step? (.number text) read c = some (.number (c :: text), read) := by
      simp [step?, h.1]
    rw [List.cons_append, run?_step hstep, ih h.2]
    simp

theorem start?_number {c : Char} (h : c.isDigit = true ∨ c = '-') (read : List Token) :
    start? read c = some (.number [c], read) := by
  rcases h with h | rfl
  · unfold start?
    split
    case h_12 => simp [h]
    all_goals exact absurd h (by decide)
  · rfl

end Lexer

/-! ## Texts and their tokens -/

/-- A text that gives these tokens, whatever follows. -/
def Finished (text : String) (tokens : List Token) : Prop :=
  ∀ read rest, Lexer.run? (text.toList ++ rest) .between read =
    Lexer.run? rest .between (tokens.reverse ++ read)

/-- A text that gives these tokens where a word or a number may end. -/
def Spells (text : String) (tokens : List Token) : Prop :=
  ∀ read rest, Lexer.Stops rest → Lexer.run? (text.toList ++ rest) .between read =
    Lexer.run? rest .between (tokens.reverse ++ read)

variable {text : String} {tokens : List Token}

theorem Finished.spells (h : Finished text tokens) : Spells text tokens :=
  fun read rest _ => h read rest

theorem finished_nil : Finished "" [] := fun _ _ => rfl

/-- **The tokens of a whole text** are those that it spells. -/
theorem Spells.tokens?_eq (h : Spells text tokens) : tokens? text = some tokens := by
  have hreads := h [] [] (fun c hc => by cases hc)
  rw [List.append_nil, List.append_nil] at hreads
  unfold tokens?
  rw [hreads]
  simp [Lexer.run?, Lexer.finish?]

/-- A text after a finished one. -/
theorem Finished.append_spells (h : Finished text tokens) {more : String} {new : List Token}
    (hmore : Spells more new) : Spells (text ++ more) (tokens ++ new) := by
  intro read rest hrest
  rw [String.toList_append, List.append_assoc, h, hmore _ _ hrest]
  simp

/-! ## Punctuation -/

/-- A character that is a token of its own. -/
structure IsMark (mark : String) (t : Token) : Prop where
  start : ∀ read rest, Lexer.run? (mark.toList ++ rest) .between read =
    Lexer.run? rest .between (t :: read)
  stops : ∀ rest, Lexer.Stops (mark.toList ++ rest)

theorem isMark_of {mark : String} {c : Char} {t : Token} (hm : mark.toList = [c])
    (hs : ∀ read, Lexer.start? read c = some (.between, t :: read))
    (hc : c.isLower = false ∧ isNumberChar c = false) : IsMark mark t := by
  constructor
  · intro read rest
    rw [hm]
    exact Lexer.run?_start (hs read) rest
  · intro rest d hd
    rw [hm] at hd
    cases hd
    exact hc

theorem isMark_comma : IsMark "," .comma := isMark_of rfl (fun _ => rfl) (by decide)
theorem isMark_colon : IsMark ":" .colon := isMark_of rfl (fun _ => rfl) (by decide)
theorem isMark_beginArray : IsMark "[" .beginArray := isMark_of rfl (fun _ => rfl) (by decide)
theorem isMark_endArray : IsMark "]" .endArray := isMark_of rfl (fun _ => rfl) (by decide)
theorem isMark_beginObject : IsMark "\x7b" .beginObject := isMark_of rfl (fun _ => rfl) (by decide)
theorem isMark_endObject : IsMark "\x7d" .endObject := isMark_of rfl (fun _ => rfl) (by decide)

/-- **Punctuation finishes a text.** -/
theorem Spells.mark (h : Spells text tokens) {mark : String} {t : Token} (hm : IsMark mark t) :
    Finished (text ++ mark) (tokens ++ [t]) := by
  intro read rest
  rw [String.toList_append, List.append_assoc, h _ _ (hm.stops rest), hm.start]
  simp

/-! ## Words, numbers and strings -/

theorem spells_word {word : String} {c : Char} {cs : List Char} {t : Token}
    (hword : word.toList = c :: cs) (hlower : (c :: cs).all Char.isLower = true)
    (hstart : ∀ read, Lexer.start? read c = some (.word [c], read))
    (ht : wordToken? (c :: cs) = some t) : Spells word [t] := by
  intro read rest hrest
  rw [hword, List.cons_append, Lexer.run?_start (hstart read),
    Lexer.run?_word (Bool.and_eq_true_iff.mp hlower).2]
  refine Lexer.run?_stop ?_ hrest ?_
  · simp [Lexer.finish?, ht]
  · intro c hc _
    simp [Lexer.step?, hc]

theorem spells_null : Spells "null" [.null] :=
  spells_word rfl (by decide) (fun _ => rfl) (by decide)

theorem spells_bool (b : Bool) : Spells (if b then "true" else "false") [.bool b] := by
  cases b
  · exact spells_word rfl (by decide) (fun _ => rfl) (by decide)
  · exact spells_word rfl (by decide) (fun _ => rfl) (by decide)

/-- A number that is read back from its text. -/
theorem Number.Restores.spells {n : Number} (h : n.Restores) :
    Spells n.render [.number (some n)] := by
  intro read rest hrest
  obtain ⟨c, cs, htext, hc⟩ := (isNumeral_of_read? h).head
  have hchars := (isNumeral_of_read? h).chars
  rw [htext] at hchars
  unfold Restores at h
  rw [htext] at h ⊢
  rw [List.cons_append, Lexer.run?_start (Lexer.start?_number hc read),
    Lexer.run?_number (List.forall_mem_cons.mp hchars).2]
  refine Lexer.run?_stop ?_ hrest ?_
  · simp [Lexer.finish?, h]
  · intro c _ hc
    simp [Lexer.step?, hc]

theorem toList_putString (out s : String) :
    (putString out s).toList =
      out.toList ++ '"' :: (s.toList.flatMap (fun c => (renderChar c).toList) ++ ['"']) := by
  have hfold : ∀ (cs : List Char) (out : String),
      (cs.foldl (fun out c => out ++ renderChar c) out).toList =
        out.toList ++ cs.flatMap fun c => (renderChar c).toList := by
    intro cs
    induction cs with
    | nil => simp
    | cons c cs ih => intro out; rw [List.foldl_cons, ih]; simp
  unfold putString
  rw [String.toList_append, hfold]
  simp

/-- **A string after a finished text.** -/
theorem Finished.string (h : Finished text tokens) (s : String) :
    Finished (putString text s) (tokens ++ [.string (some s)]) := by
  intro read rest
  obtain ⟨pieces, hjoin, hpieces⟩ := Lexer.run?_renderChars s.toList
  have hopen : ∀ read, Lexer.start? read '"' = some (.string [], read) := fun _ => rfl
  have hclose : Lexer.step? (.string pieces.reverse) (tokens.reverse ++ read) '"' =
      some (.between, .string (some s) :: (tokens.reverse ++ read)) := by
    simp [Lexer.step?, hjoin]
  rw [toList_putString, List.append_assoc, h, List.cons_append, List.append_assoc,
    Lexer.run?_start (hopen _), hpieces, List.append_nil, List.singleton_append,
    Lexer.run?_step hclose]
  simp

end Json

end ChillerGateway
