import ChillerGateway.Json.Reader
import ChillerGateway.Proofs.Json.Spelling

/-!
# Values that are read back

The text of a value spells the value's tokens, and a reader takes the value back from them, with
whatever follows it left over.  It holds of every value whose numbers are read back and whose objects
have their names in order.

* `restores_ofMembers` — any members make an object with its names in order.
* `Restores.put` — the text of a value spells its tokens.
* `Restores.readable` — the value is read from its tokens.
-/

namespace ChillerGateway

namespace Json

/-- A value that is read back from its text: with at most so many brackets open at once, names of
objects in order, and numbers that are read back from theirs. -/
inductive Restores : Nat → Json → Prop where
  | null {depth} : Restores depth .null
  | bool {depth} (b : Bool) : Restores depth (.bool b)
  | number {depth n} (h : n.Restores) : Restores depth (.number n)
  | string {depth} (s : String) : Restores depth (.string s)
  | array {depth items} (h : ∀ x ∈ items, Restores depth x) : Restores (depth + 1) (.array items)
  | object {depth members} (names : (members.map Prod.fst).Pairwise (· < ·))
      (h : ∀ m ∈ members, Restores depth m.2) : Restores (depth + 1) (.object members)

/-! ## Names in order -/

/-- Names in order are kept as they are. -/
theorem keepLast_of_pairwise {members : List (String × Json)}
    (h : (members.map Prod.fst).Pairwise (· < ·)) : keepLast members = members := by
  induction members with
  | nil => rfl
  | cons m members ih =>
    obtain ⟨hfirst, hrest⟩ := List.pairwise_cons.mp h
    cases members with
    | nil => rfl
    | cons n members =>
      have hne : m.1 ≠ n.1 := fun heq =>
        String.lt_irrefl n.1 (heq ▸ hfirst n.1 (by simp))
      rw [keepLast, if_neg hne, ih hrest]

/-- Members whose names are in order make an object as they are. -/
theorem ofMembers_of_pairwise {members : List (String × Json)}
    (h : (members.map Prod.fst).Pairwise (· < ·)) : ofMembers members = .object members := by
  have hsorted : members.Pairwise fun a b => decide (a.1 ≤ b.1) = true :=
    (List.pairwise_map.mp h).imp fun hlt => decide_eq_true (String.not_lt.mp (String.lt_asymm hlt))
  rw [ofMembers, List.mergeSort_of_pairwise hsorted, keepLast_of_pairwise h]

theorem keepLast_sublist (members : List (String × Json)) :
    (keepLast members).Sublist members := by
  fun_induction keepLast members with
  | case1 => exact .slnil
  | case2 => exact .refl _
  | case3 m n rest _ ih => exact ih.cons m
  | case4 m n rest _ ih => exact ih.cons_cons m

/-- What stays of members in order has each name once. -/
theorem pairwise_keepLast {members : List (String × Json)}
    (h : members.Pairwise fun a b => a.1 ≤ b.1) :
    ((keepLast members).map Prod.fst).Pairwise (· < ·) := by
  fun_induction keepLast members with
  | case1 => exact .nil
  | case2 => exact List.pairwise_singleton _ _
  | case3 m n rest _ ih => exact ih (List.pairwise_cons.mp h).2
  | case4 m n rest hne ih =>
    obtain ⟨hfirst, hrest⟩ := List.pairwise_cons.mp h
    have hnext : m.1 < n.1 := String.not_le.mp fun hle =>
      hne (String.le_antisymm (hfirst n List.mem_cons_self) hle)
    rw [List.map_cons, List.pairwise_cons]
    refine ⟨fun name hname => ?_, ih hrest⟩
    obtain ⟨k, hk, rfl⟩ := List.mem_map.mp hname
    rcases List.mem_cons.mp ((keepLast_sublist (n :: rest)).subset hk) with rfl | hk
    · exact hnext
    · exact Std.lt_of_lt_of_le hnext ((List.pairwise_cons.mp hrest).1 k hk)

/-- **Any members make an object that is read back**, where their values are. -/
theorem restores_ofMembers {depth : Nat} {members : List (String × Json)}
    (h : ∀ m ∈ members, Restores depth m.2) : Restores (depth + 1) (ofMembers members) := by
  have hsorted : (members.mergeSort fun a b => decide (a.1 ≤ b.1)).Pairwise
      fun a b => decide (a.1 ≤ b.1) = true := by
    refine List.pairwise_mergeSort (fun a b c hab hbc => ?_) (fun a b => ?_) members
    · exact decide_eq_true (Std.le_trans (of_decide_eq_true hab) (of_decide_eq_true hbc))
    · simpa using Std.le_total (a := a.1) (b := b.1)
  refine .object (pairwise_keepLast (hsorted.imp of_decide_eq_true)) fun m hm => ?_
  exact h m (List.mem_mergeSort.mp ((keepLast_sublist _).subset hm))

/-! ## Tokens of values -/

/-- Entries with commas between them. -/
def commas (entries : List (List Token)) : List Token := [Token.comma].intercalate entries

mutual

/-- The tokens of a value. -/
def tokens : Json → List Token
  | null => [.null]
  | bool b => [.bool b]
  | number n => [.number (some n)]
  | string s => [.string (some s)]
  | array items => .beginArray :: (commas (itemTokens items) ++ [.endArray])
  | object members => .beginObject :: (commas (memberTokens members) ++ [.endObject])

/-- The tokens of each item. -/
def itemTokens : List Json → List (List Token)
  | [] => []
  | x :: rest => tokens x :: itemTokens rest

/-- The tokens of each member. -/
def memberTokens : List (String × Json) → List (List Token)
  | [] => []
  | (name, x) :: rest => (.string (some name) :: .colon :: tokens x) :: memberTokens rest

end

theorem itemTokens_eq (items : List Json) : itemTokens items = items.map tokens := by
  induction items with
  | nil => rfl
  | cons x items ih => rw [itemTokens, ih, List.map_cons]

theorem memberTokens_eq (members : List (String × Json)) :
    memberTokens members = members.map fun m => .string (some m.1) :: .colon :: tokens m.2 := by
  induction members with
  | nil => rfl
  | cons m members ih => rw [memberTokens, ih, List.map_cons]

/-! ## Writing -/

/-- The text of a value spells its tokens, after any finished text. -/
def Written (j : Json) : Prop :=
  ∀ text read, Finished text read → Spells (put text j) (read ++ j.tokens)

theorem spells_putItems {items : List Json} (h : ∀ x ∈ items, Written x) {text : String}
    {read : List Token} (ht : Finished text read) :
    Spells (putItems text items) (read ++ commas (itemTokens items)) := by
  induction items generalizing text read with
  | nil => simpa [putItems, itemTokens, commas] using ht.spells
  | cons x items ih =>
    obtain ⟨hx, hitems⟩ := List.forall_mem_cons.mp h
    have hfirst := hx _ _ ht
    cases items with
    | nil => simpa [putItems, itemTokens, commas] using hfirst
    | cons y items =>
      have hrest := ih hitems (hfirst.mark isMark_comma)
      simpa [putItems, itemTokens, commas] using hrest

theorem spells_putMembers {members : List (String × Json)} (h : ∀ m ∈ members, Written m.2)
    {text : String} {read : List Token} (ht : Finished text read) :
    Spells (putMembers text members) (read ++ commas (memberTokens members)) := by
  induction members generalizing text read with
  | nil => simpa [putMembers, memberTokens, commas] using ht.spells
  | cons m members ih =>
    obtain ⟨name, x⟩ := m
    obtain ⟨hx, hmembers⟩ := List.forall_mem_cons.mp h
    have hfirst := hx _ _ ((ht.string name).spells.mark isMark_colon)
    cases members with
    | nil => simpa [putMembers, memberTokens, commas] using hfirst
    | cons m members =>
      have hrest := ih hmembers (hfirst.mark isMark_comma)
      simpa [putMembers, memberTokens, commas] using hrest

theorem written_array {items : List Json} (h : ∀ x ∈ items, Written x) : Written (.array items) := by
  intro text read ht
  have hinside := spells_putItems h (ht.spells.mark isMark_beginArray)
  simpa [Json.put, tokens] using (hinside.mark isMark_endArray).spells

theorem written_object {members : List (String × Json)} (h : ∀ m ∈ members, Written m.2) :
    Written (.object members) := by
  intro text read ht
  have hinside := spells_putMembers h (ht.spells.mark isMark_beginObject)
  simpa [Json.put, tokens] using (hinside.mark isMark_endObject).spells

/-- **The text of a value** spells its tokens. -/
theorem Restores.put {depth : Nat} {j : Json} (h : Restores depth j) : Written j := by
  induction h with
  | null => intro _ _ ht; exact ht.append_spells spells_null
  | bool b => intro _ _ ht; exact ht.append_spells (spells_bool b)
  | number hn => intro _ _ ht; exact ht.append_spells hn.spells
  | string s => intro _ _ ht; exact (ht.string s).spells
  | array _ ih => exact written_array ih
  | object _ _ ih => exact written_object ih

/-- **The tokens of a written value** are its tokens. -/
theorem Written.tokens?_render {j : Json} (h : Written j) : tokens? j.render = some j.tokens :=
  (h _ _ finished_nil).tokens?_eq

/-! ## Reading -/

section

variable {α : Type} {close : Token} {entry : Reader α} {spell : α → List Token}

/-- Entries that are each read from their tokens are read one after the other. -/
theorem entries?_commas {items : List α}
    (hitems : ∀ a ∈ items, ∀ rest, entry (spell a ++ rest) = some (a, rest)) (hne : items ≠ [])
    (hclose : close ≠ .comma) {fuel : Nat} (hfuel : items.length ≤ fuel) (read : List α)
    (rest : List Token) :
    entries? close entry fuel read (commas (items.map spell) ++ close :: rest) =
      some (read.reverse ++ items, rest) := by
  induction items generalizing fuel read with
  | nil => exact absurd rfl hne
  | cons a items ih =>
    obtain ⟨ha, hrest⟩ := List.forall_mem_cons.mp hitems
    obtain ⟨fuel, rfl⟩ : ∃ n, fuel = n + 1 :=
      ⟨fuel - 1, (Nat.sub_add_cancel (Nat.le_trans (Nat.succ_pos _) hfuel)).symm⟩
    cases items with
    | nil =>
      have hread : entry (commas ([a].map spell) ++ close :: rest) = some (a, close :: rest) := by
        simpa [commas] using ha (close :: rest)
      rw [entries?, hread]
      cases close with
      | comma => exact absurd rfl hclose
      | _ => simp
    | cons b items =>
      have hread : entry (commas ((a :: b :: items).map spell) ++ close :: rest) =
          some (a, .comma :: (commas ((b :: items).map spell) ++ close :: rest)) := by
        simpa [commas] using ha (.comma :: (commas ((b :: items).map spell) ++ close :: rest))
      rw [entries?, hread]
      simp only
      rw [ih hrest (List.cons_ne_nil _ _) (Nat.le_of_succ_le_succ hfuel)]
      simp

/-- Entries with commas are at least as many tokens, where each is at least one. -/
theorem length_le_commas (entries : List (List Token)) (h : ∀ e ∈ entries, e ≠ []) :
    entries.length ≤ (commas entries).length := by
  induction entries with
  | nil => exact Nat.le_refl _
  | cons e entries ih =>
    obtain ⟨he, hrest⟩ := List.forall_mem_cons.mp h
    have hpos := List.length_pos_iff.mpr he
    cases entries with
    | nil => simpa [commas] using Nat.succ_le_of_lt hpos
    | cons f entries =>
      have := ih hrest
      simp only [commas, List.intercalate_cons_cons, List.length_append, List.length_cons] at this ⊢
      omega

/-- Entries that are each read from their tokens are read up to the closing bracket. -/
theorem entriesFrom?_commas {items : List α}
    (hitems : ∀ a ∈ items, ∀ rest, entry (spell a ++ rest) = some (a, rest))
    (hfirst : ∀ a, ∃ t ts, spell a = t :: ts ∧ t ≠ close) (hclose : close ≠ .comma)
    (rest : List Token) :
    entriesFrom? close entry (commas (items.map spell) ++ close :: rest) = some (items, rest) := by
  cases items with
  | nil => simp [commas, entriesFrom?]
  | cons a items =>
    have hfuel : (a :: items).length ≤
        (commas ((a :: items).map spell) ++ close :: rest).length := by
      have hspell : ∀ e ∈ (a :: items).map spell, e ≠ [] := by
        intro e he
        obtain ⟨b, -, rfl⟩ := List.mem_map.mp he
        obtain ⟨t, ts, hb, -⟩ := hfirst b
        rw [hb]
        exact List.cons_ne_nil t ts
      have := length_le_commas _ hspell
      rw [List.length_map] at this
      exact Nat.le_trans this (List.length_append ▸ Nat.le_add_right _ _)
    have hread := entries?_commas hitems (List.cons_ne_nil a items) hclose hfuel [] rest
    obtain ⟨t, ts, ha, ht⟩ := hfirst a
    obtain ⟨more, hmore⟩ : ∃ more, commas ((a :: items).map spell) = t :: more := by
      cases items <;> simp [commas, ha]
    rw [hmore] at hread ⊢
    rw [List.cons_append] at hread ⊢
    rw [entriesFrom?, if_neg ht, hread]
    rfl

end

/-- The first token of a value closes nothing. -/
theorem tokens_head (j : Json) : ∃ t ts, j.tokens = t :: ts ∧ t ≠ .endArray := by
  cases j <;> exact ⟨_, _, by rw [tokens], by simp⟩

/-- A value that is read from its tokens, with what follows them left over. -/
def Readable (depth : Nat) (j : Json) : Prop :=
  ∀ rest, value? depth (j.tokens ++ rest) = some (j, rest)

/-- Items are read one after the other. -/
theorem items?_tokens {depth : Nat} {items : List Json} (h : ∀ x ∈ items, Readable depth x)
    (rest : List Token) :
    items? (value? depth) (commas (itemTokens items) ++ .endArray :: rest) =
      some (items, rest) := by
  rw [itemTokens_eq]
  exact entriesFrom?_commas h tokens_head (by simp) rest

/-- Members are read one after the other, in any order of their names. -/
theorem members?_tokens {depth : Nat} {members : List (String × Json)}
    (h : ∀ m ∈ members, Readable depth m.2) (rest : List Token) :
    members? (fun _ => value? depth) (commas (memberTokens members) ++ .endObject :: rest) =
      some (members, rest) := by
  have hmember : ∀ m ∈ members, ∀ rest,
      member? (fun _ => value? depth)
        ((.string (some m.1) :: .colon :: m.2.tokens) ++ rest) = some (m, rest) := by
    intro m hm rest
    simp [member?, h m hm rest]
  rw [memberTokens_eq]
  exact entriesFrom?_commas hmember (fun m => ⟨_, _, rfl, by simp⟩) (by simp) rest

/-- **A value is read from its tokens.** -/
theorem Restores.readable {depth : Nat} {j : Json} (h : Restores depth j) : Readable depth j := by
  induction h with
  | null | bool | number | string => intro rest; simp [tokens, value?]
  | array _ ih => intro rest; simp [tokens, value?, items?_tokens ih rest]
  | object names _ ih =>
    intro rest
    simp [tokens, value?, members?_tokens ih rest, ofMembers_of_pairwise names]

end Json

end ChillerGateway
