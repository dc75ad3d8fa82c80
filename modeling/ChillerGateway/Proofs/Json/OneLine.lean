import ChillerGateway.Json.Printer
import ChillerGateway.Proofs.Text

/-!
# Written values are one line

Digits, signs, words and punctuation are no line ends, and in strings those are escaped.  So the
text of any value, also of a number that is not finite, is one line.

* `Binary64.oneLine_write` — numbers, in every layout that adds no line end.
* `Json.oneLine_putString` — strings with any characters.
* `Json.oneLine_put` — values.
-/

namespace ChillerGateway

/-- A text without line ends. -/
def OneLine (s : String) : Prop := ∀ c ∈ s.toList, Error.isLineEnd c = false

instance (s : String) : Decidable (OneLine s) := List.decidableBAll _ s.toList

namespace OneLine

variable {s t : String}

theorem append (hs : OneLine s) (ht : OneLine t) : OneLine (s ++ t) := by
  unfold OneLine
  rw [String.toList_append]
  exact List.forall_mem_append.mpr ⟨hs, ht⟩

theorem take (hs : OneLine s) (n : Nat) : OneLine (s.take n).toString := by
  intro c hc
  rw [String.Slice.toString_eq, String.toList_copy_take] at hc
  exact hs c (List.mem_of_mem_take hc)

theorem drop (hs : OneLine s) (n : Nat) : OneLine (s.drop n).toString := by
  intro c hc
  rw [String.Slice.toString_eq, String.toList_copy_drop] at hc
  exact hs c (List.mem_of_mem_drop hc)

end OneLine

/-! ## Numbers -/

theorem oneLine_natText (n : Nat) : OneLine (toString n) := by
  intro c hc
  rw [Nat.toString_eq_repr, Nat.toList_repr] at hc
  have hdigit := Nat.isDigit_of_mem_toDigits (by decide) (by decide) hc
  refine Error.isLineEnd_eq_false ?_
  simp only [Char.isDigit, Bool.and_eq_true, decide_eq_true_eq] at hdigit
  exact Nat.le_trans (by decide) hdigit.1

theorem oneLine_intText (i : Int) : OneLine (toString i) := by
  cases i with
  | ofNat n => exact oneLine_natText n
  | negSucc n => exact OneLine.append (s := "-") (by decide) (oneLine_natText (n + 1))

theorem oneLine_zeros (n : Nat) : OneLine (String.ofList (List.replicate n '0')) := by
  intro c hc
  rw [String.toList_ofList] at hc
  rw [List.eq_of_mem_replicate hc]
  decide

namespace Decimal

theorem oneLine_positional {whole digits : String} (hw : OneLine whole) (hd : OneLine digits)
    (place : Int) : OneLine (positional whole digits place) := by
  have hpoint : OneLine "." := by decide
  have hzero : OneLine "0." := by decide
  unfold positional
  split
  · rename_i p
    split
    · exact hzero.append hd
    simp only
    split
    · exact (hd.append (oneLine_zeros _)).append hw
    · exact ((hd.take p).append hpoint).append (hd.drop p)
  · exact (hzero.append (oneLine_zeros _)).append hd

theorem oneLine_scientific {plus digits : String} (hp : OneLine plus) (hd : OneLine digits)
    (exponent : Int) : OneLine (scientific plus digits exponent) := by
  have hmantissa : OneLine (if digits.length ≤ 1 then digits
      else (digits.take 1).toString ++ "." ++ (digits.drop 1).toString) := by
    split
    · exact hd
    · exact ((hd.take 1).append (by decide)).append (hd.drop 1)
  have hsign : OneLine (if exponent < 0 then "-" else plus) := by
    split
    · decide
    · exact hp
  exact ((hmantissa.append (by decide)).append hsign).append (oneLine_natText _)

end Decimal

namespace Binary64

variable {layout : Layout}

/-- **The text of a number** is one line. -/
theorem oneLine_write (hw : OneLine layout.whole) (hp : OneLine layout.plus) (x : Binary64) :
    OneLine (x.write layout) := by
  have hsign : ∀ s, OneLine (signText s) := by decide
  cases x with
  | nan => exact (by decide : OneLine "NaN")
  | infinite s => exact (hsign s).append (by decide)
  | finite s u hu =>
    refine (hsign s).append ?_
    split
    · exact OneLine.append (s := "0") (by decide) hw
    · unfold Decimal.write
      simp only
      split
      · exact Decimal.oneLine_positional hw (oneLine_natText _) _
      · exact Decimal.oneLine_scientific hp (oneLine_natText _) _

end Binary64

/-! ## Values -/

namespace Json

theorem Number.oneLine_render (n : Number) : OneLine n.render := by
  cases n with
  | integer i => exact oneLine_intText i
  | float x =>
    have hwhole : OneLine Layout.wire.whole := by decide
    have hplus : OneLine Layout.wire.plus := by decide
    show OneLine (if x.isFinite then x.write .wire else "null")
    split
    · exact Binary64.oneLine_write hwhole hplus x
    · decide

theorem oneLine_renderChar (c : Char) : OneLine (renderChar c) := by
  have hhex : ∀ n < 16, Error.isLineEnd (hexDigit n) = false := by decide
  unfold renderChar
  split
  · decide
  split
  · decide
  split
  · rename_i hprint
    intro d hd
    rw [Char.toString_eq_singleton, String.toList_singleton, List.mem_singleton] at hd
    rw [hd]
    exact Error.isLineEnd_eq_false hprint
  · split
    case h_6 =>
      rename_i hcontrol _ _ _ _ _
      unfold OneLine
      simp only [String.toList_ofList, List.forall_mem_cons]
      refine ⟨by decide, by decide, by decide, by decide, hhex _ (by omega), hhex _ (by omega), ?_⟩
      exact List.forall_mem_nil _
    all_goals decide

variable {out : String}

/-- **The text of a string** is one line, whatever its characters are. -/
theorem oneLine_putString (h : OneLine out) (text : String) : OneLine (putString out text) := by
  have hfold : ∀ (cs : List Char) (out : String), OneLine out →
      OneLine (cs.foldl (fun out c => out ++ renderChar c) out) := by
    intro cs
    induction cs with
    | nil => exact fun _ h => h
    | cons c cs ih => exact fun _ h => ih _ (h.append (oneLine_renderChar c))
  exact (hfold _ _ (h.append (by decide))).append (by decide)

mutual

/-- **The text of a value** is one line. -/
theorem oneLine_put (j : Json) : ∀ out, OneLine out → OneLine (put out j) := by
  intro out h
  match j with
  | null => exact h.append (t := "null") (by decide)
  | bool true => exact h.append (t := "true") (by decide)
  | bool false => exact h.append (t := "false") (by decide)
  | number n => exact h.append n.oneLine_render
  | string s => exact oneLine_putString h s
  | array items =>
    have hinside := oneLine_putItems items (out ++ "[") (h.append (by decide))
    exact hinside.append (t := "]") (by decide)
  | object members =>
    have hinside := oneLine_putMembers members (out ++ "\x7b") (h.append (by decide))
    exact hinside.append (t := "\x7d") (by decide)

theorem oneLine_putItems (items : List Json) : ∀ out, OneLine out → OneLine (putItems out items) := by
  intro out h
  match items with
  | [] => exact h
  | [x] => exact oneLine_put x out h
  | x :: y :: rest =>
    have hfirst := oneLine_put x out h
    exact oneLine_putItems (y :: rest) (put out x ++ ",") (hfirst.append (by decide))

theorem oneLine_putMembers (members : List (String × Json)) :
    ∀ out, OneLine out → OneLine (putMembers out members) := by
  intro out h
  match members with
  | [] => exact h
  | (name, x) :: rest =>
    have hname := (oneLine_putString h name).append (t := ":") (by decide)
    have hfirst := oneLine_put x _ hname
    match rest with
    | [] => exact hfirst
    | m :: rest => exact oneLine_putMembers (m :: rest) _ (hfirst.append (t := ",") (by decide))

end

end Json

end ChillerGateway
