import ChillerGateway.Proofs.Setpoint
import ChillerGateway.Proofs.Text

/-!
# The characters of a number with a set number of places

* `isNumeral_of_mem_toFixed` — digits, a point and a minus; none of them is blank or a line end.
* `fixed_lt`, `length_toFixed` — there are not many of them.
-/

namespace ChillerGateway

open Binary64

/-- The characters from the minus to the digits, points included. -/
def IsNumeral (c : Char) : Prop := 45 ≤ c.toNat ∧ c.toNat ≤ 57

theorem isNumeral_of_isDigit {c : Char} (h : c.isDigit = true) : IsNumeral c := by
  obtain ⟨hl, hu⟩ := toNat_of_isDigit h
  exact ⟨by omega, hu⟩

namespace IsNumeral

variable {c : Char}

theorem not_blank (h : IsNumeral c) : Text.isBlank c = false := by
  obtain ⟨hl, hu⟩ := h
  unfold Text.isBlank
  generalize c.toNat = n at hl hu
  simp only [Bool.or_eq_false_iff, Bool.and_eq_false_iff, decide_eq_false_iff_not,
    beq_eq_false_iff_ne]
  omega

theorem lt_128 (h : IsNumeral c) : c.toNat < 128 := by
  obtain ⟨-, hu⟩ := h
  omega

theorem not_lineEnd (h : IsNumeral c) : Error.isLineEnd c = false :=
  Error.isLineEnd_eq_false (Nat.le_trans (by decide) h.1)

theorem toLower_ne (h : IsNumeral c) : c.toLower ≠ 'e' := by
  obtain ⟨-, hu⟩ := h
  rw [toLower_of_lt (by omega)]
  rintro rfl
  exact absurd hu (by decide)

end IsNumeral

/-- What the text of a finite number with places is made of. -/
theorem isNumeral_of_mem_toFixed {places : Nat} (hp : 0 < places) {s : Bool} {u : Nat}
    {h : Representable u} {c : Char} (hc : c ∈ ((Binary64.finite s u h).toFixed places).toList) :
    IsNumeral c := by
  rw [toFixed, String.toList_append, fixedText_eq hp, List.mem_append, List.mem_append,
    List.mem_cons] at hc
  rcases hc with hc | hc | rfl | hc
  · cases s
    · cases hc
    · rw [List.mem_singleton.mp hc]
      exact ⟨by decide, by decide⟩
  · exact isNumeral_of_isDigit (isDigit_of_mem_wholeDigits hc)
  · exact ⟨by decide, by decide⟩
  · exact isNumeral_of_isDigit (isDigit_of_mem_fractionDigits hc)

/-- A finite number lies below `2¹⁰²⁴` and so has at most 309 digits before the point. -/
theorem fixed_lt (places : Nat) {u : Nat} (h : Representable u) :
    fixed places u < 10 ^ (309 + places) := by
  obtain ⟨bound, hover, hbound⟩ : ∃ bound, overflow = bound * one ∧ bound < 10 ^ 309 :=
    ⟨2 ^ 1024, by decide +kernel⟩
  have hle : fixed places u ≤ bound * 10 ^ places := by
    rw [Setpoint.fixed_eq]
    refine roundHalfEven_le one_pos ?_
    rw [Nat.mul_right_comm, ← hover]
    exact Nat.mul_le_mul_right _ h.1.le
  have hlt : ∀ digits, bound < 10 ^ digits → fixed places u < 10 ^ (digits + places) := by
    intro digits hdigits
    rw [Nat.pow_add]
    exact hle.trans_lt (Nat.mul_lt_mul_of_pos_right hdigits (Nat.pow_pos (by decide)))
  exact hlt 309 hbound

/-- The text of a finite number is short. -/
theorem length_toFixed {places : Nat} (hp : 0 < places) (s : Bool) {u : Nat}
    (h : Representable u) :
    ((Binary64.finite s u h).toFixed places).toList.length ≤ 311 + 2 * places := by
  have hsign : (signText s).toList.length ≤ 1 := by cases s <;> decide
  have hwhole := length_wholeDigits_le places (by omega) (fixed_lt places h)
  have hfraction := length_fractionDigits hp (fixed places u)
  rw [toFixed, String.toList_append, fixedText_eq hp, List.length_append, List.length_append,
    List.length_cons]
  omega

theorem toFixed_ne_nil {places : Nat} (hp : 0 < places) {s : Bool} {u : Nat}
    {h : Representable u} : ((Binary64.finite s u h).toFixed places).toList ≠ [] := by
  rw [toFixed, String.toList_append, fixedText_eq hp]
  simp

namespace Text

/-- A text without blanks keeps its ends. -/
theorem trim_of_numeral {text : String} (h : ∀ c ∈ text.toList, IsNumeral c) :
    trim text = text := by
  unfold trim
  rw [trimChars_eq_self (fun c hc => (h c (List.mem_of_mem_head? hc)).not_blank)
    (fun c hc => (h c (List.mem_of_getLast? hc)).not_blank), String.ofList_toList]

end Text

end ChillerGateway
