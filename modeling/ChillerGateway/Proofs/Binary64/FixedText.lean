import ChillerGateway.Binary64.Layout
import ChillerGateway.Binary64.Reader
import ChillerGateway.Proofs.Binary64.Rounding
import Mathlib.Data.List.TakeWhile

/-!
# Reading a number with a set number of places

A text with a set number of places is read as the decimal that it shows, rounded once.

* `fixedText_eq` — the digits before and after the point.
* `parse?_fixedText` — what the text reads as.
-/

namespace ChillerGateway

namespace Binary64

/-! ## Digits -/

theorem toNat_of_isDigit {c : Char} (h : c.isDigit = true) : 48 ≤ c.toNat ∧ c.toNat ≤ 57 := by
  simpa [Char.isDigit, UInt32.le_iff_toNat_le] using h

/-- What comes before the letters has no other case. -/
theorem toLower_of_lt {c : Char} (h : c.toNat < 65) : c.toLower = c := by
  unfold Char.toLower
  rw [dif_neg]
  simp only [UInt32.le_iff_toNat_le]
  rintro ⟨hc, -⟩
  have : 65 ≤ c.toNat := hc
  omega

theorem digitsValue_eq (digits : List Char) : digitsValue digits = Nat.ofDigitChars 10 digits 0 :=
  rfl

/-- Zeros in front count for nothing. -/
theorem digitsValue_dropWhile_zero (digits : List Char) :
    digitsValue (digits.dropWhile (· = '0')) = digitsValue digits := by
  induction digits with
  | nil => rfl
  | cons c rest ih =>
    by_cases hc : c = '0'
    · rw [List.dropWhile_cons_of_pos (by simp [hc]), ih, hc]
      rfl
    · rw [List.dropWhile_cons_of_neg (by simp [hc])]

/-- Digits with some of them after the point, when neither shortcut is taken. -/
theorem ofDigits_neg (s : Bool) {digits : List Char} {places : Nat} (hp : 0 < places)
    (hle : places ≤ 400) (hlen : digits.length ≤ 400 + places) :
    ofDigits s digits (0 - (places : Int)) = ofRatio s (digitsValue digits) (10 ^ places) := by
  have hsub := (List.dropWhile_sublist (fun c => decide (c = '0')) (l := digits)).length_le
  rw [← digitsValue_dropWhile_zero]
  unfold ofDigits
  simp only
  generalize digits.dropWhile (fun c => decide (c = '0')) = rest at hsub ⊢
  obtain ⟨e, rfl⟩ : ∃ e, places = e + 1 := ⟨places - 1, by omega⟩
  cases rest with
  | nil =>
    unfold ofRatio
    simp [digitsValue, nearestUnits_zero]
  | cons c rest =>
    rw [List.length_cons] at hsub
    rw [if_neg (by simp; omega), if_neg (by simp; omega)]
    have he : (0 : Int) - ((e + 1 : Nat) : Int) = Int.negSucc e := by omega
    rw [he]
    rfl

/-! ## The text -/

/-- The digits before the point. -/
def wholeDigits (places count : Nat) : List Char := Nat.toDigits 10 (count / 10 ^ places)

/-- The digits after the point. -/
def fractionDigits (places count : Nat) : List Char :=
  List.replicate (places - (Nat.toDigits 10 (count % 10 ^ places)).length) '0' ++
    Nat.toDigits 10 (count % 10 ^ places)

variable {places : Nat}

theorem fixedText_eq (hp : 0 < places) (count : Nat) :
    (fixedText places count).toList =
      wholeDigits places count ++ '.' :: fractionDigits places count := by
  unfold fixedText
  rw [if_neg (by omega)]
  simp [wholeDigits, fractionDigits, Nat.toString_eq_repr, Nat.toList_repr,
    ← String.length_toList]

theorem isDigit_of_mem_wholeDigits {count : Nat} {c : Char} (h : c ∈ wholeDigits places count) :
    c.isDigit = true := Nat.isDigit_of_mem_toDigits (by decide) (by decide) h

theorem isDigit_of_mem_fractionDigits {count : Nat} {c : Char}
    (h : c ∈ fractionDigits places count) : c.isDigit = true := by
  rcases List.mem_append.mp h with h | h
  · rw [List.eq_of_mem_replicate h]
    rfl
  · exact Nat.isDigit_of_mem_toDigits (by decide) (by decide) h

theorem length_fractionDigits (hp : 0 < places) (count : Nat) :
    (fractionDigits places count).length = places := by
  have hlt : count % 10 ^ places < 10 ^ places := Nat.mod_lt _ (Nat.pow_pos (by decide))
  have hle : (Nat.toDigits 10 (count % 10 ^ places)).length ≤ places :=
    (Nat.length_toDigits_le_iff (by decide) hp).mpr hlt
  simp only [fractionDigits, List.length_append, List.length_replicate]
  omega

theorem length_wholeDigits_le (places : Nat) {count digits : Nat} (hd : 0 < digits)
    (h : count < 10 ^ digits) : (wholeDigits places count).length ≤ digits :=
  (Nat.length_toDigits_le_iff (by decide) hd).mpr ((Nat.div_le_self _ _).trans_lt h)

/-- The digits on both sides of the point are those of the count. -/
theorem digitsValue_fixed (hp : 0 < places) (count : Nat) :
    digitsValue (wholeDigits places count ++ fractionDigits places count) = count := by
  have hlen := length_fractionDigits hp count
  simp only [fractionDigits, List.length_append, List.length_replicate] at hlen
  rw [digitsValue_eq, Nat.ofDigitChars_append, wholeDigits, Nat.ofDigitChars_ten_toDigits,
    fractionDigits, Nat.ofDigitChars_append, Nat.ofDigitChars_replicate_zero,
    Nat.ofDigitChars_eq_ofDigitChars_zero, Nat.ofDigitChars_ten_toDigits, ← Nat.mul_assoc,
    ← Nat.pow_add, Nat.add_comm _ (places - _), hlen]
  exact Nat.div_add_mod _ _

/-! ## Reading it -/

theorem decimal?_fixed (s : Bool) (hp : 0 < places) (hle : places ≤ 400) {count : Nat}
    (hc : count < 10 ^ 400) :
    decimal? s (wholeDigits places count ++ '.' :: fractionDigits places count) =
      some (ofRatio s count (10 ^ places)) := by
  have hwhole : ∀ c ∈ wholeDigits places count, c.isDigit = true :=
    fun c h => isDigit_of_mem_wholeDigits h
  have hfraction : ∀ c ∈ fractionDigits places count, c.isDigit = true :=
    fun c h => isDigit_of_mem_fractionDigits h
  have htake : (wholeDigits places count ++ '.' :: fractionDigits places count).takeWhile
      Char.isDigit = wholeDigits places count := by
    rw [List.takeWhile_append_of_pos hwhole, List.takeWhile_cons_of_neg (by decide),
      List.append_nil]
  have hdrop : (wholeDigits places count ++ '.' :: fractionDigits places count).dropWhile
      Char.isDigit = '.' :: fractionDigits places count := by
    rw [List.dropWhile_append_of_pos hwhole, List.dropWhile_cons_of_neg (by decide)]
  have hlen : (wholeDigits places count ++ fractionDigits places count).length ≤ 400 + places := by
    rw [List.length_append, length_fractionDigits hp]
    have := length_wholeDigits_le places (by decide) hc
    omega
  have hne : (wholeDigits places count).isEmpty = false := by
    simp [wholeDigits, Nat.toDigits_ne_nil]
  unfold decimal?
  simp only [htake, hdrop, List.takeWhile_eq_self_iff.mpr hfraction,
    List.dropWhile_eq_nil_iff.mpr hfraction, hne, Bool.false_and, Bool.false_eq_true, if_false,
    exponent?, Option.map_some, length_fractionDigits hp]
  rw [ofDigits_neg s hp hle hlen, digitsValue_fixed hp]

/-- What starts with a digit has no sign and is none of the words. -/
theorem parse?_of_digit {c : Char} {rest : List Char} (hc : c.isDigit = true) (s : Bool)
    {text : String} (ht : text.toList = (signText s).toList ++ c :: rest) :
    parse? text = decimal? s (c :: rest) := by
  have hsplit : splitSign text.toList = (s, c :: rest) := by
    rw [ht]
    cases s with
    | true => rfl
    | false =>
      have hminus : c ≠ '-' := by rintro rfl; exact absurd hc (by decide)
      have hplus : c ≠ '+' := by rintro rfl; exact absurd hc (by decide)
      simp [signText, splitSign, hminus, hplus]
  have hlower : c.toLower.isDigit = true := by
    have := toNat_of_isDigit hc
    rw [toLower_of_lt (by omega), hc]
  have hword : ∀ word : String, word.toList.head?.any Char.isDigit = false →
      String.ofList ((c :: rest).map Char.toLower) ≠ word := by
    rintro word hhead rfl
    rw [String.toList_ofList, List.map_cons, List.head?_cons, Option.any_some, hlower] at hhead
    cases hhead
  unfold parse?
  rw [hsplit]
  simp only
  rw [if_neg (hword _ (by decide)), if_neg]
  rintro (h | h)
  · exact hword _ (by decide) h
  · exact hword _ (by decide) h

/-- **A text with a set number of places** is read as the decimal that it shows. -/
theorem parse?_fixedText (s : Bool) (hp : 0 < places) (hle : places ≤ 400) {count : Nat}
    (hc : count < 10 ^ 400) :
    parse? (signText s ++ fixedText places count) = some (ofRatio s count (10 ^ places)) := by
  obtain ⟨c, rest, hw⟩ : ∃ c rest, wholeDigits places count = c :: rest :=
    List.exists_cons_of_ne_nil Nat.toDigits_ne_nil
  have hdigit : c.isDigit = true := isDigit_of_mem_wholeDigits (by rw [hw]; simp)
  have htext : (signText s ++ fixedText places count).toList = (signText s).toList ++
      c :: (rest ++ '.' :: fractionDigits places count) := by
    rw [String.toList_append, fixedText_eq hp, hw]
    rfl
  rw [parse?_of_digit hdigit s htext, ← List.cons_append, ← hw, decimal?_fixed s hp hle hc]

end Binary64

end ChillerGateway
