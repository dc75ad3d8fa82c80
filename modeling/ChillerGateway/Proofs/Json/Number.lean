import ChillerGateway.Json.Printer
import ChillerGateway.Json.Token
import ChillerGateway.Proofs.Binary64.FixedText

/-!
# Numbers as text

A number is read back from its own text when the reader's quick conversion hits the value that was
written.  That is a matter of the number alone, and every integer that fits 64 bits passes.

* `Number.isNumeral_of_read?` — a text that is a number is made of the characters of numbers.
* `Number.restores_integer` — integers read back as they are.
-/

namespace ChillerGateway

namespace Json

namespace Number

/-- Whether a number is read back from the text that is written for it. -/
def Restores (n : Number) : Prop := read? n.render.toList = some (some n)

instance (n : Number) : Decidable n.Restores := by unfold Restores; infer_instance

/-! ## The parts of a number -/

/-- A leading minus, and what follows it. -/
def splitMinus : List Char → Bool × List Char
  | '-' :: rest => (true, rest)
  | other => (false, other)

/-- Whether there is a point, the digits after it, and what follows them. -/
def splitPoint : List Char → Bool × List Char × List Char
  | '.' :: more => (true, more.takeWhile Char.isDigit, more.dropWhile Char.isDigit)
  | other => (false, [], other)

/-- The sign of an exponent, and what follows it. -/
def splitPower : List Char → Bool × List Char
  | '-' :: ds => (true, ds)
  | '+' :: ds => (false, ds)
  | ds => (false, ds)

/-- The value of a number whose digits before and after the point were read, by what follows. -/
def valueWith? (negative point : Bool) (s s' : Significand) : List Char → Option (Option Number)
  | [] => some (if point then (float? negative s' false []).map .float else whole? negative s)
  | mark :: more =>
    let power := splitPower more
    if (mark = 'e' ∨ mark = 'E') ∧ power.2 ≠ [] ∧ power.2.all Char.isDigit then
      some ((float? negative s' power.1 power.2).map .float)
    else none

theorem read?_eq (text : List Char) :
    read? text =
      let body := (splitMinus text).2
      let digits := body.takeWhile Char.isDigit
      let point := splitPoint (body.dropWhile Char.isDigit)
      let s := digits.foldl Significand.whole ⟨0, 0, false⟩
      if digits.isEmpty || (digits.length ≠ 1 && digits.head? = some '0') then none
      else if point.1 && point.2.1.isEmpty then none
      else valueWith? (splitMinus text).1 point.1 s
        (point.2.1.foldl Significand.fraction { s with full := false }) point.2.2 := rfl

/-! ## The characters of a number -/

/-- A text that begins like a number and goes on like one. -/
structure IsNumeral (text : List Char) : Prop where
  head : ∃ c rest, text = c :: rest ∧ (c.isDigit = true ∨ c = '-')
  chars : ∀ c ∈ text, isNumberChar c = true

theorem isNumberChar_of_isDigit {c : Char} (h : c.isDigit = true) : isNumberChar c = true := by
  simp [isNumberChar, h]

section

variable {cs : List Char}

theorem isNumberChar_takeWhile : ∀ c ∈ cs.takeWhile Char.isDigit, isNumberChar c = true :=
  fun c hc => isNumberChar_of_isDigit (List.all_eq_true.mp List.all_takeWhile c hc)

/-- Digits may stand in front of the characters of a number. -/
theorem chars_of_dropWhile (h : ∀ c ∈ cs.dropWhile Char.isDigit, isNumberChar c = true) :
    ∀ c ∈ cs, isNumberChar c = true := by
  rw [← List.takeWhile_append_dropWhile (p := Char.isDigit) (l := cs)]
  exact List.forall_mem_append.mpr ⟨isNumberChar_takeWhile, h⟩

theorem chars_of_splitMinus (h : ∀ c ∈ (splitMinus cs).2, isNumberChar c = true) :
    ∀ c ∈ cs, isNumberChar c = true := by
  unfold splitMinus at h
  split at h
  · exact List.forall_mem_cons.mpr ⟨by decide, h⟩
  · exact h

theorem chars_of_splitPoint (h : ∀ c ∈ (splitPoint cs).2.2, isNumberChar c = true) :
    ∀ c ∈ cs, isNumberChar c = true := by
  unfold splitPoint at h
  split at h
  · exact List.forall_mem_cons.mpr ⟨by decide, chars_of_dropWhile h⟩
  · exact h

theorem chars_of_splitPower (h : ∀ c ∈ (splitPower cs).2, isNumberChar c = true) :
    ∀ c ∈ cs, isNumberChar c = true := by
  unfold splitPower at h
  split at h
  · exact List.forall_mem_cons.mpr ⟨by decide, h⟩
  · exact List.forall_mem_cons.mpr ⟨by decide, h⟩
  · exact h

/-- What may follow the digits is a mark with an exponent. -/
theorem chars_of_valueWith? {negative point : Bool} {s s' : Significand} {v : Option Number}
    (h : valueWith? negative point s s' cs = some v) : ∀ c ∈ cs, isNumberChar c = true := by
  unfold valueWith? at h
  split at h
  · simp
  · rename_i mark more
    simp only at h
    split at h
    · rename_i hexp
      obtain ⟨hmark, -, hdigits⟩ := hexp
      have hmore : ∀ c ∈ more, isNumberChar c = true := chars_of_splitPower fun c hc =>
        isNumberChar_of_isDigit (List.all_eq_true.mp hdigits c hc)
      refine List.forall_mem_cons.mpr ⟨?_, hmore⟩
      rcases hmark with rfl | rfl <;> decide
    · cases h

end

/-- **A text that is a number** is made of the characters of numbers. -/
theorem isNumeral_of_read? {text : List Char} {v : Option Number} (h : read? text = some v) :
    IsNumeral text := by
  rw [read?_eq] at h
  simp only at h
  split at h
  · cases h
  rename_i hdigits
  split at h
  · cases h
  have hbody := chars_of_dropWhile (chars_of_splitPoint (chars_of_valueWith? h))
  refine ⟨?_, chars_of_splitMinus hbody⟩
  cases text with
  | nil => exact absurd rfl hdigits
  | cons c rest =>
    refine ⟨c, rest, rfl, ?_⟩
    by_contra hc
    obtain ⟨hdigit, hminus⟩ := not_or.mp hc
    have hsplit : splitMinus (c :: rest) = (false, c :: rest) := by
      unfold splitMinus
      split
      · rename_i heq
        exact absurd (List.cons.inj heq).1 hminus
      · rfl
    rw [hsplit, List.takeWhile_cons_of_neg hdigit] at hdigits
    exact hdigits rfl

/-! ## Integers -/

/-- An integer that fits 64 bits, with or without a sign. -/
def Fits (i : Int) : Prop := -(Nat.pow 2 63) ≤ i ∧ i < Nat.pow 2 64

/-- Digits whose value fits the word are all kept. -/
theorem foldl_whole {digits : List Char} {v : Nat} (h : Nat.ofDigitChars 10 digits v ≤ maxWord) :
    digits.foldl Significand.whole ⟨v, 0, false⟩ = ⟨Nat.ofDigitChars 10 digits v, 0, false⟩ := by
  induction digits generalizing v with
  | nil => rfl
  | cons c digits ih =>
    rw [Nat.ofDigitChars_cons] at h ⊢
    have hnext : 10 * v + (c.toNat - '0'.toNat) ≤ maxWord := by
      refine Nat.le_trans ?_ h
      rw [Nat.ofDigitChars_eq_ofDigitChars_zero]
      exact Nat.le_add_right_of_le (Nat.le_mul_of_pos_left _ (Nat.pow_pos (by decide)))
    have hstep : Significand.whole ⟨v, 0, false⟩ c = ⟨10 * v + (c.toNat - '0'.toNat), 0, false⟩ := by
      unfold Significand.whole
      simp only [Bool.false_or, decide_eq_true_eq]
      rw [if_neg (Nat.not_lt.mpr hnext)]
    rw [List.foldl_cons, hstep, ih h]

/-- Only the digits of zero begin with a zero. -/
theorem eq_zero_of_head? {n : Nat} (h : (Nat.toDigits 10 n).head? = some '0') : n = 0 := by
  induction n using Nat.strongRecOn with
  | ind n ih =>
    by_cases hn : n < 10
    · rw [Nat.toDigits_of_lt_base hn] at h
      have hdigit := Nat.toNat_digitChar_sub_48_of_lt_ten hn
      rw [Option.some.inj h] at hdigit
      exact hdigit.symm
    · obtain ⟨c, rest, hfront⟩ : ∃ c rest, Nat.toDigits 10 (n / 10) = c :: rest :=
        List.exists_cons_of_ne_nil Nat.toDigits_ne_nil
      rw [Nat.toDigits_of_base_le (by decide) (by omega), hfront] at h
      have := ih (n / 10) (by omega) (by rw [hfront]; exact h)
      omega

/-- The digits of a number have no zero too many in front. -/
theorem toDigits_canonical (n : Nat) :
    ¬ ((Nat.toDigits 10 n).isEmpty || ((Nat.toDigits 10 n).length ≠ 1 &&
      (Nat.toDigits 10 n).head? = some '0')) = true := by
  simp only [Bool.or_eq_true, List.isEmpty_iff, Nat.toDigits_ne_nil, false_or, Bool.and_eq_true,
    decide_eq_true_eq, not_and]
  intro hlen hhead
  rw [eq_zero_of_head? hhead] at hlen
  exact hlen rfl

theorem splitMinus_of_digits {cs : List Char} (h : ∀ c ∈ cs, c.isDigit = true) :
    splitMinus cs = (false, cs) := by
  unfold splitMinus
  split
  · exact absurd (h '-' List.mem_cons_self) (by decide)
  · rfl

/-- A sign and the digits of a number that fits the word are read as a whole number. -/
theorem read?_signed (negative : Bool) {n : Nat} (hn : n ≤ maxWord) {text : List Char}
    (ht : splitMinus text = (negative, Nat.toDigits 10 n)) :
    read? text = some (whole? negative ⟨n, 0, false⟩) := by
  have hall : ∀ c ∈ Nat.toDigits 10 n, c.isDigit = true :=
    fun c hc => Nat.isDigit_of_mem_toDigits (by decide) (by decide) hc
  rw [read?_eq, ht]
  simp only [List.takeWhile_eq_self_iff.mpr hall, List.dropWhile_eq_nil_iff.mpr hall]
  rw [if_neg (toDigits_canonical n), foldl_whole (by rwa [Nat.ofDigitChars_ten_toDigits]),
    Nat.ofDigitChars_ten_toDigits]
  rfl

/-- **An integer of 64 bits reads back as it is.** -/
theorem restores_integer {i : Int} (h : Fits i) : (integer i).Restores := by
  have hword : maxWord = 2 ^ 64 - 1 := rfl
  have hsigned : Nat.pow 2 63 = 2 ^ 63 := rfl
  have hunsigned : Nat.pow 2 64 = 2 ^ 64 := rfl
  obtain ⟨hlow, hhigh⟩ := h
  unfold Restores render
  cases i with
  | ofNat n =>
    have htext : (toString (Int.ofNat n)).toList = Nat.toDigits 10 n := Nat.toList_repr
    have hsplit : splitMinus (Nat.toDigits 10 n) = (false, Nat.toDigits 10 n) :=
      splitMinus_of_digits fun c hc => Nat.isDigit_of_mem_toDigits (by decide) (by decide) hc
    have hn : n ≤ maxWord := by
      have : (n : Int) < Nat.pow 2 64 := hhigh
      omega
    rw [htext, read?_signed false hn hsplit]
    rfl
  | negSucc n =>
    have htext : (toString (Int.negSucc n)).toList = '-' :: Nat.toDigits 10 (n + 1) := by
      simp [Int.toString_eq_repr, Int.repr, Nat.toList_repr]
    rw [htext, read?_signed true (n := n + 1) (by omega) rfl]
    unfold whole?
    have hfits : ¬ (n + 1 = 0 ∨ Nat.pow 2 63 < n + 1) := by omega
    simp only [Bool.false_eq_true, if_false, if_true, hfits]
    rfl

end Number

end Json

end ChillerGateway
