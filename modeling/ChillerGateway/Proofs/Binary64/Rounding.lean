import ChillerGateway.Binary64
import Mathlib.Algebra.Order.Group.Nat

/-!
# Rounding

What the two roundings promise: how far the result lies from the exact quotient, that they keep the
order, and which results are numbers.

* `roundHalfEven_eq` — the rounded value is the only one nearer than half a step.
* `nearestUnits_le`, `nearestUnits_error` — no number is passed over, and the error is at most half
  the local spacing.
* `roundHalfEven_mono`, `nearestUnits_mono` — the two roundings keep the order.
* `representable_nearestUnits` — rounding below the overflow bound gives a number.
* `representable_sub` — the difference of two numbers within a factor of two is exact.
-/

namespace ChillerGateway

namespace Binary64

variable {num den n units other : Nat}

/-! ## To a natural number -/

/-- Twice the error is at most the step. -/
theorem roundHalfEven_error (num : Nat) (hd : 0 < den) :
    2 * num ≤ 2 * (roundHalfEven num den * den) + den ∧
      2 * (roundHalfEven num den * den) ≤ 2 * num + den := by
  have hsplit : num = num / den * den + num % den := (Nat.div_add_mod' num den).symm
  have hrest : num % den < den := Nat.mod_lt _ hd
  unfold roundHalfEven
  simp only
  generalize num / den = q at hsplit ⊢
  generalize num % den = r at hsplit hrest ⊢
  split
  · omega
  · split
    · rw [Nat.add_mul]
      omega
    · rcases Nat.mod_two_eq_zero_or_one q with he | ho
      · rw [he, Nat.add_zero]
        omega
      · rw [ho, Nat.add_mul]
        omega

/-- What lies nearer than half a step is the rounded value. -/
theorem roundHalfEven_eq (hlow : 2 * num < 2 * (n * den) + den)
    (hhigh : 2 * (n * den) < 2 * num + den) : roundHalfEven num den = n := by
  have hd : 0 < den := by omega
  obtain ⟨hle, hge⟩ := roundHalfEven_error num hd
  have hup : roundHalfEven num den < n + 1 :=
    Nat.lt_of_mul_lt_mul_right (a := den) (by rw [Nat.add_mul]; omega)
  have hdown : n < roundHalfEven num den + 1 :=
    Nat.lt_of_mul_lt_mul_right (a := den) (by rw [Nat.add_mul]; omega)
  omega

theorem roundHalfEven_le (hd : 0 < den) (h : num ≤ n * den) : roundHalfEven num den ≤ n := by
  obtain ⟨-, hge⟩ := roundHalfEven_error num hd
  have hlt : roundHalfEven num den < n + 1 :=
    Nat.lt_of_mul_lt_mul_right (a := den) (by rw [Nat.add_mul]; omega)
  omega

theorem roundHalfEven_eq_of_eq_mul (hd : 0 < den) (h : num = n * den) :
    roundHalfEven num den = n := roundHalfEven_eq (by omega) (by omega)

/-- A common factor changes nothing. -/
theorem roundHalfEven_mul_right (num den : Nat) {k : Nat} (hk : 0 < k) :
    roundHalfEven (num * k) (den * k) = roundHalfEven num den := by
  have hlt : 2 * (num % den * k) < den * k ↔ 2 * (num % den) < den := by
    rw [← Nat.mul_assoc]
    exact Nat.mul_lt_mul_right hk
  have hgt : den * k < 2 * (num % den * k) ↔ den < 2 * (num % den) := by
    rw [← Nat.mul_assoc]
    exact Nat.mul_lt_mul_right hk
  unfold roundHalfEven
  simp only [Nat.mul_div_mul_right _ _ hk, Nat.mul_mod_mul_right, hlt, hgt]

/-! ## The spacing -/

theorem one_pos : 0 < one := by
  unfold one
  generalize 1074 = exponent
  exact Nat.pow_pos Nat.two_pos

theorem spacing_eq (units : Nat) : spacing units = 2 ^ (units.log2 - 52) := rfl

theorem spacing_pos (units : Nat) : 0 < spacing units := Nat.two_pow_pos _

/-- A number of units is a multiple of its own spacing. -/
theorem Representable.dvd (h : Representable units) : spacing units ∣ units :=
  Nat.dvd_of_mod_eq_zero h.2

theorem log2_le_log2 (h : units ≤ other) : units.log2 ≤ other.log2 := by
  rcases Nat.eq_zero_or_pos units with rfl | hpos
  · simp
  · exact (Nat.le_log2 (by omega)).mpr ((Nat.log2_self_le (by omega)).trans h)

/-- The spacing grows with the magnitude, by powers of two. -/
theorem spacing_dvd_spacing (h : units ≤ other) : spacing units ∣ spacing other :=
  Nat.pow_dvd_pow 2 (Nat.sub_le_sub_right (log2_le_log2 h) 52)

theorem spacing_two_pow_dvd (e : Nat) : spacing (2 ^ e) ∣ 2 ^ e := by
  rw [spacing_eq, Nat.log2_two_pow]
  exact Nat.pow_dvd_pow 2 (Nat.sub_le e 52)

/-- Twice a number of units keeps to the spacing there. -/
theorem Representable.dvd_double (h : Representable units) : spacing (2 * units) ∣ 2 * units := by
  rcases Nat.eq_zero_or_pos units with rfl | hpos
  · exact Nat.dvd_zero _
  · have hlog : (2 * units).log2 = units.log2 + 1 := Nat.log2_two_mul (by omega)
    have hgap : spacing (2 * units) ∣ 2 ^ 1 * spacing units := by
      rw [spacing_eq, spacing_eq, hlog, ← Nat.pow_add]
      exact Nat.pow_dvd_pow 2 (by omega)
    exact Nat.dvd_trans hgap (Nat.mul_dvd_mul_left 2 h.dvd)

/-- A multiple of a spacing that is not below its own is representable. -/
theorem Representable.of_dvd {gap : Nat} (hb : units < overflow) (hs : spacing units ∣ gap)
    (hg : gap ∣ units) : Representable units :=
  ⟨hb, Nat.mod_eq_zero_of_dvd (Nat.dvd_trans hs hg)⟩

/-- **The difference of neighbours is exact**: no rounding is needed when one number is at most
twice the other. -/
theorem representable_sub (hu : Representable units) (ho : Representable other)
    (h : other ≤ units) (hd : units - other ≤ other) : Representable (units - other) := by
  refine Representable.of_dvd ?_ (spacing_dvd_spacing hd) ?_
  · have := hu.1
    omega
  · exact Nat.dvd_sub (Nat.dvd_trans (spacing_dvd_spacing h) hu.dvd) ho.dvd

/-! ## To a number of units -/

/-- A common factor changes nothing. -/
theorem nearestUnits_mul_right (num den : Nat) {k : Nat} (hk : 0 < k) :
    nearestUnits (num * k) (den * k) = nearestUnits num den := by
  unfold nearestUnits
  rw [Nat.mul_div_mul_right _ _ hk]
  simp only
  rw [Nat.mul_right_comm den k, roundHalfEven_mul_right _ _ hk]

/-- Twice the error is at most the spacing around the quotient. -/
theorem nearestUnits_error (num : Nat) (hd : 0 < den) :
    2 * num ≤ 2 * (nearestUnits num den * den) + den * spacing (num / den) ∧
      2 * (nearestUnits num den * den) ≤ 2 * num + den * spacing (num / den) := by
  have h := roundHalfEven_error num (Nat.mul_pos hd (spacing_pos (num / den)))
  have he : nearestUnits num den * den =
      roundHalfEven num (den * spacing (num / den)) * (den * spacing (num / den)) := by
    unfold nearestUnits
    simp only
    rw [Nat.mul_assoc, Nat.mul_comm (spacing _) den]
  rw [he]
  exact h

/-- Rounding does not pass over a multiple of its own spacing. -/
theorem nearestUnits_le (hd : 0 < den) (hs : spacing units ∣ units) (h : num ≤ units * den) :
    nearestUnits num den ≤ units := by
  have hq : num / den ≤ units := Nat.div_le_of_le_mul (by rw [Nat.mul_comm]; exact h)
  obtain ⟨c, hc⟩ := Nat.dvd_trans (spacing_dvd_spacing hq) hs
  have hgap := spacing_pos (num / den)
  have hround : roundHalfEven num (den * spacing (num / den)) ≤ c := by
    refine roundHalfEven_le (Nat.mul_pos hd hgap) (h.trans (Nat.le_of_eq ?_))
    rw [hc, Nat.mul_comm (spacing _) c, Nat.mul_assoc, Nat.mul_comm (spacing _) den]
  calc nearestUnits num den
      = roundHalfEven num (den * spacing (num / den)) * spacing (num / den) := rfl
    _ ≤ c * spacing (num / den) := Nat.mul_le_mul_right _ hround
    _ = units := by rw [hc, Nat.mul_comm]

/-- **Rounding gives a number** when the quotient is not above one. -/
theorem representable_nearestUnits (hd : 0 < den) (hu : Representable units)
    (h : num ≤ units * den) : Representable (nearestUnits num den) := by
  have hbound : nearestUnits num den < overflow := (nearestUnits_le hd hu.dvd h).trans_lt hu.1
  have hgap : spacing (num / den) ∣ nearestUnits num den := Nat.dvd_mul_left _ _
  have hlt : num < 2 ^ ((num / den).log2 + 1) * den :=
    (Nat.div_lt_iff_lt_mul hd).mp Nat.lt_log2_self
  have hle : nearestUnits num den ≤ 2 ^ ((num / den).log2 + 1) :=
    nearestUnits_le hd (spacing_two_pow_dvd _) hlt.le
  rcases hle.eq_or_lt with he | hlt
  · -- Rounding went up to the next power of two.
    refine Representable.of_dvd hbound ?_ (Nat.dvd_refl _)
    rw [he]
    exact spacing_two_pow_dvd _
  · refine Representable.of_dvd hbound ?_ hgap
    rcases Nat.eq_zero_or_pos (nearestUnits num den) with hz | hpos
    · rw [hz]
      exact Nat.one_dvd _
    · have hlog : (nearestUnits num den).log2 ≤ (num / den).log2 := by
        have := (Nat.log2_lt (by omega)).mpr hlt
        omega
      exact Nat.pow_dvd_pow 2 (Nat.sub_le_sub_right hlog 52)

/-- A number is not rounded. -/
theorem nearestUnits_one (h : Representable units) : nearestUnits units 1 = units := by
  obtain ⟨c, hc⟩ := h.dvd
  have hround : roundHalfEven units (spacing units) = c :=
    roundHalfEven_eq_of_eq_mul (spacing_pos units) (hc.trans (Nat.mul_comm _ _))
  unfold nearestUnits
  simp only [Nat.div_one, Nat.one_mul]
  rw [hround, Nat.mul_comm]
  exact hc.symm

theorem nearestUnits_zero (den : Nat) : nearestUnits 0 den = 0 := by
  have hround : ∀ d, roundHalfEven 0 d = 0 := by
    intro d
    unfold roundHalfEven
    simp
  unfold nearestUnits
  simp only [hround, Nat.zero_mul]

/-! ## Order -/

theorem le_roundHalfEven (hd : 0 < den) (h : n * den ≤ num) : n ≤ roundHalfEven num den := by
  obtain ⟨hle, -⟩ := roundHalfEven_error num hd
  have hlt : n < roundHalfEven num den + 1 :=
    Nat.lt_of_mul_lt_mul_right (a := den) (by rw [Nat.add_mul]; omega)
  omega

/-- Rounding to a natural number keeps the order. -/
theorem roundHalfEven_mono (hd : 0 < den) (h : num ≤ other) :
    roundHalfEven num den ≤ roundHalfEven other den := by
  rcases h.eq_or_lt with rfl | hlt
  · exact Nat.le_refl _
  · obtain ⟨-, hlow⟩ := roundHalfEven_error num hd
    obtain ⟨hhigh, -⟩ := roundHalfEven_error other hd
    have hnext : roundHalfEven num den < roundHalfEven other den + 1 :=
      Nat.lt_of_mul_lt_mul_right (a := den) (by rw [Nat.add_mul]; omega)
    exact Nat.le_of_lt_succ hnext

/-- Rounding does not fall below a multiple of the spacing around the quotient. -/
theorem le_nearestUnits (hd : 0 < den) (hs : spacing (num / den) ∣ units)
    (h : units * den ≤ num) : units ≤ nearestUnits num den := by
  obtain ⟨c, hc⟩ := hs
  have hround : c ≤ roundHalfEven num (den * spacing (num / den)) := by
    refine le_roundHalfEven (Nat.mul_pos hd (spacing_pos _)) ?_
    rw [Nat.mul_comm den, ← Nat.mul_assoc, Nat.mul_comm c, ← hc]
    exact h
  calc units = c * spacing (num / den) := by rw [hc, Nat.mul_comm]
    _ ≤ nearestUnits num den := Nat.mul_le_mul_right _ hround

/-- Rounding to a number of units keeps the order. -/
theorem nearestUnits_mono (hd : 0 < den) (h : num ≤ other) :
    nearestUnits num den ≤ nearestUnits other den := by
  have hq : num / den ≤ other / den := Nat.div_le_div_right h
  rcases (log2_le_log2 hq).eq_or_lt with hlog | hlog
  · have hgap : spacing (num / den) = spacing (other / den) := by
      rw [spacing_eq, spacing_eq, hlog]
    unfold nearestUnits
    simp only [hgap]
    exact Nat.mul_le_mul_right _
      (roundHalfEven_mono (Nat.mul_pos hd (spacing_pos _)) h)
  · -- A power of two lies between the quotients, and neither is rounded past it.
    have hne : other / den ≠ 0 := by
      intro h0
      rw [h0] at hlog
      simp at hlog
    have hbelow : num ≤ 2 ^ (other / den).log2 * den := by
      have : num / den < 2 ^ (other / den).log2 := by
        have := Nat.lt_log2_self (n := num / den)
        exact this.trans_le (Nat.pow_le_pow_right (by decide) hlog)
      exact ((Nat.div_lt_iff_lt_mul hd).mp this).le
    have habove : 2 ^ (other / den).log2 * den ≤ other :=
      (Nat.mul_le_mul_right _ (Nat.log2_self_le hne)).trans (Nat.div_mul_le_self _ _)
    calc nearestUnits num den
        ≤ 2 ^ (other / den).log2 := nearestUnits_le hd (spacing_two_pow_dvd _) hbelow
      _ ≤ nearestUnits other den :=
        le_nearestUnits hd (Nat.pow_dvd_pow 2 (Nat.sub_le _ _)) habove

/-! ## Numbers -/

theorem ofUnits_of_representable (s : Bool) (h : Representable units) :
    ofUnits s units = .finite s units h := dif_pos h

/-- A quotient that is not above a number is rounded to a number. -/
theorem ofRatio_eq_finite (s : Bool) (hd : 0 < den) (hu : Representable units)
    (h : num * one ≤ units * den) :
    ofRatio s num den =
      .finite s (nearestUnits (num * one) den) (representable_nearestUnits hd hu h) :=
  ofUnits_of_representable s _

theorem ofRatio_mul_right (s : Bool) (num den : Nat) {k : Nat} (hk : 0 < k) :
    ofRatio s (num * k) (den * k) = ofRatio s num den := by
  unfold ofRatio
  rw [Nat.mul_right_comm, nearestUnits_mul_right _ _ hk]

end Binary64

end ChillerGateway
