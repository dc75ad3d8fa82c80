import ChillerGateway.Proofs.Binary64.Numerals

/-!
# Numbers with two places

A number that is written with two places is read as the number nearest to the written hundredths.
Up to `2⁴⁶` the numbers lie closer than hundredths do, so two hundredths are never read as one
number; from there on they lie farther apart than half a hundredth on either side, and every number
is read as it was.

* `parse?_hundredths` — what the text of a number with two places reads as.
* `hundredths_inj` — numbers are read as one only when their texts are the same.
-/

namespace ChillerGateway

namespace Binary64

variable {num den units other n : Nat}

/-! ## Gaps -/

/-- Multiples of a gap lie at least the gap apart. -/
theorem add_le_of_dvd {gap : Nat} (hu : gap ∣ units) (ho : gap ∣ other) (h : units < other) :
    units + gap ≤ other := by
  have := Nat.le_of_dvd (Nat.sub_pos_of_lt h) (Nat.dvd_sub ho hu)
  omega

/-- A number is the nearest one to what lies less than half its spacing away, and not below its
power of two. -/
theorem nearestUnits_eq (hd : 0 < den) (hs : spacing units ∣ units)
    (hbase : 2 ^ units.log2 * den ≤ num)
    (hlow : 2 * num < 2 * (units * den) + den * spacing units)
    (hhigh : 2 * (units * den) < 2 * num + den * spacing units) :
    nearestUnits num den = units := by
  have hlog : (num / den).log2 = units.log2 := by
    have hge : 2 ^ units.log2 ≤ num / den := (Nat.le_div_iff_mul_le hd).mpr hbase
    have hlt : num / den < 2 ^ (units.log2 + 1) := by
      have hnext : units + spacing units ≤ 2 ^ (units.log2 + 1) :=
        add_le_of_dvd hs (Nat.pow_dvd_pow 2 (by omega)) Nat.lt_log2_self
      have : num < (units + spacing units) * den := by
        rw [Nat.add_mul, Nat.mul_comm (spacing units)]
        omega
      exact (Nat.div_lt_iff_lt_mul hd).mpr (this.trans_le (Nat.mul_le_mul_right _ hnext))
    have hpos : num / den ≠ 0 := by
      have := Nat.two_pow_pos units.log2
      omega
    exact (Nat.log2_eq_iff hpos).mpr ⟨hge, hlt⟩
  obtain ⟨c, hc⟩ := hs
  have hgap : spacing (num / den) = spacing units := by rw [spacing_eq, spacing_eq, hlog]
  have hcell : c * (den * spacing units) = units * den := by
    rw [Nat.mul_comm den, ← Nat.mul_assoc, Nat.mul_comm c, ← hc]
  unfold nearestUnits
  simp only [hgap]
  rw [roundHalfEven_eq (n := c) (by rw [hcell]; exact hlow) (by rw [hcell]; exact hhigh),
    Nat.mul_comm]
  exact hc.symm

/-! ## The spacing below and above a power of two -/

theorem spacing_le {e : Nat} (h : n < 2 ^ (e + 53)) : spacing n ≤ 2 ^ e := by
  rw [spacing_eq]
  refine Nat.pow_le_pow_right (by decide) ?_
  rcases Nat.eq_zero_or_pos n with rfl | hpos
  · simp
  · have := (Nat.log2_lt (by omega)).mpr h
    omega

theorem le_spacing {e : Nat} (h : e + 52 ≤ n.log2) : 2 ^ e ≤ spacing n :=
  Nat.pow_le_pow_right (by decide) (by omega)

theorem log2_ge {e : Nat} (h : 2 ^ e ≤ n) : e ≤ n.log2 :=
  (Nat.le_log2 (Nat.pos_iff_ne_zero.mp ((Nat.two_pow_pos e).trans_le h))).mpr h

/-- The numbers below a power of two keep a gap to it. -/
theorem Representable.add_gap_le {e : Nat} (hu : Representable units) (h : units < 2 ^ (e + 53)) :
    units + 2 ^ e ≤ 2 ^ (e + 53) := by
  rcases Nat.lt_or_ge units (2 ^ (e + 52)) with hlt | hge
  · have hdouble : 2 ^ (e + 53) = 2 ^ (e + 52) * 2 := Nat.pow_succ ..
    have hgap : 2 ^ e ≤ 2 ^ (e + 52) := Nat.pow_le_pow_right (by decide) (by omega)
    omega
  · have hlog := log2_ge hge
    have hgap : 2 ^ e ∣ units := Nat.dvd_trans (Nat.pow_dvd_pow 2 (by omega)) hu.dvd
    exact add_le_of_dvd hgap (Nat.pow_dvd_pow 2 (by omega)) h

/-! ## Hundredths -/

/-- The number of hundredths as which a magnitude is written. -/
def hundredths : Binary64 → Nat
  | finite _ u _ => fixed 2 u
  | _ => 0

/-- What the text of a number with two places reads as. -/
def atHundredths : Binary64 → Binary64
  | finite s u _ => ofRatio s (fixed 2 u) 100
  | x => x

/-- All that has to be computed with counts of a thousand bits. -/
theorem hundredths_counts :
    (0 < one ∧ one = 2 ^ 1074 ∧ 2 ^ 46 * one = 2 ^ (1067 + 53)) ∧
      (one = 128 * 2 ^ 1067 ∧ one = 64 * 2 ^ 1068) ∧ Representable (2 ^ 46 * one) := by
  decide +kernel

/-- One is a power of two, and no great one. -/
theorem one_eq_two_pow : ∃ e, e ≤ 1067 + 53 ∧ one = 2 ^ e :=
  ⟨1074, by decide, hundredths_counts.1.2.1⟩

variable {u v k : Nat}

/-- The written hundredths lie at most half a hundredth away. -/
theorem fixed_two_error (u : Nat) :
    2 * (100 * u) ≤ 2 * (fixed 2 u * one) + one ∧ 2 * (fixed 2 u * one) ≤ 2 * (100 * u) + one := by
  obtain ⟨hlow, hhigh⟩ := roundHalfEven_error (u * 10 ^ 2) one_pos
  rw [← Setpoint.fixed_eq] at hlow hhigh
  omega

theorem fixed_two_mono (h : u ≤ v) : fixed 2 u ≤ fixed 2 v :=
  roundHalfEven_mono one_pos (Nat.mul_le_mul_right _ h)

/-- Below `2⁴⁶` there are fewer hundredths. -/
theorem fixed_two_lt (hu : Representable u) (h : u < 2 ^ 46 * one) : fixed 2 u < 100 * 2 ^ 46 := by
  obtain ⟨⟨-, -, hbound⟩, ⟨hone, -⟩, -⟩ := hundredths_counts
  have hroom := hu.add_gap_le (hbound ▸ h)
  rw [← hbound] at hroom
  obtain ⟨-, hhigh⟩ := fixed_two_error u
  refine Nat.lt_of_mul_lt_mul_right (a := one) ?_
  omega

/-- Below `2⁴⁶` numbers lie closer than hundredths. -/
theorem nearest_error (h : k < 100 * 2 ^ 46) :
    2 * (k * one) ≤ 2 * (nearestUnits (k * one) 100 * 100) + 100 * 2 ^ 1067 ∧
      2 * (nearestUnits (k * one) 100 * 100) ≤ 2 * (k * one) + 100 * 2 ^ 1067 := by
  obtain ⟨⟨hpos, -, hbound⟩, -⟩ := hundredths_counts
  have hq : k * one / 100 < 2 ^ (1067 + 53) := by
    rw [← hbound, Nat.div_lt_iff_lt_mul (by decide)]
    have := Nat.mul_lt_mul_of_pos_right h hpos
    omega
  have hgap := spacing_le hq
  obtain ⟨hlow, hhigh⟩ := nearestUnits_error (k * one) (show 0 < 100 by decide)
  omega

/-- From `2⁴⁶` on every number is the one nearest to its own hundredths. -/
theorem nearest_of_large (hu : Representable u) (h : 2 ^ 46 * one ≤ u) :
    nearestUnits (fixed 2 u * one) 100 = u := by
  obtain ⟨⟨hpos, -, hbound⟩, ⟨-, hone⟩, -⟩ := hundredths_counts
  have hlog : 1067 + 53 ≤ u.log2 := log2_ge (hbound ▸ h)
  have hgap : 2 ^ 1068 ≤ spacing u := le_spacing hlog
  obtain ⟨hlow, hhigh⟩ := fixed_two_error u
  refine nearestUnits_eq (by decide) hu.dvd ?_ (by omega) (by omega)
  have hne : u ≠ 0 := by
    rintro rfl
    have := Nat.mul_pos (Nat.two_pow_pos 46) hpos
    omega
  rcases (Nat.log2_self_le hne).eq_or_lt with hself | hself
  · -- A power of two is a whole number here, and is written as it is.
    obtain ⟨e, he, hpower⟩ := one_eq_two_pow
    obtain ⟨c, hc⟩ : one ∣ u := by
      rw [← hself, hpower]
      exact Nat.pow_dvd_pow 2 (he.trans hlog)
    rw [Nat.mul_comm] at hc
    have hexact : fixed 2 u = c * 10 ^ 2 := by
      refine roundHalfEven_eq_of_eq_mul hpos ?_
      rw [hc]
      exact Nat.mul_right_comm ..
    rw [hexact, hself, hc]
    exact Nat.le_of_eq (Nat.mul_right_comm c one 100)
  · have hspacing : spacing u ∣ 2 ^ u.log2 := Nat.pow_dvd_pow 2 (Nat.sub_le _ _)
    have := add_le_of_dvd hspacing hu.dvd hself
    omega

/-- **Numbers are read as one only when their texts are the same.** -/
theorem hundredths_inj (hu : Representable u) (hv : Representable v)
    (h : nearestUnits (fixed 2 u * one) 100 = nearestUnits (fixed 2 v * one) 100) :
    fixed 2 u = fixed 2 v := by
  obtain ⟨⟨hpos, -, hbound⟩, ⟨hone, -⟩, -⟩ := hundredths_counts
  have hsmall : ∀ {w : Nat}, Representable w → w < 2 ^ 46 * one →
      nearestUnits (fixed 2 w * one) 100 < 2 ^ 46 * one := by
    intro w hw hlt
    have hk := fixed_two_lt hw hlt
    obtain ⟨-, hhigh⟩ := nearest_error hk
    have := Nat.mul_le_mul_right one (Nat.succ_le_of_lt hk)
    rw [Nat.succ_mul] at this
    omega
  rcases Nat.lt_or_ge u (2 ^ 46 * one) with hlu | hgu
  · rcases Nat.lt_or_ge v (2 ^ 46 * one) with hlv | hgv
    · obtain ⟨hlow, hhigh⟩ := nearest_error (fixed_two_lt hu hlu)
      obtain ⟨hlow', hhigh'⟩ := nearest_error (fixed_two_lt hv hlv)
      rw [h] at hlow hhigh
      -- Neighbouring hundredths lie more than both errors apart.
      have hle : fixed 2 u ≤ fixed 2 v := Nat.le_of_lt_succ <|
        Nat.lt_of_mul_lt_mul_right (a := one) (by rw [Nat.succ_mul]; omega)
      have hge : fixed 2 v ≤ fixed 2 u := Nat.le_of_lt_succ <|
        Nat.lt_of_mul_lt_mul_right (a := one) (by rw [Nat.succ_mul]; omega)
      exact Nat.le_antisymm hle hge
    · rw [nearest_of_large hv hgv] at h
      have := hsmall hu hlu
      omega
  · rw [nearest_of_large hu hgu] at h
    rcases Nat.lt_or_ge v (2 ^ 46 * one) with hlv | hgv
    · have := hsmall hv hlv
      omega
    · rw [nearest_of_large hv hgv] at h
      rw [h]

/-- What a finite number is read as is finite. -/
theorem representable_atHundredths (hu : Representable u) :
    Representable (nearestUnits (fixed 2 u * one) 100) := by
  rcases Nat.lt_or_ge u (2 ^ 46 * one) with hlt | hge
  · refine representable_nearestUnits (by decide) hundredths_counts.2.2 ?_
    have := Nat.mul_le_mul_right one (fixed_two_lt hu hlt).le
    rw [Nat.mul_assoc] at this
    omega
  · rwa [nearest_of_large hu hge]

theorem atHundredths_finite (s : Bool) (hu : Representable u) :
    atHundredths (.finite s u hu) =
      .finite s (nearestUnits (fixed 2 u * one) 100) (representable_atHundredths hu) :=
  ofUnits_of_representable s _

/-- **The text of a number with two places** reads as the number nearest to its hundredths. -/
theorem parse?_hundredths {x : Binary64} (hx : x.isFinite = true) :
    parse? (x.toFixed 2) = some x.atHundredths := by
  cases x with
  | nan => cases hx
  | infinite s => cases hx
  | finite s u hu =>
    have hcount : ∀ places digits, 309 + places ≤ digits → fixed places u < 10 ^ digits :=
      fun places _ hdigits =>
        (fixed_lt places hu).trans_le (Nat.pow_le_pow_right (by decide) hdigits)
    exact parse?_fixedText s (by decide) (by decide) (hcount 2 400 (by decide))

end Binary64

end ChillerGateway
