import ChillerGateway.Proofs.Binary64.Order
import ChillerGateway.Proofs.Binary64.Rounding

/-!
# Arithmetic that stays finite

An operation of finite numbers gives a finite number as long as the exact result is not above some
finite number.

* `Within.add`, `Within.sub`, `Within.mul`, `Within.div` — the four operations by bounds of their
  operands.
* `sub_eq` — the difference of two finite numbers is the rounded difference of their places.
* `same_add_nothing` — adding a zero changes no number.
* `IsSpan.add`, `IsSpan.div` — sums and parts of numbers without a sign are never not-a-number.
-/

namespace ChillerGateway

namespace Binary64

variable {x y : Binary64} {bound other result : Nat} {p q : Int}

/-- A finite number of at most so many units. -/
def Within (bound : Nat) (x : Binary64) : Prop := ∃ s u h, x = .finite s u h ∧ u ≤ bound

theorem Within.isFinite (h : Within bound x) : x.isFinite = true := by
  obtain ⟨s, u, hu, rfl, -⟩ := h
  rfl

theorem within_ofUnits (s : Bool) {units : Nat} (h : Representable units) (hb : units ≤ bound) :
    Within bound (ofUnits s units) := ⟨s, units, h, ofUnits_of_representable s h, hb⟩

/-! ## Sums and differences -/

/-- Rounding the exact sum of two numbers passes over no number. -/
theorem ofSigned_eq (zero : Bool) (i : Int) (hb : Representable bound) (h : i.natAbs ≤ bound) :
    ∃ s hu, ofSigned zero i = .finite s (nearestUnits i.natAbs 1) hu ∧
      nearestUnits i.natAbs 1 ≤ bound ∧ (s = true → i ≤ 0) ∧ (s = false → 0 ≤ i) := by
  have hnum : i.natAbs ≤ bound * 1 := by omega
  have hrep := representable_nearestUnits Nat.one_pos hb hnum
  have hle := nearestUnits_le Nat.one_pos hb.dvd hnum
  unfold ofSigned
  split
  · rename_i hi
    subst hi
    refine ⟨zero, hrep, ?_, hle, fun _ => Int.le_refl 0, fun _ => Int.le_refl 0⟩
    simp only [Int.natAbs_zero, nearestUnits_zero]
    exact ofUnits_of_representable _ representable_zero
  · refine ⟨decide (i < 0), hrep, ofUnits_of_representable _ hrep, hle, ?_, ?_⟩
    · intro hs
      exact Int.le_of_lt (of_decide_eq_true hs)
    · intro hs
      exact Int.not_lt.mp (of_decide_eq_false hs)

theorem natAbs_signed (s : Bool) (u : Nat) : (signed s u).natAbs = u := by
  cases s
  · rfl
  · exact (Int.natAbs_neg _).trans rfl

theorem signed_natAbs {s : Bool} {i : Int} (hneg : s = true → i ≤ 0) (hpos : s = false → 0 ≤ i) :
    signed s i.natAbs = i := by
  cases s with
  | false => exact Int.natAbs_of_nonneg (hpos rfl)
  | true =>
    have := hneg rfl
    show -(i.natAbs : Int) = i
    omega

theorem signed_not (s : Bool) (u : Nat) : signed (!s) u = -signed s u := by
  cases s
  · rfl
  · exact (Int.neg_neg _).symm

theorem Within.add (hx : Within bound x) (hy : Within other y) (hr : Representable result)
    (h : bound + other ≤ result) : Within result (x + y) := by
  obtain ⟨s, u, hu, rfl, hub⟩ := hx
  obtain ⟨t, v, hv, rfl, hvb⟩ := hy
  have habs : (signed s u + signed t v).natAbs ≤ result := by
    have := natAbs_signed s u
    have := natAbs_signed t v
    omega
  obtain ⟨r, hw, heq, hle, -⟩ := ofSigned_eq (s && t) _ hr habs
  exact ⟨r, _, hw, heq, hle⟩

theorem Within.sub (hx : Within bound x) (hy : Within other y) (hr : Representable result)
    (h : bound + other ≤ result) : Within result (x - y) := by
  have hneg : Within other y.neg := by
    obtain ⟨t, v, hv, rfl, hvb⟩ := hy
    exact ⟨!t, v, hv, rfl, hvb⟩
  exact hx.add hneg hr h

/-- A finite number at or above another: their difference is rounded once. -/
theorem sub_eq (hx : x.isFinite = true) (hy : y.isFinite = true) (hp : x.position = some p)
    (hq : y.position = some q) (hzero : 0 ≤ q) (hle : q ≤ p) :
    ∃ s h, x - y = .finite s (nearestUnits (p - q).natAbs 1) h := by
  cases x with
  | nan => cases hx
  | infinite => cases hx
  | finite s u hu =>
    cases y with
    | nan => cases hy
    | infinite => cases hy
    | finite t v hv =>
      obtain rfl : signed s u = p := Option.some.inj hp
      obtain rfl : signed t v = q := Option.some.inj hq
      have habs : (signed s u - signed t v).natAbs ≤ u := by
        have := natAbs_signed s u
        omega
      obtain ⟨r, hw, heq, -⟩ := ofSigned_eq (s && !t) _ hu habs
      refine ⟨r, hw, ?_⟩
      have hdiff : signed s u + signed (!t) v = signed s u - signed t v := by
        rw [signed_not, Int.sub_eq_add_neg]
      show ofSigned (s && !t) (signed s u + signed (!t) v) = _
      rw [hdiff]
      exact heq

/-- Two numbers at different places have a difference. -/
theorem nearestUnits_pos {units : Nat} (h : 0 < units) : 0 < nearestUnits units 1 := by
  have hone : Representable 1 := by decide +kernel
  calc 0 < nearestUnits 1 1 := by rw [nearestUnits_one hone]; exact Nat.one_pos
    _ ≤ nearestUnits units 1 := nearestUnits_mono Nat.one_pos h

/-- Adding a zero changes no number. -/
theorem same_add_nothing (hx : x.isFinite = true) (hy : Within 0 y) :
    (x + y).same x = true := by
  obtain ⟨t, v, hv, rfl, hv0⟩ := hy
  obtain rfl : v = 0 := Nat.le_zero.mp hv0
  cases x with
  | nan => cases hx
  | infinite => cases hx
  | finite s u hu =>
    have hsum : signed s u + signed t 0 = signed s u := by cases t <;> exact Int.add_zero _
    have habs : (signed s u).natAbs = u := natAbs_signed s u
    obtain ⟨r, hw, heq, -, hneg, hpos⟩ := ofSigned_eq (s && t) (signed s u) hu habs.le
    have hround : nearestUnits (signed s u).natAbs 1 = (signed s u).natAbs := by
      rw [habs, nearestUnits_one hu]
    have hplace : (Binary64.finite s u hu + .finite t 0 hv).position = some (signed s u) := by
      show (ofSigned (s && t) (signed s u + signed t 0)).position = _
      rw [hsum, heq]
      show some (signed r (nearestUnits (signed s u).natAbs 1)) = some (signed s u)
      rw [hround, signed_natAbs hneg hpos]
    rw [same_iff hplace rfl]

/-! ## Products and quotients -/

theorem Within.mul (hx : Within bound x) (hy : Within other y) (hr : Representable result)
    (h : bound * other ≤ result * one) : Within result (x * y) := by
  obtain ⟨s, u, hu, rfl, hub⟩ := hx
  obtain ⟨t, v, hv, rfl, hvb⟩ := hy
  have hnum : u * v ≤ result * one := (Nat.mul_le_mul hub hvb).trans h
  exact within_ofUnits _ (representable_nearestUnits one_pos hr hnum)
    (nearestUnits_le one_pos hr.dvd hnum)

theorem Within.div (hx : Within bound x) {s : Bool} {v : Nat} {hv : Representable v}
    (hpos : 0 < v) (hr : Representable result) (h : bound * one ≤ result * v) :
    Within result (x / .finite s v hv) := by
  obtain ⟨r, u, hu, rfl, hub⟩ := hx
  have hnum : u * one ≤ result * v := (Nat.mul_le_mul_right one hub).trans h
  show Within result (if v = 0 then _ else _)
  rw [if_neg (Nat.pos_iff_ne_zero.mp hpos)]
  exact within_ofUnits _ (representable_nearestUnits hpos hr hnum)
    (nearestUnits_le hpos hr.dvd hnum)

/-! ## Whole numbers -/

/-- A whole number that is a number. -/
theorem ofNat_eq {n : Nat} (h : Representable (n * one)) : ofNat n = .finite false (n * one) h := by
  unfold ofNat ofRatio
  rw [nearestUnits_one h]
  exact ofUnits_of_representable _ h

/-! ## Numbers without a sign -/

/-- A number without a sign, or the infinity without one. -/
structure IsSpan (x : Binary64) : Prop where
  isNaN : x.isNaN = false
  isNegative : x.isNegative = false

theorem isSpan_ofUnits (u : Nat) : IsSpan (ofUnits false u) := by
  unfold ofUnits
  split
  · exact ⟨rfl, rfl⟩
  · exact ⟨rfl, rfl⟩

theorem isSpan_ofNat (n : Nat) : IsSpan (ofNat n) := isSpan_ofUnits _

theorem IsSpan.add (hx : IsSpan x) (hy : IsSpan y) : IsSpan (x + y) := by
  obtain ⟨hxn, hxs⟩ := hx
  obtain ⟨hyn, hys⟩ := hy
  cases x with
  | nan => cases hxn
  | infinite s =>
    obtain rfl : s = false := hxs
    cases y with
    | nan => cases hyn
    | infinite t =>
      obtain rfl : t = false := hys
      exact ⟨rfl, rfl⟩
    | finite => exact ⟨rfl, rfl⟩
  | finite s u hu =>
    obtain rfl : s = false := hxs
    cases y with
    | nan => cases hyn
    | infinite t =>
      obtain rfl : t = false := hys
      exact ⟨rfl, rfl⟩
    | finite t v hv =>
      obtain rfl : t = false := hys
      show IsSpan (ofSigned false ((u : Int) + v))
      unfold ofSigned
      split
      · exact isSpan_ofUnits 0
      · rw [decide_eq_false (by omega)]
        exact isSpan_ofUnits _

theorem IsSpan.div (hx : IsSpan x) {v : Nat} {hv : Representable v} (hpos : 0 < v) :
    IsSpan (x / .finite false v hv) := by
  obtain ⟨hxn, hxs⟩ := hx
  cases x with
  | nan => cases hxn
  | infinite s =>
    obtain rfl : s = false := hxs
    exact ⟨rfl, rfl⟩
  | finite s u hu =>
    obtain rfl : s = false := hxs
    show IsSpan (if v = 0 then _ else ofUnits false _)
    rw [if_neg (Nat.pos_iff_ne_zero.mp hpos)]
    exact isSpan_ofUnits _

theorem isNaN_ofUnits (s : Bool) (u : Nat) : (ofUnits s u).isNaN = false := by
  unfold ofUnits
  split
  · rfl
  · rfl

/-- The difference of finite numbers is a number or an infinity. -/
theorem isNaN_abs_sub (hx : x.isFinite = true) (hy : y.isFinite = true) :
    (x - y).abs.isNaN = false := by
  have habs : ∀ z : Binary64, z.isNaN = false → z.abs.isNaN = false := by
    intro z hz
    cases z with
    | nan => cases hz
    | infinite => rfl
    | finite => rfl
  cases x with
  | nan => cases hx
  | infinite => cases hx
  | finite s u hu =>
    cases y with
    | nan => cases hy
    | infinite => cases hy
    | finite t v hv =>
      apply habs
      show (ofSigned (s && !t) (signed s u + signed (!t) v)).isNaN = false
      unfold ofSigned
      split
      · exact isNaN_ofUnits _ _
      · exact isNaN_ofUnits _ _

end Binary64

end ChillerGateway
