import ChillerGateway.Binary64

/-!
# Comparing numbers

Every number but not-a-number has a place on the line, and all comparisons are comparisons of
places.

* `le_iff`, `lt_iff`, `same_iff` — the three comparisons by the places of their operands.
* `le_of_not_lt` — of two numbers that have places, one is not above the other.
-/

namespace ChillerGateway

namespace Binary64

variable {x y : Binary64} {p q : Int}

theorem exists_position (h : x.isNaN = false) : ∃ p, x.position = some p := by
  cases x with
  | nan => cases h
  | infinite s => exact ⟨_, rfl⟩
  | finite s u hu => exact ⟨_, rfl⟩

section

variable (hx : x.position = some p) (hy : y.position = some q)
include hx hy

theorem compareBy_eq (holds : Int → Int → Bool) : compareBy holds x y = holds p q := by
  unfold compareBy
  rw [hx, hy]

theorem le_iff : x ≤ y ↔ p ≤ q := by
  show compareBy _ x y = true ↔ _
  rw [compareBy_eq hx hy]
  exact decide_eq_true_iff

theorem lt_iff : x < y ↔ p < q := by
  show compareBy _ x y = true ↔ _
  rw [compareBy_eq hx hy]
  exact decide_eq_true_iff

theorem same_iff : x.same y = true ↔ p = q := by
  show compareBy _ x y = true ↔ _
  rw [compareBy_eq hx hy]
  exact decide_eq_true_iff

end

theorem same_self (h : x.isNaN = false) : x.same x = true := by
  obtain ⟨p, hp⟩ := exists_position h
  exact (same_iff hp hp).mpr rfl

theorem le_of_not_lt (hx : x.isNaN = false) (hy : y.isNaN = false) (h : ¬ y < x) : x ≤ y := by
  obtain ⟨p, hp⟩ := exists_position hx
  obtain ⟨q, hq⟩ := exists_position hy
  rw [lt_iff hq hp] at h
  rw [le_iff hp hq]
  omega

theorem isNaN_of_isFinite (h : x.isFinite = true) : x.isNaN = false := by
  cases x with
  | nan => cases h
  | infinite => cases h
  | finite => rfl

end Binary64

end ChillerGateway
