import ChillerGateway.Proofs.Schedule.Bracket
import Mathlib.Algebra.Order.Field.Basic
import Mathlib.Algebra.Order.Field.Rat
import Mathlib.Data.Rat.Cast.Defs

/-!
# Schedules over exact numbers

A finite number stands for a fraction.  Read so, the steps of a schedule are fractions, and the
target and the progress are computed from them without rounding.

* `Binary64.value` — the fraction that a number stands for; comparisons are kept.
* `Schedule.exact` — the steps of a schedule as fractions, at times from zero on.
* `setpointAt?_cases`, `exists_setpointAt?` — there is a target at every exact time.
-/

namespace ChillerGateway

namespace Binary64

variable {x y : Binary64} {p : Int}

/-- The fraction that a finite number stands for. -/
def value : Binary64 → ℚ
  | finite s u _ => (signed s u : ℚ) / (one : ℚ)
  | _ => 0

theorem cast_one_pos : (0 : ℚ) < (one : ℚ) := Nat.cast_pos.mpr one_pos

theorem value_eq (hx : x.isFinite = true) (hp : x.position = some p) :
    x.value = (p : ℚ) / (one : ℚ) := by
  cases x with
  | nan => cases hx
  | infinite => cases hx
  | finite s u h =>
    obtain rfl : signed s u = p := Option.some.inj hp
    rfl

/-- Numbers are compared like the fractions that they stand for. -/
theorem value_le_iff (hx : x.isFinite = true) (hy : y.isFinite = true) :
    x.value ≤ y.value ↔ x ≤ y := by
  obtain ⟨p, hp⟩ := exists_position (isNaN_of_isFinite hx)
  obtain ⟨q, hq⟩ := exists_position (isNaN_of_isFinite hy)
  rw [value_eq hx hp, value_eq hy hq, div_le_div_iff_of_pos_right cast_one_pos, Int.cast_le,
    le_iff hp hq]

theorem value_ofNat {n : Nat} (h : Representable (n * one)) : (ofNat n).value = n := by
  rw [ofNat_eq h, value_eq rfl rfl]
  simp only [signed, Bool.false_eq_true, if_false, Nat.cast_mul, Int.cast_mul, Int.cast_natCast]
  exact mul_div_cancel_right₀ _ cast_one_pos.ne'

end Binary64

open Binary64

/-- A step as a pair of fractions. -/
def Step.exact (s : Step Binary64) : Step ℚ := ⟨s.minutes.value, s.temperature.value⟩

theorem exists_first_last {steps : Array (Step ℚ)} (h : 0 < steps.size) :
    ∃ first last, steps[0]? = some first ∧ steps[steps.size - 1]? = some last :=
  ⟨_, _, Array.getElem?_eq_getElem h, Array.getElem?_eq_getElem (Nat.sub_lt h Nat.one_pos)⟩

/-- The three places of an exact time: at the holds and between two neighbours. -/
theorem setpointAt?_cases {steps : Array (Step ℚ)} {first last : Step ℚ}
    (hfirst : steps[0]? = some first) (hlast : steps[steps.size - 1]? = some last) (t : ℚ) :
    t ≤ first.minutes ∧ setpointAt? steps t = some first.temperature ∨
    last.minutes ≤ t ∧ setpointAt? steps t = some last.temperature ∨
    ∃ i a b, steps[i]? = some a ∧ steps[i + 1]? = some b ∧ a.minutes ≤ t ∧ t < b.minutes ∧
      setpointAt? steps t = some (between a b t) := by
  by_cases hheld : t ≤ first.minutes
  · exact .inl ⟨hheld, setpointAt?_before hfirst hlast hheld⟩
  · by_cases hend : last.minutes ≤ t
    · exact .inr (.inl ⟨hend, setpointAt?_after hfirst hlast hheld hend⟩)
    · obtain ⟨i, a, b, ha, hb, hle, hlt, htarget⟩ :=
        setpointAt?_inside hfirst hlast (not_le.mp hheld).le hheld hend
      exact .inr (.inr ⟨i, a, b, ha, hb, hle, not_le.mp hlt, htarget⟩)

/-- Over exact numbers there is a target at every time. -/
theorem exists_setpointAt? {steps : Array (Step ℚ)} (hsteps : 0 < steps.size) (t : ℚ) :
    ∃ target, setpointAt? steps t = some target := by
  obtain ⟨first, last, hfirst, hlast⟩ := exists_first_last hsteps
  rcases setpointAt?_cases hfirst hlast t with ⟨-, h⟩ | ⟨-, h⟩ | ⟨i, a, b, -, -, -, -, h⟩
  · exact ⟨_, h⟩
  · exact ⟨_, h⟩
  · exact ⟨_, h⟩

namespace Schedule

variable {steps : List (Step Binary64)} {s : Schedule} {x : Step Binary64}

/-- The steps of a schedule as fractions. -/
def exact (s : Schedule) : Array (Step ℚ) := s.steps.map Step.exact

theorem size_exact (s : Schedule) : s.exact.size = s.steps.size := Array.size_map

theorem getElem?_exact {i : Nat} {y : Step ℚ} :
    s.exact[i]? = some y ↔ ∃ x, s.steps[i]? = some x ∧ x.exact = y := by
  rw [exact, Array.getElem?_map, Option.map_eq_some_iff]

theorem exact_of_getElem? {i : Nat} (hx : s.steps[i]? = some x) : s.exact[i]? = some x.exact :=
  getElem?_exact.mpr ⟨x, hx, rfl⟩

theorem exact_first (s : Schedule) : s.exact[0]? = some s.first.exact :=
  exact_of_getElem? s.getElem?_first

theorem exact_last (s : Schedule) : s.exact[s.exact.size - 1]? = some s.last.exact := by
  rw [size_exact]
  exact exact_of_getElem? s.getElem?_last

theorem value_minutes (h : make steps = .ok s) (hx : x ∈ s.steps.toList) :
    x.minutes.value = (x.minutes.magnitude : ℚ) / (one : ℚ) := by
  have htime := ((ascending_of_make h).1 x hx).1
  rw [value_eq htime.1 htime.position_eq, Int.cast_natCast]

/-- No schedule begins before time zero. -/
theorem first_nonneg (h : make steps = .ok s) : 0 ≤ s.first.minutes.value := by
  rw [value_minutes h s.first_mem]
  exact div_nonneg (Nat.cast_nonneg _) cast_one_pos.le

theorem first_le_last (h : make steps = .ok s) : s.first.minutes.value ≤ s.last.minutes.value := by
  rw [value_minutes h s.first_mem, value_minutes h s.last_mem,
    div_le_div_iff_of_pos_right cast_one_pos, Nat.cast_le]
  rcases eq_first_or_lt h s.last_mem with heq | hlt
  · rw [heq]
  · exact hlt.le

end Schedule

end ChillerGateway
