import ChillerGateway.Proofs.Schedule.Exact
import ChillerGateway.Schedule.Runner
import Mathlib.Order.Interval.Set.UnorderedInterval
import Mathlib.Tactic.Linarith

/-!
# Targets are safe

Over exact numbers the target at a time lies between the temperatures of the two steps around it, or
it is the temperature that is held before the first step or after the last one.  Each step is
checked when a schedule is made, so no target lies outside the range that a controller accepts, also
after it is rounded to a double-precision number, and no tick towards it is refused for its value.

* `between_mem_uIcc`, `TimesAscend.target_mem_uIcc` — the line through two steps, and the target at
  a time between them.
* `Setpoint.inRange_nearest` — a fraction in range is rounded to a number in range.
* `Schedule.targets_safe` — the target of a schedule at any time.
* `Schedule.rounded_target_refused` — a target of double precision that rounding carries out of
  range.
-/

namespace ChillerGateway

open Binary64

/-! ## Between two steps -/

section

variable {a b : Step ℚ} {t : ℚ}

/-- The line through two steps lies between their temperatures, where time lies between theirs. -/
theorem between_mem_uIcc (hab : a.minutes < b.minutes) (ha : a.minutes ≤ t) (hb : t ≤ b.minutes) :
    between a b t ∈ Set.uIcc a.temperature b.temperature := by
  have hwhole : 0 < b.minutes - a.minutes := sub_pos.mpr hab
  have hpos : 0 ≤ (t - a.minutes) / (b.minutes - a.minutes) :=
    div_nonneg (sub_nonneg.mpr ha) hwhole.le
  have hle : (t - a.minutes) / (b.minutes - a.minutes) ≤ 1 :=
    (div_le_one hwhole).mpr (sub_le_sub_right hb _)
  unfold between
  generalize (t - a.minutes) / (b.minutes - a.minutes) = part at hpos hle
  rcases le_total a.temperature b.temperature with h | h
  · have hrise : 0 ≤ b.temperature - a.temperature := sub_nonneg.mpr h
    have hup := mul_nonneg hpos hrise
    have htop := mul_le_of_le_one_left hrise hle
    rw [Set.uIcc_of_le h]
    exact ⟨by linarith, by linarith⟩
  · have hfall : b.temperature - a.temperature ≤ 0 := sub_nonpos.mpr h
    have hdown := mul_nonpos_of_nonneg_of_nonpos hpos hfall
    have hbottom := le_mul_of_le_one_left hfall hle
    rw [Set.uIcc_of_ge h]
    exact ⟨by linarith, by linarith⟩

theorem between_start (a b : Step ℚ) : between a b a.minutes = a.temperature := by
  simp [between]

end

/-! ## The target at a time -/

section

variable {steps : Array (Step ℚ)} {a b : Step ℚ} {t target : ℚ} {i j : Nat}

/-- Steps each of which is later than all before it. -/
def TimesAscend (steps : Array (Step ℚ)) : Prop :=
  ∀ (i j : Nat) (a b : Step ℚ), i < j → steps[i]? = some a → steps[j]? = some b →
    a.minutes < b.minutes

theorem TimesAscend.lt_of_minutes (h : TimesAscend steps) (ha : steps[i]? = some a)
    (hb : steps[j]? = some b) (hlt : a.minutes < b.minutes) : i < j := by
  rcases Nat.lt_trichotomy i j with hij | rfl | hji
  · exact hij
  · cases ha.symm.trans hb
    exact absurd hlt (lt_irrefl _)
  · exact absurd hlt (h j i b a hji hb ha).not_gt

theorem TimesAscend.le_of_minutes (h : TimesAscend steps) (ha : steps[i]? = some a)
    (hb : steps[j]? = some b) (hle : a.minutes ≤ b.minutes) : i ≤ j := by
  by_contra hji
  exact absurd hle (h j i b a (Nat.lt_of_not_le hji) hb ha).not_ge

/-- **The target lies between the temperatures of the steps around its time.**  The time of a step
has neighbours on both sides around it, and then the target is the temperature of that step. -/
theorem TimesAscend.target_mem_uIcc (h : TimesAscend steps) (ha : steps[i]? = some a)
    (hb : steps[i + 1]? = some b) (hle : a.minutes ≤ t) (hge : t ≤ b.minutes)
    (htarget : setpointAt? steps t = some target) :
    target ∈ Set.uIcc a.temperature b.temperature := by
  obtain ⟨hi, -⟩ := Array.getElem?_eq_some_iff.mp hb
  obtain ⟨first, last, hfirst, hlast⟩ := exists_first_last (Nat.zero_lt_of_lt hi)
  rcases setpointAt?_cases hfirst hlast t with
    ⟨hheld, heq⟩ | ⟨hend, heq⟩ | ⟨j, c, d, hc, hd, hcle, hlt, heq⟩
  · cases htarget.symm.trans heq
    obtain rfl : i = 0 := Nat.le_zero.mp (h.le_of_minutes ha hfirst (hle.trans hheld))
    cases ha.symm.trans hfirst
    exact Set.left_mem_uIcc
  · cases htarget.symm.trans heq
    have hi' := h.le_of_minutes hlast hb (hend.trans hge)
    rw [show steps.size - 1 = i + 1 by omega] at hlast
    cases hb.symm.trans hlast
    exact Set.right_mem_uIcc
  · cases htarget.symm.trans heq
    have hij := h.lt_of_minutes ha hd (hle.trans_lt hlt)
    have hji := h.le_of_minutes hc hb (hcle.trans hge)
    -- At the time of a step the search takes that step and the next; the given two may end there.
    obtain rfl | rfl : j = i ∨ j = i + 1 := by omega
    · cases ha.symm.trans hc
      cases hb.symm.trans hd
      exact between_mem_uIcc (hle.trans_lt hlt) hle hge
    · cases hb.symm.trans hc
      obtain rfl : t = b.minutes := hge.antisymm hcle
      rw [between_start]
      exact Set.right_mem_uIcc

/-- No target leaves a range that has all temperatures in it. -/
theorem target_mem_Icc {low high : ℚ} (hsteps : 0 < steps.size)
    (hrange : ∀ (i : Nat) (x : Step ℚ), steps[i]? = some x → x.temperature ∈ Set.Icc low high)
    (htarget : setpointAt? steps t = some target) : target ∈ Set.Icc low high := by
  obtain ⟨first, last, hfirst, hlast⟩ := exists_first_last hsteps
  rcases setpointAt?_cases hfirst hlast t with
    ⟨-, heq⟩ | ⟨-, heq⟩ | ⟨j, c, d, hc, hd, hle, hlt, heq⟩
  · cases htarget.symm.trans heq
    exact hrange _ _ hfirst
  · cases htarget.symm.trans heq
    exact hrange _ _ hlast
  · cases htarget.symm.trans heq
    exact Set.uIcc_subset_Icc (hrange _ _ hc) (hrange _ _ hd)
      (between_mem_uIcc (hle.trans_lt hlt) hle hlt.le)

end

/-! ## Rounding -/

namespace Binary64

/-- The number nearest to a fraction. -/
def nearest (q : ℚ) : Binary64 := ofRatio (decide (q < 0)) q.num.natAbs q.den

theorem natAbs_num_le {q : ℚ} {n : Nat} (h : |q| ≤ n) : q.num.natAbs ≤ n * q.den := by
  have hden : (0 : ℚ) < q.den := Nat.cast_pos.mpr q.den_pos
  have hnum : (q.num.natAbs : ℚ) = |q| * q.den := by
    rw [Nat.cast_natAbs, Int.cast_abs, ← Rat.mul_den_eq_num, abs_mul, abs_of_pos hden]
  have hle : (q.num.natAbs : ℚ) ≤ (n * q.den : Nat) := by
    rw [hnum, Nat.cast_mul]
    exact mul_le_mul_of_nonneg_right h hden.le
  exact Nat.cast_le.mp hle

end Binary64

namespace Setpoint

theorem value_lowest : lowest.value = -50 := by
  rw [value_eq (by decide +kernel) fixed_counts.2.1.1]
  push_cast
  rw [neg_div, mul_div_cancel_right₀ _ cast_one_pos.ne']

theorem value_highest : highest.value = 200 := by
  rw [value_eq (by decide +kernel) fixed_counts.2.1.2.1]
  push_cast
  exact mul_div_cancel_right₀ _ cast_one_pos.ne'

/-- **A fraction in range is rounded to a number in range**: the ends of the range are numbers. -/
theorem inRange_nearest {q : ℚ} (h : q ∈ Set.Icc lowest.value highest.value) :
    InRange (nearest q) := by
  obtain ⟨hlow, hhigh⟩ := h
  rw [value_lowest] at hlow
  rw [value_highest] at hhigh
  have habs : |q| ≤ (limit (decide (q < 0)) : ℚ) := by
    by_cases hneg : q < 0
    · rw [decide_eq_true hneg, abs_of_neg hneg]
      simp only [limit, if_true]
      push_cast
      linarith
    · rw [decide_eq_false hneg, abs_of_nonneg (not_lt.mp hneg)]
      simpa [limit] using hhigh
  have hcount : q.num.natAbs * one ≤ limit (decide (q < 0)) * one * q.den := by
    rw [Nat.mul_right_comm]
    exact Nat.mul_le_mul_right one (natAbs_num_le habs)
  rw [nearest, ofRatio_eq_finite _ q.den_pos (representable_limit _) hcount, inRange_finite_iff]
  exact nearestUnits_le q.den_pos (representable_limit _).dvd hcount

/-- A sink that takes nothing out of range. -/
def checked {m : Type → Type} [Monad m] (apply : Binary64 → m (Except Error Unit))
    (x : Binary64) : m (Except Error Unit) :=
  match validate x with
  | .ok () => apply x
  | .error e => return .error e

theorem checked_of_inRange {m : Type → Type} [Monad m] (apply : Binary64 → m (Except Error Unit))
    {x : Binary64} (h : InRange x) : checked apply x = apply x := by
  rw [checked, validate_accepted h]

end Setpoint

/-- Whether the sink takes a target only in range makes no difference to a tick towards one that is
in range. -/
theorem Runner.tickTo_checked {m : Type → Type} [Monad m] {target : Binary64}
    (h : Setpoint.InRange target) (apply : Binary64 → m (Except Error Unit)) (now : Nat)
    (r : Runner) : r.tickTo target (Setpoint.checked apply) now = r.tickTo target apply now := by
  unfold tickTo
  rw [Setpoint.checked_of_inRange apply h]

/-! ## The targets of a schedule -/

namespace Schedule

variable {steps : List (Step Binary64)} {s : Schedule} {t : ℚ} {i : Nat}

theorem mem_of_getElem? {x : Step Binary64} (hx : s.steps[i]? = some x) : x ∈ s.steps.toList :=
  Array.mem_toList_iff.mpr (Array.mem_of_getElem? hx)

/-- The exact times of a schedule ascend. -/
theorem timesAscend_exact (h : make steps = .ok s) : TimesAscend s.exact := by
  intro i j a b hij ha hb
  obtain ⟨x, hx, rfl⟩ := getElem?_exact.mp ha
  obtain ⟨y, hy, rfl⟩ := getElem?_exact.mp hb
  have hlt : x.minutes.magnitude < y.minutes.magnitude := by
    rw [← Array.getElem?_toList] at hx hy
    obtain ⟨hi, rfl⟩ := List.getElem?_eq_some_iff.mp hx
    obtain ⟨hj, rfl⟩ := List.getElem?_eq_some_iff.mp hy
    exact List.pairwise_iff_getElem.mp (ascending_of_make h).2 i j hi hj hij
  show x.minutes.value < y.minutes.value
  rw [value_minutes h (mem_of_getElem? hx), value_minutes h (mem_of_getElem? hy),
    div_lt_div_iff_of_pos_right cast_one_pos]
  exact Nat.cast_lt.mpr hlt

/-- The exact temperatures of a schedule are in range. -/
theorem temperature_mem_Icc (h : make steps = .ok s) {x : Step ℚ} (hx : s.exact[i]? = some x) :
    x.temperature ∈ Set.Icc Setpoint.lowest.value Setpoint.highest.value := by
  obtain ⟨y, hy, rfl⟩ := getElem?_exact.mp hx
  have hrange := ((ascending_of_make h).1 y (mem_of_getElem? hy)).2
  exact ⟨(value_le_iff (by decide +kernel) hrange.isFinite).mpr hrange.1,
    (value_le_iff hrange.isFinite (by decide +kernel)).mpr hrange.2⟩

/-- Two steps after each other, with a time at one of them or between them. -/
def Brackets (s : Schedule) (t : ℚ) (a b : Step Binary64) : Prop :=
  ∃ i : Nat, s.steps[i]? = some a ∧ s.steps[i + 1]? = some b ∧
    a.minutes.value ≤ t ∧ t ≤ b.minutes.value

/-- Every time between the first and the last step has a bracket. -/
theorem exists_brackets (hfirst : s.first.minutes.value < t) (hlast : t < s.last.minutes.value) :
    ∃ a b, s.Brackets t a b := by
  rcases setpointAt?_cases s.exact_first s.exact_last t with
    ⟨hheld, -⟩ | ⟨hend, -⟩ | ⟨i, a, b, ha, hb, hle, hlt, -⟩
  · exact absurd hheld hfirst.not_ge
  · exact absurd hend hlast.not_ge
  · obtain ⟨x, hx, rfl⟩ := getElem?_exact.mp ha
    obtain ⟨y, hy, rfl⟩ := getElem?_exact.mp hb
    exact ⟨x, y, i, hx, hy, hle, hlt.le⟩

/-- From the time of the last step on its temperature is the target, also if it is the only step. -/
theorem exact_target_last (h : make steps = .ok s) (ht : s.last.minutes.value ≤ t) :
    ChillerGateway.setpointAt? s.exact t = some s.last.temperature.value := by
  by_cases hheld : t ≤ s.first.minutes.value
  · have hsize : s.steps.size - 1 = 0 := by
      have := (timesAscend_exact h).le_of_minutes s.exact_last s.exact_first (ht.trans hheld)
      rw [size_exact] at this
      omega
    have hsame : s.last = s.first := by
      have := s.getElem?_last
      rw [hsize, s.getElem?_first] at this
      exact (Option.some.inj this).symm
    rw [hsame]
    exact setpointAt?_before s.exact_first s.exact_last hheld
  · exact setpointAt?_after s.exact_first s.exact_last hheld ht

/-- **A schedule never asks for an unsafe temperature.**  Over exact numbers it has a target at
every time.  Outside the steps that is the temperature that is held.  Every time inside has two
steps around it, and the target lies between the temperatures of any such two.  So it is in range,
as a fraction and as the nearest number, which passes the check of setpoints; and a tick towards it
goes the same way whether the sink makes this check or not. -/
theorem targets_safe (h : make steps = .ok s) (t : ℚ) :
    ∃ target, ChillerGateway.setpointAt? s.exact t = some target ∧
      (t ≤ s.first.minutes.value → target = s.first.temperature.value) ∧
      (s.last.minutes.value ≤ t → target = s.last.temperature.value) ∧
      (s.first.minutes.value < t → t < s.last.minutes.value → ∃ a b, s.Brackets t a b) ∧
      (∀ a b, s.Brackets t a b → target ∈ Set.uIcc a.temperature.value b.temperature.value) ∧
      target ∈ Set.Icc Setpoint.lowest.value Setpoint.highest.value ∧
      Setpoint.validate (nearest target) = .ok () ∧
      ∀ (m : Type → Type) [Monad m] (apply : Binary64 → m (Except Error Unit)) (now : Nat)
        (r : Runner), r.tickTo (nearest target) (Setpoint.checked apply) now =
          r.tickTo (nearest target) apply now := by
  have hsize : 0 < s.exact.size := by
    rw [size_exact]
    exact s.steps_pos
  obtain ⟨target, htarget⟩ := exists_setpointAt? hsize t
  have hrange := target_mem_Icc hsize (fun i x hx => temperature_mem_Icc h hx) htarget
  have hnearest := Setpoint.inRange_nearest hrange
  refine ⟨target, htarget, fun ht => ?_, fun ht => ?_, exists_brackets, fun a b hab => ?_, hrange,
    Setpoint.validate_accepted hnearest,
    fun m _ apply now r => Runner.tickTo_checked hnearest apply now r⟩
  · exact Option.some.inj (htarget.symm.trans (setpointAt?_before s.exact_first s.exact_last ht))
  · exact Option.some.inj (htarget.symm.trans (exact_target_last h ht))
  · obtain ⟨i, ha, hb, hle, hge⟩ := hab
    have hbetween := (timesAscend_exact h).target_mem_uIcc (exact_of_getElem? ha)
      (exact_of_getElem? hb) hle hge htarget
    exact hbetween

/-- A ramp over the whole range. -/
theorem targets_safe_ramp : ∃ s, make [⟨0, 200⟩, ⟨60, -50⟩] = .ok s ∧
    ∃ target, ChillerGateway.setpointAt? s.exact 45 = some target ∧
      target ∈ Set.Icc Setpoint.lowest.value Setpoint.highest.value ∧
      Setpoint.validate (nearest target) = .ok () := by
  obtain ⟨s, hs, -⟩ : ∃ s, make [⟨0, 200⟩, ⟨60, -50⟩] = .ok s ∧
      s.steps.toList = [⟨0, 200⟩, ⟨60, -50⟩] :=
    make_of_ascending (by decide) (by decide +kernel) (by decide +kernel)
  obtain ⟨target, htarget, -, -, -, -, hrange, hvalid, -⟩ := targets_safe hs 45
  exact ⟨s, hs, target, htarget, hrange, hvalid⟩

/-- In double precision rounding can carry a target out of range.  The second of these steps comes
just after ten minutes, and at ten minutes the target lies two places below the lowest setpoint. -/
theorem rounded_target_refused :
    ∃ s, make [⟨8.881784197001252e-16, 78.00000000000004⟩, ⟨10.000000000000002, -50⟩] = .ok s ∧
      ∃ target, s.setpointAt? 10 = some target ∧
        Setpoint.validate target = .error (Setpoint.outOfRange target) := by
  obtain ⟨⟨⟨_⟩, hpos⟩, hs, rfl⟩ :
      ∃ s, make [⟨8.881784197001252e-16, 78.00000000000004⟩, ⟨10.000000000000002, -50⟩] = .ok s ∧
        s.steps.toList = [⟨8.881784197001252e-16, 78.00000000000004⟩, ⟨10.000000000000002, -50⟩] :=
    make_of_ascending (by decide) (by decide +kernel) (by decide +kernel)
  obtain ⟨target, htarget, hout⟩ : ∃ target ∈ ChillerGateway.setpointAt?
      #[⟨8.881784197001252e-16, 78.00000000000004⟩, ⟨10.000000000000002, -50⟩] (10 : Binary64),
      ¬ Setpoint.InRange target := by decide +kernel
  exact ⟨_, hs, target, htarget, Setpoint.validate_refused hout⟩

end Schedule

end ChillerGateway
