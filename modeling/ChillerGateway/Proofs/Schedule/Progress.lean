import ChillerGateway.Proofs.Schedule.Exact
import ChillerGateway.Schedule.Runner
import Mathlib.Tactic.Linarith

/-!
# The progress of a run

A run lasts from time zero to the time of the last step.  Its reported progress compares the time
since zero with the time from the first step to the last, so a schedule that does not begin at zero
is reported as complete before its run ends: with steps at 60 and 90 minutes after 30 minutes, before
the first step.

* `percent_lt_iff`, `percent_mono` — the reported part of some time by that time.
* `Schedule.progress_reaches` — when a run is reported as complete, and which schedules are so no
  sooner than their runs end.
* `Schedule.late_ramp_complete_early` — one that is.
-/

namespace ChillerGateway

open Binary64

section

variable {total t u : ℚ}

/-- The part of the time `total` that has gone by at `t`, in percent. -/
def percent (total t : ℚ) : ℚ := if 0 < total then min (t / total * 100) 100 else 100

theorem percent_le (total t : ℚ) : percent total t ≤ 100 := by
  unfold percent
  split
  · exact min_le_right _ _
  · exact le_refl _

/-- Less than all of some time has gone by before that time. -/
theorem percent_lt_iff (ht : 0 ≤ t) : percent total t < 100 ↔ t < total := by
  unfold percent
  split
  · rename_i htotal
    have hpart : t / total * 100 < 100 ↔ t / total < 1 := by
      constructor <;> intro h <;> linarith
    rw [min_lt_iff, or_iff_left (lt_irrefl _), hpart, div_lt_one htotal]
  · rename_i htotal
    refine iff_of_false (lt_irrefl _) ?_
    linarith

theorem percent_eq_iff (ht : 0 ≤ t) : percent total t = 100 ↔ total ≤ t := by
  rw [← not_lt, ← percent_lt_iff ht, not_lt]
  exact ⟨Eq.ge, (percent_le total t).antisymm⟩

theorem percent_mono (h : t ≤ u) : percent total t ≤ percent total u := by
  unfold percent
  split
  · rename_i htotal
    have hpart : t / total ≤ u / total := div_le_div_of_nonneg_right h htotal.le
    exact min_le_min_right _ (mul_le_mul_of_nonneg_right hpart (by norm_num))
  · exact le_refl _

end

namespace Schedule

variable {steps : List (Step Binary64)} {s : Schedule}

/-- The time from the first to the last step, exactly. -/
def exactDuration (s : Schedule) : ℚ := s.last.minutes.value - s.first.minutes.value

/-- The progress at a time, over exact numbers. -/
def exactProgress? (s : Schedule) (t : ℚ) : Option (Progress ℚ) :=
  ChillerGateway.progressAt? s.exact t

theorem exactProgress?_eq (s : Schedule) (t : ℚ) :
    ∃ target, s.exactProgress? t =
      some ⟨t, s.exactDuration, target, percent s.exactDuration t⟩ := by
  have hsize : 0 < s.exact.size := by
    rw [size_exact]
    exact s.steps_pos
  obtain ⟨target, htarget⟩ := exists_setpointAt? hsize t
  have hduration : duration? s.exact = some s.exactDuration := by
    unfold duration?
    rw [exact_first, exact_last]
    rfl
  refine ⟨target, ?_⟩
  unfold exactProgress? ChillerGateway.progressAt?
  rw [hduration, htarget]
  rfl

theorem exactDuration_le (h : make steps = .ok s) : s.exactDuration ≤ s.finish.value :=
  sub_le_self _ (first_nonneg h)

theorem isFinite_finish (h : make steps = .ok s) : s.finish.isFinite = true :=
  ((ascending_of_make h).1 _ s.last_mem).1.1

/-- **When a run is reported as complete**: once the time from the first to the last step has gone by
since its start, and so at the end of the run at the latest.  What is reported never decreases.  No
run is reported as complete before its end exactly if the schedule begins at zero; the run ends with
the first tick at the time of the last step or later. -/
theorem progress_reaches (h : make steps = .ok s) :
    (∀ t, 0 ≤ t → ∃ p, s.exactProgress? t = some p ∧
      (p.percent < 100 ↔ t < s.exactDuration) ∧ (p.percent = 100 ↔ s.exactDuration ≤ t) ∧
      (s.finish.value ≤ t → p.percent = 100)) ∧
    (∀ t u p q, t ≤ u → s.exactProgress? t = some p → s.exactProgress? u = some q →
      p.percent ≤ q.percent) ∧
    ((∀ t p, 0 ≤ t → t < s.finish.value → s.exactProgress? t = some p → p.percent < 100) ↔
      s.first.minutes.value = 0) ∧
    ∀ (r : Runner) (now : Nat), r.schedule = s → r.finished = false →
      (r.elapsed now).isFinite = true →
      ((r.reached now).finished = true ↔ s.finish.value ≤ (r.elapsed now).value) := by
  have hle := exactDuration_le h
  refine ⟨?_, ?_, ?_, ?_⟩
  · intro t ht
    obtain ⟨target, hp⟩ := s.exactProgress?_eq t
    exact ⟨_, hp, percent_lt_iff ht, percent_eq_iff ht,
      fun hend => (percent_eq_iff ht).mpr (hle.trans hend)⟩
  · intro t u p q htu hp hq
    obtain ⟨target, ht⟩ := s.exactProgress?_eq t
    obtain ⟨target', hu⟩ := s.exactProgress?_eq u
    cases ht.symm.trans hp
    cases hu.symm.trans hq
    exact percent_mono htu
  · constructor
    · intro hsound
      obtain ⟨target, hp⟩ := s.exactProgress?_eq s.exactDuration
      have hduration : 0 ≤ s.exactDuration := sub_nonneg.mpr (first_le_last h)
      by_contra hne
      have hbefore : s.exactDuration < s.finish.value :=
        sub_lt_self _ ((first_nonneg h).lt_of_ne' hne)
      have hlt := hsound _ _ hduration hbefore hp
      exact lt_irrefl _ ((percent_lt_iff hduration).mp hlt)
    · intro hzero t p ht hbefore hp
      obtain ⟨target, hp'⟩ := s.exactProgress?_eq t
      cases hp'.symm.trans hp
      refine (percent_lt_iff ht).mpr ?_
      rwa [exactDuration, hzero, sub_zero]
  · rintro r now rfl hrunning hfinite
    rw [value_le_iff (isFinite_finish h) hfinite, Runner.finished_reached, hrunning]
    exact or_iff_right Bool.false_ne_true

/-- A ramp from time zero is complete with its run and not before. -/
theorem progress_reaches_ramp : ∃ s, make [⟨0, 20⟩, ⟨10, 30⟩] = .ok s ∧
    ∀ t p, 0 ≤ t → t < s.finish.value → s.exactProgress? t = some p → p.percent < 100 := by
  obtain ⟨s, hs, hsteps⟩ : ∃ s, make [⟨0, 20⟩, ⟨10, 30⟩] = .ok s ∧
      s.steps.toList = [⟨0, 20⟩, ⟨10, 30⟩] :=
    make_of_ascending (by decide) (by decide +kernel) (by decide +kernel)
  have hfirst : s.first = ⟨0, 20⟩ := by
    have hhead := s.head?_steps
    rw [hsteps] at hhead
    exact (Option.some.inj hhead).symm
  refine ⟨s, hs, (progress_reaches hs).2.2.1.mpr ?_⟩
  rw [hfirst]
  exact value_ofNat (by decide +kernel)

/-- A ramp from 5 to 35 minutes is reported as complete after 30. -/
theorem late_ramp_complete_early : ∃ s, make [⟨5, 20⟩, ⟨35, 30⟩] = .ok s ∧
    30 < s.finish.value ∧ ∃ p, s.exactProgress? 30 = some p ∧ p.percent = 100 := by
  obtain ⟨s, hs, hsteps⟩ : ∃ s, make [⟨5, 20⟩, ⟨35, 30⟩] = .ok s ∧
      s.steps.toList = [⟨5, 20⟩, ⟨35, 30⟩] :=
    make_of_ascending (by decide) (by decide +kernel) (by decide +kernel)
  have hfirst : s.first.minutes.value = 5 := by
    have hhead := s.head?_steps
    rw [hsteps] at hhead
    rw [← Option.some.inj hhead]
    exact value_ofNat (by decide +kernel)
  have hlast : s.last.minutes.value = 35 := by
    have hend := s.getLast?_steps
    rw [hsteps] at hend
    rw [← Option.some.inj hend]
    exact value_ofNat (by decide +kernel)
  obtain ⟨target, hp⟩ := s.exactProgress?_eq 30
  refine ⟨s, hs, ?_, _, hp, ?_⟩
  · show 30 < s.last.minutes.value
    rw [hlast]
    norm_num
  · rw [percent_eq_iff (by norm_num), exactDuration, hfirst, hlast]
    norm_num

end Schedule

end ChillerGateway
