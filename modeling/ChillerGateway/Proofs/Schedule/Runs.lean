import ChillerGateway.Proofs.Schedule.Bracket
import ChillerGateway.Schedule.Runner
import Mathlib.Data.List.Chain

/-!
# Runs of a schedule

A runner is started, stopped and ticked at times that only grow, and its sink takes or refuses each
value that it is called with.  All that happens is kept as one entry an act.

* `Runner.ticked` — the four ways of a tick.
* `Runner.sane_perform` — what every act keeps of a runner.
* `Runner.run_kept` — what holds of every run: the sink is called with the target of the moment,
  between two starts it takes values that are apart, a refused value leaves the runner as it was,
  and a run that finished has come to the last temperature and calls the sink no more.
-/

namespace ChillerGateway

open Binary64

/-! ## Elapsed times -/

/-- The divisors of a time in milliseconds are numbers. -/
theorem Clock.divisors :
    Representable (60 * one) ∧ Representable (1000000000 * one) ∧ Setpoint.tolerance.isNaN = false := by
  decide +kernel

/-- A time that has gone by is a number. -/
theorem Clock.isNaN_minutes (milliseconds : Nat) : (Clock.minutes milliseconds).isNaN = false := by
  obtain ⟨hminute, hsecond, -⟩ := Clock.divisors
  have hdivisor : ∀ {n}, 0 < n → 0 < n * one := fun hn => Nat.mul_pos hn one_pos
  have hseconds : IsSpan (Clock.seconds milliseconds) := by
    show IsSpan (ofNat _ + ofNat _ / ofNat 1000000000)
    rw [ofNat_eq hsecond]
    exact (isSpan_ofNat _).add ((isSpan_ofNat _).div (hdivisor (by decide)))
  have hminutes : IsSpan (Clock.seconds milliseconds / ofNat 60) := by
    rw [ofNat_eq hminute]
    exact hseconds.div (hdivisor (by decide))
  exact hminutes.isNaN

namespace Runner

variable {steps : List (Step Binary64)} {s : Schedule} {r : Runner} {now : Nat}

theorem isNaN_elapsed (r : Runner) (now : Nat) : (r.elapsed now).isNaN = false := by
  unfold elapsed
  split
  · exact Clock.isNaN_minutes _
  · exact (isSpan_ofNat 0).isNaN

/-! ## Acts and their entries -/

/-- What is done with a runner.  A tick comes with what its sink answers if it is called. -/
inductive Act where
  | start
  | stop
  | wait (milliseconds : Nat)
  | tick (answer : Except Error Unit)

/-- A sink with one answer, which keeps the values that it is called with. -/
def sink (answer : Except Error Unit) (value : Binary64) :
    StateM (List Binary64) (Except Error Unit) := do
  modify (· ++ [value])
  return answer

/-- An act, when it happened and to which runner, and what came of it. -/
structure Entry where
  act : Act
  now : Nat
  before : Runner
  /-- The values that the sink was called with. -/
  calls : List Binary64
  /-- What a tick returned. -/
  result : Option (Except Error (Option Binary64))
  after : Runner

/-- One act. -/
def perform (r : Runner) (now : Nat) : Act → Entry
  | .start => ⟨.start, now, r, [], none, r.start now⟩
  | .stop => ⟨.stop, now, r, [], none, r.stop⟩
  | .wait ms => ⟨.wait ms, now, r, [], none, r⟩
  | .tick answer =>
    let ((result, after), calls) := (r.tick (sink answer) now).run []
    ⟨.tick answer, now, r, calls, some result, after⟩

/-- The time after an act. -/
def Act.later (now : Nat) : Act → Nat
  | .wait ms => now + ms
  | _ => now

/-- The entries of some acts, from a time on. -/
def history (r : Runner) (now : Nat) : List Act → List Entry
  | [] => []
  | act :: acts =>
    let entry := r.perform now act
    entry :: history entry.after (act.later now) acts

/-- The values that the sink took. -/
def Entry.taken (e : Entry) : List Binary64 :=
  match e.act with
  | .tick (.ok ()) => e.calls
  | _ => []

/-- A tick that finished the run. -/
def Entry.Finishes (e : Entry) : Prop :=
  (∃ answer, e.act = .tick answer) ∧ e.before.finished = false ∧ e.after.finished = true

/-- Values between which the target counts as moved. -/
def Apart (u v : Binary64) : Prop := Setpoint.tolerance < (v - u).abs

/-! ## One tick -/

/-- The ways of a tick. -/
inductive Ticked (r : Runner) (now : Nat) : Except Error Unit → Entry → Prop
  | idle (answer : Except Error Unit) (h : r.isRunning = false) :
    Ticked r now answer ⟨.tick answer, now, r, [], some (.ok none), r⟩
  | steady (answer : Except Error Unit) (h : r.isRunning = true)
      (hm : r.moved (r.target now) = false) :
    Ticked r now answer
      ⟨.tick answer, now, r, [], some (.ok (some (r.target now))), r.reached now⟩
  | refused (e : Error) (h : r.isRunning = true) (hm : r.moved (r.target now) = true) :
    Ticked r now (.error e) ⟨.tick (.error e), now, r, [r.target now], some (.error e), r⟩
  | applied (h : r.isRunning = true) (hm : r.moved (r.target now) = true) :
    Ticked r now (.ok ()) ⟨.tick (.ok ()), now, r, [r.target now],
      some (.ok (some (r.target now))), { r with lastApplied := some (r.target now) }.reached now⟩

/-- **A tick goes one of four ways.** -/
theorem ticked (r : Runner) (now : Nat) (answer : Except Error Unit) :
    Ticked r now answer (r.perform now (.tick answer)) := by
  unfold perform tick tickTo
  cases hrunning : r.isRunning with
  | false => exact .idle answer hrunning
  | true =>
    cases hmoved : r.moved (r.target now) with
    | false =>
      simp only [Bool.not_true, Bool.false_eq_true, if_false]
      exact .steady answer hrunning hmoved
    | true =>
      simp only [Bool.not_true, Bool.false_eq_true, if_false, if_true]
      cases answer with
      | error e => exact .refused e hrunning hmoved
      | ok => exact .applied hrunning hmoved

/-! ## What an act keeps -/

/-- A runner of a schedule whose sink took finite values only. -/
structure Sane (s : Schedule) (r : Runner) : Prop where
  schedule : r.schedule = s
  applied : ∀ v, r.lastApplied = some v → v.isFinite = true

theorem Sane.reached (hr : Sane s r) (now : Nat) : Sane s (r.reached now) :=
  ⟨(schedule_reached r now).trans hr.schedule, fun v hv =>
    hr.applied v ((lastApplied_reached r now).symm.trans hv)⟩

section

variable (h : Schedule.make steps = .ok s) (hr : Sane s r)
include h hr

/-- The target of a runner is that of its schedule, and a finite number. -/
theorem Sane.target (now : Nat) :
    s.setpointAt? (r.elapsed now) = some (r.target now) ∧ (r.target now).isFinite = true := by
  obtain ⟨target, htarget, hfinite⟩ := Schedule.exists_target h (isNaN_elapsed r now)
  have heq : r.target now = target := by
    unfold Runner.target
    rw [hr.schedule, htarget]
    rfl
  rw [heq]
  exact ⟨htarget, hfinite⟩

/-- A target that did not move lies within the tolerance of the last value. -/
theorem Sane.near (hm : r.moved (r.target now) = false) :
    ∃ v, r.lastApplied = some v ∧ Setpoint.Near (r.target now) v := by
  unfold moved at hm
  cases hlast : r.lastApplied with
  | none =>
    rw [hlast] at hm
    cases hm
  | some v =>
    rw [hlast] at hm
    refine ⟨v, rfl, le_of_not_lt ?_ Clock.divisors.2.2 (of_decide_eq_false hm)⟩
    exact isNaN_abs_sub (hr.target h now).2 (hr.applied v hlast)

/-- At the end of the run the target is the last temperature. -/
theorem Sane.target_finish (hend : s.finish ≤ r.elapsed now) :
    r.target now = s.last.temperature := by
  obtain ⟨p, hp⟩ := exists_position (isNaN_elapsed r now)
  have hlast := Schedule.setpointAt?_finished h hp hend
  exact Option.some.inj ((hr.target h now).1.symm.trans hlast)

/-- A runner whose sink took the target is sane. -/
theorem Sane.applied_target (now : Nat) :
    Sane s { r with lastApplied := some (r.target now) } := by
  refine ⟨hr.schedule, fun v hv => ?_⟩
  cases hv
  exact (hr.target h now).2

/-- **Every act keeps a runner sane.** -/
theorem sane_perform (act : Act) : Sane s (r.perform now act).after := by
  cases act with
  | start => exact ⟨hr.schedule, fun v hv => by cases hv⟩
  | stop => exact ⟨hr.schedule, hr.applied⟩
  | wait => exact hr
  | tick answer =>
    -- each way of a tick fixes its entry, so the entry has to be a variable before the cases
    have hticked := ticked r now answer
    generalize r.perform now (.tick answer) = e at hticked ⊢
    cases hticked with
    | idle => exact hr
    | steady => exact hr.reached now
    | refused => exact hr
    | applied => exact (hr.applied_target h now).reached now

end

/-- What holds of every act of a runner. -/
structure Entry.Sound (s : Schedule) (e : Entry) : Prop where
  /-- Only a tick of a running runner calls the sink, once and with the target of the moment. -/
  called : ∀ v ∈ e.calls, (∃ answer, e.act = .tick answer) ∧ e.before.isRunning = true ∧
    e.calls = [v] ∧ s.setpointAt? (e.before.elapsed e.now) = some v
  /-- A tick of a running runner returns a target, and finishes the run from the time of the last
  step on, unless its sink refuses the target. -/
  returned : ∀ answer, e.act = .tick answer → e.before.isRunning = true →
    (answer ≠ .ok () ∧ e.calls ≠ []) ∨ ((∃ target, e.result = some (.ok (some target))) ∧
      (e.after.finished = true ↔ s.finish ≤ e.before.elapsed e.now))
  /-- A tick that returns a target leaves the last value within the tolerance of it. -/
  near : ∀ target, e.result = some (.ok (some target)) →
    s.setpointAt? (e.before.elapsed e.now) = some target ∧
      ∃ v, e.after.lastApplied = some v ∧ Setpoint.Near target v
  /-- A tick whose sink refuses the value returns the refusal and leaves the runner as it was. -/
  refused : ∀ err, e.act = .tick (.error err) → e.calls ≠ [] →
    e.result = some (.error err) ∧ e.after = e.before
  /-- A tick that finishes the run leaves the last value within the tolerance of the last
  temperature. -/
  finished : e.Finishes → ∃ v, e.after.lastApplied = some v ∧ Setpoint.Near s.last.temperature v

/-- An act that is no tick and calls no sink is sound. -/
theorem Entry.sound_quiet {e : Entry} (hact : ∀ answer, e.act ≠ .tick answer)
    (hcalls : e.calls = []) (hresult : e.result = none) : e.Sound s := by
  refine ⟨fun v hv => ?_, fun answer he => ?_, fun target ht => ?_, fun err he => ?_, fun hf => ?_⟩
  · rw [hcalls] at hv
    exact absurd hv List.not_mem_nil
  · exact absurd he (hact _)
  · cases hresult.symm.trans ht
  · exact absurd he (hact _)
  · exact hf.1.elim fun answer ha => absurd ha (hact answer)

/-- A tick that leaves the runner as it was does not finish it. -/
theorem Entry.not_finishes {e : Entry} (h : e.after = e.before) : ¬ e.Finishes := by
  rintro ⟨-, hbefore, hafter⟩
  rw [h, hbefore] at hafter
  exact Bool.false_ne_true hafter

theorem finished_of_isRunning (h : r.isRunning = true) : r.finished = false := by
  unfold isRunning at h
  simpa using (Bool.and_eq_true_iff.mp h).2

/-- A run that is not over finishes at the time of the last step. -/
theorem Sane.finished_reached_iff (hr : Sane s r) (hbefore : r.finished = false) (now : Nat) :
    (r.reached now).finished = true ↔ s.finish ≤ r.elapsed now := by
  rw [finished_reached, hbefore, or_iff_right Bool.false_ne_true, hr.schedule]

/-- A run that is not over and finishes has come to the last temperature. -/
theorem Sane.near_last (h : Schedule.make steps = .ok s) (hr : Sane s r)
    (hbefore : r.finished = false) (hafter : (r.reached now).finished = true) {v : Binary64}
    (hnear : Setpoint.Near (r.target now) v) : Setpoint.Near s.last.temperature v := by
  have hend := (hr.finished_reached_iff hbefore now).mp hafter
  rwa [hr.target_finish h hend] at hnear

/-- **Every act is sound.** -/
theorem sound_perform (h : Schedule.make steps = .ok s) (hr : Sane s r) (act : Act) :
    (r.perform now act).Sound s := by
  cases act with
  | start => exact Entry.sound_quiet nofun rfl rfl
  | stop => exact Entry.sound_quiet nofun rfl rfl
  | wait => exact Entry.sound_quiet nofun rfl rfl
  | tick answer =>
    obtain ⟨htarget, hfinite⟩ := hr.target h now
    have hticked := ticked r now answer
    generalize r.perform now (.tick answer) = e at hticked ⊢
    cases hticked with
    | idle _ hidle =>
      exact ⟨nofun, fun answer _ hr => absurd (hidle.symm.trans hr) Bool.false_ne_true, nofun,
        fun err _ hc => absurd rfl hc, fun hf => absurd hf (Entry.not_finishes rfl)⟩
    | steady _ hrunning hm =>
      obtain ⟨v, hv, hnear⟩ := hr.near h hm
      have hlast := (lastApplied_reached r now).trans hv
      have hreached := hr.finished_reached_iff (finished_of_isRunning hrunning) now
      refine ⟨nofun, fun _ _ _ => .inr ⟨⟨_, rfl⟩, hreached⟩,
        fun target ht => ?_, fun err _ hc => absurd rfl hc, fun hf => ?_⟩
      · cases ht
        exact ⟨htarget, v, hlast, hnear⟩
      · exact ⟨v, hlast, hr.near_last h hf.2.1 hf.2.2 hnear⟩
    | refused err hrunning hm =>
      refine ⟨fun v hv => ?_, fun answer he _ => .inl ⟨?_, List.cons_ne_nil _ _⟩, nofun,
        fun err' he _ => ?_, fun hf => ?_⟩
      · rw [List.mem_singleton.mp hv]
        exact ⟨⟨_, rfl⟩, hrunning, rfl, htarget⟩
      · cases he
        exact nofun
      · cases he
        exact ⟨rfl, rfl⟩
      · exact absurd hf (Entry.not_finishes rfl)
    | applied hrunning hm =>
      have hlast := lastApplied_reached { r with lastApplied := some (r.target now) } now
      have hself := Setpoint.near_self hfinite
      have hsane := hr.applied_target h now
      have hreached := hsane.finished_reached_iff (finished_of_isRunning hrunning) now
      refine ⟨fun v hv => ?_, fun _ _ _ => .inr ⟨⟨_, rfl⟩, hreached⟩,
        fun target ht => ?_, nofun, fun hf => ?_⟩
      · rw [List.mem_singleton.mp hv]
        exact ⟨⟨_, rfl⟩, hrunning, rfl, htarget⟩
      · cases ht
        exact ⟨htarget, _, hlast, hself⟩
      · exact ⟨_, hlast, hsane.near_last h hf.2.1 hf.2.2 hself⟩

/-! ## A stretch without a start -/

/-- A sink that is not called takes nothing. -/
theorem Entry.taken_eq_nil {e : Entry} (h : e.calls = []) : e.taken = [] := by
  unfold taken
  split
  · exact h
  · rfl

/-- What an act other than a start does to the last value. -/
theorem taken_perform (r : Runner) (now : Nat) {act : Act} (hact : act ≠ .start) :
    ((r.perform now act).taken = [] ∧ (r.perform now act).after.lastApplied = r.lastApplied) ∨
      ∃ v, (r.perform now act).taken = [v] ∧ (r.perform now act).after.lastApplied = some v ∧
        ∀ u, r.lastApplied = some u → Apart u v := by
  cases act with
  | start => exact absurd rfl hact
  | stop => exact .inl ⟨rfl, rfl⟩
  | wait => exact .inl ⟨rfl, rfl⟩
  | tick answer =>
    have hticked := ticked r now answer
    generalize r.perform now (.tick answer) = e at hticked ⊢
    cases hticked with
    | idle => exact .inl ⟨Entry.taken_eq_nil rfl, rfl⟩
    | steady => exact .inl ⟨Entry.taken_eq_nil rfl, lastApplied_reached r now⟩
    | refused => exact .inl ⟨rfl, rfl⟩
    | applied hrunning hm =>
      refine .inr ⟨_, rfl, lastApplied_reached _ now, fun u hu => ?_⟩
      unfold moved at hm
      rw [hu] at hm
      show Setpoint.tolerance < (r.target now - u).abs
      exact of_decide_eq_true hm

/-- A run that is over stays over until the next start, and its sink is left alone. -/
theorem perform_finished (hfinished : r.finished = true) (now : Nat) {act : Act}
    (hact : act ≠ .start) :
    (r.perform now act).calls = [] ∧ (r.perform now act).after.finished = true ∧
      (r.perform now act).after.lastApplied = r.lastApplied := by
  cases act with
  | start => exact absurd rfl hact
  | stop => exact ⟨rfl, rfl, rfl⟩
  | wait => exact ⟨rfl, hfinished, rfl⟩
  | tick answer =>
    have hticked := ticked r now answer
    generalize r.perform now (.tick answer) = e at hticked ⊢
    cases hticked with
    | idle => exact ⟨rfl, hfinished, rfl⟩
    | steady _ hrunning | refused _ hrunning | applied hrunning =>
      exact absurd ((finished_of_isRunning hrunning).symm.trans hfinished) Bool.false_ne_true

/-! ## Histories -/

variable {acts : List Act} {before stretch rest : List Entry} {e : Entry}

theorem act_perform (r : Runner) (now : Nat) (act : Act) : (r.perform now act).act = act := by
  cases act <;> rfl

/-- The first entry of a history is that of its first act. -/
theorem history_eq_cons (h : history r now acts = e :: rest) :
    ∃ act acts', e = r.perform now act ∧ rest = history e.after (act.later now) acts' := by
  cases acts with
  | nil => cases h
  | cons act acts =>
    cases h
    exact ⟨act, acts, rfl, rfl⟩

/-- From every place on, a history is that of a sane runner. -/
theorem history_eq_append (h : Schedule.make steps = .ok s) (hr : Sane s r)
    (heq : history r now acts = before ++ rest) :
    ∃ r' now' acts', Sane s r' ∧ rest = history r' now' acts' := by
  induction before generalizing r now acts with
  | nil => exact ⟨r, now, acts, hr, heq.symm⟩
  | cons e before ih =>
    obtain ⟨act, acts', rfl, hrest⟩ := history_eq_cons heq
    exact ih (sane_perform h hr act) hrest.symm

/-- **Until the next start** the sink takes values each of which moved away from the one before,
the first of them from the last value of the runner. -/
theorem isChain_taken (heq : history r now acts = stretch ++ rest)
    (hstart : ∀ e ∈ stretch, e.act ≠ .start) :
    (r.lastApplied.toList ++ stretch.flatMap Entry.taken).IsChain Apart := by
  induction stretch generalizing r now acts with
  | nil =>
    rw [List.flatMap_nil, List.append_nil]
    cases r.lastApplied with
    | none => exact .nil
    | some v => exact .singleton v
  | cons e stretch ih =>
    obtain ⟨act, acts', rfl, hrest⟩ := history_eq_cons heq
    obtain ⟨hhead, htail⟩ := List.forall_mem_cons.mp hstart
    rw [act_perform] at hhead
    have hchain := ih hrest.symm htail
    rw [List.flatMap_cons]
    rcases taken_perform r now hhead with ⟨htaken, hlast⟩ | ⟨v, htaken, hlast, hapart⟩
    · rw [hlast] at hchain
      rwa [htaken, List.nil_append]
    · rw [hlast] at hchain
      rw [htaken]
      cases hprevious : r.lastApplied with
      | none => exact hchain
      | some u => exact hchain.cons_cons (hapart u hprevious)

/-- **Until the next start** a run that is over leaves the sink and the last value alone. -/
theorem silent_finished (heq : history r now acts = stretch ++ rest)
    (hstart : ∀ e ∈ stretch, e.act ≠ .start) (hfinished : r.finished = true) :
    ∀ e ∈ stretch, e.calls = [] ∧ e.after.lastApplied = r.lastApplied := by
  induction stretch generalizing r now acts with
  | nil => exact fun e he => absurd he List.not_mem_nil
  | cons e stretch ih =>
    obtain ⟨act, acts', rfl, hrest⟩ := history_eq_cons heq
    obtain ⟨hhead, htail⟩ := List.forall_mem_cons.mp hstart
    rw [act_perform] at hhead
    obtain ⟨hcalls, hover, hlast⟩ := perform_finished hfinished now hhead
    refine List.forall_mem_cons.mpr ⟨⟨hcalls, hlast⟩, fun e' he' => ?_⟩
    exact (ih hrest.symm htail hover e' he').imp_right fun hsame => hsame.trans hlast

/-- What holds of every run of a schedule. -/
structure Kept (s : Schedule) (entries : List Entry) : Prop where
  sound : ∀ e ∈ entries, e.Sound s
  /-- Between two starts each value that the sink took is apart from the one before. -/
  apart : ∀ before stretch rest, entries = before ++ (stretch ++ rest) →
    (∀ e ∈ stretch, e.act ≠ .start) → (stretch.flatMap Entry.taken).IsChain Apart
  /-- A run that finished calls its sink no more before the next start. -/
  silent : ∀ before e stretch rest, entries = before ++ e :: (stretch ++ rest) → e.Finishes →
    (∀ e' ∈ stretch, e'.act ≠ .start) →
      ∀ e' ∈ stretch, e'.calls = [] ∧ e'.after.lastApplied = e.after.lastApplied

/-- **Every run of a schedule**, whatever is done and whatever the sink answers: the sink is called
by the tick of a running runner only, with the target of the moment; between two starts it takes
values each of which is apart from the one before; a tick of a running runner returns a target
unless it is refused, and leaves the last value within the tolerance of it; one whose value is
refused leaves the runner as it was, and one that finishes the run leaves the last value within the
tolerance of the last temperature, where it stays until the next start. -/
theorem run_kept (h : Schedule.make steps = .ok s) (now : Nat) (acts : List Act) :
    Kept s (history { schedule := s } now acts) := by
  have hsane : Sane s { schedule := s } := ⟨rfl, nofun⟩
  refine ⟨fun e he => ?_, fun before stretch rest heq hstart => ?_,
    fun before e stretch rest heq hfinishes hstart => ?_⟩
  · obtain ⟨before, rest, heq⟩ := List.append_of_mem he
    obtain ⟨r, time, acts', hr, hrest⟩ := history_eq_append h hsane heq
    obtain ⟨act, -, rfl, -⟩ := history_eq_cons hrest.symm
    exact sound_perform h hr act
  · obtain ⟨r, time, acts', -, hrest⟩ := history_eq_append h hsane heq
    exact (isChain_taken hrest.symm hstart).right_of_append
  · obtain ⟨r, time, acts', -, hrest⟩ := history_eq_append h hsane heq
    obtain ⟨act, acts'', -, hafter⟩ := history_eq_cons hrest.symm
    exact silent_finished hafter.symm hstart hfinishes.2.2

/-- A ramp whose sink refuses a value once: it is called with it again, and not after the end. -/
theorem run_kept_ramp : ∃ s, Schedule.make [⟨0, 20⟩, ⟨10, 30⟩] = .ok s ∧
    ∃ entries, entries = history { schedule := s } 0 [.start, .tick (.ok ()), .wait 300000,
        .tick (.error .timeout), .tick (.ok ()), .wait 300000, .tick (.ok ()), .tick (.ok ())] ∧
      Kept s entries ∧ entries.map Entry.calls = [[], [20], [], [25], [25], [], [30], []] := by
  obtain ⟨⟨⟨_⟩, hpos⟩, hs, rfl⟩ : ∃ s, Schedule.make [⟨0, 20⟩, ⟨10, 30⟩] = .ok s ∧
      s.steps.toList = [⟨0, 20⟩, ⟨10, 30⟩] :=
    Schedule.make_of_ascending (by decide) (by decide +kernel) (by decide +kernel)
  refine ⟨_, hs, _, rfl, run_kept hs 0 _, ?_⟩
  clear hs
  revert hpos
  decide +kernel

end Runner

end ChillerGateway
