import ChillerGateway.Proofs.Gateway.Flags

/-!
# Watched devices

A watchdog that alone turns the flag of its device keeps the two in step: wherever it may have to
wait, the device is online exactly while the watchdog is healthy, and the device is closed while the
watchdog sleeps in any other state.  Clients, schedules and the other watchdogs go on meanwhile.

* `World.Watched` — what a watchdog keeps to.
* `World.Stands` — where it stands in a run.
* `World.watched_startWatchdog` — from its start on, it keeps to it.
-/

namespace ChillerGateway

open Work (Stretch)

namespace Watchdog

variable {w : Watchdog} {now : List Answered} {p q : Work RoundEnd}

/-- The state that a watchdog has announced last. -/
def stateAfter (w : Watchdog) (asked : List Answered) : WatchdogState :=
  announced w.index w.state asked

/-! ## Ends -/

/-- A watchdog that ends has come to the end of a stage. -/
theorem Within.ended {reply : Option Reply} (h : w.Within now (Program.done (.ended reply))) :
    Stretch w.stage now (Program.done none) := by
  generalize hp : (Program.done (.ended reply) : Work RoundEnd) = p at h
  cases h with
  | beginning => cases hp
  | @acting _ q hq =>
    cases q with
    | ask => cases hp
    | done next =>
      cases next with
      | none => exact hq
      | some s => cases hp

/-- Where a watchdog is that has given up: at its end, or about to come to it. -/
def Resting (w : Watchdog) (p : Work RoundEnd) : Prop :=
  p = Program.done (.again (.watchdog w)) ∨ p = Program.done (.ended none)

theorem stage_of_givenUp (hw : w.state = .givenUp) : w.stage = Program.done none := by
  unfold stage
  rw [hw]
  rfl

theorem Within.resting (h : w.Within now p) (hw : w.state = .givenUp) :
    now = [] ∧ w.Resting p := by
  cases h with
  | beginning => exact ⟨rfl, .inl rfl⟩
  | acting hq =>
    rw [stage_of_givenUp hw] at hq
    obtain ⟨rfl, rfl⟩ := hq.of_done
    exact ⟨rfl, .inr rfl⟩

/-- **A watchdog that has given up asks nothing more.** -/
theorem Resting.course {intake : Intake} {es : List Answered} (h : w.Resting p)
    (hw : w.state = .givenUp) (hc : Course intake p es q) : es = [] ∧ w.Resting q := by
  have hround : (Worker.watchdog w).round intake = Program.done (.ended none) := by
    show w.round.bind ends = _
    unfold round
    rw [hw]
    rfl
  induction hc with
  | start => exact ⟨rfl, h⟩
  | answered _ _ _ ih =>
    rcases ih.2 with heq | heq
    · cases heq
    · cases heq
  | again _ ih =>
    obtain ⟨rfl, heq | heq⟩ := ih
    · cases heq
      exact ⟨rfl, .inr hround⟩
    · cases heq

/-- A watchdog that is asleep and not healthy has its device down. -/
theorem isDown_of_asleep {op : Action} {next : op.Answer → Work (Option WatchdogState)}
    (h : Stretch w.stage now (Program.ask op next)) (hop : op.sleeps = true)
    (hw : w.state ≠ .healthy) : w.state.isDown = true := by
  obtain ⟨time, rfl⟩ := asked_of_asleep h hop
  obtain ⟨index, device, policy, state⟩ := w
  cases state with
  | healthy => exact absurd rfl hw
  | unhealthy =>
    rcases Stretch.question_other h rfl with ⟨hnil, -⟩ | ⟨_, rest, heq, -⟩
    · cases hnil
    · cases heq
  | reconnecting | givenUp => rfl

end Watchdog

namespace World

variable {u v w w' : World} {before after fs : List Event} {device : Handle}
  {policy : WatchdogPolicy}

/-! ## What a watchdog keeps to -/

/-- What a watchdog keeps to, with what it was answered from its beginning on. -/
structure Watched (first : Watchdog) (task : Nat) (w : World) (asked : List Answered) : Prop where
  /-- Wherever it may have to wait, its device is online exactly while it is healthy. -/
  waits : ∀ t ∈ w.tasks, t.id = task → ∀ op next, t.program = Program.ask op next →
    op.suspends = true →
    w.isOnline first.device.ref = decide (first.stateAfter asked = .healthy)
  /-- While it sleeps in any other state, its device is closed. -/
  sleeps : ∀ t ∈ w.tasks, t.id = task → ∀ op next, t.program = Program.ask op next →
    op.sleeps = true → first.stateAfter asked ≠ .healthy →
    w.isConnected first.device.ref = false
  /-- When it has given up, its device is offline and closed, and it asks nothing more. -/
  givenUp : first.stateAfter asked = .givenUp →
    w.isOnline first.device.ref = false ∧ w.isConnected first.device.ref = false ∧
    ∀ fs w', Run w fs w' → own task fs = [] ∧
      ∀ t ∈ w'.tasks, t.id = task → ∀ op next, t.program ≠ Program.ask op next
  /-- It becomes healthy again only when the device was opened and has identified itself, both
  under one hold of its lock. -/
  recovers : ∀ before after, asked = before ++ ⟨.announce first.index .healthy, ()⟩ :: after →
    first.stateAfter before ≠ .healthy →
    ∃ earlier connecting identifying identity,
      before = earlier ++ (tenure first.device.ref (connecting ++ identifying) ++
        [⟨.setOnline first.device.ref true, ()⟩, ⟨.isOnline first.device.ref, true⟩]) ∧
      Stretch (Work.drive first.device.ref (first.device.backend.perform .connect)) connecting
        (Program.done (.ok ())) ∧
      Stretch (Work.drive first.device.ref (first.device.backend.perform .identify)) identifying
        (Program.done (.ok identity))
  /-- It has given up when so many attempts have failed in a row as its policy lets fail, though at
  least one. -/
  counts : ∃ past now events last, asked = past ++ now ∧ (∀ x ∈ now, x.op.announces = false) ∧
    first.Lived past events last ∧ last.state = first.stateAfter asked ∧
    (last.state = .givenUp ↔ streak events = max 1 first.policy.maxRetries)
  /-- It ends when it has given up, was cancelled, or would sleep for longer than the clock goes. -/
  ends : (∀ t ∈ w.tasks, t.id ≠ task) → first.stateAfter asked = .givenUp ∨
    (∃ time, ⟨.pauseUntil time (some (.watchdog first.index)), false⟩ ∈ asked) ∨
    ∃ attempt backoff, first.stateAfter asked = .reconnecting attempt backoff ∧
      attempt < first.policy.maxRetries ∧
      ¬ WatchdogState.Expressible (backoff * first.policy.backoffFactor)

/-! ## Where a watchdog stands -/

/-- A worker is there or gone. -/
theorem here_or_gone (w : World) (task : Nat) :
    (∃ t ∈ w.tasks, t.id = task) ∨ ∀ t ∈ w.tasks, t.id ≠ task := by
  by_cases h : ∃ t ∈ w.tasks, t.id = task
  · exact .inl h
  · exact .inr fun t ht hid => h ⟨t, ht, hid⟩

/-- Where a watchdog stands in a run: in which state it is, and what it was answered before and
since it came to it. -/
structure Stands (first : Watchdog) (task : Nat) (w : World) (past now : List Answered)
    (events : List WatchdogEvent) (last : Watchdog) (slot : DeviceSlot) : Prop where
  healthy : first.state = .healthy
  lived : first.Lived past events last
  flag : flag first.device.ref true past = !last.state.isDown
  closed : last.state.isDown = true →
    closed first.device.ref first.device.backend false past = true
  device : w.devices[first.device.ref]? = some slot
  minded : Minded first.device.ref first.device.backend (past ++ now) slot
  numbered : Numbered w
  within : ∀ t ∈ w.tasks, t.id = task → last.Within now t.program
  worker : operator < task ∧ task < w.nextTask
  ended : (∀ t ∈ w.tasks, t.id ≠ task) → Stretch last.stage now (Program.done none)

namespace Stands

variable {first last : Watchdog} {task : Nat} {past now : List Answered}
  {events : List WatchdogEvent} {slot : DeviceSlot} {op : Action}
  {next : op.Answer → Work RoundEnd} {t : Task}

theorem not_announces (h : Stands first task w past now events last slot) :
    ∀ x ∈ now, x.op.announces = false := by
  rcases w.here_or_gone task with ⟨t, ht, hid⟩ | hgone
  · exact (h.within t ht hid).not_announces
  · exact Watchdog.not_announces_of_stage (h.ended hgone)

/-- It is in the state that it announced last. -/
theorem stateAfter_eq (h : Stands first task w past now events last slot) :
    first.stateAfter (past ++ now) = last.state := by
  unfold Watchdog.stateAfter
  rw [announced_append, h.lived.announced_eq, announced_of_not_announces h.not_announces]

/-- Where it may have to wait it is within a stage. -/
theorem stage_of_suspended (h : Stands first task w past now events last slot) (ht : t ∈ w.tasks)
    (hid : t.id = task) (hp : t.program = Program.ask op next) (hop : op.suspends = true) :
    ∃ next', Stretch last.stage now (Program.ask (I := Action.interface) op next') := by
  have hwithin := h.within t ht hid
  rw [hp] at hwithin
  apply hwithin.asked.resolve_right
  intro hannounces
  cases op with
  | announce => cases hop
  | _ => cases hannounces

theorem isOnline_of_suspended (h : Stands first task w past now events last slot)
    (ht : t ∈ w.tasks) (hid : t.id = task) (hp : t.program = Program.ask op next)
    (hop : op.suspends = true) :
    w.isOnline first.device.ref = decide (last.state = .healthy) := by
  obtain ⟨next', hstage⟩ := h.stage_of_suspended ht hid hp hop
  have hflag := Watchdog.flag_of_suspended hstage hop
  rw [h.lived.device_eq] at hflag
  rw [isOnline_eq h.device, h.minded.online, flag_append, h.flag, hflag]

/-- A device that is down is closed, as long as its watchdog has not turned to it. -/
theorem isConnected_of_down (h : Stands first task w past now events last slot)
    (hdown : last.state.isDown = true) (hnow : ∀ x ∈ now, x.op.exchanges = false) :
    w.isConnected first.device.ref = false := by
  rw [isConnected_eq h.device]
  apply h.minded.closed
  rw [closed_append, h.closed hdown]
  exact closed_of_not_exchanges hnow

theorem isConnected_of_asleep (h : Stands first task w past now events last slot)
    (ht : t ∈ w.tasks) (hid : t.id = task) (hp : t.program = Program.ask op next)
    (hop : op.sleeps = true) (hill : last.state ≠ .healthy) :
    w.isConnected first.device.ref = false := by
  obtain ⟨next', hstage⟩ := h.stage_of_suspended ht hid hp (Action.suspends_of_sleeps hop)
  apply h.isConnected_of_down (Watchdog.isDown_of_asleep hstage hop hill)
  obtain ⟨time, rfl⟩ := Watchdog.asked_of_asleep hstage hop
  exact List.forall_mem_singleton.mpr rfl

theorem now_of_givenUp (h : Stands first task w past now events last slot)
    (hgiven : last.state = .givenUp) : now = [] := by
  rcases w.here_or_gone task with ⟨t, ht, hid⟩ | hgone
  · exact ((h.within t ht hid).resting hgiven).1
  · have hend := h.ended hgone
    rw [Watchdog.stage_of_givenUp hgiven] at hend
    exact hend.of_done.1

/-- Whatever happens afterwards, a watchdog that has given up asks nothing. -/
theorem silent_of_givenUp (h : Stands first task w past now events last slot)
    (hgiven : last.state = .givenUp) (hr : Run w fs w') :
    own task fs = [] ∧ ∀ t ∈ w'.tasks, t.id = task → ∀ op next, t.program ≠ Program.ask op next := by
  rcases w.here_or_gone task with ⟨t, ht, rfl⟩ | hgone
  · have hresting := ((h.within t ht rfl).resting hgiven).2
    obtain ⟨p, hcourse, hprogram, -⟩ := hr.course h.numbered ht
    obtain ⟨hown, hrest⟩ := hresting.course hgiven hcourse
    refine ⟨hown, fun t' ht' hid op next heq => ?_⟩
    rw [hprogram t' ht' hid] at heq
    rcases hrest with hrest | hrest
    · cases heq.symm.trans hrest
    · cases heq.symm.trans hrest
  · obtain ⟨hown, hgone'⟩ := hr.absent h.numbered h.worker.1 h.worker.2 hgone
    exact ⟨hown, fun t ht hid => absurd hid (hgone' t ht)⟩

theorem recovered (h : Stands first task w past now events last slot)
    {before after : List Answered}
    (hasked : past ++ now = before ++ ⟨.announce first.index .healthy, ()⟩ :: after)
    (hill : first.stateAfter before ≠ .healthy) :
    ∃ earlier connecting identifying identity,
      before = earlier ++ (tenure first.device.ref (connecting ++ identifying) ++
        [⟨.setOnline first.device.ref true, ()⟩, ⟨.isOnline first.device.ref, true⟩]) ∧
      Stretch (Work.drive first.device.ref (first.device.backend.perform .connect)) connecting
        (Program.done (.ok ())) ∧
      Stretch (Work.drive first.device.ref (first.device.backend.perform .identify)) identifying
        (Program.done (.ok identity)) := by
  -- Since the watchdog came to its state it has announced nothing.
  have hnot : ∀ inner, now ≠ inner ++ ⟨.announce first.index .healthy, ()⟩ :: after := by
    rintro inner rfl
    have hlast := h.not_announces _ (List.mem_append_right inner List.mem_cons_self)
    cases hlast
  rcases List.append_eq_append_iff.mp hasked with ⟨inner, rfl, hnow⟩ | ⟨inner, hpast, hnow⟩
  · exact absurd hnow (hnot inner)
  · cases inner with
    | nil => exact absurd hnow.symm (hnot [])
    | cons x inner =>
      cases hnow
      exact h.lived.recovered hpast hill

theorem ended_of_gone (h : Stands first task w past now events last slot)
    (hgone : ∀ t ∈ w.tasks, t.id ≠ task) : last.state = .givenUp ∨
      (∃ time, ⟨.pauseUntil time (some (.watchdog first.index)), false⟩ ∈ past ++ now) ∨
      ∃ attempt backoff, last.state = .reconnecting attempt backoff ∧
        attempt < first.policy.maxRetries ∧
        ¬ WatchdogState.Expressible (backoff * first.policy.backoffFactor) := by
  rw [← h.lived.index_eq, ← h.lived.policy_eq]
  refine (Watchdog.stage_ended (h.ended hgone)).imp_right (Or.imp_left ?_)
  rintro ⟨time, htime⟩
  exact ⟨time, List.mem_append_right past htime⟩

theorem watched (h : Stands first task w past now events last slot) :
    Watched first task w (past ++ now) where
  waits := by
    intro t ht hid op next hp hop
    rw [h.stateAfter_eq]
    exact h.isOnline_of_suspended ht hid hp hop
  sleeps := by
    intro t ht hid op next hp hop hill
    rw [h.stateAfter_eq] at hill
    exact h.isConnected_of_asleep ht hid hp hop hill
  givenUp := by
    intro hgiven
    rw [h.stateAfter_eq] at hgiven
    have hdown : last.state.isDown = true := by rw [hgiven]; rfl
    obtain rfl := h.now_of_givenUp hgiven
    refine ⟨?_, h.isConnected_of_down hdown (by simp), fun fs w' hr => ?_⟩
    · rw [isOnline_eq h.device, h.minded.online, List.append_nil, h.flag, hdown]
      rfl
    · exact h.silent_of_givenUp hgiven hr
  recovers := fun before after hasked hill => h.recovered hasked hill
  counts := ⟨past, now, events, last, rfl, h.not_announces, h.lived, h.stateAfter_eq.symm,
    (h.lived.reached h.healthy).givenUp_iff⟩
  ends := by
    intro hgone
    rw [h.stateAfter_eq]
    exact h.ended_of_gone hgone

end Stands

/-! ## From its start on -/

/-- The watchdog that is started on a device. -/
def watchdogOf (u : World) (device : Handle) (policy : WatchdogPolicy) : Watchdog :=
  { index := u.watchdogs.size, device, policy }

/-- Nobody else opens the device of a watchdog that alone turns its flag. -/
theorem not_opensAt_of_minds (hv : Fresh v) (hbefore : Run v before u)
    (hnever : ∀ x ∈ before, x.asked.op.flagsAt device.ref = false)
    (h : RunBy (Minds u.nextTask device.ref) (u.startWatchdog device policy).2 after w) :
    ∀ x ∈ after, x.task ≠ u.nextTask → x.asked.op.opensAt device.ref = false := by
  have hrun : Run v (before ++ after) w :=
    (hbefore.controlled (.startWatchdog device policy)).trans h.run
  have hkept := h.forall_mem (Q := fun x => (x.asked.op.flagsAt device.ref = true →
      x.task = u.nextTask) ∧ (x.task = operator → x.asked.op.opensAt device.ref = false))
    fun _ _ _ hminds x hx => ⟨hminds.flag x hx, hminds.operator x hx⟩
  intro x hx hother
  by_cases hworker : x.task = operator
  · exact (hkept x hx).2 hworker
  by_contra hnot
  obtain ⟨op, hop, hopens⟩ : ∃ op, x.asked.op = .exchange device.ref op ∧ op.opens = true := by
    generalize x.asked.op = op at hnot
    cases op with
    | exchange r op =>
      simp only [Action.opensAt, Bool.not_eq_false, Bool.and_eq_true, decide_eq_true_eq] at hnot
      obtain ⟨rfl, hopens⟩ := hnot
      exact ⟨op, rfl, hopens⟩
    | _ => exact absurd rfl hnot
  -- It would have turned the flag before, which only the watchdog does.
  obtain ⟨y, hy, hmine, hyop⟩ :=
    hrun.offline_of_opens hv (List.mem_append_right _ hx) hworker hop hopens
  have hflags : y.asked.op.flagsAt device.ref = true := by
    rw [hyop]
    exact decide_eq_true rfl
  rcases List.mem_append.mp hy with hy | hy
  · cases hflags.symm.trans (hnever y hy)
  · exact hother (hmine.symm.trans ((hkept y hy).1 hflags))

/-- Where a watchdog stands from its start on. -/
theorem stands (hv : Fresh v) (hbefore : Run v before u)
    (hnever : ∀ x ∈ before, x.asked.op.flagsAt device.ref = false)
    (hdevice : u.handleAt device.ref = some device) (honline : u.isOnline device.ref = true)
    (h : RunBy (Minds u.nextTask device.ref) (u.startWatchdog device policy).2 after w) :
    ∃ past now events last slot, own u.nextTask after = past ++ now ∧
      Stands (u.watchdogOf device policy) u.nextTask w past now events last slot := by
  have hu := hbefore.numbered hv.numbered
  have hstarted := (hbefore.controlled (.startWatchdog device policy)).numbered hv.numbered
  have hothers := not_opensAt_of_minds hv hbefore hnever h
  obtain ⟨start, hstart, hhandle⟩ := Option.map_eq_some_iff.mp hdevice
  rw [isOnline_eq hstart] at honline
  obtain ⟨slot, hslot, hminded⟩ := h.minded hstart honline hothers
  have htask : ⟨u.nextTask, .watchdog u.watchdogs.size,
      Program.done (.again (.watchdog (u.watchdogOf device policy)))⟩ ∈
        (u.startWatchdog device policy).2.tasks :=
    List.mem_append_right u.tasks (List.mem_singleton_self _)
  obtain ⟨p, hcourse, hprogram, hend⟩ := h.run.course hstarted htask
  obtain ⟨past, now, last, hown, hrounds, hwithin⟩ := Watchdog.course_rounds hcourse
  have hown' : own u.nextTask after = past ++ now := hown
  rw [hown'] at hminded
  obtain ⟨⟨events, hlived⟩, hflag, hclosed⟩ :=
    hrounds.lived rfl (truthful_append.mp hminded.truthful).1
  have hbackend : start.device.backend = device.backend := congrArg Handle.backend hhandle
  rw [hbackend] at hminded
  refine ⟨past, now, events, last, slot, hown', rfl, hlived, hflag, hclosed, hslot, hminded,
    h.run.numbered hstarted, ?_, ⟨hu.next, ?_⟩, ?_⟩
  · intro t ht hid
    rw [hprogram t ht hid]
    exact hwithin
  · exact Nat.lt_of_lt_of_le (Nat.lt_succ_self _) h.run.next_le
  · intro hgone
    obtain ⟨reply, rfl⟩ := hend hgone
    exact hwithin.ended

/-- **A watchdog that alone turns the flag of its device keeps flag, device and state in step.** -/
theorem watched_startWatchdog (hv : Fresh v) (hbefore : Run v before u)
    (hnever : ∀ x ∈ before, x.asked.op.flagsAt device.ref = false)
    (hdevice : u.handleAt device.ref = some device) (honline : u.isOnline device.ref = true)
    (h : RunBy (Minds u.nextTask device.ref) (u.startWatchdog device policy).2 after w) :
    Watched (u.watchdogOf device policy) u.nextTask w (own u.nextTask after) := by
  obtain ⟨past, now, events, last, slot, hown, hstands⟩ :=
    stands hv hbefore hnever hdevice honline h
  rw [hown]
  exact hstands.watched

/-- A request to a bath that does not answer. -/
def deafPool : World :=
  ((start none {} none (.simulated { bath := {}, connected := true, offline := true })).startRequest
    "\x7b\"command\":\"status\"\x7d" "a").2

def deafBath : Handle := ⟨0, "default", .simulated⟩

/-- The bath with a watchdog that gives up after two attempts. -/
def watchedPool : World := (deafPool.startWatchdog deafBath { maxRetries := 2 }).2

/-- Two attempts to reach the bath fail, and the watchdog gives up. -/
theorem watched_startWatchdog_deaf : ∃ es w,
    Watched (deafPool.watchdogOf deafBath { maxRetries := 2 }) 2 w (own 2 es) ∧
      (deafPool.watchdogOf deafBath { maxRetries := 2 }).stateAfter (own 2 es) = .givenUp ∧
      w.isOnline 0 = false ∧ w.isConnected 0 = false := by
  have hfresh := fresh_start none {} none
    (.simulated { bath := {}, connected := true, offline := true }) fun _ => ""
  have hbefore : Run _ [] deafPool := Run.start.controlled (.startRequest _ _)
  have hminds : RunBy (Minds deafPool.nextTask deafBath.ref) watchedPool
      (played 80 watchedPool).1 (played 80 watchedPool).2 :=
    played_minds 80 (by decide +kernel)
  have hwatched := watched_startWatchdog hfresh hbefore (by simp) rfl rfl hminds
  have hgiven : (deafPool.watchdogOf deafBath { maxRetries := 2 }).stateAfter
      (own 2 (played 80 watchedPool).1) = .givenUp := by decide +kernel
  obtain ⟨honline, hconnected, -⟩ := hwatched.givenUp hgiven
  exact ⟨_, _, hwatched, hgiven, honline, hconnected⟩

end World

end ChillerGateway
