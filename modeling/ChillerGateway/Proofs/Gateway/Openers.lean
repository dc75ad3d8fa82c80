import ChillerGateway.Proofs.Gateway.AuditTrail
import ChillerGateway.Proofs.Gateway.ScheduleTable
import ChillerGateway.Proofs.Gateway.WatchdogRounds

/-!
# Who opens a device

No client, schedule or check ever opens a device.  A watchdog does, and only after it has taken the
device offline.

* `Action.opens` — the questions that can open a device.
* `Errand.along_closed` — no errand but a reconnect asks one.
* `Course.offline_of_opens` — a worker that asked one has turned the flag of that device before.
* `World.Run.offline_of_opens` — the same in a run.
-/

namespace ChillerGateway

open Work (Stretch)

/-- Whether a question can open a device. -/
def Action.opens : Action → Bool
  | .exchange _ op => op.opens
  | _ => false

theorem Work.along_steady {α : Type} {p : Attempt α} (h : p.IsSteady) (ref : Nat) :
    (Work.drive ref p).Along (Action.opens · = false) fun _ => True := by
  unfold Work.drive
  revert h
  show Program.AlongIf (I := Exchange.interface) _ _ _ p.run → _
  generalize p.run = q
  intro h
  induction q with
  | done r => trivial
  | ask op next ih =>
    exact ⟨Exchange.not_opens_of_isSteady (h op.somehow trivial).1, fun a => ih a (h a trivial).2⟩

namespace Errand

def isReconnect : Errand → Bool
  | reconnect _ => true
  | _ => false

theorem closed_run (device : Handle) (c : Command) (client : String) :
    (Gateway.run device c client).Along (Action.opens · = false) fun _ => True := by
  have hexecute := Work.along_steady (c.steady_execute device.backend) device.ref
  unfold Gateway.run
  split
  · refine Program.Along.bind (Work.along_steady (c.steady_priorValue _) _) fun _ _ => ?_
    refine Program.Along.bind hexecute fun result _ => ?_
    cases result with
    | error e => exact trivial
    | ok result => exact Work.along_question rfl fun _ => trivial
  · exact Program.Along.bind hexecute fun _ _ => trivial

theorem closed_program {e : Errand} (h : e.isReconnect = false) :
    e.program.Along (Action.opens · = false) fun _ => True := by
  have hsteady : ∀ (device : Handle) {op : Operation}, op.isOrdinary = true →
      (Work.drive device.ref (device.backend.perform op)).Along (Action.opens · = false)
        fun _ => True := fun device _ hop =>
    Work.along_steady (device.backend.steady_perform hop) device.ref
  cases e with
  | command device c client =>
    refine Work.along_question rfl fun online => ?_
    cases online with
    | false => exact trivial
    | true => exact closed_run device c client
  | target device value =>
    have htarget : (Operation.setSetpoint value).isOrdinary = true := rfl
    refine Work.along_question rfl fun online => ?_
    cases online with
    | false => exact trivial
    | true => exact hsteady device htarget
  | check device =>
    have hstatus : Operation.status.isOrdinary = true := rfl
    exact Program.Along.bind (hsteady device hstatus) fun _ _ => trivial
  | disconnect device =>
    have hclose : (Work.drive device.ref (device.backend.perform .close)).Along
        (Action.opens · = false) fun _ => True := by
      cases device.backend with
      | simulated => exact ⟨rfl, fun _ => trivial⟩
      | link timeout => exact ⟨rfl, fun _ => trivial⟩
    exact Program.Along.bind hclose fun _ _ => trivial
  | reconnect => cases h

/-- **No errand but a reconnect asks for a device to be opened.** -/
theorem closed_locked {e : Errand} (h : e.isReconnect = false) :
    (Work.locked e.device.ref e.program).Along (Action.opens · = false) fun _ => True := by
  rw [Work.locked_eq]
  exact ⟨rfl, fun _ => Program.Along.bind (closed_program h) fun _ _ => ⟨rfl, fun _ => trivial⟩⟩

end Errand

/-! ## Workers that are no watchdogs -/

namespace Worker

/-- A worker that is no watchdog opens nothing, and never becomes a watchdog. -/
def Closed (p : Work RoundEnd) : Prop :=
  p.Along (Action.opens · = false) fun r =>
    ∀ worker, r = .again worker → ∀ index, worker.role ≠ .watchdog index

theorem closed_round {worker : Worker} (h : ∀ index, worker.role ≠ .watchdog index)
    (intake : Intake) : Closed (worker.round intake) := by
  have hround : (worker.round intake).Along (Action.opens · = false) worker.Leaves := by
    refine (worker.made intake).along ?_ ?_
    · intro op hop
      cases op with
      | exchange => cases hop
      | _ => rfl
    · rintro β _ ⟨e, he⟩
      refine Errand.closed_locked ?_
      cases worker with
      | watchdog w => exact absurd rfl (h w.index)
      | ticker | connection | request =>
        cases e with
        | reconnect => cases he
        | _ => rfl
  refine hround.mono (fun _ hop => hop) ?_
  rintro r hr next rfl
  rw [Continues.role hr]
  exact h

theorem Closed.course {intake : Intake} {p q : Work RoundEnd} {es : List Answered}
    (h : Closed p) (hc : Course intake p es q) : Closed q ∧ ∀ x ∈ es, x.op.opens = false :=
  hc.along (W := fun worker => ∀ index, worker.role ≠ .watchdog index)
    (fun _ hworker => closed_round hworker intake) (fun _ => rfl) h

end Worker

/-! ## Watchdogs -/

namespace Watchdog

variable {w d : Watchdog} {now past : List Answered} {s : WatchdogState}

/-- A watchdog opens its device when it has taken it down. -/
theorem isDown_of_opens {q : Work (Option WatchdogState)} (h : Stretch w.stage now q)
    {x : Answered} (hx : x ∈ now) (hop : x.op.opens = true) : w.state.isDown = true := by
  have hnot : ∀ {P : Prop}, w.stage.Along (Action.opens · = false) (fun _ => True) → P :=
    fun halong => by cases hop.symm.trans ((h.along halong fun _ => rfl).1 x hx)
  obtain ⟨index, device, policy, state⟩ := w
  cases state with
  | healthy =>
    have hcheck := Errand.closed_locked (e := .check device) rfl
    refine hnot (Work.along_question rfl fun _ => Work.along_question rfl fun passed => ?_)
    cases passed with
    | false => exact trivial
    | true => exact Program.Along.bind hcheck fun _ _ => trivial
  | unhealthy =>
    have hclose := Errand.closed_locked (e := .disconnect device) rfl
    exact hnot (Work.along_question rfl fun _ => Program.Along.bind hclose fun _ _ => trivial)
  | reconnecting | givenUp => rfl

/-- A watchdog takes its device offline before it is down. -/
theorem offline_of_stage (h : Stretch w.stage now (Program.done (some s)))
    (hup : w.state.isDown = false) (hs : s.isDown = true) :
    ∃ x ∈ now, x.op = .setOnline w.device.ref false := by
  have hcompleted := completed h
  generalize hnext : some s = next at hcompleted
  cases hcompleted with
  | cancelled | spent => cases hnext
  | @checked _ _ result hstate =>
    rw [hstate] at hnext
    cases hnext
    cases result with
    | ok => cases hs
    | error => cases hs
  | disconnected => exact ⟨_, List.mem_cons_self, rfl⟩
  | reconnected hstate | failed hstate =>
    rw [hstate] at hup
    cases hup

/-- A watchdog turns to its own device only. -/
theorem exchange_of_stage {q : Work (Option WatchdogState)} (h : Stretch w.stage now q)
    {x : Answered} (hx : x ∈ now) {ref : Nat} {op : Exchange} (hop : x.op = .exchange ref op) :
    ref = w.device.ref := by
  cases staged h with
  | awake => cases hx
  | asleep =>
    cases List.mem_singleton.mp hx
    cases hop
  | past hsleep htends _ =>
    rcases List.mem_append.mp hx with hx | hx
    · rcases hsleep x hx with heq | hsleeps
      · cases hop.symm.trans heq
      · rw [hop] at hsleeps
        cases hsleeps
    · have hown := htends x hx
      rwa [hop] at hown

/-- A watchdog that has opened its device, or is to open it, has taken it offline before. -/
theorem Rounds.turned (h : w.Rounds past d) (hw : w.state = .healthy) :
    d.device = w.device ∧
      (∀ x ∈ past, ∀ ref op, x.op = .exchange ref op → ref = w.device.ref) ∧
      (d.state.isDown = true ∨ (∃ x ∈ past, x.op.opens = true) →
        ∃ x ∈ past, x.op = .setOnline w.device.ref false) := by
  induction h with
  | start =>
    refine ⟨rfl, fun x hx => (by cases hx), ?_⟩
    rintro (hdown | ⟨x, hx, -⟩)
    · rw [hw] at hdown
      cases hdown
    · cases hx
  | @next past now d s hrounds hstage ih =>
    obtain ⟨hdevice, hown, hoffline⟩ := ih
    refine ⟨hdevice, ?_, fun hturns => ?_⟩
    · rw [List.forall_mem_append, List.forall_mem_append, List.forall_mem_singleton]
      refine ⟨hown, fun x hx ref op hop => ?_, fun ref op hop => by cases hop⟩
      rw [← hdevice]
      exact exchange_of_stage hstage hx hop
    -- Either it was down before, or it is in this stage that it goes down.
    cases hup : d.state.isDown with
    | true =>
      obtain ⟨x, hx, hop⟩ := hoffline (.inl hup)
      exact ⟨x, List.mem_append_left _ hx, hop⟩
    | false =>
      rcases hturns with hdown | ⟨x, hx, hop⟩
      · obtain ⟨x, hx, hop⟩ := offline_of_stage hstage hup hdown
        rw [← hdevice]
        exact ⟨x, List.mem_append_right _ (List.mem_append_left _ hx), hop⟩
      · rcases List.mem_append.mp hx with hx | hx
        · obtain ⟨y, hy, hop⟩ := hoffline (.inr ⟨x, hx, hop⟩)
          exact ⟨y, List.mem_append_left _ hy, hop⟩
        · rcases List.mem_append.mp hx with hx | hx
          · cases hup.symm.trans (isDown_of_opens hstage hx hop)
          · cases List.mem_singleton.mp hx
            cases hop

/-- **A watchdog that has opened a device has taken it offline before.** -/
theorem offline_of_opens {intake : Intake} {es : List Answered} {p : Work RoundEnd}
    (h : Course intake (Program.done (.again (.watchdog w))) es p) (hw : w.state = .healthy)
    {x : Answered} (hx : x ∈ es) {ref : Nat} {op : Exchange} (hop : x.op = .exchange ref op)
    (hopens : op.opens = true) : ∃ y ∈ es, y.op = .setOnline ref false := by
  obtain ⟨past, now, d, rfl, hrounds, hwithin⟩ := course_rounds h
  obtain ⟨hdevice, hown, hoffline⟩ := hrounds.turned hw
  have hopen : x.op.opens = true := by
    rw [hop]
    exact hopens
  have hearlier : ref = w.device.ref → (d.state.isDown = true ∨ ∃ x ∈ past, x.op.opens = true) →
      ∃ y ∈ past ++ now, y.op = .setOnline ref false := by
    rintro rfl hturned
    obtain ⟨y, hy, heq⟩ := hoffline hturned
    exact ⟨y, List.mem_append_left _ hy, heq⟩
  rcases List.mem_append.mp hx with hx | hx
  · exact hearlier (hown x hx ref op hop) (.inr ⟨x, hx, hopen⟩)
  · cases hwithin with
    | beginning => cases hx
    | acting hstage =>
      have href := exchange_of_stage hstage hx hop
      rw [hdevice] at href
      exact hearlier href (.inl (isDown_of_opens hstage hx hopen))

end Watchdog

/-! ## Any worker -/

/-- A worker that has opened a device has taken it offline before. -/
theorem Course.offline_of_opens {intake : Intake} {worker : Worker} {es : List Answered}
    {p : Work RoundEnd} (h : Course intake (Program.done (.again worker)) es p)
    (hnew : worker.isNew = true) {x : Answered} (hx : x ∈ es) {ref : Nat} {op : Exchange}
    (hop : x.op = .exchange ref op) (hopens : op.opens = true) :
    ∃ y ∈ es, y.op = .setOnline ref false := by
  have hother : (∀ index, worker.role ≠ .watchdog index) → x.op.opens = false := by
    intro hrole
    have hstart : Worker.Closed (Program.done (.again worker)) := by
      rintro next ⟨⟩
      exact hrole
    exact (hstart.course h).2 x hx
  rw [hop] at hother
  cases worker with
  | watchdog w => exact Watchdog.offline_of_opens h (of_decide_eq_true hnew) hx hop hopens
  | ticker | connection | request =>
    cases hopens.symm.trans (hother fun _ => Role.noConfusion)

namespace World

variable {v w : World} {es : List Event}

/-- **Whoever opens a device has taken it offline before,** unless it is the operator. -/
theorem Run.offline_of_opens (h : Run v es w) (hv : Fresh v) {x : Event} (hx : x ∈ es)
    (hworker : x.task ≠ operator) {ref : Nat} {op : Exchange}
    (hop : x.asked.op = .exchange ref op) (hopens : op.opens = true) :
    ∃ y ∈ es, y.task = x.task ∧ y.asked.op = .setOnline ref false := by
  induction h with
  | start => cases hx
  | @step es e u u' hr hs ih =>
    rcases List.mem_append.mp hx with hold | hnew
    · obtain ⟨y, hy, hmine, heq⟩ := ih hold
      exact ⟨y, List.mem_append_left _ hy, hmine, heq⟩
    · obtain rfl := Option.mem_toList.mp hnew
      rcases hs.told.2 with hoperator | ⟨t, ht, hid, -⟩
      · exact absurd hoperator hworker
      obtain ⟨worker, hnew, hstarted⟩ := hr.started hv t ht
      rw [hid] at hstarted
      obtain ⟨p, hcourse⟩ := (hstarted.step hs).course hv.numbered
      have hlast : x.asked ∈ own x.task (es ++ [x]) :=
        List.mem_map_of_mem (List.mem_filter.mpr ⟨hx, by simp⟩)
      obtain ⟨y, hy, heq⟩ := hcourse.offline_of_opens hnew hlast hop hopens
      obtain ⟨z, hz, rfl⟩ := List.mem_map.mp hy
      obtain ⟨hz, hmine⟩ := List.mem_filter.mp hz
      exact ⟨z, hz, of_decide_eq_true hmine, heq⟩

end World

end ChillerGateway
