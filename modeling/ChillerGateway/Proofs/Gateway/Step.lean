import ChillerGateway.Gateway.Control
import ChillerGateway.Proofs.Gateway.Course

/-!
# Steps of a gateway

What can happen in a gateway: a worker's turn, the clock, a question of the operator, or something
else that is done to it from outside.  A step tells at most one worker something, and a run, which
is any order of steps, leaves a history of who was told what.

* `World.Control`, `World.Step`, `World.Run` — what can happen, one thing or many.
* `World.Effect` — all that a step can do to the workers and to the cancellation of schedules.
* `World.Step.effect` — that it does no more.
-/

namespace ChillerGateway

/-- A question that a worker was answered. -/
structure Event where
  task : Nat
  asked : Answered

/-- What a worker was answered, out of a history. -/
def own (task : Nat) (es : List Event) : List Answered :=
  (es.filter (·.task = task)).map Event.asked

theorem own_append (task : Nat) (es fs : List Event) :
    own task (es ++ fs) = own task es ++ own task fs := by
  unfold own
  rw [List.filter_append, List.map_append]

theorem own_eq_nil {task : Nat} {es : List Event} (h : ∀ e ∈ es, e.task ≠ task) :
    own task es = [] := by
  unfold own
  rw [List.filter_eq_nil_iff.mpr (by simpa using h), List.map_nil]

theorem mem_of_mem_own {task : Nat} {es : List Event} {x : Answered} (h : x ∈ own task es) :
    ∃ e ∈ es, e.asked = x := by
  obtain ⟨e, he, rfl⟩ := List.mem_map.mp h
  exact ⟨e, (List.mem_filter.mp he).1, rfl⟩

/-- The role in which a worker is started. -/
def Worker.role : Worker → Role
  | ticker t => .ticker t.generation
  | watchdog w => .watchdog w.index
  | connection c => .connection c.index
  | request .. => .request

/-- Whether a worker is as workers are started: a watchdog takes its device for healthy. -/
def Worker.isNew : Worker → Bool
  | watchdog w => decide (w.state = .healthy)
  | _ => true

namespace World

/-! ## Steps -/

namespace Outcome

variable {α : Type}

/-- The gateway after a question. -/
def world : Outcome α → World
  | answered _ w | later _ _ w | wait _ _ w => w

def answer? : Outcome α → Option α
  | answered a _ | later _ a _ => some a
  | wait .. => none

end Outcome

/-- What a worker is answered, unless it has to wait and ask again. -/
def told (w : World) (me : Nat) (op : Action) : Option Event :=
  (w.act me op).answer?.map fun a => ⟨me, op, a⟩

/-- What the next turn of a worker tells it. -/
def tells (w : World) (t : Task) : Option Event :=
  match t.program with
  | Program.ask op _ => w.told t.id op
  | Program.done _ => none

/-- What is done to a gateway from outside, other than a question of the operator. -/
inductive Control (w : World) : World → Prop where
  | register (id : String) (device : Device) : Control w (w.register id device)
  | reload (settings : Settings) : Control w (w.reload settings)
  | setOnline (ref : Nat) (online : Bool) : Control w (w.setOnline ref online)
  | setFault (ref : Nat) (fault : Bool) : Control w (w.setFault ref fault)
  | takeHeard (ref : Nat) : Control w (w.takeHeard ref).2
  | settleDevices : Control w
      { w with
        devices := w.devices.map fun slot => { slot with device := slot.device.settle w.now } }
  | enter {w'} : w.enter? = some w' → Control w w'
  | leave : Control w w.leave
  | openConnection {client index w'} :
      w.openConnection? client = some (index, w') → Control w w'
  | deliver (index : Nat) (bytes : List UInt8) : Control w (w.deliver index bytes)
  | endInput (index : Nat) : Control w (w.endInput index)
  | cancelConnection (index : Nat) : Control w (w.cancelConnection index)
  | takeReplies (index : Nat) : Control w (w.takeReplies index).2
  | startRequest (line client : String) : Control w (w.startRequest line client).2
  | takeTrail : Control w w.takeTrail.2
  | startWatchdog (device : Handle) (policy : WatchdogPolicy) :
      Control w (w.startWatchdog device policy).2
  | cancelWatchdogs : Control w w.cancelWatchdogs
  | beginShutdown : Control w w.beginShutdown
  | stopServing : Control w w.stopServing
  | cancelSchedules : Control w w.cancelSchedules
  | setWallClock (time : Nat) : Control w { w with wallClock := time }
  /-- The operator asks for a turn, waits, or has no more to ask. -/
  | begin : Control w { w with ready := operator :: w.ready.erase operator }
  | await (cause : Cause) (deadline : Option Nat) :
      Control w (w.await operator cause deadline)
  | done : Control w { w with ready := w.ready.erase operator }

/-- One thing that can happen, with what a worker or the operator is told by it. -/
inductive Step (w : World) : Option Event → World → Prop where
  | turn {t} : t ∈ w.tasks → t.id ∈ w.ready → Step w (w.tells t) (w.turn t)
  /-- A worker that is no more has no turn. -/
  | skip {me rest} : w.ready = me :: rest → Step w none { w with ready := rest }
  | advance (time : Nat) : Step w none (w.advance time)
  | operate (op : Action) : Step w (w.told operator op) (w.act operator op).world
  | control {w'} : Control w w' → Step w none w'

/-- Any number of steps, with the history of what was told. -/
inductive Run (w : World) : List Event → World → Prop where
  | start : Run w [] w
  | step {es e v v'} : Run w es v → Step v e v' → Run w (es ++ e.toList) v'

theorem Run.trans {u v w : World} {es fs : List Event} (h : Run u es v) (h' : Run v fs w) :
    Run u (es ++ fs) w := by
  induction h' with
  | start => rwa [List.append_nil]
  | step _ hs ih =>
    rw [← List.append_assoc]
    exact ih.step hs

theorem Run.single {w w' : World} {e : Option Event} (h : Step w e w') : Run w e.toList w' := by
  have := Run.start.step h
  rwa [List.nil_append] at this

/-- What is done from outside tells nobody anything. -/
theorem Run.controlled {w w' w'' : World} {es : List Event} (h : Run w es w')
    (hc : Control w' w'') : Run w es w'' := by
  have hstep := h.step (.control hc)
  rwa [Option.toList_none, List.append_nil] at hstep

/-! ## What a step leaves as it is -/

/-- All workers are as they were, and at most one was started. -/
structure Grows (w w' : World) : Prop where
  intake : w'.intake = w.intake
  cancelled : ∀ g, w.schedules.isCancelled g = true → w'.schedules.isCancelled g = true
  tasks : (w'.tasks = w.tasks ∧ w'.nextTask = w.nextTask) ∨
    ∃ worker : Worker, worker.isNew = true ∧
      w'.tasks = w.tasks ++ [⟨w.nextTask, worker.role, Program.done (.again worker)⟩] ∧
      w'.nextTask = w.nextTask + 1

variable {w w' : World}

/-- A step that has nothing to do with workers or schedules. -/
theorem Grows.still (hintake : w'.intake = w.intake) (hschedules : w'.schedules = w.schedules)
    (htasks : w'.tasks = w.tasks) (hnext : w'.nextTask = w.nextTask) : Grows w w' where
  intake := hintake
  cancelled := fun g h => by rw [hschedules]; exact h
  tasks := .inl ⟨htasks, hnext⟩

theorem Grows.refl (w : World) : Grows w w := .still rfl rfl rfl rfl

theorem Grows.modifyDevice (ref : Nat) (f : DeviceSlot → DeviceSlot) :
    Grows w (w.modifyDevice ref f) := .still rfl rfl rfl rfl

theorem Grows.unlock (ref : Nat) : Grows w (w.unlock ref) := by
  unfold World.unlock
  split
  · exact .still rfl rfl rfl rfl
  · exact .modifyDevice ref _

theorem Grows.lockFor (me ref : Nat) : Grows w (w.lockFor me ref).world := by
  unfold World.lockFor
  split
  · exact .refl w
  · split
    · exact .refl w
    · split
      · exact .modifyDevice ref _
      · split
        · exact .refl w
        · exact .modifyDevice ref _

theorem Grows.exchange (ref : Nat) (op : Exchange) : Grows w (w.exchange ref op).world := by
  unfold World.exchange
  split
  · exact .refl w
  · rename_i slot _
    obtain ⟨time, answer, device⟩ := slot.device.exchange w.now op
    simp only
    split
    · exact .modifyDevice ref _
    · exact .modifyDevice ref _

end World

namespace Schedules

variable {s : Schedules} {g : Nat}

theorem isCancelled_release (id : String) (h : s.isCancelled g = true) :
    (s.release id).isCancelled g = true := by
  unfold isCancelled release at *
  simp only [Bool.or_eq_true, List.contains_iff_mem] at h ⊢
  refine h.imp_right fun hmem => ?_
  cases s.get? id with
  | none => exact hmem
  | some a => exact List.mem_cons_of_mem _ hmem

/-- A generation is cancelled when the schedule of its device leaves the table. -/
theorem isCancelled_release_of_generation {id : String}
    (h : (s.get? id).map (·.generation) = some g) : (s.release id).isCancelled g = true := by
  obtain ⟨a, ha, rfl⟩ := Option.map_eq_some_iff.mp h
  unfold isCancelled release
  rw [ha]
  simp

theorem retire_isCancelled (id : String) (generation : Nat) :
    (s.retire id generation).isCancelled g = s.isCancelled g := by
  unfold retire
  split <;> rfl

end Schedules

namespace World

variable {w w' : World}

theorem Grows.loadSchedule (device : Handle) (schedule : Schedule) :
    Grows w (w.loadSchedule device schedule) where
  intake := rfl
  cancelled := fun _ h => Schedules.isCancelled_release device.id h
  tasks := .inr ⟨.ticker ⟨device, (w.schedules.load device.id schedule w.now).1,
    Runner.start { schedule } w.now⟩, rfl, rfl, rfl⟩

theorem Grows.incoming {index : Nat} {deadline : Option Nat} {incoming : Incoming}
    (h : w.incoming? index deadline = some (incoming, w')) : Grows w w' := by
  unfold incoming? at h
  split at h
  · cases h
    exact .refl w
  · split at h
    · cases h
      exact .refl w
    · split at h
      · cases h
        exact .still rfl rfl rfl rfl
      · split at h
        · cases h
          exact .refl w
        · split at h
          · cases h
            exact .refl w
          · cases h

theorem Grows.act (w : World) (me : Nat) (op : Action) : Grows w (w.act me op).world := by
  cases op with
  | now | isCancelled | settings | beginCommand | resolve | isOnline | scheduleStatus | audit
  | announce | reply =>
    exact .still rfl rfl rfl rfl
  | pauseUntil time token =>
    simp only [World.act]
    split
    · exact .refl w
    · split
      · exact .refl w
      · exact .refl w
  | countRequest client =>
    simp only [World.act, World.countRequest]
    cases w.limiter with
    | none => exact .refl w
    | some limiter => exact .still rfl rfl rfl rfl
  | setOnline ref online => exact .modifyDevice ref _
  | lock ref => exact .lockFor me ref
  | unlock ref => exact .unlock ref
  | exchange ref op => exact .exchange ref op
  | loadSchedule device schedule => exact .loadSchedule device schedule
  | stopSchedule id =>
    exact ⟨rfl, fun _ h => Schedules.isCancelled_release id h, .inl ⟨rfl, rfl⟩⟩
  | retire id generation =>
    exact ⟨rfl, fun _ h => (Schedules.retire_isCancelled id generation).trans h, .inl ⟨rfl, rfl⟩⟩
  | awaitTickers =>
    simp only [World.act]
    split
    · exact .refl w
    · exact .refl w
  | countCommand name status => exact .still rfl rfl rfl rfl
  | countError kind => exact .still rfl rfl rfl rfl
  | read index deadline =>
    simp only [World.act]
    split
    · rename_i heq
      exact .incoming heq
    · exact .refl w
  | awaitReply task =>
    simp only [World.act]
    split
    · exact .still rfl rfl rfl rfl
    · split
      · exact .refl w
      · exact .refl w

theorem Grows.spawn (w : World) {worker : Worker} (h : worker.isNew = true) :
    Grows w (w.spawn worker.role worker) where
  intake := rfl
  cancelled := fun _ h => h
  tasks := .inr ⟨worker, h, rfl, rfl⟩

theorem Grows.openConnection {client : String} {index : Nat}
    (h : w.openConnection? client = some (index, w')) : Grows w w' := by
  unfold openConnection? at h
  obtain ⟨v, hv, heq⟩ := Option.map_eq_some_iff.mp h
  unfold enter? at hv
  split at hv
  · cases hv
  · cases hv
    cases heq
    exact ⟨rfl, fun _ hg => hg, .inr ⟨.connection { index := w.clients.size, client }, rfl, rfl, rfl⟩⟩

theorem Grows.control (h : Control w w') : Grows w w' := by
  cases h with
  | enter h =>
    unfold enter? at h
    split at h
    · cases h
    · cases h
      exact .still rfl rfl rfl rfl
  | openConnection h => exact .openConnection h
  | startRequest line client =>
    have hnew : (Worker.request line client).isNew = true := rfl
    exact .spawn w hnew
  | startWatchdog device policy =>
    refine ⟨rfl, fun _ h => h, .inr ?_⟩
    exact ⟨.watchdog ⟨w.watchdogs.size, device, policy, .healthy⟩, rfl, rfl, rfl⟩
  | cancelSchedules => exact ⟨rfl, fun _ _ => rfl, .inl ⟨rfl, rfl⟩⟩
  | takeHeard ref =>
    unfold World.takeHeard
    split
    · exact .refl w
    · exact .modifyDevice ref _
  | _ => exact .still rfl rfl rfl rfl

/-! ## What a step does to the workers -/

/-- What a step did, as far as workers and the cancellation of schedules are concerned. -/
inductive Effect (w : World) (e : Option Event) (w' : World) : Prop where
  /-- At most one worker was started. -/
  | outside : Grows w w' → (∀ x ∈ e, x.task = operator) → Effect w e w'
  /-- One worker went on. -/
  | went {t p grown} : t ∈ w.tasks → Course w.intake t.program (own t.id e.toList) p →
      (∀ x ∈ e, x.task = t.id) → Grows w { w' with tasks := grown } →
      w'.tasks = grown.map (fun u => if u.id = t.id then { u with program := p } else u) →
      Effect w e w'
  /-- One worker ended. -/
  | ended {t reply} : t ∈ w.tasks → t.program = Program.done (.ended reply) → e = none →
      Grows w { w' with tasks := w.tasks } → w'.tasks = w.tasks.filter (·.id ≠ t.id) →
      Effect w e w'

/-- Only the answer to a step of a driver can be a later one. -/
theorem exchanges_of_later {me time : Nat} {op : Action} {a : op.Answer}
    (h : w.act me op = .later time a w') : op.exchanges = true := by
  cases op with
  | exchange => rfl
  | pauseUntil | lock | awaitTickers | read | awaitReply =>
    simp only [World.act, World.lockFor] at h
    repeat' split at h
    all_goals cases h
  | _ => cases h

theorem task_of_mem_told {me : Nat} {op : Action} {x : Event} (h : x ∈ w.told me op) :
    x.task = me := by
  obtain ⟨a, -, rfl⟩ := Option.map_eq_some_iff.mp h
  rfl

theorem own_self (task : Nat) (asked : Answered) : own task [⟨task, asked⟩] = [asked] := by
  unfold own
  rw [List.filter_cons_of_pos (by simp)]
  rfl

theorem Effect.finish {t : Task} {reply : Option Reply} (ht : t ∈ w.tasks)
    (hp : t.program = Program.done (.ended reply)) : Effect w none (w.finish t reply) := by
  have htasks : (w.finish t reply).tasks = w.tasks.filter (·.id ≠ t.id) := by
    unfold World.finish
    cases t.role with
    | ticker | watchdog | connection | request => rfl
  refine .ended ht hp rfl ?_ htasks
  unfold World.finish
  cases t.role with
  | ticker | watchdog | connection | request => exact .still rfl rfl rfl rfl

/-- A turn of a worker that asks. -/
theorem Effect.ask {t : Task} {op : Action} {next : op.Answer → Work RoundEnd} (ht : t ∈ w.tasks)
    (hp : t.program = Program.ask op next) : Effect w (w.told t.id op) (w.turn t) := by
  have hgrows := Grows.act w t.id op
  have hstart : Course w.intake t.program [] (Program.ask op next) := hp ▸ .start
  unfold World.told World.turn
  rw [hp]
  simp only
  cases hact : w.act t.id op with
  | answered a w' =>
    rw [hact] at hgrows
    refine .went ht ?_ ?_ ⟨hgrows.intake, hgrows.cancelled, hgrows.tasks⟩ rfl
    · show Course _ _ (own t.id [⟨t.id, op, a⟩]) _
      rw [own_self]
      exact hstart.answered a .now
    · simp [Outcome.answer?]
  | later time a w' =>
    rw [hact] at hgrows
    refine .went ht ?_ ?_ ⟨hgrows.intake, hgrows.cancelled, hgrows.tasks⟩ rfl
    · show Course _ _ (own t.id [⟨t.id, op, a⟩]) _
      rw [own_self]
      exact hstart.answered a (.later time (exchanges_of_later hact))
    · simp [Outcome.answer?]
  | wait cause deadline w' =>
    rw [hact] at hgrows
    exact .outside ⟨hgrows.intake, hgrows.cancelled, hgrows.tasks⟩ (by simp [Outcome.answer?])

theorem Step.effect {e : Option Event} (h : Step w e w') : Effect w e w' := by
  cases h with
  | @turn t ht hready =>
    unfold World.tells
    cases hp : t.program with
    | ask op next => exact .ask ht hp
    | done r =>
      unfold World.turn
      rw [hp]
      cases r with
      | again worker =>
        have hstart : Course w.intake t.program [] (Program.done (.again worker)) := hp ▸ .start
        exact .went ht hstart.again (by simp) (.refl w) rfl
      | ended reply => exact .finish ht hp
  | skip h => exact .outside (.still rfl rfl rfl rfl) (by simp)
  | advance time => exact .outside (.still rfl rfl rfl rfl) (by simp)
  | operate op => exact .outside (.act w operator op) fun x hx => task_of_mem_told hx
  | control h => exact .outside (.control h) (by simp)

end World

end ChillerGateway
