import ChillerGateway.Proofs.Gateway.Run

/-!
# What a step comes to

A step that tells a worker or the operator something is the answer to one question, and leaves the
gateway as the answer does; the worker that was told goes on.  A step that tells nothing leaves
almost everything as it is.

* `World.Step.asker` — who is told something asked for it.
* `World.Step.told`, `World.Step.silent` — the gateway after either kind of step.
* `World.Effect.traced` — where a worker after a step comes from.
-/

namespace ChillerGateway

namespace World

variable {w w' : World} {e : Event}

/-! ## Steps that tell something -/

/-- Reading from a client changes nothing but the client's connection. -/
theorem incoming_eq {index : Nat} {deadline : Option Nat} {incoming : Incoming}
    (h : w.incoming? index deadline = some (incoming, w')) :
    ∃ clients, w' = { w with clients := clients } := by
  unfold incoming? at h
  repeat' split at h
  all_goals cases h
  all_goals exact ⟨_, rfl⟩

/-- Only loading a schedule starts a worker. -/
theorem act_tasks (w : World) (me : Nat) (op : Action) :
    (w.act me op).world.tasks = w.tasks ∨
      ∃ device schedule, op = .loadSchedule device schedule := by
  cases op with
  | loadSchedule device schedule => exact .inr ⟨device, schedule, rfl⟩
  | pauseUntil | awaitTickers | awaitReply | exchange | lock | unlock | countRequest =>
    left
    simp only [World.act, World.exchange, World.lockFor, World.unlock, World.countRequest]
    repeat' split
    all_goals rfl
  | read index deadline =>
    left
    simp only [World.act]
    split
    · rename_i heq
      obtain ⟨clients, rfl⟩ := incoming_eq heq
      rfl
    · rfl
  | _ => exact .inl rfl

/-- The tasks when one of them went on with a program. -/
def tasksWith (tasks : List Task) (me : Nat) (p : Work RoundEnd) : List Task :=
  tasks.map fun u => if u.id = me then { u with program := p } else u

theorem mem_tasksWith {tasks : List Task} {me : Nat} {p : Work RoundEnd} {t : Task}
    (hid : t.id ≠ me) : t ∈ tasksWith tasks me p ↔ t ∈ tasks := by
  unfold tasksWith
  rw [List.mem_map]
  constructor
  · rintro ⟨u, hu, rfl⟩
    split
    · rename_i h
      rw [if_pos h] at hid
      exact absurd h hid
    · exact hu
  · exact fun h => ⟨t, h, if_neg hid⟩

/-- The gateway as the answer to a question leaves it, but for the one who asked. -/
structure Told (w : World) (e : Event) (w' : World) : Prop where
  answer : (w.act e.task e.asked.op).answer? = some e.asked.answer
  devices : w'.devices = (w.act e.task e.asked.op).world.devices
  schedules : w'.schedules = (w.act e.task e.asked.op).world.schedules
  trail : w'.trail = (w.act e.task e.asked.op).world.trail
  tasks : w'.tasks = (w.act e.task e.asked.op).world.tasks ∨
    ∃ p, w'.tasks = tasksWith (w.act e.task e.asked.op).world.tasks e.task p

theorem Told.of_world {v : World} (hv : (w.act e.task e.asked.op).world = v)
    (ha : (w.act e.task e.asked.op).answer? = some e.asked.answer)
    (hdevices : w'.devices = v.devices) (hschedules : w'.schedules = v.schedules)
    (htrail : w'.trail = v.trail)
    (htasks : w'.tasks = v.tasks ∨ ∃ p, w'.tasks = tasksWith v.tasks e.task p) : Told w e w' := by
  subst hv
  exact ⟨ha, hdevices, hschedules, htrail, htasks⟩

/-- All workers but the one who asked are as the answer leaves them. -/
theorem Told.mem_tasks (h : Told w e w') {t : Task} (hid : t.id ≠ e.task) :
    t ∈ w'.tasks ↔ t ∈ (w.act e.task e.asked.op).world.tasks := by
  rcases h.tasks with htasks | ⟨p, htasks⟩
  · rw [htasks]
  · rw [htasks, mem_tasksWith hid]

/-- Who is told something asked for it; the rest of the gateway is as the answer leaves it. -/
theorem Step.told (h : Step w (some e) w') :
    Told w e w' ∧ (e.task = operator ∨ ∃ t ∈ w.tasks, t.id = e.task ∧
      ∃ next, t.program = Program.ask e.asked.op next) := by
  generalize he : some e = e' at h
  cases h with
  | @turn t ht _ =>
    unfold tells World.told at he
    unfold World.turn
    split at he
    · rename_i op next hp
      obtain ⟨a, ha, rfl⟩ := Option.map_eq_some_iff.mp he.symm
      rw [hp]
      refine ⟨?_, .inr ⟨t, ht, rfl, next, hp⟩⟩
      simp only
      cases hact : w.act t.id op with
      | answered b v =>
        have hw : (w.act t.id op).world = v := by rw [hact]; rfl
        exact .of_world hw ha rfl rfl rfl (.inr ⟨next b, rfl⟩)
      | later time b v =>
        have hw : (w.act t.id op).world = v := by rw [hact]; rfl
        exact .of_world hw ha rfl rfl rfl (.inr ⟨_, rfl⟩)
      | wait cause deadline v =>
        rw [hact] at ha
        cases ha
    · cases he
  | operate op =>
    obtain ⟨a, ha, rfl⟩ := Option.map_eq_some_iff.mp he.symm
    exact ⟨⟨ha, rfl, rfl, rfl, .inl rfl⟩, .inl rfl⟩
  | skip | advance | control => cases he

/-! ## Steps that tell nothing -/

/-- What a step can be that tells nothing: something from outside, a question that has to wait, or
the turn of a worker that has nothing to ask. -/
inductive Quiet (w w' : World) : Prop where
  | control : Control w w' → Quiet w w'
  | wait {me : Nat} {op : Action} {cause : Cause} {deadline : Option Nat} {v : World} :
      w.act me op = .wait cause deadline v → w'.devices = v.devices →
      w'.schedules = v.schedules → w'.trail = v.trail → w'.tasks = v.tasks → Quiet w w'
  | still : w'.devices = w.devices → w'.schedules = w.schedules → w'.trail = w.trail →
      (∀ t ∈ w'.tasks, ∃ u ∈ w.tasks, u.id = t.id) → Quiet w w'

theorem Quiet.setProgram (me : Nat) (p : Work RoundEnd) : Quiet w (w.setProgram me p) := by
  refine .still rfl rfl rfl ?_
  intro t ht
  obtain ⟨u, hu, rfl⟩ := List.mem_map.mp ht
  refine ⟨u, hu, ?_⟩
  split <;> rfl

theorem Quiet.finish (t : Task) (reply : Option Reply) : Quiet w (w.finish t reply) := by
  unfold World.finish
  cases t.role with
  | ticker | watchdog | connection | request =>
    exact .still rfl rfl rfl fun u hu => ⟨u, List.mem_of_mem_filter hu, rfl⟩

theorem Step.quiet (h : Step w none w') : Quiet w w' := by
  generalize he : none = e at h
  cases h with
  | @turn t _ _ =>
    unfold tells World.told at he
    unfold World.turn
    cases hp : t.program with
    | ask op next =>
      rw [hp] at he
      simp only at he ⊢
      cases hact : w.act t.id op with
      | answered | later =>
        rw [hact] at he
        cases he
      | wait cause deadline v => exact .wait hact rfl rfl rfl rfl
    | done r =>
      cases r with
      | again worker => exact .setProgram t.id _
      | ended reply => exact .finish t reply
  | operate op =>
    unfold World.told at he
    cases hact : w.act operator op with
    | answered | later =>
      rw [hact] at he
      cases he
    | wait cause deadline v => exact .wait hact rfl rfl rfl rfl
  | skip | advance => exact .still rfl rfl rfl fun t ht => ⟨t, ht, rfl⟩
  | control h => exact .control h

/-- A gateway with the same schedules in force, on which no ticker was started. -/
structure Silent (w w' : World) : Prop where
  schedules : w'.schedules = w.schedules ∨
    w'.schedules = { w.schedules with shutDown := true }
  trail : w'.trail = w.trail ∨ w'.trail = []
  tasks : ∀ t ∈ w'.tasks, (∃ u ∈ w.tasks, u.id = t.id) ∨ ∀ g, t.role ≠ .ticker g

theorem Silent.still (hschedules : w'.schedules = w.schedules) (htrail : w'.trail = w.trail)
    (htasks : w'.tasks = w.tasks) : Silent w w' where
  schedules := .inl hschedules
  trail := .inl htrail
  tasks := fun t ht => .inl ⟨t, htasks ▸ ht, rfl⟩

/-- A worker that is no ticker was started. -/
theorem Silent.started {t : Task} (hschedules : w'.schedules = w.schedules)
    (htrail : w'.trail = w.trail) (htasks : w'.tasks = w.tasks ++ [t])
    (hrole : ∀ g, t.role ≠ .ticker g) : Silent w w' where
  schedules := .inl hschedules
  trail := .inl htrail
  tasks := by
    intro u hu
    rw [htasks] at hu
    rcases List.mem_append.mp hu with hold | hnew
    · exact .inl ⟨u, hold, rfl⟩
    · exact .inr (List.mem_singleton.mp hnew ▸ hrole)

theorem Silent.control (h : Control w w') : Silent w w' := by
  cases h with
  | enter h =>
    unfold enter? at h
    split at h
    · cases h
    · cases h
      exact .still rfl rfl rfl
  | openConnection h =>
    unfold openConnection? at h
    obtain ⟨v, hv, heq⟩ := Option.map_eq_some_iff.mp h
    unfold enter? at hv
    split at hv
    · cases hv
    · cases hv
      cases heq
      exact .started rfl rfl rfl fun _ => Role.noConfusion
  | startRequest line client => exact .started rfl rfl rfl fun _ => Role.noConfusion
  | startWatchdog device policy => exact .started rfl rfl rfl fun _ => Role.noConfusion
  | cancelSchedules => exact ⟨.inr rfl, .inl rfl, fun t ht => .inl ⟨t, ht, rfl⟩⟩
  | takeTrail => exact ⟨.inl rfl, .inr rfl, fun t ht => .inl ⟨t, ht, rfl⟩⟩
  | takeHeard ref =>
    unfold World.takeHeard
    split
    · exact .still rfl rfl rfl
    · exact .still rfl rfl rfl
  | _ => exact .still rfl rfl rfl

/-- A question that is not answered leaves only the asker's place in line. -/
theorem Silent.wait {me : Nat} {op : Action} {cause : Cause} {deadline : Option Nat}
    (h : w.act me op = .wait cause deadline w') : Silent w w' := by
  cases op with
  | pauseUntil | awaitTickers | read | awaitReply | exchange =>
    simp only [World.act, World.exchange] at h
    repeat' split at h
    all_goals cases h
    all_goals exact .still rfl rfl rfl
  | lock ref =>
    simp only [World.act, World.lockFor] at h
    repeat' split at h
    all_goals cases h
    all_goals exact .still rfl rfl rfl
  | _ => cases h

theorem Step.silent (h : Step w none w') : Silent w w' := by
  cases h.quiet with
  | control h => exact .control h
  | wait hact _ hschedules htrail htasks =>
    have hv := Silent.wait hact
    exact ⟨hschedules ▸ hv.schedules, htrail ▸ hv.trail, htasks ▸ hv.tasks⟩
  | still _ hschedules htrail htasks =>
    exact ⟨.inl hschedules, .inl htrail, fun t ht => .inl (htasks t ht)⟩

/-! ## Where workers come from -/

/-- A worker after a step went its course in this step, or is at its beginning. -/
theorem Effect.traced {e : Option Event} {t : Task} (h : Effect w e w') (hn : Numbered w)
    (ht : t ∈ w'.tasks) :
    (∃ u ∈ w.tasks, u.id = t.id ∧ u.role = t.role ∧
      Course w.intake u.program (own u.id e.toList) t.program) ∨
      ∃ worker : Worker, t = ⟨w.nextTask, worker.role, Program.done (.again worker)⟩ := by
  refine (h.origin hn ht).imp ?_ fun ⟨worker, _, hworker⟩ => ⟨worker, hworker⟩
  rintro ⟨u, hu, hid, hrole⟩
  refine ⟨u, hu, hid, hrole, ?_⟩
  rcases h.follows hn hu with ⟨p, hp, hcourse⟩ | ⟨reply, -, -, hgone⟩
  · rwa [← (h.numbered hn).eq_of_id hp ht hid]
  · exact absurd hid.symm (hgone t ht)

end World

end ChillerGateway
