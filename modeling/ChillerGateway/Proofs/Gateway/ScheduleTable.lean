import ChillerGateway.Proofs.Gateway.Errands
import ChillerGateway.Proofs.Gateway.Superseded
import ChillerGateway.Proofs.Gateway.Turns
import ChillerGateway.Proofs.Lookup

/-!
# The table of schedules and its tickers

The table holds the schedule in force on each device, and a ticker drives it.  A ticker outlives its
entry when the schedule is stopped or replaced, so several generations of one device can be about;
what keeps them apart is that a ticker clears the table under its own generation only.

* `Schedules.inForce` — the generation in force on a device.
* `Ticker.Drives` — a ticker drives a device's generation until it has cleared the table.
* `World.Driven` — the invariant that ties the table, the cancellations and the tickers together.
* `World.schedules_driven` — it holds in every run, and what follows for loads and exits.
-/

namespace ChillerGateway

/-! ## The table -/

namespace Schedules

variable {s : Schedules} {g : Nat}

/-- The generation of the schedule in force on a device. -/
def inForce (s : Schedules) (id : String) : Option Nat := (s.get? id).map (·.generation)

theorem lookup_without (id id' : String) (active : List (String × ActiveSchedule)) :
    (without id active).lookup id' = if id' = id then none else active.lookup id' := by
  unfold without
  split
  · rename_i h
    rw [h]
    exact Table.lookup_filter_self active id
  · rename_i h
    exact Table.lookup_filter_ne active h

theorem inForce_release (s : Schedules) (id id' : String) :
    (s.release id).inForce id' = if id' = id then none else s.inForce id' := by
  unfold inForce get? release
  rw [lookup_without]
  split <;> rfl

theorem inForce_load (s : Schedules) (id id' : String) (schedule : Schedule) (now : Nat) :
    (s.load id schedule now).2.inForce id' =
      if id' = id then some (s.generations + 1) else s.inForce id' := by
  unfold inForce get? load
  simp only [List.lookup_cons]
  by_cases h : id' = id
  · simp [h]
  · have hne : (id' == id) = false := by simpa using h
    simp only [hne, if_neg h]
    show ((without id s.active).lookup id').map _ = _
    rw [lookup_without, if_neg h]

/-- An entry is cleared only by its own generation. -/
theorem get?_retire (s : Schedules) (id id' : String) (g : Nat) :
    (s.retire id g).get? id' =
      if id' = id ∧ s.inForce id = some g then none else s.get? id' := by
  have hown : (s.get? id).any (·.generation = g) = true ↔ s.inForce id = some g := by
    unfold inForce
    cases s.get? id <;> simp
  unfold retire
  split
  · rename_i h
    rw [hown] at h
    unfold get?
    simp only [lookup_without, h, and_true]
  · rename_i h
    rw [hown] at h
    rw [if_neg fun hx => h hx.2]

theorem inForce_retire (s : Schedules) (id id' : String) (g : Nat) :
    (s.retire id g).inForce id' =
      if id' = id ∧ s.inForce id = some g then none else s.inForce id' := by
  show ((s.retire id g).get? id').map _ = _
  rw [get?_retire]
  split <;> rfl

/-- The table after a question. -/
def after (s : Schedules) (now : Nat) : Action → Schedules
  | .loadSchedule device schedule => (s.load device.id schedule now).2
  | .stopSchedule id => s.release id
  | .retire id generation => s.retire id generation
  | _ => s

/-- Only a load puts a schedule in force, under a new generation. -/
theorem inForce_of_after {now : Nat} {op : Action} {id : String}
    (h : (s.after now op).inForce id = some g) :
    s.inForce id = some g ∨
      ∃ device schedule, op = .loadSchedule device schedule ∧ device.id = id ∧
        g = s.generations + 1 := by
  cases op with
  | loadSchedule device schedule =>
    rw [after, inForce_load] at h
    split at h
    · rename_i hid
      exact .inr ⟨device, schedule, rfl, hid.symm, (Option.some.inj h).symm⟩
    · exact .inl h
  | stopSchedule id' =>
    rw [after, inForce_release] at h
    split at h
    · cases h
    · exact .inl h
  | retire id' generation =>
    rw [after, inForce_retire] at h
    split at h
    · cases h
    · exact .inl h
  | _ => exact .inl h

/-- A generation stays in force until it is cancelled or retires. -/
theorem inForce_after {id : String} (h : s.inForce id = some g) (now : Nat) (op : Action) :
    (s.after now op).inForce id = some g ∨ (s.after now op).isCancelled g = true ∨
      op = .retire id g := by
  have hrelease : ∀ id', (s.release id').inForce id = some g ∨
      (s.release id').isCancelled g = true := by
    intro id'
    rw [inForce_release]
    split
    · rename_i hid
      subst hid
      exact .inr (isCancelled_release_of_generation h)
    · exact .inl h
  cases op with
  | loadSchedule device schedule =>
    rw [after, inForce_load]
    split
    · rename_i hid
      subst hid
      exact .inr (.inl (isCancelled_release_of_generation h))
    · exact .inl h
  | stopSchedule id' => exact (hrelease id').imp_right .inl
  | retire id' generation =>
    rw [after, inForce_retire]
    split
    · rename_i hid
      obtain ⟨rfl, hid⟩ := hid
      exact .inr (.inr (by rw [Option.some.inj (hid.symm.trans h)]))
    · exact .inl h
  | _ => exact .inl h

theorem generations_after (s : Schedules) (now : Nat) (op : Action) :
    s.generations ≤ (s.after now op).generations := by
  cases op with
  | loadSchedule => exact Nat.le_succ _
  | retire id generation =>
    show s.generations ≤ (s.retire id generation).generations
    unfold retire
    split <;> exact Nat.le_refl _
  | _ => exact Nat.le_refl _

end Schedules

theorem World.act_schedules (w : World) (me : Nat) (op : Action) :
    (w.act me op).world.schedules = w.schedules.after w.now op := by
  cases op with
  | pauseUntil | awaitTickers | awaitReply | exchange | lock | unlock | countRequest =>
    simp only [World.act, World.exchange, World.lockFor, World.unlock, World.countRequest,
      Schedules.after]
    repeat' split
    all_goals rfl
  | read index deadline =>
    simp only [World.act]
    split
    · rename_i heq
      obtain ⟨clients, rfl⟩ := incoming_eq heq
      rfl
    · rfl
  | _ => rfl

/-! ## Tickers -/

/-- Whether a question may change the table. -/
def Action.changesTable : Action → Bool
  | .loadSchedule .. | .stopSchedule _ | .retire .. => true
  | _ => false

namespace Ticker

/-- A ticker drives a generation of a device: it leaves the table alone until it clears it of its
own entry, and that is the last that it does. -/
def Drives (id : String) (g : Nat) : Work RoundEnd → Prop
  | Program.done (.ended _) => False
  | Program.done (.again worker) =>
    ∃ t : Ticker, worker = .ticker t ∧ t.device.id = id ∧ t.generation = g
  | Program.ask op next =>
    (op = .retire id g ∧ ∀ a, ∃ reply, next a = Program.done (.ended reply)) ∨
      Action.changesTable op = false ∧ ∀ a, Drives id g (next a)

variable {id : String} {g : Nat}

theorem drives_bind {α : Type} {p : Work α} {k : α → Work RoundEnd} {Q : α → Prop}
    (hp : p.Along (Action.changesTable · = false) Q) (hk : ∀ a, Q a → Drives id g (k a)) :
    Drives id g (p.bind k) := by
  induction p with
  | done a => exact hk a hp
  | ask op next ih => exact .inr ⟨hp.1, fun a => ih a (hp.2 a)⟩

theorem drives_round (t : Ticker) (intake : Intake) :
    Drives t.device.id t.generation ((Worker.ticker t).round intake) := by
  have hfinish : Drives t.device.id t.generation (t.finish.bind ends) :=
    .inl ⟨rfl, fun _ => ⟨none, rfl⟩⟩
  have htick : ∀ now, (t.runner.tick (apply t.device) now).Along (Action.changesTable · = false)
      fun _ => True := by
    intro now
    have hmade : Work.Made (Action.changesTable · = false) (Errand.Locked fun _ => True)
        (fun _ => True) (t.runner.tick (apply t.device) now) := by
      refine Worker.made_tick ?_ (fun _ => trivial) now t.runner
      rfl
    refine hmade.along (fun _ h => h) ?_
    rintro β _ ⟨e, -⟩
    refine Errand.along_locked rfl rfl fun op hop => ?_
    cases op with
    | isOnline | exchange | audit => rfl
    | _ => cases hop
  rw [round_eq]
  refine .inr ⟨rfl, fun (cancelled : Bool) => ?_⟩
  cases cancelled with
  | true => exact hfinish
  | false =>
    refine .inr ⟨rfl, fun now => ?_⟩
    show Drives _ _ (((t.runner.tick (apply t.device) now).bind t.conclude).bind ends)
    rw [Program.bind_assoc]
    refine drives_bind (htick now) fun ticked _ => ?_
    obtain ⟨result, runner⟩ := ticked
    unfold conclude
    simp only
    split
    · exact Or.inr ⟨rfl, fun _ => Or.inr ⟨rfl, fun _ => ⟨_, rfl, rfl, rfl⟩⟩⟩
    · exact hfinish

/-- What is driven is one device's. -/
theorem Drives.eq {id' : String} {p : Work RoundEnd} (h : Drives id g p) (h' : Drives id' g p) :
    id = id' := by
  induction p with
  | done r =>
    cases r with
    | ended => exact h.elim
    | again worker =>
      obtain ⟨t, rfl, rfl, -⟩ := h
      obtain ⟨t', heq, rfl, -⟩ := h'
      rw [Worker.ticker.inj heq]
  | ask op next ih =>
    rcases h with ⟨rfl, -⟩ | ⟨hop, hnext⟩
    · rcases h' with ⟨hop', -⟩ | ⟨hop', -⟩
      · exact (Action.retire.inj hop').1
      · cases hop'
    · rcases h' with ⟨rfl, -⟩ | ⟨-, hnext'⟩
      · cases hop
      · exact ih (Action.somehow op) (hnext _) (hnext' _)

/-- In its course a ticker goes on to drive its generation without a change of the table, or ends
with clearing it. -/
theorem Drives.course {intake : Intake} {p q : Work RoundEnd} {es : List Answered}
    (h : Drives id g p) (hc : Course intake p es q) :
    (Drives id g q ∧ ∀ x ∈ es, x.op.changesTable = false) ∨
      (∃ reply, q = Program.done (.ended reply)) ∧ ∃ x ∈ es, x.op = .retire id g := by
  induction hc with
  | start => exact .inl ⟨h, fun x hx => by cases hx⟩
  | @answered es op next q a _ hr ih =>
    rcases ih with ⟨⟨hop, hend⟩ | ⟨hop, hnext⟩, hes⟩ | ⟨⟨reply, heq⟩, -⟩
    · subst hop
      obtain ⟨reply, hreply⟩ := hend a
      refine .inr ⟨⟨reply, (hr.eq rfl).trans hreply⟩, ⟨.retire id g, a⟩, by simp, rfl⟩
    · refine .inl ⟨?_, List.forall_mem_append.mpr ⟨hes, List.forall_mem_singleton.mpr hop⟩⟩
      cases hr with
      | now => exact hnext a
      | later time => exact .inr ⟨rfl, fun _ => hnext a⟩
    · cases heq
  | again _ ih =>
    rcases ih with ⟨⟨t, rfl, rfl, rfl⟩, hes⟩ | ⟨⟨reply, heq⟩, -⟩
    · exact .inl ⟨drives_round t intake, hes⟩
    · cases heq

end Ticker

/-! ## Other workers -/

/-- Whether a question clears the table of a generation. -/
def Action.retires : Action → Bool
  | .retire .. => true
  | _ => false

namespace Worker

/-- A worker keeps its role from round to round. -/
theorem Continues.role {worker next : Worker} (h : worker.Continues next) :
    next.role = worker.role := by
  cases worker with
  | ticker t =>
    cases next with
    | ticker t' => exact congrArg Role.ticker h.2
    | watchdog | connection | request => cases h
  | watchdog w =>
    cases next with
    | watchdog w' => exact congrArg Role.watchdog h.1
    | ticker | connection | request => cases h
  | connection c =>
    cases next with
    | connection c' => exact congrArg Role.connection h.1
    | ticker | watchdog | request => cases h
  | request => cases h

/-- A worker that is no ticker never clears the table, and never becomes a ticker. -/
def Spares (p : Work RoundEnd) : Prop :=
  p.Along (Action.retires · = false) fun r =>
    ∀ worker, r = .again worker → ∀ g, worker.role ≠ .ticker g

theorem spares_round {worker : Worker} (h : ∀ g, worker.role ≠ .ticker g)
    (intake : Intake) : Spares (worker.round intake) := by
  have hround : (worker.round intake).Along (Action.retires · = false) worker.Leaves := by
    refine (worker.made intake).along ?_ ?_
    · intro op hop
      cases op with
      | retire id generation =>
        obtain ⟨t, rfl, -, -⟩ := hop
        exact absurd rfl (h t.generation)
      | _ => rfl
    · rintro β _ ⟨e, -⟩
      refine Errand.along_locked rfl rfl fun op hop => ?_
      cases op with
      | isOnline | exchange | audit => rfl
      | _ => cases hop
  refine hround.mono (fun _ hop => hop) ?_
  rintro r hr next rfl
  rw [Continues.role hr]
  exact h

theorem Spares.course {intake : Intake} {p q : Work RoundEnd} {es : List Answered}
    (h : Spares p) (hc : Course intake p es q) :
    Spares q ∧ ∀ x ∈ es, x.op.retires = false :=
  hc.along (W := fun worker => ∀ g, worker.role ≠ .ticker g)
    (fun _ hworker => spares_round hworker intake) (fun _ => rfl) h

end Worker

/-- A task that drives a generation of a device. -/
def Task.Drives (t : Task) (id : String) (g : Nat) : Prop :=
  t.role = .ticker g ∧ Ticker.Drives id g t.program

namespace World

variable {w w' : World} {e : Option Event}

/-! ## Steps -/

/-- The ticker that a load starts. -/
def tickerOf (w : World) (device : Handle) (schedule : Schedule) : Task :=
  ⟨w.nextTask, .ticker (w.schedules.generations + 1),
    Program.done (.again (.ticker ⟨device, w.schedules.generations + 1,
      Runner.start { schedule } w.now⟩))⟩

theorem drives_tickerOf (w : World) (device : Handle) (schedule : Schedule) :
    (w.tickerOf device schedule).Drives device.id (w.schedules.generations + 1) :=
  ⟨rfl, _, rfl, rfl, rfl⟩

/-- Who is told something is not the worker that the step starts. -/
theorem Step.task_ne {x : Event} (h : Step w (some x) w') (hn : Numbered w) :
    w.nextTask ≠ x.task := by
  rcases h.told.2 with hop | ⟨t, ht, hid, -⟩
  · rw [hop]
    exact Nat.ne_of_gt hn.next
  · rw [← hid]
    exact Nat.ne_of_gt (hn.known t ht).2

theorem Step.load {task : Nat} {device : Handle} {schedule : Schedule}
    (h : Step w (some ⟨task, .loadSchedule device schedule, ()⟩) w') (hn : Numbered w) :
    w.tickerOf device schedule ∈ w'.tasks := by
  rw [h.told.1.mem_tasks (h.task_ne hn)]
  exact List.mem_append_right _ (List.mem_singleton_self _)

/-- A ticker that a step starts is that of a load. -/
theorem Step.started {t : Task} {g : Nat} (h : Step w e w') (hn : Numbered w) (ht : t ∈ w'.tasks)
    (hid : t.id = w.nextTask) (hrole : t.role = .ticker g) :
    ∃ task device schedule, e = some ⟨task, .loadSchedule device schedule, ()⟩ ∧
      t = w.tickerOf device schedule := by
  have hold : t ∉ w.tasks := fun ht => Nat.ne_of_lt (hn.known t ht).2 hid
  cases e with
  | none =>
    rcases h.silent.tasks t ht with ⟨u, hu, huid⟩ | hother
    · exact absurd (huid.trans hid) (Nat.ne_of_lt (hn.known u hu).2)
    · exact absurd hrole (hother g)
  | some x =>
    rw [h.told.1.mem_tasks (hid ▸ h.task_ne hn)] at ht
    rcases act_tasks w x.task x.asked.op with htasks | ⟨device, schedule, hop⟩
    · exact absurd (htasks ▸ ht) hold
    · obtain ⟨task, op, a⟩ := x
      cases hop
      refine ⟨task, device, schedule, rfl, ?_⟩
      exact List.mem_singleton.mp ((List.mem_append.mp ht).resolve_left hold)

/-- The table after a step: what a question made of it, or the same with all cancelled. -/
theorem Step.table (h : Step w e w') :
    (∃ x ∈ e, w'.schedules = w.schedules.after w.now x.asked.op) ∨
      e = none ∧ w'.schedules.active = w.schedules.active ∧
        w'.schedules.generations = w.schedules.generations := by
  cases e with
  | none =>
    refine .inr ⟨rfl, ?_⟩
    rcases h.silent.schedules with hs | hs <;> rw [hs] <;> exact ⟨rfl, rfl⟩
  | some x => exact .inl ⟨x, rfl, h.told.1.schedules.trans (act_schedules w _ _)⟩

/-- Only a load, a stop and a ticker's end change an entry. -/
theorem Step.get?_eq (h : Step w e w') (hop : ∀ x ∈ e, x.asked.op.changesTable = false) :
    w'.schedules.get? = w.schedules.get? := by
  rcases h.table with ⟨x, hx, hs⟩ | ⟨-, hs, -⟩
  · have hchange := hop x hx
    rw [hs]
    obtain ⟨task, op, a⟩ := x
    cases op with
    | loadSchedule | stopSchedule | retire => cases hchange
    | _ => rfl
  · unfold Schedules.get?
    rw [hs]

theorem Step.generations_le (h : Step w e w') :
    w.schedules.generations ≤ w'.schedules.generations := by
  rcases h.table with ⟨x, -, hs⟩ | ⟨-, -, hs⟩
  · rw [hs]
    exact Schedules.generations_after _ _ _
  · exact Nat.le_of_eq hs.symm

/-! ## The invariant -/

/-- The table, the cancelled generations and the tickers agree. -/
structure Driven (w : World) : Prop where
  numbered : Numbered w
  known : ∀ t ∈ w.tasks, ∀ g, t.role = .ticker g → g ≤ w.schedules.generations
  /-- Each generation has a ticker of its own. -/
  distinct : ∀ t ∈ w.tasks, ∀ u ∈ w.tasks, ∀ g, t.role = .ticker g → u.role = .ticker g → t = u
  /-- A ticker drives its generation until it has ended. -/
  working : ∀ t ∈ w.tasks, ∀ g, t.role = .ticker g →
    (∃ id, Ticker.Drives id g t.program) ∨ ∃ reply, t.program = Program.done (.ended reply)
  spare : ∀ t ∈ w.tasks, (∀ g, t.role ≠ .ticker g) → Worker.Spares t.program
  /-- A generation that is driven and not cancelled is in force. -/
  current : ∀ t ∈ w.tasks, ∀ id g, t.Drives id g → w.schedules.isCancelled g = false →
    w.schedules.inForce id = some g
  /-- A generation in force is driven. -/
  driven : ∀ id g, w.schedules.inForce id = some g → ∃ t ∈ w.tasks, t.Drives id g

namespace Driven

theorem start (auth : Option String) (settings : Settings) (metrics : Option Metrics)
    (device : Device) (remark : String → String) :
    Driven (start auth settings metrics device remark) where
  numbered := numbered_start auth settings metrics device remark
  known := fun t ht => by cases ht
  distinct := fun t ht => by cases ht
  working := fun t ht => by cases ht
  spare := fun t ht => by cases ht
  current := fun t ht => by cases ht
  driven := fun id g h => by cases h

/-- Who clears the table of a generation drives it. -/
theorem retires {x : Event} {id : String} {g : Nat} (hd : Driven w) (h : Step w (some x) w')
    (hop : x.task = operator → x.asked.op.retires = false) (hx : x.asked.op = .retire id g) :
    ∃ t ∈ w.tasks, t.id = x.task ∧ t.Drives id g := by
  rcases h.told.2 with hoperator | ⟨t, ht, hid, next, hp⟩
  · exact absurd (hop hoperator) (by rw [hx]; exact Bool.noConfusion)
  · refine ⟨t, ht, hid, ?_⟩
    by_cases hrole : ∃ g', t.role = .ticker g'
    · obtain ⟨g', hg'⟩ := hrole
      rcases hd.working t ht g' hg' with ⟨id', hdrives⟩ | ⟨reply, hend⟩
      · have hask := hdrives
        rw [hp] at hask
        rcases hask with ⟨hretire, -⟩ | ⟨hchange, -⟩
        · obtain ⟨rfl, rfl⟩ := Action.retire.inj (hx.symm.trans hretire)
          exact ⟨hg', hdrives⟩
        · rw [hx] at hchange
          cases hchange
      · cases hp.symm.trans hend
    · have hspare := hd.spare t ht fun g' hg' => hrole ⟨g', hg'⟩
      rw [hp] at hspare
      have hnot : x.asked.op.retires = false := hspare.1
      rw [hx] at hnot
      cases hnot

section

variable (hd : Driven w) (h : Step w e w')

include hd h

/-- A ticker after a step has its generation from before, or from a load in this step. -/
theorem traced {t : Task} {g : Nat} (ht : t ∈ w'.tasks) (hrole : t.role = .ticker g) :
    (∃ u ∈ w.tasks, u.id = t.id ∧ u.role = .ticker g ∧
      Course w.intake u.program (own u.id e.toList) t.program) ∨
    ∃ task device schedule, e = some ⟨task, .loadSchedule device schedule, ()⟩ ∧
      t = w.tickerOf device schedule ∧ g = w.schedules.generations + 1 := by
  rcases h.effect.traced hd.numbered ht with ⟨u, hu, hid, hsame, hc⟩ | ⟨worker, hnew⟩
  · exact .inl ⟨u, hu, hid, hsame.trans hrole, hc⟩
  · have hid : t.id = w.nextTask := by rw [hnew]
    obtain ⟨task, device, schedule, he, rfl⟩ := h.started hd.numbered ht hid hrole
    exact .inr ⟨task, device, schedule, he, rfl, (Role.ticker.inj hrole).symm⟩

theorem step_known : ∀ t ∈ w'.tasks, ∀ g, t.role = .ticker g → g ≤ w'.schedules.generations := by
  intro t ht g hrole
  rcases hd.traced h ht hrole with ⟨u, hu, -, hsame, -⟩ | ⟨task, device, schedule, rfl, -, rfl⟩
  · exact Nat.le_trans (hd.known u hu g hsame) h.generations_le
  · rw [h.told.1.schedules]
    exact Nat.le_refl _

theorem step_distinct : ∀ t ∈ w'.tasks, ∀ u ∈ w'.tasks, ∀ g,
    t.role = .ticker g → u.role = .ticker g → t = u := by
  intro t ht u hu g hrole hrole'
  refine (h.effect.numbered hd.numbered).eq_of_id ht hu ?_
  rcases hd.traced h ht hrole with ⟨x, hx, hid, hsame, -⟩ | ⟨-, _, _, -, rfl, hg⟩
  · rcases hd.traced h hu hrole' with ⟨y, hy, hid', hsame', -⟩ | ⟨-, _, _, -, rfl, hg⟩
    · rw [← hid, ← hid', hd.distinct x hx y hy g hsame hsame']
    · exact absurd (hd.known x hx g hsame) (by omega)
  · rcases hd.traced h hu hrole' with ⟨y, hy, hid', hsame', -⟩ | ⟨-, _, _, -, rfl, -⟩
    · exact absurd (hd.known y hy g hsame') (by omega)
    · rfl

theorem step_working : ∀ t ∈ w'.tasks, ∀ g, t.role = .ticker g →
    (∃ id, Ticker.Drives id g t.program) ∨ ∃ reply, t.program = Program.done (.ended reply) := by
  intro t ht g hrole
  rcases hd.traced h ht hrole with ⟨u, hu, -, hsame, hc⟩ | ⟨-, device, schedule, -, rfl, rfl⟩
  · rcases hd.working u hu g hsame with ⟨id, hdrives⟩ | ⟨reply, hend⟩
    · exact (hdrives.course hc).imp (fun hx => ⟨id, hx.1⟩) And.left
    · rw [hend] at hc
      exact .inr ⟨reply, hc.ended.2⟩
  · exact .inl ⟨device.id, (w.drives_tickerOf device schedule).2⟩

theorem step_spare : ∀ t ∈ w'.tasks, (∀ g, t.role ≠ .ticker g) → Worker.Spares t.program := by
  intro t ht hrole
  rcases h.effect.traced hd.numbered ht with ⟨u, hu, -, hsame, hc⟩ | ⟨worker, rfl⟩
  · exact ((hd.spare u hu (hsame ▸ hrole)).course hc).1
  · intro worker' heq
    rw [← RoundEnd.again.inj heq]
    exact hrole

theorem step_current (hop : ∀ x ∈ e, x.task = operator → x.asked.op.retires = false) :
    ∀ t ∈ w'.tasks, ∀ id g, t.Drives id g → w'.schedules.isCancelled g = false →
      w'.schedules.inForce id = some g := by
  rintro t ht id g ⟨hrole, hdrives⟩ hgoes
  rcases hd.traced h ht hrole with ⟨u, hu, hid, hsame, hc⟩ | ⟨task, device, schedule, rfl, rfl, rfl⟩
  · -- It drove the same device before this step, so that generation was in force.
    have hbefore : Ticker.Drives id g u.program ∧
        ∀ x ∈ own u.id e.toList, x.op.changesTable = false := by
      rcases hd.working u hu g hsame with ⟨id', hdrives'⟩ | ⟨reply, hend⟩
      · rcases hdrives'.course hc with ⟨hafter, hes⟩ | ⟨⟨reply, hend⟩, -⟩
        · exact ⟨hdrives.eq hafter ▸ hdrives', hes⟩
        · rw [hend] at hdrives
          exact hdrives.elim
      · rw [hend] at hc
        rw [hc.ended.2] at hdrives
        exact hdrives.elim
    have hwent : w.schedules.isCancelled g = false := by
      rw [Bool.eq_false_iff] at hgoes ⊢
      exact fun hx => hgoes (h.effect.cancelled hx)
    have hin := hd.current u hu id g ⟨hsame, hbefore.1⟩ hwent
    rcases h.table with ⟨x, rfl, hs⟩ | ⟨rfl, -⟩
    · rw [hs] at hgoes ⊢
      rcases Schedules.inForce_after hin w.now x.asked.op with hkept | hcancelled | hretire
      · exact hkept
      · rw [hcancelled] at hgoes
        cases hgoes
      · obtain ⟨v, hv, hvx, hdriver⟩ := hd.retires h (hop x rfl) hretire
        have huv := hd.distinct u hu v hv g hsame hdriver.1
        have hmine : x.asked ∈ own u.id (some x).toList := by
          rw [huv, hvx]
          exact (own_self x.task x.asked).symm ▸ List.mem_singleton_self _
        have hchange := hbefore.2 x.asked hmine
        rw [hretire] at hchange
        cases hchange
    · unfold Schedules.inForce
      rw [h.get?_eq (by simp)]
      exact hin
  · -- It was just loaded.
    have hload := h.told.1.schedules
    obtain ⟨t, heq, rfl, -⟩ := hdrives
    obtain rfl := Worker.ticker.inj heq
    rw [hload]
    exact (Schedules.inForce_load _ _ _ _ _).trans (if_pos rfl)

theorem step_driven : ∀ id g, w'.schedules.inForce id = some g →
    ∃ t ∈ w'.tasks, t.Drives id g := by
  intro id g hin
  have hold : w.schedules.inForce id = some g → ∃ t ∈ w'.tasks, t.Drives id g := by
    intro hbefore
    obtain ⟨t, ht, hrole, hdrives⟩ := hd.driven id g hbefore
    rcases h.effect.follows hd.numbered ht with ⟨p, hp, hc⟩ | ⟨reply, hend, -⟩
    · rcases hdrives.course hc with ⟨hafter, -⟩ | ⟨-, x, hx, hretire⟩
      · exact ⟨_, hp, hrole, hafter⟩
      · -- It has just cleared the table, so the generation is not in force.
        obtain ⟨y, hy, rfl⟩ := List.mem_map.mp hx
        have hy := Option.mem_toList.mp (List.mem_of_mem_filter hy)
        rcases h.table with ⟨z, hz, hs⟩ | ⟨he, -⟩
        · obtain rfl := Option.mem_unique hy hz
          rw [hs, hretire, Schedules.after, Schedules.inForce_retire, if_pos ⟨rfl, hbefore⟩] at hin
          cases hin
        · rw [he] at hy
          cases hy
    · rw [hend] at hdrives
      exact hdrives.elim
  rcases h.table with ⟨x, hx, hs⟩ | ⟨rfl, -⟩
  · rw [hs] at hin
    rcases Schedules.inForce_of_after hin with hbefore | ⟨device, schedule, hop, rfl, rfl⟩
    · exact hold hbefore
    · obtain ⟨task, op, a⟩ := x
      cases hop
      rw [Option.mem_def.mp hx] at h
      exact ⟨_, h.load hd.numbered, w.drives_tickerOf device schedule⟩
  · unfold Schedules.inForce at hin
    rw [h.get?_eq (by simp)] at hin
    exact hold hin

/-- **Every step keeps the invariant.** -/
theorem step (hop : ∀ x ∈ e, x.task = operator → x.asked.op.retires = false) : Driven w' where
  numbered := h.effect.numbered hd.numbered
  known := hd.step_known h
  distinct := hd.step_distinct h
  working := hd.step_working h
  spare := hd.step_spare h
  current := hd.step_current h hop
  driven := hd.step_driven h

end

/-- Who clears the table ends. -/
theorem ended {x : Event} {id : String} {g : Nat} (hd : Driven w) (h : Step w (some x) w')
    (hx : x.asked.op = .retire id g) {t u : Task} (ht : t ∈ w.tasks) (hid : t.id = x.task)
    (hdrives : t.Drives id g) (hu : u ∈ w'.tasks) (huid : u.id = x.task) :
    ∃ reply, u.program = Program.done (.ended reply) := by
  rcases h.effect.traced hd.numbered hu with ⟨v, hv, hvid, -, hc⟩ | ⟨worker, rfl⟩
  · obtain rfl := hd.numbered.eq_of_id ht hv (hid.trans (hvid.trans huid).symm)
    rcases hdrives.2.course hc with ⟨-, hes⟩ | ⟨hend, -⟩
    · have hown : own t.id (some x).toList = [x.asked] := by
        rw [hid]
        exact own_self x.task x.asked
      have hchange := hes x.asked (hown ▸ List.mem_singleton_self _)
      rw [hx] at hchange
      cases hchange
    · exact hend
  · exact absurd huid (h.task_ne hd.numbered)

end Driven

/-- The invariant holds in every run in which the operator leaves the tickers' entries alone. -/
theorem Run.driven {v : World} {es : List Event} (h : Run v es w) (hv : Driven v)
    (hop : ∀ x ∈ es, x.task = operator → x.asked.op.retires = false) : Driven w := by
  induction h with
  | start => exact hv
  | step _ hs ih =>
    rw [List.forall_mem_append] at hop
    exact (ih hop.1).step hs fun x hx => hop.2 x (Option.mem_toList.mpr hx)

/-- A later load has a later generation. -/
theorem Run.generations_le {v : World} {es : List Event} (h : Run v es w) :
    v.schedules.generations ≤ w.schedules.generations := by
  induction h with
  | start => exact Nat.le_refl _
  | step _ hs ih => exact Nat.le_trans ih hs.generations_le

/-- A load puts its schedule in force under the next generation. -/
theorem Step.inForce_load {x : Event} {device : Handle} {schedule : Schedule}
    (h : Step w (some x) w') (hx : x.asked.op = .loadSchedule device schedule) :
    w'.schedules.inForce device.id = some (w.schedules.generations + 1) ∧
      w'.schedules.generations = w.schedules.generations + 1 := by
  have hs := h.told.1.schedules
  rw [act_schedules, hx] at hs
  rw [hs]
  exact ⟨(Schedules.inForce_load _ _ _ _ _).trans (if_pos rfl), rfl⟩

/-- **The table of schedules, the cancelled generations and the tickers agree in every run.** -/
theorem schedules_driven {auth : Option String} {settings : Settings} {metrics : Option Metrics}
    {device : Device} {remark : String → String} {es : List Event}
    (h : Run (start auth settings metrics device remark) es w)
    (hop : ∀ x ∈ es, x.task = operator → x.asked.op.retires = false) :
    -- A ticker drives one generation of one device, until it has ended.
    (∀ t ∈ w.tasks, ∀ g, t.role = .ticker g →
      (∃! id, t.Drives id g) ∨ ∃ reply, t.program = Program.done (.ended reply)) ∧
    -- At most one of those that drive a device is not cancelled, and its generation is in force.
    (∀ t ∈ w.tasks, ∀ id g, t.Drives id g → w.schedules.isCancelled g = false →
      w.schedules.inForce id = some g ∧
      ∀ u ∈ w.tasks, ∀ g', u.Drives id g' → w.schedules.isCancelled g' = false → u = t) ∧
    -- A generation in force is driven.
    (∀ id g, w.schedules.inForce id = some g → ∃ t ∈ w.tasks, t.Drives id g) ∧
    -- Only who drives a generation clears the table of it, at its end, and of no other entry.
    (∀ x w', Step w (some x) w' → (x.task = operator → x.asked.op.retires = false) →
      ∀ id g, x.asked.op = .retire id g →
        (∃ t ∈ w.tasks, t.id = x.task ∧ t.Drives id g) ∧
        (∀ u ∈ w'.tasks, u.id = x.task → ∃ reply, u.program = Program.done (.ended reply)) ∧
        ∀ id', w'.schedules.get? id' =
          if id' = id ∧ w.schedules.inForce id = some g then none
          else w.schedules.get? id') ∧
    -- Nothing but that, a load and a stop changes the table.
    (∀ e w', Step w e w' → (∀ x ∈ e, x.asked.op.changesTable = false) →
      w'.schedules.get? = w.schedules.get?) ∧
    -- No later load has the generation of an earlier one.
    (∀ x w', Step w (some x) w' → ∀ device schedule,
      x.asked.op = .loadSchedule device schedule →
        ∃ g, w'.schedules.inForce device.id = some g ∧ ∀ later v y v', Run w' later v →
          Step v (some y) v' → ∀ device' schedule', y.asked.op = .loadSchedule device' schedule' →
            ∃ g', v'.schedules.inForce device'.id = some g' ∧ g < g') := by
  have hd : Driven w := h.driven (.start auth settings metrics device remark) hop
  refine ⟨?_, ?_, hd.driven, ?_, fun e w' hs hx => hs.get?_eq hx, ?_⟩
  · intro t ht g hrole
    refine (hd.working t ht g hrole).imp_left ?_
    rintro ⟨id, hdrives⟩
    exact ⟨id, ⟨hrole, hdrives⟩, fun id' h' => h'.2.eq hdrives⟩
  · intro t ht id g hdrives hgoes
    have hin := hd.current t ht id g hdrives hgoes
    refine ⟨hin, ?_⟩
    intro u hu g' hdrives' hgoes'
    have hg := Option.some.inj (hin.symm.trans (hd.current u hu id g' hdrives' hgoes'))
    exact hd.distinct u hu t ht g (hg ▸ hdrives'.1) hdrives.1
  · intro x w' hs hop id g hx
    obtain ⟨t, ht, hid, hdrives⟩ := hd.retires hs hop hx
    refine ⟨⟨t, ht, hid, hdrives⟩, ?_, ?_⟩
    · intro u hu huid
      exact hd.ended hs hx ht hid hdrives hu huid
    · intro id'
      rw [hs.told.1.schedules, act_schedules, hx]
      exact Schedules.get?_retire _ _ _ _
  · intro x w' hs device schedule hx
    obtain ⟨hin, hgenerations⟩ := hs.inForce_load hx
    refine ⟨_, hin, ?_⟩
    intro later v y v' hlater hy device' schedule' hop'
    refine ⟨_, (hy.inForce_load hop').1, ?_⟩
    have := hlater.generations_le
    omega

/-- A replaced ticker that ends leaves the entry of the newer load, which is driven. -/
theorem schedules_driven_replaced :
    let w := (turns 1 4 (loaded (loaded bathside))).2
    (∀ t ∈ w.tasks, t.id ≠ 1) ∧ w.schedules.inForce defaultId = some 2 ∧
      ∃ t ∈ w.tasks, t.Drives defaultId 2 := by
  have hfirst : Run bathside _ (loaded bathside) := .single (.operate hold)
  have hsecond : Run (loaded bathside) _ (loaded (loaded bathside)) := .single (.operate hold)
  have h := schedules_driven ((hfirst.trans hsecond).trans (turns_run 1 4 _)) (by decide +kernel)
  have hin : (turns 1 4 (loaded (loaded bathside))).2.schedules.inForce defaultId = some 2 := by
    decide +kernel
  exact ⟨by decide +kernel, hin, h.2.2.1 defaultId 2 hin⟩

end World

end ChillerGateway
