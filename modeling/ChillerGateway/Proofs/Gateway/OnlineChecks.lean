import ChillerGateway.Proofs.Gateway.Conversation
import ChillerGateway.Proofs.Gateway.ScheduleTable

/-!
# Online checks

A command of a client and a target of a schedule look twice whether their device is online: before
they queue for its lock, and again when they have it.  Offline, either look is the end of them.

* `Work.Defers` — a program that gives up when it finds a device offline.
* `Gateway.defers_handling`, `Ticker.defers_apply` — lines of clients and targets of schedules do.
* `Refused` — a worker that looks whether a device is online, with what follows if it is not.
* `Course.refused` — every look of a worker other than a watchdog is of that kind.
* `Course.begins` — such a worker has found the device online under its lock when it begins a step
  of a driver.
-/

namespace ChillerGateway

open Work (Stretch)

/-- Whether a question only closes what was begun. -/
def Action.isClosing : Action → Bool
  | .unlock _ | .countError _ => true
  | _ => false

theorem Action.asksOnline_of_isClosing {op : Action} (h : op.isClosing = true) :
    op.asksOnline = false := by
  cases op with
  | isOnline => cases h
  | _ => rfl

namespace Work

variable {α β : Type} {r : α} {s : β} {p q : Work α}

/-! ## Giving up -/

/-- A program that only closes what was begun, and comes to this result. -/
def GivesUp (r : α) (p : Work α) : Prop := p.Along (fun op : Action => op.isClosing = true) (· = r)

/-- A program that gives up with this result when it finds a device offline. -/
def Defers (r : α) : Work α → Prop
  | Program.done _ => True
  | Program.ask op next => ∀ a,
      (Answered.foundOffline ⟨op, a⟩ = true → GivesUp r (next a)) ∧ Defers r (next a)

theorem GivesUp.bind {k : α → Work β} (h : GivesUp r p) (hk : GivesUp s (k r)) :
    GivesUp s (p.bind k) := Program.Along.bind h fun _ ha => ha ▸ hk

theorem defers_of_along {Q : α → Prop} (h : p.Along (fun op : Action => op.asksOnline = false) Q) :
    Defers r p := by
  induction p with
  | done a => trivial
  | ask op next ih =>
    refine fun a => ⟨fun hoff => ?_, ih a (h.2 a)⟩
    cases (Answered.foundOffline_of_other a h.1).symm.trans hoff

theorem GivesUp.defers (h : GivesUp r p) : Defers r p :=
  defers_of_along (h.mono (fun _ => Action.asksOnline_of_isClosing) fun _ h => h)

/-- The second program may go on with the failure of the first, but it has to give up, too. -/
theorem Defers.bind {k : α → Work β} (h : Defers r p) (hr : GivesUp s (k r))
    (hk : ∀ a, Defers s (k a)) : Defers s (p.bind k) := by
  induction p with
  | done a => exact hk a
  | ask op next ih => exact fun a => ⟨fun hoff => ((h a).1 hoff).bind hr, ih a (h a).2⟩

theorem defers_question {op : Action} {k : op.Answer → Work α} (hop : op.asksOnline = false)
    (hk : ∀ a, Defers r (k a)) : Defers r ((Work.ask op).bind k) := by
  refine fun a => ⟨fun hoff => ?_, hk a⟩
  cases (Answered.foundOffline_of_other a hop).symm.trans hoff

/-- A look whether a device is online. -/
theorem defers_check {ref : Nat} {k : Bool → Work α} (hoff : GivesUp r (k false))
    (hon : Defers r (k true)) : Defers r ((Work.ask (.isOnline ref)).bind k) := by
  intro online
  cases online with
  | false => exact ⟨fun _ => hoff, hoff.defers⟩
  | true => exact ⟨fun h => (by cases h), hon⟩

theorem defers_locked (ref : Nat) (h : Defers r p) : Defers r (Work.locked ref p) := by
  rw [locked_eq]
  refine defers_question rfl fun _ => h.bind ⟨rfl, fun _ => rfl⟩ fun a => ?_
  exact defers_question rfl fun _ => trivial

/-- A worker on its way still gives up when it finds the device offline. -/
theorem Defers.stretch {es : List Answered} (h : Defers r p) (hs : Stretch p es q) :
    Defers r q := by
  induction hs with
  | start => exact h
  | answered a _ ih => exact (ih a).2
  | delayed a time _ _ ih => exact fun _ => ⟨fun hoff => (by cases hoff), (ih a).2⟩

/-- At a look, a worker that gives up offline does so if the answer is no. -/
theorem Defers.gives_up {ref : Nat} {es : List Answered} {rest : Bool → Work α} (h : Defers r p)
    (hs : Stretch p es (Program.ask (I := Action.interface) (.isOnline ref) rest)) :
    GivesUp r (rest false) := (h.stretch hs false).1 rfl

end Work

/-! ## Lines and targets -/

open Work (Defers GivesUp)

/-- Steps of a driver are no looks at the flag. -/
theorem Work.defers_drive {α : Type} {r : Except Error α} (ref : Nat) (p : Attempt α) :
    Defers r (Work.drive ref p) :=
  Work.defers_of_along
    (Work.along_drive (P := fun op : Action => op.asksOnline = false) (fun _ => rfl) p)

namespace Gateway

theorem defers_execute (device : Handle) (c : Command) (client : String) :
    Defers (.error .reconnecting) (execute device c client) := by
  refine Work.defers_locked _ (Work.defers_check rfl ?_)
  exact Work.defers_of_along
    (Errand.along_run (P := fun op : Action => op.asksOnline = false) (fun _ => rfl) (fun _ => rfl)
      c client)

theorem defers_dispatch (device : Handle) (name : String) (r : Request) (client : String) :
    Defers (.error .reconnecting) (dispatch device name r client) := by
  unfold dispatch
  split
  · unfold loadSchedule
    split
    · trivial
    split
    · trivial
    · exact Work.defers_question rfl fun _ => trivial
  · exact Work.defers_question rfl fun _ => trivial
  · exact Work.defers_question rfl fun _ => trivial
  · split
    · trivial
    · exact defers_execute device _ client

theorem defers_serveCommand (name : String) (r : Request) (client : String) (began : Nat) :
    Defers (.error .reconnecting) (serveCommand name r client began) := by
  unfold serveCommand
  refine Work.defers_question rfl fun found => ?_
  cases found with
  | none => trivial
  | some device =>
    refine Work.defers_check rfl ((defers_dispatch device name r client).bind rfl fun result => ?_)
    cases result with
    | error e => trivial
    | ok result => exact Work.defers_question rfl fun _ => trivial

theorem defers_process (auth : Option String) (r : Request) (client : String) :
    Defers (.error .reconnecting) (process auth r client) := by
  unfold process
  split
  · trivial
  split
  · trivial
  · refine Work.defers_question rfl fun outset => ?_
    split
    · trivial
    split
    · exact Work.defers_question rfl fun _ => trivial
    · exact defers_serveCommand _ r client _

theorem defers_counted (result : Except Error Json) :
    Defers (.error .reconnecting) (counted result) := by
  cases result with
  | error e => exact Work.defers_question rfl fun _ => trivial
  | ok => trivial

/-- **A line that finds a device offline fails as reconnecting.** -/
theorem defers_handling (limited : Bool) (intake : Intake) (line client : String) :
    Defers (.error .reconnecting) (handling limited intake line client) := by
  have houtcome : Defers (.error .reconnecting) (outcome intake line client) := by
    unfold outcome
    split
    · trivial
    · exact defers_process intake.auth _ client
  have hserved : Defers (.error .reconnecting) ((outcome intake line client).bind counted) :=
    houtcome.bind ⟨rfl, fun _ => rfl⟩ defers_counted
  cases limited with
  | false => exact hserved
  | true =>
    refine Work.defers_question rfl fun allowed => ?_
    cases allowed with
    | true => exact hserved
    | false => exact defers_counted _

end Gateway

/-- **A target for a device that is found offline fails as reconnecting.** -/
theorem Ticker.defers_apply (device : Handle) (target : Binary64) :
    Defers (.error .reconnecting) (Ticker.apply device target) :=
  Work.defers_check rfl (Work.defers_locked _ (Work.defers_check rfl (Work.defers_drive _ _)))

/-! ## Workers -/

/-- A worker of that role looks whether a device is online, for a line of its client or for a target
of its schedule.  If the device is offline, that fails as reconnecting; the client is told so, and
the schedule ends. -/
inductive Refused (intake : Intake) (ref : Nat) : Role → (Bool → Work RoundEnd) → Prop where
  | line {index : Nat} {line client : String} {asked : List Answered} {rest}
      {k : Unit → Work RoundEnd} :
      Stretch (Gateway.handling true intake line client) asked (Program.ask (.isOnline ref) rest) →
      GivesUp (.error .reconnecting) (rest false) →
      Refused intake ref (.connection index) fun online =>
        (rest online).bind fun r => (Work.ask (.reply index (.ofResult r))).bind k
  | request {line client : String} {asked : List Answered} {rest} :
      Stretch (Gateway.handling false intake line client) asked (Program.ask (.isOnline ref) rest) →
      GivesUp (.error .reconnecting) (rest false) →
      Refused intake ref .request fun online =>
        (rest online).bind fun r => Program.done (.ended (some (.ofResult r)))
  | target {t : Ticker} {value : Binary64} {asked : List Answered} {rest conclude} :
      Stretch (Ticker.apply t.device value) asked (Program.ask (.isOnline ref) rest) →
      GivesUp (.error .reconnecting) (rest false) →
      (∀ e, conclude (.error e) = t.finish.bind Ticker.ends) →
      Refused intake ref (.ticker t.generation) fun online => (rest online).bind conclude

section

variable {intake : Intake} {ref : Nat} {asked : List Answered}

/-- What never looks at a flag does not do so on its way. -/
theorem not_looking {α : Type} {p : Work α} {Q : α → Prop} {next : Bool → Work α}
    (hp : p.Along (fun op : Action => op.asksOnline = false) Q) :
    ¬ Stretch p asked (Program.ask (I := Action.interface) (.isOnline ref) next) := by
  intro hs
  cases (hs.along hp fun _ => rfl).2.1

/-- Of two programs of which the second never looks at a flag, the first does. -/
theorem first_looks {α β : Type} {p : Work α} {k : α → Work β} {Q : β → Prop}
    {next : Bool → Work β}
    (hs : Stretch (p.bind k) asked (Program.ask (I := Action.interface) (.isOnline ref) next))
    (hk : ∀ a, (k a).Along (fun op : Action => op.asksOnline = false) Q) :
    ∃ rest, Stretch p asked (Program.ask (I := Action.interface) (.isOnline ref) rest) ∧
      next = fun a => (rest a).bind k :=
  hs.within_first hk (fun _ => rfl) fun h => by cases h

namespace Connection

variable {c : Connection}

theorem refused_serve {event : LineStream.Event} {next : Bool → Work Unit}
    (hs : Stretch (c.serve intake event) asked
      (Program.ask (I := Action.interface) (.isOnline ref) next)) (k : Unit → Work RoundEnd) :
    Refused intake ref (.connection c.index) fun online => (next online).bind k := by
  cases event with
  | line line =>
    cases hblank : (Text.trim line).isEmpty with
    | true =>
      rw [serve_blank hblank] at hs
      cases hs.of_done.2
    | false =>
      rw [serve_line hblank] at hs
      obtain ⟨rest, hrest, rfl⟩ :=
        first_looks hs (Q := fun _ => True) fun _ => ⟨rfl, fun _ => trivial⟩
      simp only [Program.bind_assoc]
      exact .line hrest ((Gateway.defers_handling true intake _ c.client).gives_up hrest)
  | oversized =>
    exact absurd hs (not_looking (Q := fun _ => True) ⟨rfl, fun _ => trivial⟩)
  | unreadable =>
    exact absurd hs (not_looking (Q := fun _ => True) ⟨rfl, fun _ => ⟨rfl, fun _ => trivial⟩⟩)
  | starved => cases hs.of_done.2

theorem refused_readMore {next : Bool → Work (Option Connection)}
    (hs : Stretch (c.readMore intake) asked
      (Program.ask (I := Action.interface) (.isOnline ref) next))
    (k : Option Connection → Work RoundEnd) :
    Refused intake ref (.connection c.index) fun online => (next online).bind k := by
  rw [readMore_eq] at hs
  rcases hs.question_other rfl with ⟨-, heq⟩ | ⟨settings, asked, -, hs⟩
  · cases heq
  rcases hs.question_other rfl with ⟨-, heq⟩ | ⟨time, asked, -, hs⟩
  · cases heq
  rcases hs.question_other rfl with ⟨-, heq⟩ | ⟨incoming, asked, -, hs⟩
  · cases heq
  cases incoming with
  | ended =>
    obtain ⟨rest, hrest, rfl⟩ := first_looks (Q := fun _ => True) hs fun _ => trivial
    simp only [Program.bind_assoc]
    exact refused_serve hrest _
  | bytes | idle | cancelled => cases (Stretch.of_done hs).2

theorem refused_round {next : Bool → Work RoundEnd}
    (hs : Stretch ((Worker.connection c).round intake) asked
      (Program.ask (I := Action.interface) (.isOnline ref) next)) :
    Refused intake ref (.connection c.index) next := by
  obtain ⟨rest, hrest, rfl⟩ :=
    first_looks (p := c.round intake) (Q := fun _ => True) hs fun _ => trivial
  obtain ⟨event, input, hnext⟩ : ∃ event input, c.input.next = (event, input) := ⟨_, _, rfl⟩
  by_cases hevent : event = .starved
  · subst hevent
    rw [round_starved hnext] at hrest
    exact refused_readMore hrest _
  · rw [round_event hnext hevent] at hrest
    obtain ⟨first, hfirst, rfl⟩ := first_looks (Q := fun _ => True) hrest fun _ => trivial
    simp only [Program.bind_assoc]
    exact refused_serve hfirst _

end Connection

namespace Ticker

variable {t : Ticker}

theorem along_finish (t : Ticker) :
    (t.finish.bind ends).Along (fun op : Action => op.asksOnline = false) fun _ => True :=
  ⟨rfl, fun _ => trivial⟩

theorem along_conclude (t : Ticker) (x : Except Error (Option Binary64) × Runner) :
    ((t.conclude x).bind ends).Along (fun op : Action => op.asksOnline = false) fun _ => True := by
  unfold conclude
  obtain ⟨result, runner⟩ := x
  simp only
  split
  · exact ⟨rfl, fun _ => ⟨rfl, fun _ => trivial⟩⟩
  · exact along_finish t

theorem refused_tick {now : Nat} {next : Bool → Work RoundEnd}
    (hs : Stretch (((t.runner.tick (apply t.device) now).bind t.conclude).bind ends) asked
      (Program.ask (I := Action.interface) (.isOnline ref) next)) :
    Refused intake ref (.ticker t.generation) next := by
  unfold Runner.tick Runner.tickTo at hs
  split at hs
  · exact absurd hs (not_looking (along_conclude t _))
  · split at hs
    · rw [Program.bind_eq, Program.bind_assoc, Program.bind_assoc] at hs
      obtain ⟨rest, hrest, rfl⟩ := first_looks (Q := fun _ => True) hs fun result => by
        cases result with
        | error e => exact along_conclude t _
        | ok _ => exact along_conclude t _
      exact .target hrest ((defers_apply t.device _).gives_up hrest) fun e => rfl
    · exact absurd hs (not_looking (along_conclude t _))

theorem refused_round {next : Bool → Work RoundEnd}
    (hs : Stretch ((Worker.ticker t).round intake) asked
      (Program.ask (I := Action.interface) (.isOnline ref) next)) :
    Refused intake ref (.ticker t.generation) next := by
  rw [round_eq] at hs
  rcases hs.asked_other rfl with ⟨-, heq⟩ | ⟨cancelled, asked, -, hs⟩
  · cases heq
  cases cancelled with
  | true => exact absurd hs (not_looking (along_finish t))
  | false =>
    rcases Stretch.asked_other hs rfl with ⟨-, heq⟩ | ⟨now, asked, -, hs⟩
    · cases heq
    exact refused_tick hs

end Ticker

/-- **A worker that looks whether a device is online is refused if it is not,** unless it is a
watchdog. -/
theorem Worker.refused {worker : Worker} {next : Bool → Work RoundEnd}
    (hs : Stretch (worker.round intake) asked
      (Program.ask (I := Action.interface) (.isOnline ref) next))
    (hrole : ∀ index, worker.role ≠ .watchdog index) : Refused intake ref worker.role next := by
  cases worker with
  | ticker t => exact Ticker.refused_round hs
  | watchdog w => exact absurd rfl (hrole w.index)
  | connection c => exact Connection.refused_round hs
  | request line client =>
    rw [Gateway.round_request] at hs
    obtain ⟨rest, hrest, rfl⟩ := first_looks (Q := fun _ => True) hs fun _ => trivial
    exact .request hrest ((Gateway.defers_handling false intake line client).gives_up hrest)

end

/-! ## Steps of a driver -/

/-- Whether an errand is a client's or a schedule's. -/
def Errand.isGuest : Errand → Bool
  | command .. | target .. => true
  | check _ | disconnect _ | reconnect _ => false

theorem Worker.Runs.isGuest {worker : Worker} {e : Errand} (h : worker.Runs e)
    (hrole : ∀ index, worker.role ≠ .watchdog index) : e.isGuest = true := by
  cases worker with
  | watchdog w => exact absurd rfl (hrole w.index)
  | ticker | connection | request =>
    cases e with
    | command | target => rfl
    | check | disconnect | reconnect => exact h.elim

section

variable {e : Errand} {asked : List Answered} {op : Exchange}

/-- In such an errand there is no step of a driver unless the device was found online. -/
theorem Errand.found_online {ref : Nat} {next : op.Answer → Work e.Result}
    (hs : Stretch e.program asked (Program.ask (I := Action.interface) (.exchange ref op) next))
    (he : e.isGuest = true) :
    e.device.ref = ref ∧ ∃ more, asked = ⟨.isOnline ref, true⟩ :: more ∧
      ∀ x ∈ more, x.op.locks = false := by
  have hp : e.program.Along e.AsksOrRests fun _ => True :=
    e.along_program.mono (fun _ => Or.inl) fun _ h => h
  obtain ⟨hasked, hop, -⟩ := hs.along hp fun time => .inr ⟨time, rfl⟩
  obtain rfl : ref = e.device.ref := hop.resolve_right (by rintro ⟨time, heq⟩; cases heq)
  refine ⟨rfl, ?_⟩
  have hlocks : ∀ x ∈ asked, x.op.locks = false := fun x hx => (hasked x hx).locks
  -- Both errands begin with the look, and end with it if the device is offline.
  have hlook : ∀ {α : Type} {k : Bool → Work α} {p : Work α} {next : op.Answer → Work α},
      Stretch ((Work.ask (.isOnline e.device.ref)).bind fun online =>
          if online then k online else p)
        asked (Program.ask (I := Action.interface) (.exchange e.device.ref op) next) →
      (∃ a, p = Program.done a) →
      ∃ more, asked = ⟨.isOnline e.device.ref, true⟩ :: more ∧ ∀ x ∈ more, x.op.locks = false := by
    rintro α k _ next hs ⟨a, rfl⟩
    rcases hs.question_other rfl with ⟨-, heq⟩ | ⟨online, more, rfl, hrest⟩
    · cases heq
    cases online with
    | false => cases (Stretch.of_done hrest).2
    | true => exact ⟨more, rfl, fun x hx => hlocks x (List.mem_cons_of_mem _ hx)⟩
  cases e with
  | command | target => exact hlook hs ⟨_, rfl⟩
  | check | disconnect | reconnect => cases he

end

/-! ## Courses -/

section

variable {intake : Intake} {worker : Worker} {es : List Answered}

theorem Worker.place (worker : Worker) {p : Work RoundEnd}
    (h : Stretch (worker.round intake) es p) :
    Work.Made.Place worker.Asks (Errand.Locked worker.Runs) worker.Leaves es p :=
  (worker.made intake).place h fun _ hop => Action.not_exchanges_of_isGuarded hop.isGuarded

/-- A worker that asks is in a round, its first one or one of those that it left in its place. -/
theorem Course.current {p : Work RoundEnd}
    (h : Course intake (Program.done (.again worker)) es p) :
    ∃ current : Worker, current.role = worker.role ∧
      (p = Program.done (.again current) ∨
        ∃ before asked, es = before ++ asked ∧ Stretch (current.round intake) asked p) := by
  induction h with
  | start => exact ⟨worker, rfl, .inl rfl⟩
  | @answered es op next q a _ hr ih =>
    obtain ⟨current, hrole, heq | ⟨before, asked, rfl, hs⟩⟩ := ih
    · cases heq
    refine ⟨current, hrole, .inr ⟨before, asked ++ [⟨op, a⟩], List.append_assoc _ _ _, ?_⟩⟩
    cases hr with
    | now => exact hs.answered a
    | later time hop => exact hs.delayed a time hop
  | @again es next _ ih =>
    obtain ⟨current, hrole, hnext⟩ := ih
    have hsame : next.role = worker.role := by
      rcases hnext with heq | ⟨before, asked, rfl, hs⟩
      · cases heq
        exact hrole
      · exact (Worker.Continues.role (current.place hs).of_done).trans hrole
    exact ⟨next, hsame, .inr ⟨es, [], (List.append_nil es).symm, .start⟩⟩

variable {ref : Nat}

/-- **Every look of a worker other than a watchdog is refused if the device is offline.** -/
theorem Course.refused {next : Bool → Work RoundEnd}
    (h : Course intake (Program.done (.again worker)) es (Program.ask (.isOnline ref) next))
    (hrole : ∀ index, worker.role ≠ .watchdog index) : Refused intake ref worker.role next := by
  obtain ⟨current, hsame, heq | ⟨before, asked, rfl, hs⟩⟩ := h.current
  · cases heq
  rw [← hsame] at hrole ⊢
  exact Worker.refused hs hrole

/-- **A worker other than a watchdog that begins a step of a driver** has had the lock of the device
since before it found the device online. -/
theorem Course.begins {op : Exchange} {next : op.Answer → Work RoundEnd}
    (h : Course intake (Program.done (.again worker)) es
      (Program.ask (I := Action.interface) (.exchange ref op) next))
    (hrole : ∀ index, worker.role ≠ .watchdog index) :
    ∃ before more, es = before ++ ⟨.lock ref, ()⟩ :: ⟨.isOnline ref, true⟩ :: more ∧
      ∀ x ∈ more, x.op.locks = false := by
  obtain ⟨current, hsame, heq | ⟨earlier, round, rfl, hs⟩⟩ := h.current
  · cases heq
  rw [← hsame] at hrole
  cases (current.place hs).asks with
  | between hop => cases hop
  | inside hes hu hunit =>
    obtain ⟨e, he⟩ := hu
    rw [Work.locked_eq] at hunit
    rcases hunit.asked_other rfl with ⟨-, heq⟩ | ⟨_, inside, rfl, hlocked⟩
    · cases heq
    obtain ⟨rest, hrest, -⟩ := hlocked.within_first
      (P := fun op : Action => op.exchanges = false) (Q := fun _ => True)
      (fun _ => ⟨rfl, fun _ => trivial⟩) (fun _ => rfl) fun hnot => by cases hnot
    obtain ⟨rfl, more, rfl, hmore⟩ := Errand.found_online hrest (he.isGuest hrole)
    subst hes
    exact ⟨_, more, (List.append_assoc _ _ _).symm, hmore⟩

end

end ChillerGateway
