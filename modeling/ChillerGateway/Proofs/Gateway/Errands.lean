import ChillerGateway.Proofs.Gateway.Paths
import ChillerGateway.Gateway.Worker

/-!
# Errands

All that workers do on a device they do under its lock, and in one of a few ways: a command of a
client, a target of a schedule, and a watchdog's check, disconnect and reconnect.  These are the
errands; outside them no worker asks for a lock, for a step of a driver, or for an audit record.

* `Errand.program` — what is done while the lock is held.
* `Errand.run_cases` — a command of a client, on a path to its end.
* `Worker.Runs`, `Worker.Asks` — whose errands they are, and what else a worker asks.
* `Worker.Takes`, `Worker.Attends` — the requests of connections, and what is around them.
* `Worker.made` — the rounds of all workers are made of errands and such questions.
-/

namespace ChillerGateway

/-- Questions of a connection outside the processing of its requests. -/
def Action.isClerical : Action → Bool
  | .countRequest _ | .countError _ | .reply .. | .settings | .now | .read .. => true
  | _ => false

/-- Questions of the processing of a request, apart from those under the lock of a device. -/
def Action.isProcessing : Action → Bool
  | .beginCommand | .resolve _ | .isOnline _ | .countCommand .. | .loadSchedule .. | .stopSchedule _
  | .scheduleStatus _ => true
  | _ => false

/-- What a worker does on a device under its lock. -/
inductive Errand where
  | command (device : Handle) (command : Command) (client : String)
  | target (device : Handle) (value : Binary64)
  | check (device : Handle)
  | disconnect (device : Handle)
  | reconnect (device : Handle)

namespace Errand

def device : Errand → Handle
  | command device _ _ | target device _ | check device | disconnect device | reconnect device =>
    device

def isCommand : Errand → Bool
  | command .. => true
  | _ => false

abbrev Result : Errand → Type
  | command .. => Except Error Json
  | target .. => Except Error Unit
  | check _ | reconnect _ => Bool
  | disconnect _ => Unit

def program : (e : Errand) → Work e.Result
  | command device c client => do
    if ← Work.ask (.isOnline device.ref) then Gateway.run device c client
    else return .error .reconnecting
  | target device value => do
    if ← Work.ask (.isOnline device.ref) then
      Work.drive device.ref (device.backend.perform (.setSetpoint value))
    else return .error .reconnecting
  | check device => do
    return (← Work.drive device.ref (device.backend.perform .status)).toOption.isSome
  | disconnect device => do
    let _ ← Work.drive device.ref (device.backend.perform .close)
  | reconnect device => do
    match ← Work.drive device.ref device.backend.introduce with
    | .ok _ => return true
    | .error _ =>
      let _ ← Work.drive device.ref (device.backend.perform .close)
      return false

/-- **What a command comes to on a device that is online**: one that changes the device is preceded
by a reading, and followed by a record if it succeeds; any other one stands alone. -/
theorem run_cases {device : Handle} {c : Command} {client : String} {es : List Answered}
    {r : Except Error Json}
    (h : Work.Stretch (Gateway.run device c client) es (Program.done r)) :
    (c.isMutating = true ∧ ∃ prior outcome reading writing rest, es = reading ++ (writing ++ rest) ∧
      Work.Stretch (Work.drive device.ref (c.priorValue device.backend)) reading
        (Program.done prior) ∧
      Work.Stretch (Work.drive device.ref (c.execute device.backend)) writing
        (Program.done outcome) ∧
      ((∃ e, outcome = .error e ∧ rest = [] ∧ r = .error (Gateway.recovering e)) ∨
        ∃ result, outcome = .ok result ∧ r = .ok result ∧
          rest = [⟨.audit ⟨client, device.id, c.name, prior.toOption.join, result.render⟩, ()⟩])) ∨
    (c.isMutating = false ∧ ∃ outcome,
      Work.Stretch (Work.drive device.ref (c.execute device.backend)) es (Program.done outcome) ∧
      r = outcome.mapError Gateway.recovering) := by
  unfold Gateway.run at h
  split at h
  · rename_i hc
    obtain ⟨prior, reading, after, rfl, hread, hafter⟩ := h.bind_done
    obtain ⟨outcome, writing, rest, rfl, hwrote, hrest⟩ := hafter.bind_done
    refine .inl ⟨hc, prior, outcome, reading, writing, rest, rfl, hread, hwrote, ?_⟩
    cases outcome with
    | error e =>
      obtain ⟨rfl, heq⟩ := hrest.of_done
      cases heq
      exact .inl ⟨e, rfl, rfl, rfl⟩
    | ok result =>
      obtain ⟨_, fs, rfl, hdone⟩ := Work.Stretch.ask_done hrest rfl
      obtain ⟨rfl, heq⟩ := Work.Stretch.of_done hdone
      cases heq
      exact .inr ⟨result, rfl, rfl, rfl⟩
  · rename_i hc
    obtain ⟨outcome, before, after, rfl, hrun, hdone⟩ := h.bind_done
    obtain ⟨rfl, heq⟩ := hdone.of_done
    cases heq
    rw [List.append_nil]
    exact .inr ⟨Bool.eq_false_iff.mpr hc, outcome, hrun, rfl⟩

/-- A command asks nothing but steps of its driver, and for a record in the end. -/
theorem along_run {P : Action → Prop} {device : Handle}
    (hexchange : ∀ op, P (.exchange device.ref op))
    (haudit : ∀ entry, P (.audit entry)) (c : Command) (client : String) :
    (Gateway.run device c client).Along P fun _ => True := by
  have hdrive : ∀ {α : Type} (p : Attempt α), (Work.drive device.ref p).Along P fun _ => True :=
    fun p => Work.along_drive hexchange p
  unfold Gateway.run
  split
  · refine (hdrive _).bind fun prior _ => (hdrive _).bind fun result _ => ?_
    cases result with
    | error e => trivial
    | ok result => exact ⟨haudit _, fun _ => trivial⟩
  · exact (hdrive _).bind fun _ _ => trivial

/-- The program of an errand with the lock around it. -/
inductive Locked (E : Errand → Prop) : {β : Type} → Work β → Prop where
  | mk (e : Errand) : E e → Locked E (Work.locked e.device.ref e.program)

/-- What is asked while the lock is held. -/
def Asks (e : Errand) : Action → Prop
  | .isOnline ref | .exchange ref _ => ref = e.device.ref
  | .audit _ => e.isCommand = true
  | _ => False

section

variable {e : Errand} {α : Type}

theorem along_done (a : α) : (Program.done a : Work α).Along e.Asks fun _ => True := trivial

theorem along_drive (p : Attempt α) : (Work.drive e.device.ref p).Along e.Asks fun _ => True :=
  Work.along_drive (P := e.Asks) (fun _ => rfl) p

theorem along_ask {op : Action} (h : e.Asks op) : (Work.ask op).Along e.Asks fun _ => True :=
  ⟨h, fun _ => trivial⟩

end

theorem along_program (e : Errand) : e.program.Along e.Asks fun _ => True := by
  cases e with
  | command device c client =>
    refine Program.Along.bind (along_ask rfl) fun online _ => ?_
    split
    · exact along_run (fun _ => rfl) (fun _ => rfl) c client
    · exact along_done _
  | target device value =>
    refine Program.Along.bind (along_ask rfl) fun online _ => ?_
    split
    · exact along_drive _
    · exact along_done _
  | check device => exact Program.Along.bind (along_drive _) fun _ _ => along_done _
  | disconnect device => exact Program.Along.bind (along_drive _) fun _ _ => along_done _
  | reconnect device =>
    refine Program.Along.bind (along_drive _) fun introduced _ => ?_
    cases introduced with
    | ok _ => exact along_done _
    | error _ => exact Program.Along.bind (along_drive _) fun _ _ => along_done _

/-- What holds along all paths of an errand with its lock. -/
theorem along_locked {P : Action → Prop} {e : Errand} (hlock : P (.lock e.device.ref))
    (hunlock : P (.unlock e.device.ref)) (h : ∀ op, e.Asks op → P op) :
    (Work.locked e.device.ref e.program).Along P fun _ => True := by
  rw [Work.locked_eq]
  refine ⟨hlock, fun _ => ?_⟩
  refine Program.Along.bind ((along_program e).mono h fun _ _ => trivial) fun r _ => ?_
  exact ⟨hunlock, fun _ => trivial⟩

end Errand

/-! ## Workers -/

namespace Worker

/-- Whose errands they are. -/
def Runs : Worker → Errand → Prop
  | ticker t, .target device _ => device = t.device
  | watchdog w, .check device | watchdog w, .disconnect device | watchdog w, .reconnect device =>
    device = w.device
  | connection c, .command _ _ client => client = c.client
  | request _ own, .command _ _ client => client = own
  | _, _ => False

/-- What a worker asks outside its errands. -/
def Asks (worker : Worker) : Action → Prop
  | .lock _ | .unlock _ | .exchange .. | .audit _ => False
  | .retire id generation => ∃ t, worker = ticker t ∧ id = t.device.id ∧ generation = t.generation
  | _ => True

/-- A worker that a round of another one leaves in its place. -/
def Continues : Worker → Worker → Prop
  | ticker t, ticker t' => t'.device = t.device ∧ t'.generation = t.generation
  | watchdog w, watchdog w' => w'.index = w.index ∧ w'.device = w.device
  | connection c, connection c' => c'.index = c.index ∧ c'.client = c.client
  | _, _ => False

/-- How a round of a worker ends. -/
def Leaves (worker : Worker) : RoundEnd → Prop
  | .again next => worker.Continues next
  | .ended _ => True

/-- A program that is made of errands of a worker and of what it asks outside them. -/
abbrev Made (worker : Worker) {α : Type} (Q : α → Prop) : Work α → Prop :=
  Work.Made worker.Asks (Errand.Locked worker.Runs) Q

variable {worker : Worker} {α : Type} {Q : α → Prop}

theorem Made.question {op : Action} {k : op.Answer → Work α} (hop : worker.Asks op)
    (hk : ∀ a, worker.Made Q (k a)) : worker.Made Q ((Work.ask op).bind k) :=
  Work.Made.ask hop hk

theorem Made.errand (e : Errand) (he : worker.Runs e) {k : e.Result → Work α}
    (hk : ∀ a, worker.Made Q (k a)) :
    worker.Made Q ((Work.locked e.device.ref e.program).bind k) := .unit (.mk e he) hk

theorem Made.pause {span : Nat} {token : Option Token} {k : Bool → Work α}
    (hk : ∀ a, worker.Made Q (k a)) : worker.Made Q ((Work.pause span token).bind k) :=
  Work.Made.ask trivial fun _ => Work.Made.ask trivial hk

/-! ### Tickers -/

section

variable {t : Ticker}

theorem made_apply {P : Action → Prop} {E : Errand → Prop} {device : Handle}
    (hP : P (.isOnline device.ref)) (hE : ∀ target, E (.target device target))
    (target : Binary64) :
    Work.Made P (Errand.Locked E) (fun _ => True) (Ticker.apply device target) := by
  refine Work.Made.ask hP fun online => ?_
  cases online with
  | false => exact .done trivial
  | true => exact .single (.mk (.target device target) (hE target))

theorem made_tick {P : Action → Prop} {E : Errand → Prop} {device : Handle}
    (hP : P (.isOnline device.ref)) (hE : ∀ target, E (.target device target)) (now : Nat)
    (r : Runner) :
    Work.Made P (Errand.Locked E) (fun _ => True) (r.tick (Ticker.apply device) now) := by
  unfold Runner.tick Runner.tickTo
  split
  · exact .done trivial
  · split
    · refine Work.Made.bind (made_apply hP hE _) fun result _ => ?_
      cases result with
      | error e => exact .done trivial
      | ok => exact .done trivial
    · exact .done trivial

theorem made_ticker : (ticker t).Made (fun next => ∀ t' ∈ next, (ticker t).Continues (ticker t'))
    t.round := by
  have hfinish : (ticker t).Made (fun next => ∀ t' ∈ next, (ticker t).Continues (ticker t'))
      t.finish := Made.question ⟨t, rfl, rfl, rfl⟩ fun _ => .done (by simp)
  unfold Ticker.round
  refine Made.question trivial fun cancelled => ?_
  split
  · exact hfinish
  · refine Made.question trivial fun now => ?_
    refine Work.Made.bind (made_tick trivial (fun _ => rfl) now t.runner) fun ticked _ => ?_
    obtain ⟨result, runner⟩ := ticked
    simp only
    split
    · exact Made.pause fun _ => .done (by simp [Continues])
    · exact hfinish

end

/-! ### Watchdogs -/

section

variable {w : Watchdog}

theorem made_watchdog :
    (watchdog w).Made (fun next => ∀ w' ∈ next, (watchdog w).Continues (watchdog w')) w.round := by
  have henter : ∀ state, (watchdog w).Made
      (fun next => ∀ w' ∈ next, (watchdog w).Continues (watchdog w')) (w.enter state) :=
    fun state => Made.question trivial fun _ => .done (by simp [Continues])
  unfold Watchdog.round
  split
  · refine Made.pause fun elapsed => ?_
    split
    · refine Made.errand (.check w.device) ?_ fun _ => henter _
      rfl
    · exact .done (by simp)
  · refine Made.question trivial fun _ => ?_
    refine Made.errand (.disconnect w.device) ?_ fun _ => henter _
    rfl
  · refine Made.pause fun elapsed => ?_
    split
    · refine Made.errand (.reconnect w.device) ?_ fun back => ?_
      · rfl
      cases back with
      | true =>
        refine Made.question trivial fun _ => Made.question trivial fun online => ?_
        split
        · exact henter _
        · exact .done (by simp)
      | false =>
        refine Made.question trivial fun online => ?_
        split
        · exact henter _
        · exact .done (by simp)
    · exact .done (by simp)
  · exact .done (by simp)

end

/-! ### Requests -/

section

variable {client : String}

/-- Whether a worker serves a client: it runs the client's commands. -/
def Serves (worker : Worker) (client : String) : Prop :=
  ∀ device c, worker.Runs (.command device c client)

variable {P : Action → Prop} {E : Errand → Prop}

theorem made_execute (hE : ∀ device c, E (.command device c client)) (device : Handle)
    (c : Command) :
    Work.Made P (Errand.Locked E) (fun _ => True) (Gateway.execute device c client) :=
  .single (.mk (.command device c client) (hE device c))

theorem made_dispatch (hP : ∀ op : Action, op.isProcessing = true → P op)
    (hE : ∀ device c, E (.command device c client)) (device : Handle) (name : String)
    (r : Request) :
    Work.Made P (Errand.Locked E) (fun _ => True) (Gateway.dispatch device name r client) := by
  unfold Gateway.dispatch
  split
  · unfold Gateway.loadSchedule
    split
    · exact .done trivial
    · split
      · exact .done trivial
      · exact Work.Made.question (hP _ rfl) fun _ => .done trivial
  · exact Work.Made.question (hP _ rfl) fun _ => .done trivial
  · exact Work.Made.question (hP _ rfl) fun _ => .done trivial
  · split
    · exact .done trivial
    · exact made_execute hE device _

theorem made_process (hP : ∀ op : Action, op.isProcessing = true → P op)
    (hE : ∀ device c, E (.command device c client)) (auth : Option String) (r : Request) :
    Work.Made P (Errand.Locked E) (fun _ => True) (Gateway.process auth r client) := by
  unfold Gateway.process
  split
  · exact .done trivial
  split
  · exact .done trivial
  · refine Work.Made.question (hP _ rfl) fun outset => ?_
    split
    · exact .done trivial
    split
    · exact Work.Made.question (hP _ rfl) fun _ => .done trivial
    · unfold Gateway.serveCommand
      refine Work.Made.question (hP _ rfl) fun found => ?_
      cases found with
      | none => exact .done trivial
      | some device =>
        refine Work.Made.question (hP _ rfl) fun online => ?_
        split
        · exact .done trivial
        refine Work.Made.bind (made_dispatch hP hE device _ r) fun result _ => ?_
        cases result with
        | error e => exact .done trivial
        | ok result => exact Work.Made.question (hP _ rfl) fun _ => .done trivial

end

/-! ### Connections -/

/-- The requests that a worker has processed, with their clients. -/
def Takes : Worker → String → Request → Prop
  | connection c, client, r => client = c.client ∧ ∃ line, Request.ofLine? line = some r
  | request line own, client, r => client = own ∧ Request.ofLine? line = some r
  | _, _, _ => False

theorem Takes.serves {client : String} {r : Request} (h : worker.Takes client r) :
    worker.Serves client := by
  cases worker with
  | ticker | watchdog => exact h.elim
  | connection | request => exact fun _ _ => h.1

/-- The processing of a request of a worker. -/
inductive Processes (worker : Worker) (intake : Intake) : {β : Type} → Work β → Prop where
  | mk {client : String} {r : Request} : worker.Takes client r →
      Processes worker intake (Gateway.process intake.auth r client)

/-- A program that is made of requests of a worker and of what comes before and after them. -/
abbrev Attends (worker : Worker) (intake : Intake) {α : Type} (Q : α → Prop) : Work α → Prop :=
  Work.Made (fun op => op.isClerical = true) (worker.Processes intake) Q

section

variable {intake : Intake} {c : Connection}

theorem Attends.question {op : Action} {k : op.Answer → Work α} (hop : op.isClerical = true)
    (hk : ∀ a, worker.Attends intake Q (k a)) : worker.Attends intake Q ((Work.ask op).bind k) :=
  Work.Made.ask hop hk

theorem attends_respond (result : Except Error Json) :
    worker.Attends intake (fun _ => True) (Gateway.respond result) := by
  cases result with
  | error e => exact Attends.question rfl fun _ => .done trivial
  | ok result => exact .done trivial

theorem attends_handleLine {line client : String}
    (h : ∀ r, Request.ofLine? line = some r → worker.Takes client r) :
    worker.Attends intake (fun _ => True) (Gateway.handleLine intake line client) := by
  unfold Gateway.handleLine
  split
  · exact attends_respond _
  · rename_i r hr
    exact Work.Made.unit (.mk (h r (Request.parse_eq_ok_iff.mp hr))) fun _ => attends_respond _

theorem attends_answer (h : ∀ line r, Request.ofLine? line = some r → worker.Takes c.client r)
    (line : String) : worker.Attends intake (fun _ => True) (c.answer intake line) := by
  unfold Connection.answer
  simp only
  split
  · exact .done trivial
  · refine Attends.question rfl fun allowed => ?_
    cases allowed with
    | true =>
      refine Work.Made.bind (attends_handleLine (h _)) fun reply _ => ?_
      exact Attends.question rfl fun _ => .done trivial
    | false =>
      refine Work.Made.bind (attends_respond _) fun reply _ => ?_
      exact Attends.question rfl fun _ => .done trivial

theorem attends_connection :
    (connection c).Attends intake
      (fun next => ∀ c' ∈ next, (connection c).Continues (connection c'))
      (c.round intake) := by
  have hanswer : ∀ input line, (connection c).Attends intake (fun _ => True)
      (Connection.answer { c with input } intake line) := by
    intro input line
    refine attends_answer ?_ line
    exact fun line r hr => ⟨rfl, line, hr⟩
  unfold Connection.round
  simp only
  split
  · exact Work.Made.bind (hanswer _ _) fun _ _ => .done (by simp [Continues])
  · exact Attends.question rfl fun _ => .done (by simp [Continues])
  · refine Work.Made.bind (attends_respond _) fun reply _ => ?_
    exact Attends.question rfl fun _ => .done (by simp [Continues])
  · unfold Connection.readMore
    refine Attends.question rfl fun settings => Attends.question rfl fun now => ?_
    refine Attends.question rfl fun incoming => ?_
    cases incoming with
    | bytes bytes => exact .done (by simp [Continues])
    | ended =>
      simp only
      split
      · exact Work.Made.bind (hanswer _ _) fun _ _ => .done (by simp)
      · exact .done (by simp)
    | idle => exact .done (by simp)
    | cancelled => exact .done (by simp)

/-- A request is made of the errands of whoever serves its client. -/
theorem Attends.made {Q : α → Prop} {p : Work α} (h : worker.Attends intake Q p) :
    worker.Made Q p := by
  refine h.refine (fun op hop => ?_) fun u hu => ?_
  · cases op with
    | countRequest | countError | reply | settings | now | read => trivial
    | _ => cases hop
  · cases hu with
    | mk htakes =>
      refine made_process (fun op hop => ?_) htakes.serves intake.auth _
      cases op with
      | beginCommand | resolve | isOnline | countCommand | loadSchedule | stopSchedule
      | scheduleStatus => trivial
      | _ => cases hop

end

theorem leaves_following {β : Type} {f : β → Worker} {next : Option β}
    (h : ∀ b ∈ next, worker.Continues (f b)) : worker.Leaves (following f next) := by
  cases next with
  | none => trivial
  | some b => exact h b rfl

/-- **Every round is made of the worker's errands and of questions outside them.** -/
theorem made (worker : Worker) (intake : Intake) :
    worker.Made worker.Leaves (worker.round intake) := by
  cases worker with
  | ticker t =>
    exact Work.Made.bind made_ticker fun next h => .done (leaves_following h)
  | watchdog w =>
    exact Work.Made.bind made_watchdog fun next h => .done (leaves_following h)
  | connection c =>
    have hround : (connection c).Attends intake _ (c.round intake) := attends_connection
    exact Work.Made.bind hround.made fun next h => .done (leaves_following h)
  | request line client =>
    have hline : (request line client).Attends intake (fun _ => True)
        (Gateway.handleLine intake line client) := attends_handleLine fun _ hr => ⟨rfl, hr⟩
    exact Work.Made.bind hline.made fun _ _ => .done trivial

end Worker

end ChillerGateway
