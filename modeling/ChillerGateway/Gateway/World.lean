import ChillerGateway.Gateway.Worker
import ChillerGateway.Metrics.Basic
import ChillerGateway.RateLimiter

/-!
# A running gateway

`World` is everything that workers share, with the workers themselves: each is a program that is
either ready or waits for something.  `World.act` answers one question of one worker, and
`World.turn` lets one ready worker ask its next question.  Nothing in either depends on which worker
is picked, so a run is any sequence of turns; `World.next?` picks in the order in which workers
became ready and moves the clock only when all of them wait.

* `World.act` — what each question does and when it is answered.
* `World.turn` — one question of one worker.
* `World.next?` — the picked turn, or the next moment of the clock.
-/

namespace ChillerGateway

/-! ## The shared state -/

/-- A registered device with its lock and its online flag. -/
structure DeviceSlot where
  id : String
  device : Device
  online : Bool := true
  /-- The worker that holds the lock. -/
  owner : Option Nat := none
  /-- The workers that wait for the lock, the first in line at the head. -/
  waiting : List Nat := []

/-- A client's connection as the gateway sees it. -/
structure ClientSlot where
  /-- Sent by the client and not read. -/
  inbox : List UInt8 := []
  /-- Whether the client sends nothing more. -/
  ended : Bool := false
  cancelled : Bool := false
  /-- Replies that the client has not looked at, the latest first. -/
  outbox : List Reply := []
  /-- Whether the gateway closed the connection. -/
  closed : Bool := false

/-- A watchdog as others see it. -/
structure WatchdogSlot where
  ref : Nat
  state : WatchdogState := .healthy
  cancelled : Bool := false

/-- What a worker waits for, a time apart. -/
inductive Cause where
  | lock (ref : Nat)
  | token (token : Token)
  | input (connection : Nat)
  | tickers
  | reply (task : Nat)
  /-- The clock alone. -/
  | clock
  deriving DecidableEq, Repr

/-- A worker that waits: for what, and until when at the latest. -/
structure Waiting where
  task : Nat
  cause : Cause
  deadline : Option Nat
  deriving DecidableEq, Repr

/-- What a task is there for. -/
inductive Role where
  | ticker (generation : Nat)
  | watchdog (index : Nat)
  | connection (index : Nat)
  | request
  deriving DecidableEq, Repr

structure Task where
  id : Nat
  role : Role
  program : Work RoundEnd

/-- A gateway with its workers, on a clock in milliseconds. -/
structure World where
  now : Nat := 0
  /-- The wall clock, in milliseconds, which only the surroundings move. -/
  wallClock : Nat := 0
  intake : Intake := {}
  settings : Settings := {}
  limiter : Option RateLimiter := none
  metrics : Option Metrics := none
  /-- Audit records, the latest first. -/
  trail : List AuditEntry := []
  devices : Array DeviceSlot := #[]
  /-- The device in force for each id. -/
  registry : List (String × Nat) := []
  schedules : Schedules := {}
  /-- How often the last ticker has ended. -/
  lulls : Nat := 0
  watchdogs : Array WatchdogSlot := #[]
  clients : Array ClientSlot := #[]
  shuttingDown : Bool := false
  /-- How many connections are admitted. -/
  active : Nat := 0
  tasks : List Task := []
  /-- The number for the next task; number 0 is the operator's own. -/
  nextTask : Nat := 1
  /-- Replies to requests that nobody has asked for yet. -/
  replies : List (Nat × Reply) := []
  /-- Workers that can go on, the first in line at the head. -/
  ready : List Nat := []
  /-- Workers that wait, in the order in which they began to. -/
  waiting : List Waiting := []

namespace World

/-- The task of the operator, who drives the gateway from outside. -/
def operator : Nat := 0

/-- The window of the rate limit, in milliseconds of the wall clock. -/
def rateWindow : Nat := 60000

def limiterFor (s : Settings) : Option RateLimiter :=
  s.rateLimit.map fun maxRequests => { maxRequests, window := rateWindow }

/-- The id of the device for requests that name none. -/
def defaultId : String := "default"

/-! ## Waking -/

/-- Makes the waiting workers that satisfy a test ready, in the order in which they
began to wait. -/
def wakeIf (w : World) (test : Waiting → Bool) : World :=
  let (woken, waiting) := w.waiting.partition test
  { w with waiting, ready := w.ready ++ woken.map Waiting.task }

def wake (w : World) (cause : Cause) : World := w.wakeIf (·.cause = cause)

/-- Starts a worker. -/
def spawn (w : World) (role : Role) (worker : Worker) : World :=
  { w with
    tasks := w.tasks ++ [⟨w.nextTask, role, Program.done (.again worker)⟩]
    nextTask := w.nextTask + 1
    ready := w.ready ++ [w.nextTask] }

def isTicker (t : Task) : Bool :=
  match t.role with
  | .ticker _ => true
  | _ => false

/-- How many tickers have not ended. -/
def tickers (w : World) : Nat := w.tasks.countP isTicker

/-! ## Devices -/

def modifyDevice (w : World) (ref : Nat) (f : DeviceSlot → DeviceSlot) : World :=
  { w with devices := w.devices.modify ref f }

/-- Registers a device, in place of any other with that id. -/
def register (w : World) (id : String) (device : Device) : World :=
  { w with
    devices := w.devices.push { id, device }
    registry := (id, w.devices.size) :: w.registry.filter (·.1 ≠ id) }

def handleAt (w : World) (ref : Nat) : Option Handle :=
  w.devices[ref]?.map fun slot => ⟨ref, slot.id, slot.device.backend⟩

/-- The device of an id, the default device for none. -/
def resolve (w : World) (id : Option String) : Option Handle :=
  (w.registry.lookup (id.getD defaultId)).bind w.handleAt

def isOnline (w : World) (ref : Nat) : Bool := w.devices[ref]?.any (·.online)

/-- Releases a lock to the first worker in line, if there is one. -/
def unlock (w : World) (ref : Nat) : World :=
  match w.devices[ref]?.bind (·.waiting.head?) with
  | some heir =>
    let w := w.modifyDevice ref fun slot =>
      { slot with owner := some heir, waiting := slot.waiting.tail }
    w.wakeIf fun x => x.task = heir
  | none => w.modifyDevice ref fun slot => { slot with owner := none }

/-! ## Cancelling -/

def isCancelled (w : World) : Token → Bool
  | .schedule generation => w.schedules.isCancelled generation
  | .watchdog index => w.watchdogs[index]?.any (·.cancelled)
  | .connection index => w.clients[index]?.any (·.cancelled)

/-- Wakes the workers whose token is cancelled by now. -/
def wakeCancelled (w : World) : World :=
  w.wakeIf fun x =>
    match x.cause with
    | .token token => w.isCancelled token
    | .input index => w.isCancelled (.connection index)
    | _ => false

/-! ## Clients -/

def modifyClient (w : World) (index : Nat) (f : ClientSlot → ClientSlot) : World :=
  { w with clients := w.clients.modify index f }

/-- What a connection reads at a moment, if there is something. -/
def incoming? (w : World) (index : Nat) (deadline : Option Nat) : Option (Incoming × World) :=
  match w.clients[index]? with
  | none => some (.ended, w)
  | some c =>
    if c.cancelled then some (.cancelled, w)
    else if !c.inbox.isEmpty then
      some (.bytes c.inbox, w.modifyClient index fun c => { c with inbox := [] })
    else if c.ended then some (.ended, w)
    else if deadline.any (· ≤ w.now) then some (.idle, w)
    else none

/-! ## Questions -/

/-- What becomes of a question: an answer at once or at a later time, or a wait after which it is
asked again. -/
inductive Outcome (α : Type) where
  | answered (a : α) (w : World)
  | later (time : Nat) (a : α) (w : World)
  | wait (cause : Cause) (deadline : Option Nat) (w : World)

/-- Takes a lock that is free or was handed over, else joins the line. -/
def lockFor (w : World) (me ref : Nat) : Outcome Unit :=
  match w.devices[ref]? with
  | none => .answered () w
  | some slot =>
    if slot.owner = some me then .answered () w
    else if slot.owner.isNone then .answered () (w.modifyDevice ref ({ · with owner := some me }))
    else if slot.waiting.contains me then .wait (.lock ref) none w
    else .wait (.lock ref) none (w.modifyDevice ref ({ · with waiting := slot.waiting ++ [me] }))

/-- A step of a driver on a device; one that is not over yet is answered when it is. -/
def exchange (w : World) (ref : Nat) (op : Exchange) : Outcome op.Answer :=
  match w.devices[ref]? with
  | none => .wait .clock none w
  | some slot =>
    let (time, answer, device) := slot.device.exchange w.now op
    let w := w.modifyDevice ref ({ · with device })
    if w.now < time then .later time answer w else .answered answer w

def countRequest (w : World) (client : String) : Bool × World :=
  match w.limiter with
  | none => (true, w)
  | some limiter =>
    let (allowed, limiter) := limiter.allowAt client w.wallClock
    (allowed, { w with limiter := some limiter })

/-- Puts a schedule in force and starts its ticker. -/
def loadSchedule (w : World) (device : Handle) (schedule : Schedule) : World :=
  let (generation, schedules) := w.schedules.load device.id schedule w.now
  let runner := Runner.start { schedule } w.now
  { w with schedules }.wakeCancelled.spawn (.ticker generation)
    (.ticker ⟨device, generation, runner⟩)

def measure (w : World) (f : Metrics → Metrics) : World := { w with metrics := w.metrics.map f }

/-- Counts a processed command with its latency; an overall status is taken over. -/
def countCommand (w : World) (name : String) (status : Option Json) (began : Nat) : World :=
  w.measure fun m =>
    let m := m.recordCommand name (Clock.seconds (w.wallClock - began))
    status.elim m m.cacheStatus

/-- Answers one question of the worker `me`. -/
def act (w : World) (me : Nat) : (op : Action) → Outcome op.Answer
  | .now => .answered w.now w
  | .pauseUntil time token =>
    if token.any w.isCancelled then .answered false w
    else if time ≤ w.now then .answered true w
    else .wait (token.elim .clock .token) (some time) w
  | .isCancelled token => .answered (w.isCancelled token) w
  | .settings => .answered w.settings w
  | .beginCommand => .answered ⟨w.settings, w.wallClock⟩ w
  | .countRequest client =>
    let (allowed, w) := w.countRequest client
    .answered allowed w
  | .resolve id => .answered (w.resolve id) w
  | .isOnline ref => .answered (w.isOnline ref) w
  | .setOnline ref online => .answered () (w.modifyDevice ref ({ · with online }))
  | .lock ref => w.lockFor me ref
  | .unlock ref => .answered () (w.unlock ref)
  | .exchange ref op => w.exchange ref op
  | .loadSchedule device schedule => .answered () (w.loadSchedule device schedule)
  | .stopSchedule id =>
    let (stopped, schedules) := w.schedules.stop id
    .answered stopped { w with schedules }.wakeCancelled
  | .scheduleStatus id => .answered (w.schedules.status id w.now) w
  | .retire id generation => .answered () { w with schedules := w.schedules.retire id generation }
  | .awaitTickers lulls =>
    if w.tickers = 0 || lulls < w.lulls then .answered () w else .wait .tickers none w
  | .audit entry => .answered () { w with trail := entry :: w.trail }
  | .countCommand name status began => .answered () (w.countCommand name status began)
  | .countError kind => .answered () (w.measure (·.recordError kind))
  | .announce index state =>
    .answered () { w with watchdogs := w.watchdogs.modify index ({ · with state }) }
  | .read index deadline =>
    match w.incoming? index deadline with
    | some (incoming, w) => .answered incoming w
    | none => .wait (.input index) deadline w
  | .reply index reply =>
    .answered () (w.modifyClient index fun c => { c with outbox := reply :: c.outbox })
  | .awaitReply task =>
    match w.replies.lookup task with
    | some reply => .answered (some reply) { w with replies := w.replies.filter (·.1 ≠ task) }
    | none =>
      if w.tasks.any (·.id = task) then .wait (.reply task) none w else .answered none w

/-! ## Turns -/

/-- The worker goes to wait. -/
def await (w : World) (me : Nat) (cause : Cause) (deadline : Option Nat) : World :=
  { w with ready := w.ready.erase me, waiting := w.waiting ++ [⟨me, cause, deadline⟩] }

def setProgram (w : World) (me : Nat) (program : Work RoundEnd) : World :=
  { w with tasks := w.tasks.map fun t => if t.id = me then { t with program } else t }

/-- A connection ends: its client sees that, and it no longer counts as active. -/
def hangUp (w : World) (index : Nat) : World :=
  { w.modifyClient index ({ · with closed := true }) with active := w.active - 1 }

/-- A ticker has ended; when it was the last one, that is counted and who waits for it goes on. -/
def tickerEnded (w : World) : World :=
  let last := w.tickers == 0
  { w with lulls := w.lulls + last.toNat }.wakeIf fun x => last && x.cause = Cause.tickers

/-- A worker ends, with the reply if it was a request. -/
def finish (w : World) (t : Task) (reply : Option Reply) : World :=
  let w := { w with
    tasks := w.tasks.filter (·.id ≠ t.id)
    ready := w.ready.erase t.id
    replies := w.replies ++ reply.toList.map (t.id, ·) }
  match t.role with
  | .ticker _ => w.tickerEnded
  | .connection index => w.hangUp index
  | .request => w.wake (.reply t.id)
  | .watchdog _ => w

/-- One question of a worker; a worker whose round is over begins the next one. -/
def turn (w : World) (t : Task) : World :=
  match t.program with
  | Program.done (.ended reply) => w.finish t reply
  | Program.done (.again worker) => w.setProgram t.id (worker.round w.intake)
  | Program.ask op next =>
    match w.act t.id op with
    | .answered a w => w.setProgram t.id (next a)
    | .later time a w =>
      let rest : Work RoundEnd := Program.ask (.pauseUntil time none) fun _ => next a
      (w.setProgram t.id rest).await t.id .clock (some time)
    | .wait cause deadline w => w.await t.id cause deadline

/-! ## The clock -/

/-- The next moment for which a worker waits. -/
def nextDeadline? (w : World) : Option Nat := (w.waiting.filterMap Waiting.deadline).min?

/-- Moves the clock and makes the workers whose moment has come ready, the earliest first; among
them the operator comes before all others. -/
def advance (w : World) (time : Nat) : World :=
  let isDue := fun (x : Waiting) => x.deadline.any (· ≤ time)
  let (due, waiting) := w.waiting.partition isDue
  let due := due.mergeSort fun a b => decide (a.deadline.getD 0 ≤ b.deadline.getD 0)
  let order := due.map Waiting.task
  let order := order.filter (· = operator) ++ order.filter (· ≠ operator)
  { w with now := max w.now time, waiting, ready := w.ready ++ order }

/-- A turn of the first ready worker, or the clock's next moment up to `limit`; none when nothing is
left to happen.  The operator has no turn of this kind. -/
def next? (w : World) (limit : Option Nat) : Option World :=
  match w.ready with
  | me :: rest =>
    match w.tasks.find? (·.id = me) with
    | some t => some (w.turn t)
    | none => some { w with ready := rest }
  | [] =>
    match w.nextDeadline? with
    | some time => if limit.all (time ≤ ·) then some (w.advance time) else none
    | none => none

/-! ## Running -/

/-- Lets everything happen that is due by now. -/
def settleFrom : (fuel : Nat) → World → World
  | 0, w => w
  | fuel + 1, w =>
    match w.next? (some w.now) with
    | some w => settleFrom fuel w
    | none => w

/-- Carries out a program of the operator while the workers go on, then lets everything happen that
is due; none if the program waits for what never comes. -/
def driveFrom {α : Type} : (fuel : Nat) → Work α → World → Option α × World
  | 0, _, w => (none, w)
  | fuel + 1, Program.done a, w =>
    (some a, settleFrom fuel { w with ready := w.ready.erase operator })
  | fuel + 1, Program.ask op next, w =>
    if w.ready.head? = some operator then
      match w.act operator op with
      | .answered a w => driveFrom fuel (next a) w
      | .later time a w =>
        driveFrom fuel (Program.ask (.pauseUntil time none) fun _ => next a)
          (w.await operator .clock (some time))
      | .wait cause deadline w =>
        driveFrom fuel (Program.ask op next) (w.await operator cause deadline)
    else match w.next? none with
      | some w => driveFrom fuel (Program.ask op next) w
      | none => (none, w)

/-- The bound on the turns of one program of the operator. -/
def turnLimit : Nat := 1000000000

/-- Carries out a program of the operator. -/
def drive {α : Type} (w : World) (p : Work α) : Option α × World :=
  driveFrom turnLimit p { w with ready := operator :: w.ready.erase operator }

/-- Lets everything happen that is due by now. -/
def settle (w : World) : World := settleFrom turnLimit w

end World

end ChillerGateway
