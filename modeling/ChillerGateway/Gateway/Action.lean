import ChillerGateway.Audit.Record
import ChillerGateway.Device.Execution
import ChillerGateway.Gateway.Schedules
import ChillerGateway.Program
import ChillerGateway.Reply
import ChillerGateway.Watchdog.State

/-!
# What workers ask of a gateway

Everything that the workers of a gateway share is behind one list of questions: the devices with
their locks, the settings and limits, the table of schedules, the audit trail, the metrics, and the
clients' connections.  A worker is a program over these questions, so each way in which workers can
interleave is an order in which their questions are answered.
-/

namespace ChillerGateway

/-- Settings that may change while the gateway runs. -/
structure Settings where
  /-- Requests of one client in a window; none for no limit. -/
  rateLimit : Option Nat := none
  readOnly : Bool := false
  /-- Milliseconds of silence before a client is dropped; none for no limit. -/
  idleTimeout : Option Nat := none
  logTraffic : Bool := false
  deriving DecidableEq, Repr

/-- What a command finds when it begins. -/
structure Outset where
  settings : Settings
  /-- The time on the wall clock. -/
  time : Nat
  deriving DecidableEq, Repr

/-- A device as a worker holds it. -/
structure Handle where
  ref : Nat
  id : String
  backend : Backend
  deriving DecidableEq, Repr

/-- What can be cancelled. -/
inductive Token where
  /-- A generation of schedules. -/
  | schedule (generation : Nat)
  | watchdog (index : Nat)
  | connection (index : Nat)
  deriving DecidableEq, Repr

/-- What came of reading from a client. -/
inductive Incoming where
  | bytes (bytes : List UInt8)
  | ended
  /-- Silence up to the deadline. -/
  | idle
  | cancelled
  deriving DecidableEq, Repr

/-- A question of a worker. -/
inductive Action where
  | now
  /-- Sleeps up to a time: whether it came before the token was cancelled. -/
  | pauseUntil (time : Nat) (token : Option Token)
  | isCancelled (token : Token)
  | settings
  | beginCommand
  /-- Counts a request of a client: whether it is within the limit. -/
  | countRequest (client : String)
  /-- The device of that id, or the default device. -/
  | resolve (id : Option String)
  | isOnline (ref : Nat)
  | setOnline (ref : Nat) (online : Bool)
  | lock (ref : Nat)
  | unlock (ref : Nat)
  /-- A step of a driver on a device that the worker has locked. -/
  | exchange (ref : Nat) (op : Exchange)
  | loadSchedule (device : Handle) (schedule : Schedule)
  | stopSchedule (id : String)
  | scheduleStatus (id : String)
  | retire (id : String) (generation : Nat)
  /-- Waits until no ticker is left, or the last one has ended more often than that. -/
  | awaitTickers (lulls : Nat)
  | audit (entry : AuditEntry)
  /-- Counts a command that was processed, with the time since it began. -/
  | countCommand (name : String) (status : Option Json) (began : Nat)
  | countError (kind : String)
  | announce (watchdog : Nat) (state : WatchdogState)
  | read (connection : Nat) (deadline : Option Nat)
  /-- Sends a reply, on a line of its own. -/
  | reply (connection : Nat) (reply : Reply)
  | awaitReply (task : Nat)

namespace Action

/-- What a question is answered. -/
abbrev Answer : Action → Type
  | now => Nat
  | pauseUntil .. | isCancelled _ | countRequest _ | isOnline _ | stopSchedule _ => Bool
  | settings => Settings
  | beginCommand => Outset
  | resolve _ => Option Handle
  | exchange _ op => op.Answer
  | scheduleStatus _ => Json
  | read .. => Incoming
  | awaitReply _ => Option Reply
  | setOnline .. | lock _ | unlock _ | loadSchedule .. | retire .. | awaitTickers _ | audit _
  | countCommand .. | countError _ | announce .. | reply .. => Unit

/-- The questions of workers as an interface. -/
def interface : Interface := ⟨Action, Answer⟩

end Action

/-- A program of a worker. -/
abbrev Work (α : Type) := Program Action.interface α

namespace Work

/-- One question. -/
def ask (op : Action) : Work op.Answer := Program.perform (I := Action.interface) op

/-- A driver program on a device that the worker has locked. -/
def drive {α : Type} (ref : Nat) (p : Attempt α) : Work (Except Error α) :=
  Program.within (I := Exchange.interface) (fun op => ask (.exchange ref op)) p.run

/-- A program between taking and releasing a device's lock. -/
def locked {α : Type} (ref : Nat) (p : Work α) : Work α := do
  ask (.lock ref)
  let a ← p
  ask (.unlock ref)
  return a

/-- Sleeps for a span: whether it passed before the token was cancelled. -/
def pause (span : Nat) (token : Option Token) : Work Bool := do
  ask (.pauseUntil ((← ask .now) + span) token)

end Work

end ChillerGateway
