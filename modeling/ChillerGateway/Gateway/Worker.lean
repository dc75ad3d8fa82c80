import ChillerGateway.Gateway.Pipeline
import ChillerGateway.Net.LineStream

/-!
# Workers

The workers that run beside each other in a gateway: the tickers of schedules, the watchdogs of
devices, the clients' connections, and single requests.  Each goes round by round; a round is a
program that ends with the worker for the next round, or with the end of the worker.

* `Ticker.round` — one tick of a schedule, then a rest.
* `Watchdog.round` — one state of a watchdog.
* `Connection.round` — one line of a client.
-/

namespace ChillerGateway

/-! ## Tickers -/

/-- Drives a schedule on a device. -/
structure Ticker where
  device : Handle
  generation : Nat
  runner : Runner

namespace Ticker

/-- The rest between two ticks, in milliseconds. -/
def interval : Nat := 2000

/-- Hands a target to the device, if it is online before and after its lock is taken. -/
def apply (device : Handle) (target : Binary64) : Work (Except Error Unit) := do
  if !(← Work.ask (.isOnline device.ref)) then return .error .reconnecting
  Work.locked device.ref do
    if ← Work.ask (.isOnline device.ref) then
      Work.drive device.ref (device.backend.perform (.setSetpoint target))
    else return .error .reconnecting

/-- Ends the ticker. -/
def finish (t : Ticker) : Work (Option Ticker) := do
  Work.ask (.retire t.device.id t.generation)
  return none

/-- One tick, unless the schedule was cancelled; a failure or the last step ends the ticker. -/
def round (t : Ticker) : Work (Option Ticker) := do
  if ← Work.ask (.isCancelled (.schedule t.generation)) then t.finish
  else
    let now ← Work.ask .now
    let (result, runner) ← t.runner.tick (apply t.device) now
    match result, runner.finished with
    | .ok (some _), false =>
      let _ ← Work.pause interval (some (.schedule t.generation))
      return some { t with runner }
    | _, _ => t.finish

end Ticker

/-! ## Watchdogs -/

/-- Watches a device. -/
structure Watchdog where
  index : Nat
  device : Handle
  policy : WatchdogPolicy
  state : WatchdogState := .healthy

namespace Watchdog

def pause (w : Watchdog) (span : Nat) : Work Bool := Work.pause span (some (.watchdog w.index))

/-- Whether the device answers. -/
def check (w : Watchdog) : Work Bool :=
  Work.locked w.device.ref do
    return (← Work.drive w.device.ref (w.device.backend.perform .status)).toOption.isSome

/-- Closes the device. -/
def disconnect (w : Watchdog) : Work Unit :=
  Work.locked w.device.ref do
    let _ ← Work.drive w.device.ref (w.device.backend.perform .close)

/-- Opens the device and has it identify itself; a failed attempt leaves it closed. -/
def reconnect (w : Watchdog) : Work Bool :=
  Work.locked w.device.ref do
    match ← Work.drive w.device.ref w.device.backend.introduce with
    | .ok _ => return true
    | .error _ =>
      let _ ← Work.drive w.device.ref (w.device.backend.perform .close)
      return false

/-- The watchdog in a new state, which is announced. -/
def enter (w : Watchdog) (state : WatchdogState) : Work (Option Watchdog) := do
  Work.ask (.announce w.index state)
  return some { w with state }

/-- What a watchdog does in its state; being cancelled ends it, and so does a pause that outgrows
the clock. -/
def round (w : Watchdog) : Work (Option Watchdog) := do
  match w.state with
  | .healthy =>
    if ← w.pause w.policy.interval then w.enter (w.state.afterCheck (← w.check)) else return none
  | .unhealthy =>
    Work.ask (.setOnline w.device.ref false)
    w.disconnect
    w.enter (w.state.afterDisconnect w.policy)
  | .reconnecting _ backoff =>
    if ← w.pause backoff then
      if ← w.reconnect then Work.ask (.setOnline w.device.ref true)
      match w.state.afterReconnect? w.policy (← Work.ask (.isOnline w.device.ref)) with
      | some state => w.enter state
      | none => return none
    else return none
  | .givenUp => return none

end Watchdog

/-! ## Connections -/

/-- Serves a client. -/
structure Connection where
  index : Nat
  client : String
  input : LineStream := {}

namespace Connection

/-- Answers a line; a blank one gets no answer. -/
def answer (c : Connection) (intake : Intake) (line : String) : Work Unit := do
  let line := Text.trim line
  if line.isEmpty then return
  let reply ← match ← Gateway.checkRate c.client with
    | .ok () => Gateway.handleLine intake line c.client
    | .error e => Gateway.respond (.error e)
  Work.ask (.reply c.index reply)

/-- Reads more, up to the idle timeout in force; the last line may lack its line feed. -/
def readMore (c : Connection) (intake : Intake) : Work (Option Connection) := do
  let settings ← Work.ask .settings
  let now ← Work.ask .now
  match ← Work.ask (.read c.index (settings.idleTimeout.map (now + ·))) with
  | .bytes bytes => return some { c with input := c.input.feed bytes }
  | .ended =>
    if let some line := c.input.last? then c.answer intake line
    return none
  | .idle | .cancelled => return none

def unreadable : Error := .validation "Request is not valid UTF-8"

/-- Answers the next line, or reads more. -/
def round (c : Connection) (intake : Intake) : Work (Option Connection) := do
  let (event, input) := c.input.next
  let c := { c with input }
  match event with
  | .line line =>
    c.answer intake line
    return some c
  | .oversized =>
    Work.ask (.reply c.index .tooLarge)
    return some c
  | .unreadable =>
    let reply ← Gateway.respond (.error unreadable)
    Work.ask (.reply c.index reply)
    return some c
  | .starved => c.readMore intake

end Connection

/-! ## Any worker -/

inductive Worker where
  | ticker (t : Ticker)
  | watchdog (w : Watchdog)
  | connection (c : Connection)
  | request (line client : String)

/-- How a round ends. -/
inductive RoundEnd where
  | again (worker : Worker)
  /-- The worker has ended; a request has its reply. -/
  | ended (reply : Option Reply)

namespace Worker

/-- The next round of a worker, or its end. -/
def following {α : Type} (worker : α → Worker) (next : Option α) : RoundEnd :=
  match next with
  | some a => .again (worker a)
  | none => .ended none

/-- One round of a worker. -/
def round (intake : Intake) : Worker → Work RoundEnd
  | ticker t => do return following ticker (← t.round)
  | watchdog w => do return following watchdog (← w.round)
  | connection c => do return following connection (← c.round intake)
  | request line client => do return .ended (some (← Gateway.handleLine intake line client))

end Worker

end ChillerGateway
