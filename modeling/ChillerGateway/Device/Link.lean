import ChillerGateway.Device.Operation
import ChillerGateway.Setpoint
import ChillerGateway.Binary64.Reader
import ChillerGateway.Text.Blank
import ChillerGateway.Text.Quoted

/-!
# The link driver

The driver of a controller that is reached by lines on a stream.  Commands keep a minimum distance
in time.  A write is never acknowledged, so each is followed by readings until the device reports
the requested value; readings that time out count as attempts, any other failure ends them.

* `Link.query` — one command with its answer.
* `Link.verify` — the readings after a write.
* `Link.perform` — an operation.
-/

namespace ChillerGateway

namespace Link

/-- The least time between two commands, in milliseconds. -/
def commandInterval : Nat := 100

/-- How many readings follow a write. -/
def verifyAttempts : Nat := 3

/-- The pause between two readings, in milliseconds. -/
def verifyDelay : Nat := 100

/-! ## One command -/

/-- Waits out the interval since the last command and notes the time of this one. -/
def pace : Attempt Unit := do
  if let some last ← Attempt.step .lastCommand then
    Attempt.step (.sleepUntil (last + commandInterval))
  Attempt.step (.setLastCommand (some (← Attempt.step .now)))

/-- Sends a command; what is still buffered belongs to an earlier one and is thrown away. -/
def write (command : String) : Attempt Unit := do
  pace
  if !(← Attempt.step .isOpen) then throw .notConnected
  Attempt.step .clearInput
  Attempt.check (Program.perform (I := Exchange.interface) (.send command))

/-- Whether an answer begins with the device's error mark, in any case. -/
def isErrorAnswer (answer : String) : Bool := (Text.lower answer).startsWith "error"

/-- The answer that was received, or the failure that it stands for. -/
def answerOf : Reception → Except Error String
  | .timeout => .error .timeout
  | .closed => .error (.io "device stream closed")
  | .failed text => .error (.io text)
  | .line "" => .error .timeout
  | .line answer => if isErrorAnswer answer then .error (.protocol answer) else .ok answer

/-- One command with its answer. -/
def query (timeout : Nat) (command : String) : Attempt String := do
  write command
  ExceptT.mk (pure (answerOf (← Attempt.step (.receive timeout))))

/-- One command whose answer is a number. -/
def queryNumber (timeout : Nat) (command : String) : Attempt Binary64 := do
  let answer ← query timeout command
  match Binary64.parse? (Text.trim answer) with
  | some x => return x
  | none => throw (.protocol ("Unparseable reply to " ++ command ++ ": " ++ Text.quote answer))

def queryRunning (timeout : Nat) : Attempt Bool := do
  return (← query timeout "in_mode_05") == "1"

/-! ## Verified writes -/

/-- What the readings after a write are to show. -/
inductive Expected where
  | setpoint (value : Binary64)
  | running (running : Bool)
  deriving DecidableEq

def temperatureText (x : Binary64) : String := x.toFixed 2 ++ " °C"

def runningText (running : Bool) : String := if running then "running" else "stopped"

namespace Expected

def text : Expected → String
  | setpoint value => temperatureText value
  | running r => runningText r

/-- The name of the state. -/
def subject : Expected → String
  | setpoint _ => "setpoint"
  | running _ => "circulation state"

end Expected

/-- A reading: whether it shows what is expected, and its text. -/
def observe (timeout : Nat) : Expected → Attempt (Bool × String)
  | .setpoint value => do
    let actual ← queryNumber timeout "in_sp_00"
    return (decide (Setpoint.Near actual value), temperatureText actual)
  | .running running => do
    let actual ← queryRunning timeout
    return (actual == running, runningText actual)

/-- The failure of a write that no reading confirmed; `last` is the last reading there was. -/
def unconfirmed (expected : Expected) : (last : Option String) → Error
  | some seen => .unacknowledged ("Device did not acknowledge the requested " ++ expected.subject ++
      ". Expected " ++ expected.text ++ " but read back " ++ seen ++ ".")
  | none => .stateUnknown ("Device state unknown: no read-back of the " ++ expected.subject ++
      " after " ++ toString verifyAttempts ++ " attempts; " ++ expected.text ++
      " may or may not have been applied.")

/-- Pauses between two readings. -/
def pause : Attempt Unit := do
  Attempt.step (.sleepUntil ((← Attempt.step .now) + verifyDelay))

/-- Readings until one shows what is expected, with so many attempts left. -/
def verifyFrom (timeout : Nat) (expected : Expected) :
    (attempts : Nat) → (last : Option String) → Attempt Unit
  | 0, last => throw (unconfirmed expected last)
  | attempts + 1, last => do
    match ← Attempt.outcome (observe timeout expected) with
    | .ok (true, _) => return
    | .ok (false, seen) => again attempts (some seen)
    | .error .timeout => again attempts last
    | .error e => throw e
where
  again (attempts : Nat) (last : Option String) : Attempt Unit := do
    if attempts ≠ 0 then pause
    verifyFrom timeout expected attempts last

/-- The readings after a write. -/
def verify (timeout : Nat) (expected : Expected) : Attempt Unit :=
  verifyFrom timeout expected verifyAttempts none

/-! ## Operations -/

/-- Opens the stream, if it is closed; the first command of a connection need not wait. -/
def connect : Attempt Unit := do
  if !(← Attempt.step .isOpen) then
    Attempt.check (Program.perform (I := Exchange.interface) .openStream)
    Attempt.step (.setLastCommand none)

/-- Writes a setpoint with one place, then confirms it; a value out of range is not sent. -/
def setSetpoint (timeout : Nat) (value : Binary64) : Attempt Unit := do
  ExceptT.mk (pure (Setpoint.validate value))
  write ("out_sp_00 " ++ value.toFixed 1)
  verify timeout (.setpoint value)

/-- Writes the run flag, then confirms it. -/
def setRunning (timeout : Nat) (running : Bool) : Attempt Bool := do
  write ("out_mode_05 " ++ if running then "1" else "0")
  verify timeout (.running running)
  return running

/-- An operation over the link. -/
def perform (timeout : Nat) : (op : Operation) → Attempt op.Result
  | .connect => connect
  | .close => Attempt.step .dropStream
  | .identify => query timeout "version"
  | .status => query timeout "status"
  | .temperature => queryNumber timeout "in_pv_00"
  | .setpoint => queryNumber timeout "in_sp_00"
  | .isRunning => queryRunning timeout
  | .setSetpoint value => setSetpoint timeout value
  | .setRunning running => setRunning timeout running
  | .raw line => query timeout line

end Link

end ChillerGateway
