import ChillerGateway.Binary64
import ChillerGateway.Error
import ChillerGateway.Program

/-!
# Device operations

What every temperature controller can do, whatever stands behind it, and the questions a device
driver asks while it does so.

* `Operation` — the operations with their results.
* `Exchange` — one step of a driver: on the stream to a controller, on the clock, or on a simulated
  bath.
* `Attempt` — a driver program that may fail.
-/

namespace ChillerGateway

/-- An operation of a controller. -/
inductive Operation where
  /-- Opens the transport, if it is closed. -/
  | connect
  /-- Releases the transport, if it is open. -/
  | close
  | identify
  | status
  | temperature
  | setpoint
  | isRunning
  /-- Changes the setpoint and confirms it. -/
  | setSetpoint (value : Binary64)
  /-- Starts or stops the circulation and confirms it. -/
  | setRunning (running : Bool)
  /-- Sends a line as it is. -/
  | raw (line : String)
  deriving DecidableEq

namespace Operation

/-- What an operation returns. -/
abbrev Result : Operation → Type
  | connect | close | setSetpoint _ => Unit
  | identify | status | raw _ => String
  | temperature | setpoint => Binary64
  | isRunning | setRunning _ => Bool

end Operation

/-- What came of waiting for an answer. -/
inductive Reception where
  | line (text : String)
  /-- Nothing in time. -/
  | timeout
  /-- The stream reported its end. -/
  | closed
  | failed (text : String)
  deriving DecidableEq, Repr

/-- One step of a driver. -/
inductive Exchange where
  | now
  | sleepUntil (time : Nat)
  /-- When the last command went out on this connection. -/
  | lastCommand
  | setLastCommand (time : Option Nat)
  | isOpen
  | openStream
  | dropStream
  /-- Throws away what was read and not used. -/
  | clearInput
  | send (line : String)
  | receive (timeout : Nat)
  | simulated (op : Operation)
  deriving DecidableEq

namespace Exchange

/-- What a step is answered. -/
abbrev Answer : Exchange → Type
  | now => Nat
  | lastCommand => Option Nat
  | isOpen => Bool
  | sleepUntil _ | setLastCommand _ | dropStream | clearInput => Unit
  | openStream | send _ => Except Error Unit
  | receive _ => Reception
  | simulated op => Except Error op.Result

/-- The steps of drivers as an interface. -/
def interface : Interface := ⟨Exchange, Answer⟩

end Exchange

/-- A driver program that may fail. -/
abbrev Attempt (α : Type) := ExceptT Error (Program Exchange.interface) α

namespace Attempt

/-- A step that cannot fail. -/
def step (op : Exchange) : Attempt op.Answer :=
  ExceptT.lift (Program.perform (I := Exchange.interface) op)

/-- What a step of which failure is an answer came to. -/
def check {α : Type} (p : Program Exchange.interface (Except Error α)) : Attempt α := ExceptT.mk p

/-- The outcome of an attempt, itself no failure. -/
def outcome {α : Type} (p : Attempt α) : Attempt (Except Error α) := ExceptT.lift p.run

variable {α β : Type}

/-- A failure ends the program. -/
theorem run_bind (p : Attempt α) (f : α → Attempt β) :
    (p >>= f).run = p.run.bind fun
      | .ok a => (f a).run
      | .error e => .done (.error e) :=
  congrArg (Program.bind p.run) (funext fun r => by cases r <;> rfl)

theorem run_outcome (p : Attempt α) :
    (outcome p).run = p.run.bind fun r => .done (.ok r) := rfl

end Attempt

end ChillerGateway
