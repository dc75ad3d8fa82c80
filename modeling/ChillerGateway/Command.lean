import ChillerGateway.Error
import ChillerGateway.Json.Printer
import ChillerGateway.Binary64.Reader
import ChillerGateway.Text.Blank

/-!
# Commands

The commands a client may send to a device, and how a name with an optional value becomes one.
Names and values are checked here, so a refused command never reaches a device.

* `Command.parse` — a command from its name and value.
* `Command.IsMutating` — the commands that change a device; `isMutatingName` asks it of a name.
-/

namespace ChillerGateway

/-- A command with its checked parameter. -/
inductive Command where
  | identify
  | status
  | getSetpoint
  | setSetpoint (value : Binary64)
  | temperature
  | isRunning
  | start
  | stop
  | setRunning (running : Bool)
  /-- Status, temperature, setpoint and run state at once. -/
  | statusAll
  /-- A sign of life; no device takes part. -/
  | ping
  deriving DecidableEq

namespace Command

def name : Command → String
  | identify => "identify"
  | status => "status"
  | getSetpoint => "get_setpoint"
  | setSetpoint _ => "set_setpoint"
  | temperature => "temperature"
  | isRunning => "is_running"
  | start => "start"
  | stop => "stop"
  | setRunning _ => "set_running"
  | statusAll => "status_all"
  | ping => "ping"

/-- The names of the commands that change a device. -/
def mutatingNames : List String := ["set_setpoint", "start", "stop", "set_running"]

def isMutatingName (name : String) : Bool := mutatingNames.contains name

def isMutating (c : Command) : Bool := isMutatingName c.name

/-! ## Values -/

/-- The finite number that a value stands for: a number, or a text that reads as one. -/
def number? (value : Json) : Option Binary64 :=
  let parsed := match value with
    | .number n => some n.toBinary64
    | .string s => Binary64.parse? (Text.trim s)
    | _ => none
  parsed.filter Binary64.isFinite

def number (value : Json) : Except Error Binary64 :=
  match number? value with
  | some x => .ok x
  | none => .error (.validation ("'value' must be a number, got " ++ value.render))

/-- The words for yes and no. -/
def word? (word : String) : Option Bool :=
  if ["1", "true", "on", "start", "run"].contains word then some true
  else if ["0", "false", "off", "stop", "halt"].contains word then some false
  else none

/-- The switch position that a value stands for: a truth value, a number, or a word in any case. -/
def switch? : Json → Option Bool
  | .bool b => some b
  | .number n => some (!(n.toBinary64.same 0))
  | .string s => word? (Text.lower (Text.trim s))
  | _ => none

def switch (value : Json) : Except Error Bool :=
  match switch? value with
  | some b => .ok b
  | none => .error (.validation ("Unable to interpret 'value' for set_running. " ++
      "Use a boolean, number, or supported string."))

/-- The value that a command needs; null counts as none. -/
def required (command kind : String) (value : Option Json) : Except Error Json :=
  match value with
  | none | some .null =>
    .error (.validation ("'" ++ command ++ "' requires a " ++ kind ++ " 'value'"))
  | some v => .ok v

/-- The command of that name. -/
def parse (name : String) (value : Option Json) : Except Error Command :=
  match name with
  | "identify" => .ok identify
  | "status" => .ok status
  | "get_setpoint" => .ok getSetpoint
  | "set_setpoint" => do return setSetpoint (← number (← required name "numeric" value))
  | "temperature" => .ok temperature
  | "is_running" => .ok isRunning
  | "start" => .ok start
  | "stop" => .ok stop
  | "set_running" => do return setRunning (← switch (← required name "boolean" value))
  | "status_all" => .ok statusAll
  | "ping" => .ok ping
  | _ => .error (.unknownCommand name)

end Command

end ChillerGateway
