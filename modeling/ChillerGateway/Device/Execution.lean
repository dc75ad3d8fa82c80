import ChillerGateway.Command
import ChillerGateway.Device.Basic

/-!
# Executing commands

What a command does with a device, as a driver program, and the JSON value that it returns.

* `Command.execute` — the program of a command.
-/

namespace ChillerGateway

namespace Command

/-- Status, temperature, setpoint and run state, read in this order. -/
def overview (device : Backend) : Attempt Json := do
  let status ← device.perform .status
  let temperature ← device.perform .temperature
  let setpoint ← device.perform .setpoint
  let running ← device.perform .isRunning
  return .ofMembers [("status", .string status), ("temperature", .ofBinary64 temperature),
    ("setpoint", .ofBinary64 setpoint), ("is_running", .bool running)]

/-- The program of a command; a new setpoint is read back once more for the result. -/
def execute (device : Backend) : Command → Attempt Json
  | identify => do return .string (← device.perform .identify)
  | status => do return .string (← device.perform .status)
  | getSetpoint => do return .ofBinary64 (← device.perform .setpoint)
  | setSetpoint value => do
    device.perform (.setSetpoint value)
    return .ofBinary64 (← device.perform .setpoint)
  | temperature => do return .ofBinary64 (← device.perform .temperature)
  | isRunning => do return .bool (← device.perform .isRunning)
  | start => do return .bool (← device.perform (.setRunning true))
  | stop => do return .bool (← device.perform (.setRunning false))
  | setRunning running => do return .bool (← device.perform (.setRunning running))
  | statusAll => overview device
  | ping => return .string "pong"

/-- The state that a command is about to change, as text, if it can be read. -/
def priorValue (device : Backend) : Command → Attempt (Option String)
  | setSetpoint _ => do
    let reading ← Attempt.outcome (device.perform .setpoint)
    return reading.toOption.map (·.write .plain)
  | start | stop | setRunning _ => do
    let reading ← Attempt.outcome (device.perform .isRunning)
    return reading.toOption.map fun running => if running then "true" else "false"
  | _ => return none

end Command

end ChillerGateway
