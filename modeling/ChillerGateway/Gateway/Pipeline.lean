import ChillerGateway.Gateway.Action
import ChillerGateway.Reply
import ChillerGateway.Request
import ChillerGateway.Schedule.File

/-!
# The request pipeline

A request passes, in this order: the token, the presence of a command, the read-only gate, the
answer to a ping without any device, the look-up of the device, its online flag, and then the
schedule table or the device under its lock.  A command that changes a device reads the prior value
first and leaves an audit record when it succeeds.

* `Gateway.process` — the result of a request.
* `Gateway.handleLine` — the reply to a line.
-/

namespace ChillerGateway

/-- By what a gateway takes in lines. -/
structure Intake where
  /-- The token that requests must carry. -/
  auth : Option String := none
  /-- What the JSON library has to say of a line that is no request, from the colon on. -/
  remark : String → String := fun _ => ""

namespace Gateway

/-- The commands that change a device over time. -/
def scheduleWriteCommands : List String := ["load_schedule", "stop_schedule"]

/-- Whether a read-only gateway refuses the command. -/
def isWrite (name : String) : Bool :=
  Command.isMutatingName name || scheduleWriteCommands.contains name

/-- A link that is closed is a device that waits to be recovered. -/
def recovering : Error → Error
  | .notConnected => .reconnecting
  | e => e

/-! ## On the device -/

/-- The outcome of a command on a locked device, with the value before it for a mutating one. -/
def run (device : Handle) (command : Command) (client : String) : Work (Except Error Json) := do
  if command.isMutating then
    let prior ← Work.drive device.ref (command.priorValue device.backend)
    match ← Work.drive device.ref (command.execute device.backend) with
    | .error e => return .error (recovering e)
    | .ok result =>
      Work.ask (.audit ⟨client, device.id, command.name, prior.toOption.join, result.render⟩)
      return .ok result
  else
    return (← Work.drive device.ref (command.execute device.backend)).mapError recovering

/-- The outcome of a command; the device may go down while the worker waits for its lock. -/
def execute (device : Handle) (command : Command) (client : String) : Work (Except Error Json) :=
  Work.locked device.ref do
    if ← Work.ask (.isOnline device.ref) then run device command client
    else return .error .reconnecting

/-! ## The stages -/

/-- Whether a request carries the token, if one is needed. -/
def isAuthorized (auth : Option String) (r : Request) : Bool :=
  match auth with
  | none => true
  | some token => r.token == some token

/-- A text field that must not be empty. -/
def nonEmpty (field : Option String) : Option String := field.filter fun s => !s.isEmpty

/-- Loads the schedule of a request. -/
def loadSchedule (device : Handle) (r : Request) : Work (Except Error Json) := do
  match nonEmpty r.csv with
  | none => return .error (.validation "'load_schedule' requires a 'csv' string")
  | some csv =>
    match Schedule.ofCsv csv with
    | .error e => return .error e
    | .ok schedule =>
      Work.ask (.loadSchedule device schedule)
      return .ok (Schedules.summary schedule)

/-- The outcome of a named command on a device that is online. -/
def dispatch (device : Handle) (name : String) (r : Request) (client : String) :
    Work (Except Error Json) := do
  match name with
  | "load_schedule" => loadSchedule device r
  | "stop_schedule" =>
    let _ ← Work.ask (.stopSchedule device.id)
    return .ok (.string "stopped")
  | "schedule_status" => return .ok (← Work.ask (.scheduleStatus device.id))
  | _ =>
    match Command.parse name r.value with
    | .error e => return .error e
    | .ok command => execute device command client

/-- The outcome of a named command, past the read-only gate. -/
def serveCommand (name : String) (r : Request) (client : String) (began : Nat) :
    Work (Except Error Json) := do
  match ← Work.ask (.resolve r.chillerId) with
  | none => return .error (.unknownDevice (r.chillerId.getD "default"))
  | some device =>
    if !(← Work.ask (.isOnline device.ref)) then return .error .reconnecting
    match ← dispatch device name r client with
    | .error e => return .error e
    | .ok result =>
      Work.ask (.countCommand name (if name = "status_all" then some result else none) began)
      return .ok result

/-- The result of a request. -/
def process (auth : Option String) (r : Request) (client : String) : Work (Except Error Json) := do
  if !isAuthorized auth r then return .error .permission
  match nonEmpty r.command with
  | none => return .error (.validation "Missing 'command' in request payload")
  | some name =>
    let outset ← Work.ask .beginCommand
    if outset.settings.readOnly && isWrite name then return .error .readOnly
    if name = "ping" then
      Work.ask (.countCommand name none outset.time)
      return .ok (.string "pong")
    serveCommand name r client outset.time

/-- The reply for a result; failures are counted. -/
def respond (result : Except Error Json) : Work Reply := do
  if let .error e := result then Work.ask (.countError e.kind)
  return .ofResult result

/-- The reply to a line that is within the rate limit. -/
def handleLine (intake : Intake) (line client : String) : Work Reply := do
  match Request.parse line intake.remark with
  | .error e => respond (.error e)
  | .ok r => respond (← process intake.auth r client)

/-- Refuses a request of a client over its limit. -/
def checkRate (client : String) : Work (Except Error Unit) := do
  return if ← Work.ask (.countRequest client) then .ok () else .error .rateLimited

end Gateway

end ChillerGateway
