import ChillerGateway.Gateway.Control

/-!
# The operator of a gateway

An operator drives a gateway from outside, one step after the other, and holds what the steps leave
behind: locks of devices, requests under way, watchdogs, and clients with their connections.

* `Operating.call` — an operation on a device, through the operator's own lock if there is one.
* `Operating.news` — what the clients have heard since they were last asked.
-/

namespace ChillerGateway

/-- A client that has a connection. -/
structure Caller where
  name : String
  index : Nat
  /-- Whether it sends nothing more. -/
  ended : Bool := false
  /-- Whether it saw the gateway close the connection. -/
  closeSeen : Bool := false

/-- A gateway with what its operator holds. -/
structure Operator where
  world : World
  /-- The locked devices by id. -/
  locks : List (String × Nat) := []
  /-- The workers of requests whose replies nobody collected, oldest first. -/
  requests : List Nat := []
  /-- The latest watchdog of a device by id. -/
  watchdogs : List (String × Nat) := []
  callers : List Caller := []
  /-- How many places of connections the operator takes up. -/
  guests : Nat := 0

/-- A step of an operator. -/
abbrev Operating := StateM Operator

/-- What a client has heard on its connection. -/
structure News where
  name : String
  replies : List Reply
  closed : Bool

namespace Operating

def change (f : World → World) : Operating Unit := modify fun o => { o with world := f o.world }

/-- A change of the gateway that has a result. -/
def take {α : Type} (f : World → α × World) : Operating α := do
  let (a, world) := f (← get).world
  modify ({ · with world })
  return a

/-- Carries out a program while the workers go on; none if it waits for what never comes. -/
def drive {α : Type} (p : Work α) : Operating (Option α) := take (·.drive p)

/-! ## Devices -/

/-- A step on a registered device. -/
def onDevice {α : Type} (id : String) (f : Handle → Operating α) : Operating (Except Error α) := do
  match (← get).world.resolve (some id) with
  | some device => return .ok (← f device)
  | none => return .error (.unknownDevice id)

/-- Registers a device: how many there are then. -/
def add (id : String) (device : Device) : Operating Nat := do
  change (·.register id device)
  return (← get).world.registry.length

def setOnline (id : String) (online : Bool) : Operating (Except Error Unit) :=
  onDevice id fun device => change (·.setOnline device.ref online)

def setFault (id : String) (fault : Bool) : Operating (Except Error Unit) :=
  onDevice id fun device => change (·.setFault device.ref fault)

/-- Takes a device's lock when it is the operator's turn. -/
def lock (id : String) : Operating (Except Error Unit) :=
  onDevice id fun device => do
    let _ ← drive (Work.ask (.lock device.ref))
    modify fun o => { o with locks := (id, device.ref) :: o.locks }

/-- Releases the locks that were taken under an id. -/
def unlock (id : String) : Operating (Except Error Unit) :=
  onDevice id fun _ => do
    let (mine, others) := (← get).locks.partition (·.1 = id)
    mine.forM fun (_, ref) => change (·.unlock ref)
    modify ({ · with locks := others })

def holds (o : Operator) (ref : Nat) : Bool := o.locks.any (·.2 = ref)

/-- A program on a device under its lock, which the operator may hold already. -/
def underLock {α : Type} (device : Handle) (p : Work α) : Operating (Option α) := do
  drive (if holds (← get) device.ref then p else Work.locked device.ref p)

/-- An operation on a device; none if it never ends. -/
def call {α : Type} (id : String) (p : Backend → Attempt α) :
    Operating (Option (Except Error α)) := do
  let called ← onDevice id fun device => underLock device (Work.drive device.ref (p device.backend))
  match called with
  | .ok outcome => return outcome
  | .error e => return some (.error e)

/-- The lines that a scripted far end read since they were last taken. -/
def heard (id : String) : Operating (Option (List String)) := do
  match (← get).world.resolve (some id) with
  | some device => take (·.takeHeard device.ref)
  | none => return none

def reports : Operating (List World.DeviceReport) := do
  let o ← get
  return o.world.reports (holds o)

/-! ## Requests -/

/-- The reply to a line. -/
def request (line client : String) : Operating (Option Reply) := do
  drive (Gateway.handleLine (← get).world.intake line client)

/-- The result of a request. -/
def process (r : Request) (client : String) : Operating (Option (Except Error Json)) := do
  drive (Gateway.process (← get).world.intake.auth r client)

/-- Starts a request and goes on without its reply. -/
def startRequest (line client : String) : Operating Unit := do
  let worker ← take (·.startRequest line client)
  modify fun o => { o with requests := o.requests ++ [worker] }

/-- Waits for the reply to the oldest request under way. -/
def collect : Operating (Option Reply) := do
  match (← get).requests with
  | [] => return none
  | worker :: rest =>
    modify ({ · with requests := rest })
    return (← drive (Work.ask (.awaitReply worker))).join

/-! ## Watchdogs -/

def startWatchdog (id : String) (policy : WatchdogPolicy) : Operating (Except Error Unit) :=
  onDevice id fun device => do
    let index ← take (·.startWatchdog device policy)
    modify fun o => { o with watchdogs := (id, index) :: o.watchdogs }

def watchdogState? (id : String) : Operating (Option WatchdogState) := do
  let o ← get
  return (o.watchdogs.lookup id).bind o.world.watchdogState?

/-! ## Places of connections -/

/-- Takes up a place, unless the gateway is shutting down. -/
def enter : Operating Bool := do
  match (← get).world.enter? with
  | none => return false
  | some world =>
    modify fun o => { o with world, guests := o.guests + 1 }
    return true

/-- Gives up a place, if the operator has one. -/
def leave : Operating Unit := do
  if 0 < (← get).guests then
    modify fun o => { o with world := o.world.leave, guests := o.guests - 1 }

/-! ## Connections -/

def caller? (name : String) : Operating (Option Caller) := do
  return (← get).callers.find? (·.name = name)

/-- Opens a connection; an earlier one of that name ends, and there is none if the gateway is
shutting down. -/
def openConnection (name client : String) : Operating Unit := do
  if let some caller ← caller? name then change (·.endInput caller.index)
  modify fun o => { o with callers := o.callers.filter (·.name ≠ name) }
  if let some (index, world) := (← get).world.openConnection? client then
    modify fun o => { o with world, callers := o.callers ++ [({ name, index } : Caller)] }

/-- A step of a client that can send: whether there is such a client. -/
def onCaller (name : String) (f : Nat → World → World) : Operating Bool := do
  match ← caller? name with
  | none => return false
  | some caller =>
    if caller.ended || !(← get).world.serves caller.index then return false
    change (f caller.index)
    return true

def send (name : String) (bytes : List UInt8) : Operating Bool :=
  onCaller name fun index w => w.deliver index bytes

/-- The client sends nothing more. -/
def endInput (name : String) : Operating Bool := do
  let told ← onCaller name fun index w => w.endInput index
  modify fun o =>
    { o with
      callers := o.callers.map fun c => if c.name = name then { c with ended := true } else c }
  return told

def cancelConnection (name : String) : Operating Unit := do
  if let some caller ← caller? name then change (·.cancelConnection caller.index)

/-- What a client has heard, and the client after that. -/
def newsOf (caller : Caller) : Operating (Option News × Caller) := do
  let replies ← take (·.takeReplies caller.index)
  let closed := !(← get).world.serves caller.index
  if replies.isEmpty && (!closed || caller.closeSeen) then return (none, caller)
  return (some { name := caller.name, replies, closed }, { caller with closeSeen := closed })

/-- What the clients have heard since they were last asked. -/
def news : Operating (List News) := do
  let told ← (← get).callers.mapM newsOf
  modify ({ · with callers := told.map Prod.snd })
  return told.filterMap Prod.fst

end Operating

end ChillerGateway
