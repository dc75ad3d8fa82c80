import ChillerGateway.Gateway.World

/-!
# Controlling a gateway from outside

What is done to a gateway by whoever runs it: starting it, changing its settings, letting clients
and requests in, starting and cancelling watchdogs, and shutting it down.  None of these is a
worker's turn.

* `World.start` — a gateway for one device.
* `World.openConnection?`, `World.deliver`, `World.takeReplies` — a client's side of a connection.
* `World.reports` — the registered devices, each once, by ascending id.
* `World.rest` — everything that is due by now has happened.
-/

namespace ChillerGateway

namespace World

/-! ## Starting and settings -/

/-- A gateway that serves one device as the default device; an empty token stands for none. -/
def start (auth : Option String) (settings : Settings) (metrics : Option Metrics)
    (device : Device) (remark : String → String := fun _ => "") : World :=
  let intake : Intake := { auth := auth.filter (!·.isEmpty), remark }
  let w : World := { intake, settings, limiter := limiterFor settings, metrics }
  w.register defaultId device

/-- Takes over new settings; clients keep their counts unless the limit itself changes. -/
def reload (w : World) (settings : Settings) : World :=
  { w with
    settings
    limiter :=
      if settings.rateLimit = w.settings.rateLimit then w.limiter else limiterFor settings }

/-! ## Devices -/

def setOnline (w : World) (ref : Nat) (online : Bool) : World :=
  w.modifyDevice ref ({ · with online })

/-- Sets the fault switch of a device that has one. -/
def setFault (w : World) (ref : Nat) (fault : Bool) : World :=
  w.modifyDevice ref fun slot => { slot with device := slot.device.setFault fault }

/-- The lines that a scripted far end read since they were last taken. -/
def takeHeard (w : World) (ref : Nat) : Option (List String) × World :=
  match w.devices[ref]? with
  | none => (none, w)
  | some slot =>
    let (heard, device) := slot.device.takeHeard w.now
    (heard, w.modifyDevice ref ({ · with device }))

/-- What the list of devices says about one. -/
structure DeviceReport where
  id : String
  online : Bool
  /-- Whether it is connected; none while it is locked. -/
  connected : Option Bool
  deriving DecidableEq, Repr

/-- The report on a device; `mine` tells which locks do not hide it. -/
def report (w : World) (mine : Nat → Bool) (id : String) (ref : Nat) : Option DeviceReport :=
  w.devices[ref]?.map fun slot =>
    { id, online := slot.online
      connected := if slot.owner.isSome && !mine ref then none else some slot.device.isConnected }

/-- The registered devices by ascending id. -/
def reports (w : World) (mine : Nat → Bool) : List DeviceReport :=
  let sorted := w.registry.mergeSort fun a b => decide (a.1 ≤ b.1)
  sorted.filterMap fun (id, ref) => w.report mine id ref

/-! ## Connections and requests -/

/-- Counts a connection in, unless the gateway is shutting down. -/
def enter? (w : World) : Option World :=
  if w.shuttingDown then none else some { w with active := w.active + 1 }

/-- Counts a connection out. -/
def leave (w : World) : World := { w with active := w.active - 1 }

/-- A new connection of a client, unless the gateway is shutting down: its index. -/
def openConnection? (w : World) (client : String) : Option (Nat × World) :=
  w.enter?.map fun w =>
    let index := w.clients.size
    (index, { w with clients := w.clients.push {} }.spawn (.connection index)
      (.connection { index, client }))

/-- Whether the gateway still holds a connection. -/
def serves (w : World) (index : Nat) : Bool := w.clients[index]?.any (!·.closed)

/-- Whether the gateway is busy with a connection, and not waiting for its client. -/
def isOccupied (w : World) (index : Nat) : Bool :=
  w.serves index && !w.waiting.any (·.cause = .input index)

/-- The client sends bytes. -/
def deliver (w : World) (index : Nat) (bytes : List UInt8) : World :=
  (w.modifyClient index fun c => { c with inbox := c.inbox ++ bytes }).wake (.input index)

/-- The client sends nothing more. -/
def endInput (w : World) (index : Nat) : World :=
  (w.modifyClient index ({ · with ended := true })).wake (.input index)

def cancelConnection (w : World) (index : Nat) : World :=
  (w.modifyClient index ({ · with cancelled := true })).wakeCancelled

/-- The replies that the client has not looked at, oldest first. -/
def takeReplies (w : World) (index : Nat) : List Reply × World :=
  ((w.clients[index]?.elim [] (·.outbox)).reverse, w.modifyClient index ({ · with outbox := [] }))

/-- Starts a request that no connection brought: the number of its worker. -/
def startRequest (w : World) (line client : String) : Nat × World :=
  (w.nextTask, w.spawn .request (.request line client))

/-- The audit entries since they were last taken, oldest first. -/
def takeTrail (w : World) : List AuditEntry × World := (w.trail.reverse, { w with trail := [] })

/-! ## Watchdogs -/

/-- Has a new watchdog watch a device: its index. -/
def startWatchdog (w : World) (device : Handle) (policy : WatchdogPolicy) : Nat × World :=
  let index := w.watchdogs.size
  (index, { w with watchdogs := w.watchdogs.push { ref := device.ref } }.spawn (.watchdog index)
    (.watchdog { index, device, policy }))

def watchdogState? (w : World) (index : Nat) : Option WatchdogState :=
  w.watchdogs[index]?.map (·.state)

def cancelWatchdogs (w : World) : World :=
  let watchdogs := w.watchdogs.map fun d => { d with cancelled := true }
  { w with watchdogs }.wakeCancelled

/-! ## Shutting down -/

/-- From now on no connection is admitted. -/
def beginShutdown (w : World) : World := { w with shuttingDown := true }

/-- Each connection ends when it has answered its request, and no more is admitted. -/
def stopServing (w : World) : World :=
  { w with
    shuttingDown := true
    clients := w.clients.map fun (c : ClientSlot) => { c with cancelled := true } }.wakeCancelled

/-- From now on every schedule is cancelled; the tickers end when they come to see it. -/
def cancelSchedules (w : World) : World :=
  { w with schedules := { w.schedules with shutDown := true } }.wakeCancelled

/-- Cancels every schedule and waits for the tickers. -/
def shutDownSchedules (w : World) : World :=
  (w.cancelSchedules.drive (Work.ask (.awaitTickers w.lulls))).2

/-! ## Time -/

/-- Lets a span of time pass. -/
def elapse (w : World) (span : Nat) : World := (w.drive (Work.pause span none)).2

/-- Everything that is due by now has happened, also at the far ends. -/
def rest (w : World) : World :=
  let w := w.settle
  { w with devices := w.devices.map fun slot => { slot with device := slot.device.settle w.now } }

end World

end ChillerGateway
