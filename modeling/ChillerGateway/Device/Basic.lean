import ChillerGateway.Device.FarEnd
import ChillerGateway.Device.Stream
import ChillerGateway.Device.Link

/-!
# Devices

A device is a simulated bath at hand or a link to a far end.  Whoever drives it is alone with it, so
what comes of each step of a driver, and when, is settled by the device itself: `Device.exchange`
gives the time at which a step is over, its answer and the device after it.

* `Device.perform` — an operation as a program of steps.
* `Link.advance` — the far end's acts up to a time.  Of an act and a wait that fall due together the
  one that was settled first comes first, and the wait if both were settled together.
-/

namespace ChillerGateway

/-- A bath that is driven without a stream. -/
structure SimulatedDevice where
  bath : Bath
  connected : Bool := false
  /-- The fault switch: the device cannot be reached. -/
  offline : Bool := false
  deriving DecidableEq

/-- A driver's end of a link with the far end behind it. -/
structure LinkDevice where
  /-- How long an answer may take, in milliseconds. -/
  timeout : Nat
  farEnd : FarEnd
  /-- How many opens are still refused; none for all of them. -/
  refusals : Option Nat := some 0
  refusal : Error := .io "scripted open failure"
  stream : Option Stream := none
  lastCommand : Option Nat := none
  deriving DecidableEq

inductive Device where
  | simulated (device : SimulatedDevice)
  | link (device : LinkDevice)
  deriving DecidableEq

/-- What a driver must know of a device. -/
inductive Backend where
  | simulated
  | link (timeout : Nat)
  deriving DecidableEq, Repr

/-- An operation as a program of steps. -/
def Backend.perform : Backend → (op : Operation) → Attempt op.Result
  | simulated, op => Attempt.check (Program.perform (I := Exchange.interface) (.simulated op))
  | link timeout, op => Link.perform timeout op

/-- Opens the device and has it identify itself. -/
def Backend.introduce (b : Backend) : Attempt String := do
  b.perform .connect
  b.perform .identify

namespace SimulatedDevice

/-- Refuses what a device out of reach or without connection cannot do. -/
def reachable (d : SimulatedDevice) : Except Error Unit :=
  if d.offline then .error .timeout else if d.connected then .ok () else .error .notConnected

/-- A reading of the bath, if it can be reached. -/
def reading {α : Type} (d : SimulatedDevice) (read : Bath → α × Bath) :
    Except Error α × SimulatedDevice :=
  match d.reachable with
  | .error e => (.error e, d)
  | .ok () =>
    let (a, bath) := read d.bath
    (.ok a, { d with bath })

/-- What an answer to a raw line means. -/
def rawAnswer : Option String → Except Error String
  | none => .ok ""
  | some text => if text.startsWith "ERROR" then .error (.protocol text) else .ok text

/-- An operation on the bath, at once. -/
def perform (d : SimulatedDevice) (now : Nat) : (op : Operation) →
    Except Error op.Result × SimulatedDevice
  | .connect =>
    if d.offline then (.error (.io "simulated device unplugged"), d)
    else (.ok (), { d with connected := true })
  | .close => (.ok (), { d with connected := false })
  | .identify => d.reading fun b => (b.identity, b)
  | .status => d.reading fun b => (b.status, b)
  | .temperature => d.reading fun b =>
    let b := b.update now
    (b.temperature, b)
  | .setpoint => d.reading fun b => (b.setpoint, b)
  | .isRunning => d.reading fun b => (b.running, b)
  | .setSetpoint value =>
    match Setpoint.validate value with
    | .error e => (.error e, d)
    | .ok () => d.reading fun b => ((), { b.update now with setpoint := value })
  | .setRunning running => d.reading fun b => (running, { b.update now with running })
  | .raw line =>
    match d.reading fun b => b.respond now line with
    | (.ok answer, d) => (rawAnswer answer, d)
    | (.error e, d) => (.error e, d)

end SimulatedDevice

namespace LinkDevice

/-- The far end's acts up to a time: all before it, and those at it that were settled before
`settled`; `fuel` bounds them. -/
def advanceFrom : (fuel : Nat) → (time settled : Nat) → LinkDevice → LinkDevice
  | 0, _, _, l => l
  | fuel + 1, time, settled, l =>
    match l.farEnd.next? with
    | none => l
    | some (due, since, i) =>
      if due < time ∨ (due = time ∧ since < settled) then
        let (delivery, farEnd) := l.farEnd.actAt i
        let stream := l.stream.map fun s =>
          { s with pipe := s.pipe ++ delivery.bytes, pipeEnded := s.pipeEnded || delivery.close }
        advanceFrom fuel time settled { l with farEnd, stream }
      else l

def advance (l : LinkDevice) (time settled : Nat) : LinkDevice :=
  advanceFrom l.farEnd.work time settled l

/-- All of the far end's acts up to a time. -/
def settle (l : LinkDevice) (time : Nat) : LinkDevice := l.advance time (time + 1)

/-- Opens the stream, unless the opening is refused. -/
def openStream (l : LinkDevice) (now : Nat) : Except Error Unit × LinkDevice :=
  match l.refusals with
  | none => (.error l.refusal, l)
  | some (n + 1) => (.error l.refusal, { l with refusals := some n })
  | some 0 => (.ok (), { l with stream := some {}, farEnd := l.farEnd.connect now })

/-- Sends a line, unless it is none or the far end is gone. -/
def send (l : LinkDevice) (now : Nat) (line : String) : Except Error Unit × LinkDevice :=
  match LineCodec.encode line with
  | .error e => (.error e, l)
  | .ok bytes =>
    if !l.farEnd.isAttached then (.error (.io "broken pipe"), l)
    else if Stream.chunk < bytes.length then
      (.error (.io "broken pipe"),
        { l with farEnd := l.farEnd.hangUp, stream := l.stream.map ({ · with pipeEnded := true }) })
    else
      match LineCodec.decode bytes with
      | (.line text, _) => (.ok (), { l with farEnd := l.farEnd.arrive now text })
      | _ => (.ok (), l)

/-- What the stream gives now. -/
def poll (l : LinkDevice) : Option Reception × LinkDevice :=
  match l.stream with
  | none => (some .closed, l)
  | some s =>
    let (r, s) := s.poll
    (r, { l with stream := some s })

/-- Waits from `time` on for something on the stream until the deadline; `start` is when the wait
began, and `fuel` bounds the acts of the far end that are looked at. -/
def receiveFrom (start deadline : Nat) : (fuel : Nat) → (time : Nat) → LinkDevice →
    Nat × Reception × LinkDevice
  | 0, _, l => (deadline, .timeout, l)
  | fuel + 1, time, l =>
    match l.poll with
    | (some r, l) => (time, r, l)
    | (none, l) =>
      match l.farEnd.next? with
      | none => (deadline, .timeout, l)
      | some (due, since, _) =>
        if due < deadline ∨ (due = deadline ∧ since < start) then
          receiveFrom start deadline fuel (max time due) (l.settle due)
        else (deadline, .timeout, l)

/-- Waits for something on the stream for at most `timeout`: when that was over, and what came. -/
def receive (l : LinkDevice) (now timeout : Nat) : Nat × Reception × LinkDevice :=
  receiveFrom now (now + timeout) (l.farEnd.work + 1) now l

/-- One step of a driver over the link. -/
def exchange (l : LinkDevice) (now : Nat) : (op : Exchange) → Nat × op.Answer × LinkDevice
  | .now => (now, now, l)
  | .sleepUntil time => if now < time then (time, (), l.advance time now) else (now, (), l)
  | .lastCommand => (now, l.lastCommand, l)
  | .setLastCommand time => (now, (), { l with lastCommand := time })
  | .isOpen => (now, l.stream.isSome, l)
  | .openStream => (now, l.openStream now)
  | .dropStream => (now, (), { l with stream := none, farEnd := l.farEnd.detach })
  | .clearInput => (now, (), { l with stream := l.stream.map Stream.clear })
  | .send line => (now, l.send now line)
  | .receive timeout => l.receive now timeout
  | .simulated _ => (now, .error .notConnected, l)

end LinkDevice

namespace Device

def backend : Device → Backend
  | simulated _ => .simulated
  | link l => .link l.timeout

def isConnected : Device → Bool
  | simulated d => d.connected
  | link l => l.stream.isSome

/-- One step of a driver: when it is over, its answer, and the device after it. -/
def exchange : Device → (now : Nat) → (op : Exchange) → Nat × op.Answer × Device
  | link l, now, op =>
    let (time, answer, l) := l.exchange now op
    (time, answer, link l)
  | simulated d, now, .simulated op =>
    let (answer, d) := d.perform now op
    (now, answer, simulated d)
  | simulated d, now, .now => (now, now, simulated d)
  | simulated d, now, .lastCommand => (now, none, simulated d)
  | simulated d, now, .isOpen => (now, d.connected, simulated d)
  | simulated d, now, .sleepUntil time => (max now time, (), simulated d)
  | simulated d, now, .setLastCommand _ => (now, (), simulated d)
  | simulated d, now, .dropStream => (now, (), simulated d)
  | simulated d, now, .clearInput => (now, (), simulated d)
  | simulated d, now, .openStream => (now, .ok (), simulated d)
  | simulated d, now, .send _ => (now, .ok (), simulated d)
  | simulated d, now, .receive timeout => (now + timeout, .timeout, simulated d)

/-- The device after all that happens by itself up to a time. -/
def settle (now : Nat) : Device → Device
  | link l => link (l.settle now)
  | d => d

/-- Sets the fault switch of a simulated device. -/
def setFault (offline : Bool) : Device → Device
  | simulated d => simulated { d with offline }
  | d => d

/-- The lines that a scripted far end read up to a time, oldest first, and the
device without them. -/
def takeHeard (now : Nat) : Device → Option (List String) × Device
  | link l =>
    match l.farEnd.responder with
    | .script .. =>
      let (due, later) := l.farEnd.heard.partition fun h => decide (h.time ≤ now)
      (some (due.reverse.map Heard.line), link { l with farEnd := { l.farEnd with heard := later } })
    | .bath _ => (none, link l)
  | d => (none, d)

/-! ## A driver alone with a device -/

/-- A device on a clock that only its driver moves. -/
structure Bench where
  now : Nat := 0
  device : Device

def Bench.step (op : Exchange) : StateM Bench op.Answer := fun b =>
  let (now, answer, device) := b.device.exchange b.now op
  (answer, { now, device })

/-- Runs a driver program. -/
def Bench.attempt {α : Type} (p : Attempt α) : StateM Bench (Except Error α) :=
  Program.run (I := Exchange.interface) Bench.step p.run

end Device

end ChillerGateway
