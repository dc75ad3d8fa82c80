import ChillerGateway.Error
import ChillerGateway.Gateway.Action
import ChillerGateway.Net.SocketAddress
import ChillerGateway.PathName
import ChillerGateway.Serial

/-!
# Configuration

What a gateway is started with.  Every field has a default, so that no configuration at all is a
gateway for one controller on the loopback address.

* `Config.validate` — the first rule that a configuration breaks.
* `Config.immutableChanges` — what differs between two configurations that cannot change while the
  gateway runs.  All other settings are those of `ServerSection.settings`.
-/

namespace ChillerGateway

/-- The serial line of the default device. -/
structure SerialSection where
  port : String := "/dev/ttyUSB0"
  baudRate : Nat := 4800
  /-- How long a reply may take, in milliseconds. -/
  timeout : Nat := 2000
  /-- Simulated devices in place of serial ports. -/
  simulate : Bool := false
  deriving DecidableEq, Repr

structure ServerSection where
  listen : String := "127.0.0.1:8765"
  authToken : Option String := none
  /-- Requests of one client in a minute; zero for no limit. -/
  rateLimit : Nat := 0
  readOnly : Bool := false
  /-- Seconds of silence before a client is dropped; zero for no limit. -/
  idleTimeout : Nat := 0
  watchdog : Bool := true
  logTraffic : Bool := false
  auditLog : Option PathName := none
  metricsListen : Option String := none
  tlsCertificate : Option PathName := none
  tlsKey : Option PathName := none
  deriving BEq, Repr

/-- A device beside the default one. -/
structure DeviceSection where
  id : String
  port : String
  deriving DecidableEq, Repr

structure Config where
  serial : SerialSection := {}
  server : ServerSection := {}
  devices : List DeviceSection := []
  deriving BEq, Repr

namespace ServerSection

/-- The settings that may change while the gateway runs. -/
def settings (s : ServerSection) : Settings where
  rateLimit := if 0 < s.rateLimit then some s.rateLimit else none
  readOnly := s.readOnly
  idleTimeout := if 0 < s.idleTimeout then some (1000 * s.idleTimeout) else none
  logTraffic := s.logTraffic

/-- The address that a field gives. -/
def address (field text : String) : Except Error SocketAddress :=
  match SocketAddress.parse? text with
  | some a => .ok a
  | none =>
    let problem := "invalid socket address syntax"
    .error (.config ("invalid " ++ field ++ " address '" ++ text ++ "': " ++ problem))

def listenAddress (s : ServerSection) : Except Error SocketAddress := address "listen" s.listen

def metricsAddress (s : ServerSection) : Except Error (Option SocketAddress) :=
  match s.metricsListen with
  | none => .ok none
  | some text => (address "metrics" text).map some

end ServerSection

namespace Config

/-! ## Rules -/

/-- The id of the device that the serial section describes. -/
def defaultId : String := "default"

/-- The first device with an empty id or an id that is taken; `taken` are the ids before it. -/
def checkIds (taken : List String) : List DeviceSection → Except Error Unit
  | [] => .ok ()
  | d :: rest =>
    if d.id.isEmpty then .error (.config "device id must not be empty")
    else if taken.contains d.id then .error (.config ("duplicate device id '" ++ d.id ++ "'"))
    else checkIds (d.id :: taken) rest

/-- The first rule that a configuration breaks. -/
def validate (c : Config) : Except Error Unit := do
  let _ ← c.server.listenAddress
  let _ ← c.server.metricsAddress
  if c.serial.timeout = 0 then throw (.config "serial.timeout_ms must be positive")
  if c.server.tlsCertificate.isSome ≠ c.server.tlsKey.isSome then
    throw (.config "tls_cert and tls_key must be configured together")
  checkIds [defaultId] c.devices

/-! ## What a gateway takes from it -/

/-- The id and the serial port of each device, the default device first. -/
def devicePorts (c : Config) : List (String × String) :=
  (defaultId, c.serial.port) :: c.devices.map fun d => (d.id, d.port)

/-- How to open a serial port. -/
def serialSettings (c : Config) (port : String) : SerialSettings :=
  { port, baudRate := c.serial.baudRate, timeout := c.serial.timeout }

/-- A token from outside, unless it is empty, in place of the configured one. -/
def withToken (token : Option String) (c : Config) : Config :=
  match token.filter (!·.isEmpty) with
  | none => c
  | some t => { c with server := { c.server with authToken := some t } }

/-- The names of the settings that differ and cannot change while the gateway runs. -/
def immutableChanges (old new : Config) : List String :=
  let differences := [
    ("listen", old.server.listen != new.server.listen),
    ("serial", old.serial != new.serial),
    ("devices", old.devices != new.devices),
    ("tls", old.server.tlsCertificate != new.server.tlsCertificate ||
      old.server.tlsKey != new.server.tlsKey),
    ("auth_token", old.server.authToken != new.server.authToken),
    ("audit_log", old.server.auditLog != new.server.auditLog),
    ("metrics_listen", old.server.metricsListen != new.server.metricsListen),
    ("watchdog", old.server.watchdog != new.server.watchdog)]
  (differences.filter Prod.snd).map Prod.fst

end Config

end ChillerGateway
