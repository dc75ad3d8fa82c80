import ChillerGateway.Config.Basic
import ChillerGateway.Text.Utf8
import ChillerGateway.Toml.Reader

/-!
# Configuration files

A file is a TOML document with the tables `serial` and `server` and the array of tables `devices`.
No other field is known.  A table may also be given as an array of its fields in their order; what
it lacks at the end is as if it were not given, and what it has beyond them does not matter.

* `Config.parse` — the configuration of a text.
* `Config.load`, `Config.loadOrDefault` — the configuration of a file.
* `Config.locate` — which file that is.
-/

namespace ChillerGateway

/-- Why there is no configuration. -/
inductive ConfigFault where
  /-- The text is no TOML, or has a field that is unknown, missing or of a wrong type. -/
  | malformed
  | failed (e : Error)
  deriving DecidableEq, Repr

namespace Config

/-! ## Fields -/

/-- The values of the named fields, from a table or an array. -/
def fields? (names : List String) (t : Toml) : Option (List (Option Toml)) :=
  match t.entries?, t.items? with
  | some entries, _ =>
    if entries.all fun e => names.contains e.1 then some (names.map fun n => entries.lookup n)
    else none
  | none, some items => some ((List.range names.length).map (items[·]?))
  | none, none => none

/-- A field that may be missing. -/
def optional? {α : Type} (read : Toml → Option α) (other : α) : Option Toml → Option α
  | none => some other
  | some t => read t

def text? : Toml → Option String
  | .string s => some s
  | _ => none

def flag? : Toml → Option Bool
  | .boolean b => some b
  | _ => none

/-- A number from zero up to below a limit. -/
def natural? (limit : Nat) : Toml → Option Nat
  | .integer (.ofNat n) => if n < limit then some n else none
  | _ => none

def path? (t : Toml) : Option PathName := (text? t).map PathName.mk

/-! ## Tables -/

def serial? (t : Toml) : Option SerialSection := do
  match ← fields? ["port", "baudrate", "timeout_ms", "simulate"] t with
  | [port, baudRate, timeout, simulate] =>
    let d : SerialSection := {}
    return {
      port := ← optional? text? d.port port
      baudRate := ← optional? (natural? (Nat.pow 2 32)) d.baudRate baudRate
      timeout := ← optional? (natural? (Nat.pow 2 64)) d.timeout timeout
      simulate := ← optional? flag? d.simulate simulate }
  | _ => none

def serverFields : List String := ["listen", "auth_token", "rate_limit", "read_only",
  "idle_timeout_secs", "watchdog", "log_traffic", "audit_log", "metrics_listen", "tls_cert",
  "tls_key"]

def server? (t : Toml) : Option ServerSection := do
  match ← fields? serverFields t with
  | [listen, token, rateLimit, readOnly, idle, watchdog, log, audit, metrics, certificate, key] =>
    let d : ServerSection := {}
    return {
      listen := ← optional? text? d.listen listen
      authToken := ← optional? (some <$> text? ·) d.authToken token
      rateLimit := ← optional? (natural? (Nat.pow 2 64)) d.rateLimit rateLimit
      readOnly := ← optional? flag? d.readOnly readOnly
      idleTimeout := ← optional? (natural? (Nat.pow 2 64)) d.idleTimeout idle
      watchdog := ← optional? flag? d.watchdog watchdog
      logTraffic := ← optional? flag? d.logTraffic log
      auditLog := ← optional? (some <$> path? ·) d.auditLog audit
      metricsListen := ← optional? (some <$> text? ·) d.metricsListen metrics
      tlsCertificate := ← optional? (some <$> path? ·) d.tlsCertificate certificate
      tlsKey := ← optional? (some <$> path? ·) d.tlsKey key }
  | _ => none

/-- A device must have both fields. -/
def device? (t : Toml) : Option DeviceSection := do
  match ← fields? ["id", "port"] t with
  | [some id, some port] => return { id := ← text? id, port := ← text? port }
  | _ => none

def devices? (t : Toml) : Option (List DeviceSection) := do
  (← t.items?).mapM device?

/-- The configuration of a table, whatever its rules say. -/
def ofToml? (t : Toml) : Option Config := do
  match ← fields? ["serial", "server", "devices"] t with
  | [serial, server, devices] =>
    return {
      serial := ← optional? serial? {} serial
      server := ← optional? server? {} server
      devices := ← optional? devices? [] devices }
  | _ => none

/-! ## Files -/

/-- The configuration of a text. -/
def parse (text : String) : Except ConfigFault Config :=
  match (Toml.parse? text).bind fun entries => ofToml? (.table .header entries) with
  | none => .error .malformed
  | some c =>
    match c.validate with
    | .ok () => .ok c
    | .error e => .error (.failed e)

/-- A failure with a file. -/
def fileFault (path problem : String) : ConfigFault := .failed (.config (path ++ ": " ++ problem))

/-- The configuration of a file, with a token from outside. -/
def load (path : String) (contents : Option (List UInt8)) (token : Option String) :
    Except ConfigFault Config :=
  match contents with
  | none => .error (fileFault path "No such file or directory (os error 2)")
  | some bytes =>
    match Text.ofBytes? bytes with
    | none => .error (fileFault path "stream did not contain valid UTF-8")
    | some text => (parse text).map (withToken token)

/-- The configuration of a file, and of a missing file the defaults. -/
def loadOrDefault (path : String) (contents : Option (List UInt8)) (token : Option String) :
    Except ConfigFault Config :=
  if contents.isSome then load path contents token else .ok (withToken token {})

/-- The file that is named by an argument, else by the environment, else the usual one. -/
def locate (argument environment : Option String) : String :=
  (argument <|> environment).getD "/etc/julabo/julabod.toml"

end Config

end ChillerGateway
