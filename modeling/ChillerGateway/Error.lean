/-!
# Failures

`Error` lists every way in which work for a client can fail.  A failure has a stable kind for
metrics, a full message for the operator, and a message that is safe to send to a client: internal
failures collapse to one text, and line ends become blanks, so what a client receives is always one
line.

* `clientMessage_isLine` — no client message holds a line end.
-/

namespace ChillerGateway

/-- A failure. -/
inductive Error where
  /-- A bad or missing parameter, or a value out of range. -/
  | validation (text : String)
  /-- The device answered with its error mark, or with something that has no meaning. -/
  | protocol (text : String)
  /-- No answer from the device in time. -/
  | timeout
  /-- A missing or wrong token. -/
  | permission
  /-- The client spent its request budget. -/
  | rateLimited
  /-- A command that changes state, sent to a read-only gateway. -/
  | readOnly
  | unknownCommand (name : String)
  | unknownDevice (id : String)
  /-- A write went out but the reading never matched. -/
  | unacknowledged (text : String)
  /-- A write went out but nothing could be read. -/
  | stateUnknown (text : String)
  /-- The device is marked down. -/
  | reconnecting
  /-- The link was never opened. -/
  | notConnected
  | io (text : String)
  | serial (text : String)
  /-- Schedule text that is not made of characters. -/
  | csv (text : String)
  | config (text : String)
  | tls (text : String)
  deriving DecidableEq, Repr, Inhabited

namespace Error

/-- A stable label. -/
def kind : Error → String
  | validation _ => "validation"
  | protocol _ => "protocol"
  | timeout => "timeout"
  | permission => "permission"
  | rateLimited => "rate_limited"
  | readOnly => "read_only"
  | unknownCommand _ => "unknown_command"
  | unknownDevice _ => "unknown_device"
  | unacknowledged _ => "unacknowledged"
  | stateUnknown _ => "state_unknown"
  | reconnecting => "reconnecting"
  | notConnected => "not_connected"
  | io _ => "io"
  | serial _ => "serial"
  | csv _ => "csv"
  | config _ => "config"
  | tls _ => "tls"

/-- The full message. -/
def message : Error → String
  | validation text | protocol text | unacknowledged text | stateUnknown text => text
  | timeout => "No response from device (timeout)"
  | permission => "Invalid or missing authentication token"
  | rateLimited => "Rate limit exceeded"
  | readOnly => "Server is in read-only mode"
  | unknownCommand name => "Unsupported command: " ++ name
  | unknownDevice id => "Unknown chiller_id: " ++ id
  | reconnecting => "Serial connection lost, reconnecting..."
  | notConnected => "Serial connection has not been opened"
  | io text => "I/O error: " ++ text
  | serial text => "Serial port error: " ++ text
  | csv text => "CSV error: " ++ text
  | config text => "Configuration error: " ++ text
  | tls text => "TLS error: " ++ text

/-- What a client may know, before line ends are taken out. -/
def disclosure : Error → String
  | validation text => "Invalid request: " ++ text
  | unknownCommand name => "Invalid request: " ++ (unknownCommand name).message
  | unknownDevice id => "Invalid request: " ++ (unknownDevice id).message
  | csv text => "Invalid request: " ++ (csv text).message
  | protocol text | unacknowledged text | stateUnknown text => "Device error: " ++ text
  | timeout => "Device timeout"
  | permission => "Authentication failed"
  | rateLimited => rateLimited.message
  | readOnly => readOnly.message
  | reconnecting => reconnecting.message
  | notConnected | io _ | serial _ | config _ | tls _ => "Internal server error"

def isLineEnd (c : Char) : Bool := c = '\r' || c = '\n'

/-- The text with a blank for every line end. -/
def oneLine (s : String) : String :=
  String.ofList (s.toList.map fun c => if isLineEnd c then ' ' else c)

/-- The message for a client. -/
def clientMessage (e : Error) : String := oneLine e.disclosure

theorem oneLine_isLine (s : String) : ∀ c ∈ (oneLine s).toList, isLineEnd c = false := by
  intro c hc
  simp only [oneLine, String.toList_ofList, List.mem_map] at hc
  obtain ⟨d, -, rfl⟩ := hc
  split
  · decide
  · simpa using ‹¬ isLineEnd d = true›

theorem clientMessage_isLine (e : Error) : ∀ c ∈ e.clientMessage.toList, isLineEnd c = false :=
  oneLine_isLine _

end Error

end ChillerGateway
