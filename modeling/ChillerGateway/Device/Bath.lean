import ChillerGateway.Clock
import ChillerGateway.Setpoint
import ChillerGateway.Binary64.Reader
import ChillerGateway.Text.Blank

/-!
# The simulated bath

The bath follows a first-order thermal model without noise: while it circulates its temperature
approaches the setpoint, else that of the room, by the factor `1 − exp(−k·dt)` over a span `dt`.  It
also answers the command lines of a controller.

* `Bath.update` — the bath at a later time.
* `Bath.respond` — the answer to a command line, none for a write.
-/

namespace ChillerGateway

/-- The state of a simulated bath. -/
structure Bath where
  setpoint : Binary64 := 20
  temperature : Binary64 := 20
  running : Bool := false
  identity : String := "JULABO FL1703 Simulator"
  /-- The approach rate, per second. -/
  driftRate : Binary64 := 0.1
  /-- When the temperature was last computed. -/
  updated : Nat := 0
  deriving DecidableEq

namespace Bath

/-- The temperature of the room, in °C. -/
def ambient : Binary64 := 22

/-- Where the temperature is heading. -/
def goal (b : Bath) : Binary64 := if b.running then b.setpoint else ambient

/-- The bath at a later time. -/
def update (b : Bath) (now : Nat) : Bath :=
  let approach := 1 - (-b.driftRate * Clock.seconds (now - b.updated)).exp
  { b with temperature := b.temperature + (b.goal - b.temperature) * approach, updated := now }

def status (b : Bath) : String := if b.running then "03 REMOTE START" else "02 REMOTE STOP"

/-- The first word of a line in lower case, and the trimmed rest. -/
def splitCommand (line : String) : String × String :=
  let cs := Text.trimChars line.toList
  let isWord := fun c => !Text.isBlank c
  (Text.lower (String.ofList (cs.takeWhile isWord)),
    String.ofList (Text.trimChars (cs.dropWhile isWord)))

/-- Takes a setpoint that a line gives. -/
def writeSetpoint (b : Bath) (now : Nat) (arg : String) : Option String × Bath :=
  match Binary64.parse? arg with
  | none => (some "ERROR: invalid setpoint value", b)
  | some v =>
    if Setpoint.InRange v then (none, { b.update now with setpoint := v })
    else (some "ERROR: setpoint out of range", b)

/-- The answer to a command line, and the bath after it. -/
def respond (b : Bath) (now : Nat) (line : String) : Option String × Bath :=
  let (command, arg) := splitCommand line
  match command with
  | "" => (some "ERROR: empty command", b)
  | "version" => (some b.identity, b)
  | "status" => (some b.status, b)
  | "in_sp_00" => (some (b.setpoint.toFixed 2), b)
  | "in_pv_00" =>
    let b := b.update now
    (some (b.temperature.toFixed 2), b)
  | "in_mode_05" => (some (if b.running then "1" else "0"), b)
  | "out_sp_00" => b.writeSetpoint now arg
  | "out_mode_05" => (none, { b.update now with running := arg = "1" })
  | other => (some ("ERROR: unknown command '" ++ other ++ "'"), b)

end Bath

end ChillerGateway
