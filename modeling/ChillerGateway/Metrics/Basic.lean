import ChillerGateway.Json.Basic
import ChillerGateway.Clock

/-!
# Metrics

Counts of processed commands and of failures, the latencies of commands, and the last known
readings.

* `Counts` — series of counts by label, in ascending order of the labels.
* `Metrics.recordCommand`, `recordError`, `cacheStatus` — the events that change them.
-/

namespace ChillerGateway

/-- Counts by label, ascending, each label once. -/
abbrev Counts := List (String × Nat)

namespace Counts

def get (label : String) (counts : Counts) : Nat := (counts.lookup label).getD 0

/-- The counts with the label's count changed; a new label starts from zero. -/
def modify (label : String) (f : Nat → Nat) : Counts → Counts
  | [] => [(label, f 0)]
  | (l, n) :: rest =>
    if label = l then (l, f n) :: rest
    else if label < l then (label, f 0) :: (l, n) :: rest
    else (l, n) :: modify label f rest

def increment (label : String) (counts : Counts) : Counts := counts.modify label (· + 1)

/-- The counts with a series for the label. -/
def touch (label : String) (counts : Counts) : Counts := counts.modify label id

/-- The sum of all series. -/
def total (counts : Counts) : Nat := (counts.map Prod.snd).foldr (· + ·) 0

end Counts

/-- The upper ends of the latency classes, in seconds. -/
def latencyBounds : List Binary64 := [0.005, 0.01, 0.025, 0.05, 0.1, 0.25, 0.5, 1, 2.5, 5, 10]

/-- Latencies seen so far, in seconds. -/
structure Latencies where
  /-- How many fell into each class, with those above the last bound at the end. -/
  classes : List Nat := List.replicate (latencyBounds.length + 1) 0
  sum : Binary64 := 0
  count : Nat := 0
  deriving DecidableEq

namespace Latencies

/-- The class of a latency: the first bound that is not below it. -/
def classOf (seconds : Binary64) : Nat :=
  latencyBounds.findIdx fun bound => decide (seconds ≤ bound)

def observe (l : Latencies) (seconds : Binary64) : Latencies where
  classes := l.classes.modify (classOf seconds) (· + 1)
  sum := l.sum + seconds
  count := l.count + 1

end Latencies

/-- All that is measured. -/
structure Metrics where
  commands : Counts := []
  errors : Counts := []
  latency : Latencies := {}
  temperature : Binary64 := 0
  setpoint : Binary64 := 0
  running : Binary64 := 0
  deriving DecidableEq

namespace Metrics

def recordCommand (m : Metrics) (name : String) (seconds : Binary64) : Metrics :=
  { m with commands := m.commands.increment name, latency := m.latency.observe seconds }

def recordError (m : Metrics) (kind : String) : Metrics :=
  { m with errors := m.errors.increment kind }

/-- Takes over the readings that an overall status holds. -/
def cacheStatus (m : Metrics) (status : Json) : Metrics where
  commands := m.commands
  errors := m.errors
  latency := m.latency
  temperature := ((status.get? "temperature").bind Json.asNumber?).getD m.temperature
  setpoint := ((status.get? "setpoint").bind Json.asNumber?).getD m.setpoint
  running :=
    match (status.get? "is_running").bind Json.asBool? with
    | some running => if running then 1 else 0
    | none => m.running

/-- The counts of a label among commands and failures; looking makes the series exist. -/
def counts (m : Metrics) (label : String) : (Nat × Nat) × Metrics :=
  ((m.commands.get label, m.errors.get label),
    { m with commands := m.commands.touch label, errors := m.errors.touch label })

end Metrics

end ChillerGateway
