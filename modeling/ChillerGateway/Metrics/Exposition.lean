import ChillerGateway.Metrics.Basic
import ChillerGateway.Binary64.Layout

/-!
# The exposition of metrics

`Metrics.exposition` is the text of all metrics: families in ascending order of their names, each
with its help and type, a line for each series.  A family without a series is left out.

`Metrics.serve` answers requests for it: `/metrics` and `/health`, by `GET` or `HEAD`.
-/

namespace ChillerGateway

namespace Metrics

/-- A family of series. -/
structure Family where
  name : String
  help : String
  kind : String
  /-- What follows the name on each line, and the value. -/
  series : List (String × String)

/-- A label's value between quotes; backslashes, quotes and line feeds are escaped. -/
def labelText (value : String) : String :=
  value.foldl (fun out c => out ++ match c with
    | '\\' => "\\\\"
    | '"' => "\\\""
    | '\n' => "\\n"
    | c => c.toString) "\"" ++ "\""

def labelled (label value : String) : String := "\x7b" ++ label ++ "=" ++ labelText value ++ "\x7d"

def Family.lines (f : Family) : List String :=
  if f.series.isEmpty then []
  else
    ["# HELP " ++ f.name ++ " " ++ f.help, "# TYPE " ++ f.name ++ " " ++ f.kind] ++
      f.series.map fun (suffix, value) => f.name ++ suffix ++ " " ++ value

/-- How many latencies lie at or below each bound, the last one unbounded. -/
def cumulative (classes : List Nat) : List Nat :=
  (classes.foldl (fun (sums, n) c => ((n + c) :: sums, n + c)) (([] : List Nat), 0)).1.reverse

def latencySeries (l : Latencies) : List (String × String) :=
  let bounds := latencyBounds.map (·.write .plain) ++ ["+Inf"]
  (bounds.zip (cumulative l.classes)).map (fun (bound, n) =>
    ("_bucket" ++ labelled "le" bound, toString n)) ++
    [("_sum", l.sum.write .plain), ("_count", toString l.count)]

def countSeries (label : String) (counts : Counts) : List (String × String) :=
  counts.map fun (value, n) => (labelled label value, toString n)

def gauge (name help : String) (value : Binary64) : Family :=
  ⟨name, help, "gauge", [("", value.write .plain)]⟩

def families (m : Metrics) : List Family := [
  ⟨"julabo_command_latency_seconds", "Time from request parse to response", "histogram",
    latencySeries m.latency⟩,
  ⟨"julabo_commands_errors_total", "Failed requests, by error kind", "counter",
    countSeries "type" m.errors⟩,
  ⟨"julabo_commands_total", "Commands processed, by name", "counter",
    countSeries "command" m.commands⟩,
  gauge "julabo_pump_running" "1 when circulation was last seen running" m.running,
  gauge "julabo_setpoint_celsius" "Last reported setpoint" m.setpoint,
  gauge "julabo_temperature_celsius" "Last reported process temperature" m.temperature]

/-- The lines of all metrics. -/
def lines (m : Metrics) : List String := m.families.flatMap Family.lines

/-- The text of all metrics. -/
def exposition (m : Metrics) : String := m.lines.foldl (fun out l => out ++ l ++ "\n") ""

/-- An answer to a request by HTTP. -/
structure Page where
  status : Nat
  contentType : Option String
  body : String
  deriving DecidableEq, Repr

/-- The text of a page, by path. -/
def page? (m : Metrics) (path : String) : Option Page :=
  match path with
  | "/metrics" => some ⟨200, some "text/plain; version=0.0.4; charset=utf-8", m.exposition⟩
  | "/health" => some ⟨200, some "text/plain; charset=utf-8", "OK"⟩
  | _ => none

/-- Answers a request; what follows a question mark or a hash in the address is not part of the
path. -/
def serve (m : Metrics) (method address : String) : Page :=
  let path := String.ofList (address.toList.takeWhile fun c => c ≠ '?' && c ≠ '#')
  match m.page? path, method with
  | some page, "GET" => page
  | some page, "HEAD" => { page with body := "" }
  | some _, _ => ⟨405, none, ""⟩
  | none, _ => ⟨404, none, ""⟩

end Metrics

end ChillerGateway
