import ChillerGateway.Schedule.Basic
import ChillerGateway.Binary64.Reader
import ChillerGateway.Csv.Reader
import ChillerGateway.Text.Quoted

/-!
# Schedule files

A schedule is stored as comma-separated text: a header, then a time and a temperature on each line
with two places.  A file to be read may have any further columns.  Its first record is passed over
when it is no pair of numbers, and so is every record of fewer than two fields.

* `Schedule.ofBytes` reads a file, `Schedule.toCsv` writes one.
-/

namespace ChillerGateway

namespace Schedule

/-- The step in the first two fields of a record. -/
def step? : List String → Option (Step Binary64)
  | minutes :: temperature :: _ => do
    return ⟨← Binary64.parse? minutes, ← Binary64.parse? temperature⟩
  | _ => none

/-- The steps of the records from the one at `index` on, after those already read, in reverse. -/
def stepsFrom : (index : Nat) → (read : List (Step Binary64)) → List (List Csv.Bytes) →
    Except Error (List (Step Binary64))
  | _, read, [] => .ok read.reverse
  | index, read, fields :: rest =>
    match Csv.texts? fields with
    | none => .error (.csv "invalid UTF-8")
    | some texts =>
      if texts.length < 2 then stepsFrom (index + 1) read rest
      else match step? texts with
        | some s => stepsFrom (index + 1) (s :: read) rest
        | none =>
          if index = 0 then stepsFrom (index + 1) read rest
          else .error (.validation ("Invalid schedule row " ++ toString (index + 1) ++ ": " ++
            Text.quoteList texts))

/-- The schedule that a file holds. -/
def ofBytes (bytes : Csv.Bytes) : Except Error Schedule := do
  make (← stepsFrom 0 [] (Csv.records bytes))

/-- The schedule that a text holds. -/
def ofCsv (text : String) : Except Error Schedule := ofBytes (Text.toBytes text)

def csvLine (s : Step Binary64) : String :=
  s.minutes.toFixed 2 ++ "," ++ s.temperature.toFixed 2 ++ "\n"

/-- The file of a schedule. -/
def toCsv (s : Schedule) : String :=
  s.steps.toList.foldl (fun out step => out ++ csvLine step) "elapsed_minutes,temperature_c\n"

end Schedule

end ChillerGateway
