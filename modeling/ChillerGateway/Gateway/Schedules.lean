import ChillerGateway.Json.Basic
import ChillerGateway.Schedule.Runner

/-!
# The table of running schedules

At most one schedule runs on a device.  Each load has a generation of its own; the ticker that
drives it looks at the table to learn whether its generation was cancelled, and clears the entry
when it ends, but only if the entry is still its own.

* `Schedules.load`, `stop`, `retire`, `shutDown` — what changes the table.
* `Schedules.status` — the progress of a device's schedule, from the table alone.
-/

namespace ChillerGateway

/-- A schedule in force on a device. -/
structure ActiveSchedule where
  generation : Nat
  schedule : Schedule
  started : Nat
  deriving DecidableEq

/-- The schedules in force by device id, and the generations that were cancelled. -/
structure Schedules where
  generations : Nat := 0
  active : List (String × ActiveSchedule) := []
  cancelled : List Nat := []
  /-- Whether all schedules, also later ones, are cancelled. -/
  shutDown : Bool := false
  deriving DecidableEq

namespace Schedules

def get? (s : Schedules) (id : String) : Option ActiveSchedule := s.active.lookup id

def without (id : String) (active : List (String × ActiveSchedule)) :
    List (String × ActiveSchedule) :=
  active.filter (·.1 ≠ id)

def isCancelled (s : Schedules) (generation : Nat) : Bool :=
  s.shutDown || s.cancelled.contains generation

/-- The table without a device's schedule, whose generation is cancelled. -/
def release (s : Schedules) (id : String) : Schedules :=
  { s with
    active := without id s.active
    cancelled := (s.get? id).elim s.cancelled fun a => a.generation :: s.cancelled }

/-- Puts a schedule in force, in place of any other on that device: its generation,
and the table. -/
def load (s : Schedules) (id : String) (schedule : Schedule) (now : Nat) : Nat × Schedules :=
  let generation := s.generations + 1
  let s := s.release id
  (generation, { s with
    generations := generation
    active := (id, ⟨generation, schedule, now⟩) :: s.active })

/-- Ends a device's schedule: whether there was one, and the table. -/
def stop (s : Schedules) (id : String) : Bool × Schedules := ((s.get? id).isSome, s.release id)

/-- Clears the entry of a ticker that ended, if the entry is its own. -/
def retire (s : Schedules) (id : String) (generation : Nat) : Schedules :=
  if (s.get? id).any (·.generation = generation) then { s with active := without id s.active }
  else s

/-! ## Reports -/

/-- What a load reports. -/
def summary (schedule : Schedule) : Json :=
  .ofMembers [("steps", .ofInt schedule.steps.size),
    ("duration_minutes", .ofBinary64 schedule.duration)]

def progressReport (p : Progress Binary64) : Json :=
  .ofMembers [("running", .bool true),
    ("elapsed_minutes", .ofBinary64 (p.elapsed.roundTo 10)),
    ("total_minutes", .ofBinary64 (p.total.roundTo 10)),
    ("current_target", .ofBinary64 (p.target.roundTo 100)),
    ("progress_pct", .ofBinary64 (p.percent.roundTo 10))]

/-- Whether a schedule runs on the device, and how far it is. -/
def status (s : Schedules) (id : String) (now : Nat) : Json :=
  match (s.get? id).bind fun a => a.schedule.progressAt? (Clock.minutes (now - a.started)) with
  | some p => progressReport p
  | none => .ofMembers [("running", .bool false)]

end Schedules

end ChillerGateway
