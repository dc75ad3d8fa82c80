import ChillerGateway.Setpoint

/-!
# Setpoint schedules

A schedule is a list of steps, each a time in minutes and a temperature, with strictly ascending
times. Between two steps the target is interpolated; before the first and after the last one it
holds.

* `Schedule.make` — the schedule of some steps in any order, or the first reason why there is none.
* `setpointAt?` — the target at a time: the holds, then a binary search for the bracket.
* `progressAt?` — how far a run is.

The arithmetic is generic, so the same definitions read over double-precision or over exact numbers.
-/

namespace ChillerGateway

/-- A time in minutes and the temperature to be reached then. -/
structure Step (α : Type) where
  minutes : α
  temperature : α
  deriving DecidableEq

/-- How far a run is. -/
structure Progress (α : Type) where
  elapsed : α
  total : α
  target : α
  percent : α
  deriving DecidableEq

instance : Min Binary64 := ⟨Binary64.min⟩

/-! ## Interpolation -/

section Interpolation

variable {α : Type} [Add α] [Sub α] [Mul α] [Div α] [LE α] [DecidableLE α]

/-- The first index in `[low, high)` whose step is later than `t`, for ascending times; `fuel`
bounds the halvings. -/
def searchLater (steps : Array (Step α)) (t : α) : (fuel low high : Nat) → Nat
  | 0, low, _ => low
  | fuel + 1, low, high =>
    if low < high then
      let middle := (low + high) / 2
      match steps[middle]? with
      | some s => if s.minutes ≤ t then searchLater steps t fuel (middle + 1) high
        else searchLater steps t fuel low middle
      | none => low
    else low

/-- The target on the line through two steps. -/
def between (a b : Step α) (t : α) : α :=
  a.temperature + (t - a.minutes) / (b.minutes - a.minutes) * (b.temperature - a.temperature)

/-- The target at a time: the first or last temperature outside the steps, else the line through the
two steps around it.  There is none where the search leaves the steps. -/
def setpointAt? (steps : Array (Step α)) (t : α) : Option α := do
  let first ← steps[0]?
  let last ← steps[steps.size - 1]?
  if t ≤ first.minutes then return first.temperature
  if last.minutes ≤ t then return last.temperature
  match searchLater steps t steps.size 0 steps.size with
  | 0 => none
  | i + 1 => return between (← steps[i]?) (← steps[i + 1]?) t

variable [LT α] [DecidableLT α] [Min α] [OfNat α 0] [OfNat α 100]

/-- The time from the first to the last step. -/
def duration? (steps : Array (Step α)) : Option α := do
  return (← steps[steps.size - 1]?).minutes - (← steps[0]?).minutes

/-- The progress of a run at a time; a schedule without duration is complete at once. -/
def progressAt? (steps : Array (Step α)) (t : α) : Option (Progress α) := do
  let total ← duration? steps
  let target ← setpointAt? steps t
  return ⟨t, total, target, if 0 < total then min (t / total * 100) 100 else 100⟩

end Interpolation

/-! ## Schedules -/

/-- Steps with at least one among them, as `Schedule.make` checked and sorted them. -/
structure Schedule where
  steps : Array (Step Binary64)
  steps_pos : 0 < steps.size
  deriving DecidableEq

namespace Schedule

/-- Refuses a step whose time is negative or no number, or whose temperature is out of range. -/
def checkStep (s : Step Binary64) : Except Error Unit :=
  if s.minutes.isFinite ∧ 0 ≤ s.minutes then Setpoint.validate s.temperature
  else .error (.validation ("Invalid elapsed_minutes " ++ s.minutes.write .plain ++ " in schedule"))

/-- The times at which two neighbours stand, each one once. -/
def repeatedTimes : List (Step Binary64) → List Binary64
  | a :: b :: rest =>
    let more := repeatedTimes (b :: rest)
    if a.minutes.same b.minutes then
      match more with
      | t :: _ => if a.minutes.same t then a.minutes :: more.drop 1 else a.minutes :: more
      | [] => [a.minutes]
    else more
  | _ => []

def sorted (steps : List (Step Binary64)) : List (Step Binary64) :=
  steps.mergeSort fun a b => a.minutes.totalLe b.minutes

theorem size_sorted_pos {steps : List (Step Binary64)} (h : steps ≠ []) :
    0 < (sorted steps).toArray.size := by
  simpa [sorted, List.length_mergeSort] using List.length_pos_iff.mpr h

def duplicates (times : List Binary64) : Error :=
  .validation ("Duplicate elapsed_minutes values in schedule: [" ++
    ", ".intercalate (times.map (·.write .exact)) ++ "]")

/-- The schedule of some steps in any order. -/
def make (steps : List (Step Binary64)) : Except Error Schedule :=
  if h : steps = [] then .error (.validation "No valid schedule steps found")
  else do
    steps.forM checkStep
    match repeatedTimes (sorted steps) with
    | [] => .ok ⟨(sorted steps).toArray, size_sorted_pos h⟩
    | times => .error (duplicates times)

def first (s : Schedule) : Step Binary64 :=
  have := s.steps_pos
  s.steps[0]

def last (s : Schedule) : Step Binary64 :=
  have := s.steps_pos
  s.steps[s.steps.size - 1]

/-- The time from the first to the last step. -/
def duration (s : Schedule) : Binary64 := s.last.minutes - s.first.minutes

/-- The time of the last step, at which a run is complete. -/
def finish (s : Schedule) : Binary64 := s.last.minutes

/-- The target at a time; there is none at not-a-number. -/
def setpointAt? (s : Schedule) (t : Binary64) : Option Binary64 :=
  ChillerGateway.setpointAt? s.steps t

/-- The progress at a time; there is none at not-a-number. -/
def progressAt? (s : Schedule) (t : Binary64) : Option (Progress Binary64) :=
  ChillerGateway.progressAt? s.steps t

end Schedule

end ChillerGateway
