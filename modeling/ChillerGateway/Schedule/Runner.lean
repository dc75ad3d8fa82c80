import ChillerGateway.Schedule.Basic
import ChillerGateway.Clock

/-!
# Running a schedule

A runner follows one schedule from the moment it is started.  A tick hands the target to a sink when
it moved away from the last value that the sink took, and finishes the run at the last step.

* `Runner.tick` — one tick; a sink that fails leaves the runner as it was.  `Runner.tickTo` is the
  same for any target.
-/

namespace ChillerGateway

/-- A schedule with the state of its run. -/
structure Runner where
  schedule : Schedule
  started : Option Nat := none
  finished : Bool := false
  lastApplied : Option Binary64 := none

namespace Runner

/-- Begins the run, or begins it again. -/
def start (r : Runner) (now : Nat) : Runner :=
  { r with started := some now, finished := false, lastApplied := none }

/-- Ends the run where it is. -/
def stop (r : Runner) : Runner := { r with finished := true }

def isRunning (r : Runner) : Bool := r.started.isSome && !r.finished

/-- The minutes since the start, none of them before it. -/
def elapsed (r : Runner) (now : Nat) : Binary64 :=
  match r.started with
  | some start => Clock.minutes (now - start)
  | none => 0

def progress? (r : Runner) (now : Nat) : Option (Progress Binary64) :=
  if r.isRunning then r.schedule.progressAt? (r.elapsed now) else none

/-- The target at a time; elapsed times are numbers, so the schedule has one. -/
def target (r : Runner) (now : Nat) : Binary64 :=
  (r.schedule.setpointAt? (r.elapsed now)).getD r.schedule.first.temperature

/-- Whether the sink is to take the target. -/
def moved (r : Runner) (target : Binary64) : Bool :=
  match r.lastApplied with
  | none => true
  | some last => decide (Setpoint.tolerance < (target - last).abs)

/-- The runner after the target is in force. -/
def reached (r : Runner) (now : Nat) : Runner :=
  if r.schedule.finish ≤ r.elapsed now then { r with finished := true } else r

theorem schedule_reached (r : Runner) (now : Nat) : (r.reached now).schedule = r.schedule := by
  unfold reached
  split <;> rfl

theorem lastApplied_reached (r : Runner) (now : Nat) :
    (r.reached now).lastApplied = r.lastApplied := by
  unfold reached
  split <;> rfl

/-- The run ends at the time of the last step. -/
theorem finished_reached (r : Runner) (now : Nat) :
    (r.reached now).finished = true ↔
      r.finished = true ∨ r.schedule.finish ≤ r.elapsed now := by
  unfold reached
  split
  · rename_i hend
    exact iff_of_true rfl (.inr hend)
  · rename_i hbefore
    exact (or_iff_left hbefore).symm

/-- One tick towards a target: the target if the runner is running, and the runner after it. -/
def tickTo {m : Type → Type} [Monad m] (target : Binary64)
    (apply : Binary64 → m (Except Error Unit)) (now : Nat) (r : Runner) :
    m (Except Error (Option Binary64) × Runner) := do
  if !r.isRunning then return (.ok none, r)
  if r.moved target then
    match ← apply target with
    | .error e => return (.error e, r)
    | .ok () => return (.ok (some target), { r with lastApplied := some target }.reached now)
  else return (.ok (some target), r.reached now)

/-- One tick, towards the target of the moment. -/
def tick {m : Type → Type} [Monad m] (apply : Binary64 → m (Except Error Unit)) (now : Nat)
    (r : Runner) : m (Except Error (Option Binary64) × Runner) :=
  r.tickTo (r.target now) apply now

end Runner

end ChillerGateway
