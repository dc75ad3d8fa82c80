import ChillerGateway.Binary64.Layout
import ChillerGateway.Error

/-!
# Setpoints

The range of temperatures that a controller accepts, and the distance at which a reading counts as
the requested value.
-/

namespace ChillerGateway

namespace Setpoint

/-- The lowest setpoint, in °C. -/
def lowest : Binary64 := -50

/-- The highest setpoint, in °C. -/
def highest : Binary64 := 200

/-- How far a reading may lie from the requested value, in °C. -/
def tolerance : Binary64 := 0.05

/-- Whether a controller accepts the value. -/
def InRange (x : Binary64) : Prop := lowest ≤ x ∧ x ≤ highest

instance (x : Binary64) : Decidable (InRange x) := by unfold InRange; infer_instance

def outOfRange (x : Binary64) : Error :=
  .validation ("Setpoint " ++ x.write .plain ++ " °C is outside the allowed range [" ++
    lowest.write .plain ++ ", " ++ highest.write .plain ++ "]")

/-- Refuses a value outside the range; not-a-number lies outside. -/
def validate (x : Binary64) : Except Error Unit :=
  if InRange x then .ok () else .error (outOfRange x)

theorem validate_accepted {x : Binary64} (h : InRange x) : validate x = .ok () := if_pos h

theorem validate_refused {x : Binary64} (h : ¬ InRange x) : validate x = .error (outOfRange x) :=
  if_neg h

theorem validate_eq_ok_iff {x : Binary64} : validate x = .ok () ↔ InRange x := by
  refine ⟨fun h => Decidable.byContradiction fun hrange => ?_, validate_accepted⟩
  cases h.symm.trans (validate_refused hrange)

/-- Whether two temperatures count as one. -/
def Near (x y : Binary64) : Prop := (x - y).abs ≤ tolerance

instance (x y : Binary64) : Decidable (Near x y) := by unfold Near; infer_instance

end Setpoint

end ChillerGateway
