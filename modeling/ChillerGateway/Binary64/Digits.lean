import ChillerGateway.Binary64

/-!
# Decimal digits of a number

* `Decimal` — a coefficient times a power of ten.
* `shortest` — the fewest digits that read back: on the decimal grids with 1, 2, … 17 digits the two
  neighbours of the value are tried, and the first grid with a neighbour inside the interval of
  reals that round to the number wins; of two such neighbours the nearer one is taken.
* `fixed` — the value at a fixed number of places, a half going to the even neighbour.
-/

namespace ChillerGateway

/-- The non-negative value `coefficient · 10^exponent`. -/
structure Decimal where
  coefficient : Nat
  exponent : Int
  deriving DecidableEq, Repr

/-- Which of two equally near decimals is written. -/
inductive Tie where
  | up
  | toEven
  deriving DecidableEq, Repr

namespace Decimal

/-- The same value with no trailing zero in the coefficient; `digits` bounds the work. -/
def trim : Nat → Decimal → Decimal
  | 0, d => d
  | digits + 1, d =>
    if d.coefficient ≠ 0 ∧ d.coefficient % 10 = 0 then
      trim digits ⟨d.coefficient / 10, d.exponent + 1⟩
    else d

end Decimal

namespace Binary64

/-- The exponent of ten of the leading digit of a positive count of units. -/
def decimalExponent (units : Nat) : Int :=
  let guess := ((units.log2 : Int) - 1074) * 30103 / 100000
  let reaches := match guess + 1 with
    | .ofNat e => decide (Nat.pow 10 e * one ≤ units)
    | .negSucc e => decide (one ≤ units * Nat.pow 10 (e + 1))
  if reaches then guess + 1 else guess

/-- The reals that round to a positive count of units, both ends in quarters of a unit, with a flag
that says whether the ends belong to it. -/
structure Interval where
  low : Nat
  high : Nat
  closed : Bool

def interval (units : Nat) : Interval :=
  let gap := spacing units
  let below := if units = Nat.pow 2 52 * gap ∧ 1 < gap then gap else 2 * gap
  ⟨4 * units - below, 4 * units + 2 * gap, units / gap % 2 = 0⟩

/-- Whether `num / den` quarters of a unit lie in the interval. -/
def Interval.holds (i : Interval) (num den : Nat) : Bool :=
  if i.closed then decide (i.low * den ≤ num) && decide (num ≤ i.high * den)
  else decide (i.low * den < num) && decide (num < i.high * den)

/-- The neighbour of `units` on the grid of multiples of `10^exponent` that is written, if one of
the two lies in the interval. -/
def onGrid? (tie : Tie) (units : Nat) (exponent : Int) : Option Nat :=
  let (cell, den) := match exponent with
    | .ofNat e => (Nat.pow 10 e * one, 1)
    | .negSucc e => (one, Nat.pow 10 (e + 1))
  let value := units * den
  let floor := value / cell
  let rest := value % cell
  let within := fun c => (interval units).holds (4 * c * cell) den
  let upper : Bool := match compare (2 * rest) cell with
    | .lt => false
    | .gt => true
    | .eq => match tie with
      | .up => true
      | .toEven => floor % 2 = 1
  match within floor, within (floor + 1) with
  | true, true => some (bif upper then floor + 1 else floor)
  | true, false => some floor
  | false, true => some (floor + 1)
  | false, false => none

/-- The shortest decimal that reads back as a positive count of units. -/
def shortest (tie : Tie) (units : Nat) : Decimal :=
  let lead := decimalExponent units
  let grid := fun (digits : Nat) =>
    let exponent := lead - (digits : Int)
    (onGrid? tie units exponent).map fun c => (Decimal.mk c exponent).trim 20
  ((List.range 17).findSome? grid).getD ⟨0, 0⟩

/-- The count of `10^-places` nearest to a count of units. -/
def fixed (places units : Nat) : Nat := roundHalfEven (units * Nat.pow 10 places) one

end Binary64

end ChillerGateway
