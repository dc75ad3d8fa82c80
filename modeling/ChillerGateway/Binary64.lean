/-!
# Double-precision numbers

A number is not-a-number, an infinity, or a sign with a magnitude counted in *units* of `2⁻¹⁰⁷⁴`,
the least positive value.  A count of units is representable when it lies below `2²⁰⁹⁸` and is a
multiple of the spacing of the numbers around it, so every finite number is an exact integer over
one fixed denominator and each operation below is its exact result, rounded once to the nearest
representable count with a half going to the even neighbour.

* `roundHalfEven`, `nearestUnits` — the only rounding.
* `ofRatio` — the nearest number to a quotient of naturals; `add`, `mul`, `div` are built from it.
* `position` — the place of a number on the line, which decides every comparison.
-/

namespace ChillerGateway

/-! ## Counts of units -/

namespace Binary64

-- Counts of a thousand bits: proofs compare them by lemmas and leave them folded.
/-- The number of units in one. -/
@[irreducible] def one : Nat := Nat.pow 2 1074

/-- The count at which magnitudes overflow. -/
@[irreducible] def overflow : Nat := Nat.pow 2 2098

/-- The gap between neighbouring representable counts around `units`. -/
def spacing (units : Nat) : Nat := Nat.pow 2 (units.log2 - 52)

/-- A count that a significand of 53 bits can express. -/
def Representable (units : Nat) : Prop := units < overflow ∧ units % spacing units = 0

instance (units : Nat) : Decidable (Representable units) := by
  unfold Representable; infer_instance

theorem representable_zero : Representable 0 := by decide +kernel

/-- The natural number nearest to `num / den`; a half goes to the even neighbour. -/
def roundHalfEven (num den : Nat) : Nat :=
  let q := num / den
  let r := num % den
  if 2 * r < den then q else if den < 2 * r then q + 1 else q + q % 2

/-- The multiple of the local spacing nearest to `num / den` units. -/
def nearestUnits (num den : Nat) : Nat :=
  let gap := spacing (num / den)
  roundHalfEven num (den * gap) * gap

end Binary64

/-- A double-precision number. -/
inductive Binary64 where
  | nan
  | infinite (negative : Bool)
  | finite (negative : Bool) (units : Nat) (representable : Binary64.Representable units)
  deriving DecidableEq

namespace Binary64

instance : Inhabited Binary64 := ⟨.finite false 0 representable_zero⟩

/-! ## Construction -/

/-- The number of that many units, an infinity when there is no such number. -/
def ofUnits (negative : Bool) (units : Nat) : Binary64 :=
  if h : Representable units then .finite negative units h else .infinite negative

/-- The number nearest to `num / den`, with the given sign. -/
def ofRatio (negative : Bool) (num den : Nat) : Binary64 :=
  ofUnits negative (nearestUnits (num * one) den)

def ofNat (n : Nat) : Binary64 := ofRatio false n 1

def ofInt (i : Int) : Binary64 := ofRatio (decide (i < 0)) i.natAbs 1

/-- The number nearest to `coefficient · 10^exponent`. -/
def ofDecimal (negative : Bool) (coefficient : Nat) (exponent : Int) : Binary64 :=
  match exponent with
  | .ofNat e => ofRatio negative (coefficient * Nat.pow 10 e) 1
  | .negSucc e => ofRatio negative coefficient (Nat.pow 10 (e + 1))

instance (n : Nat) : OfNat Binary64 n := ⟨ofNat n⟩

instance : OfScientific Binary64 where
  ofScientific coefficient below exponent :=
    ofDecimal false coefficient (if below then -(exponent : Int) else exponent)

/-! ## Sign and place -/

def isNaN : Binary64 → Bool
  | nan => true
  | _ => false

def isFinite : Binary64 → Bool
  | finite .. => true
  | _ => false

/-- The sign bit; `-0` has one. -/
def isNegative : Binary64 → Bool
  | nan => false
  | infinite s => s
  | finite s .. => s

def neg : Binary64 → Binary64
  | nan => nan
  | infinite s => infinite (!s)
  | finite s u h => finite (!s) u h

def abs : Binary64 → Binary64
  | nan => nan
  | infinite _ => infinite false
  | finite _ u h => finite false u h

/-- A magnitude with a sign, as an integer. -/
def signed (negative : Bool) (units : Nat) : Int := if negative then -(units : Int) else units

/-- The place on the line in units, the infinities at the overflow bound; none for not-a-number. -/
def position : Binary64 → Option Int
  | nan => none
  | infinite s => some (signed s overflow)
  | finite s u _ => some (signed s u)

/-! ## Comparison -/

/-- A comparison of places; nothing compares with not-a-number. -/
def compareBy (holds : Int → Int → Bool) (x y : Binary64) : Bool :=
  match x.position, y.position with
  | some a, some b => holds a b
  | _, _ => false

def lt (x y : Binary64) : Bool := compareBy (fun a b => decide (a < b)) x y

def le (x y : Binary64) : Bool := compareBy (fun a b => decide (a ≤ b)) x y

/-- Equality of places: the two zeros are equal and not-a-number is not equal to itself. -/
def same (x y : Binary64) : Bool := compareBy (fun a b => decide (a = b)) x y

instance : LT Binary64 := ⟨fun x y => x.lt y = true⟩
instance : LE Binary64 := ⟨fun x y => x.le y = true⟩
instance (x y : Binary64) : Decidable (x < y) := inferInstanceAs (Decidable (x.lt y = true))
instance (x y : Binary64) : Decidable (x ≤ y) := inferInstanceAs (Decidable (x.le y = true))

/-- The total order of the line that sets `-0` before `0`, for numbers. -/
def totalLe (x y : Binary64) : Bool :=
  x.lt y || (x.same y && (x.isNegative || !y.isNegative))

/-- The lesser number; not-a-number gives way to the other. -/
def min (x y : Binary64) : Binary64 :=
  if x.isNaN then y else if y.isNaN then x else if x.lt y then x else y

/-! ## Arithmetic -/

/-- The number nearest to a count of units; an exact zero takes the given sign. -/
def ofSigned (zeroNegative : Bool) (i : Int) : Binary64 :=
  if i = 0 then ofUnits zeroNegative 0
  else ofUnits (decide (i < 0)) (nearestUnits i.natAbs 1)

def add : Binary64 → Binary64 → Binary64
  | nan, _ => nan
  | _, nan => nan
  | infinite s, infinite t => if s = t then infinite s else nan
  | infinite s, finite .. => infinite s
  | finite .., infinite t => infinite t
  | finite s u _, finite t v _ => ofSigned (s && t) (signed s u + signed t v)

def sub (x y : Binary64) : Binary64 := add x y.neg

def mul : Binary64 → Binary64 → Binary64
  | nan, _ => nan
  | _, nan => nan
  | infinite s, infinite t => infinite (s != t)
  | infinite s, finite t v _ => if v = 0 then nan else infinite (s != t)
  | finite s u _, infinite t => if u = 0 then nan else infinite (s != t)
  | finite s u _, finite t v _ => ofUnits (s != t) (nearestUnits (u * v) one)

def div : Binary64 → Binary64 → Binary64
  | nan, _ => nan
  | _, nan => nan
  | infinite _, infinite _ => nan
  | infinite s, finite t .. => infinite (s != t)
  | finite s .., infinite t => ofUnits (s != t) 0
  | finite s u _, finite t v _ =>
    if v = 0 then (if u = 0 then nan else infinite (s != t))
    else ofUnits (s != t) (nearestUnits (u * one) v)

instance : Neg Binary64 := ⟨neg⟩
instance : Add Binary64 := ⟨add⟩
instance : Sub Binary64 := ⟨sub⟩
instance : Mul Binary64 := ⟨mul⟩
instance : Div Binary64 := ⟨div⟩

/-- The nearest whole number; a half goes away from zero. -/
def roundAway : Binary64 → Binary64
  | finite s u _ => ofUnits s ((2 * u + one) / (2 * one) * one)
  | x => x

/-- `x` rounded to a multiple of `1 / factor`, a half going away from zero. -/
def roundTo (x factor : Binary64) : Binary64 := (x * factor).roundAway / factor

/-! ## The word form and the exponential -/

/-- The 64-bit word of a number: sign, biased exponent, fraction. -/
def toWord : Binary64 → UInt64
  | nan => 0x7FF8000000000000
  | infinite s => (if s then 0x8000000000000000 else 0) + 0x7FF0000000000000
  | finite s u _ =>
    let magnitude := if u < Nat.pow 2 52 then u else (u.log2 - 52) * Nat.pow 2 52 + u / spacing u
    (if s then 0x8000000000000000 else 0) + UInt64.ofNat magnitude

def ofWord (word : UInt64) : Binary64 :=
  let negative := word >= 0x8000000000000000
  let exponent := (word >>> 52).toNat % 2048
  let fraction := word.toNat % Nat.pow 2 52
  if exponent = 2047 then (if fraction = 0 then .infinite negative else .nan)
  else if exponent = 0 then ofUnits negative fraction
  else ofUnits negative ((Nat.pow 2 52 + fraction) * Nat.pow 2 (exponent - 1))

/-- The exponential function, as the machine computes it. -/
def exp (x : Binary64) : Binary64 := ofWord (Float.ofBits x.toWord).exp.toBits

end Binary64

end ChillerGateway
