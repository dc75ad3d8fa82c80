/-!
# Digits

`Text.digit?` is the value of a digit in a radix of at most sixteen; letters may be of either case.
`Text.valueOf` is the number that digits write.
-/

namespace ChillerGateway

namespace Text

/-- The value of a digit of the radix. -/
def digit? (radix : Nat) (c : Char) : Option Nat :=
  let value :=
    if c.isDigit then some (c.toNat - '0'.toNat)
    else if 'a' ≤ c ∧ c ≤ 'f' then some (c.toNat - 'a'.toNat + 10)
    else if 'A' ≤ c ∧ c ≤ 'F' then some (c.toNat - 'A'.toNat + 10)
    else none
  value.filter (· < radix)

def isDigitOf (radix : Nat) (c : Char) : Bool := (digit? radix c).isSome

/-- The number that digits of the radix write; any other character counts as zero. -/
def valueOf (radix : Nat) (digits : List Char) : Nat :=
  digits.foldl (fun n c => radix * n + (digit? radix c).getD 0) 0

end Text

end ChillerGateway
