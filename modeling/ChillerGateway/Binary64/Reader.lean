import ChillerGateway.Binary64

/-!
# Reading numbers

`Binary64.parse?` reads a sign, then `inf`, `infinity` or `nan` in any case, or decimal digits with
at most one point and an exponent; at least one digit is needed.  The value is rounded once, from
the exact decimal.
-/

namespace ChillerGateway

namespace Binary64

def digitsValue (digits : List Char) : Nat :=
  digits.foldl (fun n c => 10 * n + (c.toNat - '0'.toNat)) 0

/-- A sign and what follows it. -/
def splitSign : List Char → Bool × List Char
  | '-' :: rest => (true, rest)
  | '+' :: rest => (false, rest)
  | rest => (false, rest)

/-- An exponent mark with its digits, or nothing at all. -/
def exponent? : List Char → Option Int
  | [] => some 0
  | c :: rest =>
    if c = 'e' ∨ c = 'E' then
      let (negative, digits) := splitSign rest
      if digits.isEmpty || !digits.all Char.isDigit then none
      else some (if negative then -(digitsValue digits : Int) else digitsValue digits)
    else none

/-- The number nearest to the decimal `digits · 10^exponent`; exponents far outside the range are
settled without computing the power. -/
def ofDigits (negative : Bool) (digits : List Char) (exponent : Int) : Binary64 :=
  let digits := digits.dropWhile (· = '0')
  let order := (digits.length : Int) + exponent
  if digits.isEmpty ∨ order < -400 then ofUnits negative 0
  else if 400 < order then infinite negative
  else ofDecimal negative (digitsValue digits) exponent

def decimal? (negative : Bool) (text : List Char) : Option Binary64 :=
  let whole := text.takeWhile Char.isDigit
  let rest := text.dropWhile Char.isDigit
  let (fraction, rest) := match rest with
    | '.' :: more => (more.takeWhile Char.isDigit, more.dropWhile Char.isDigit)
    | other => ([], other)
  if whole.isEmpty && fraction.isEmpty then none
  else (exponent? rest).map fun e => ofDigits negative (whole ++ fraction) (e - fraction.length)

def parse? (text : String) : Option Binary64 :=
  let (negative, rest) := splitSign text.toList
  let word := String.ofList (rest.map Char.toLower)
  if word = "nan" then some nan
  else if word = "inf" ∨ word = "infinity" then some (infinite negative)
  else decimal? negative rest

end Binary64

end ChillerGateway
