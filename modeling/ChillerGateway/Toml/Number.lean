import ChillerGateway.Binary64.Reader
import ChillerGateway.Toml.Text

/-!
# Numbers, dates and times of TOML

Single underscores may stand between digits.  An integer fits 64 bits with a sign; only without a
sign it may be written in hexadecimal, octal or binary digits.  A float has a fraction, an exponent
or both, and may not exceed the range upwards.

* `Toml.number?` reads a number, `Toml.moment?` a date, a time or both.
-/

namespace ChillerGateway

namespace Toml

/-! ## Numbers -/

/-- Digits with single underscores between them, which are dropped. -/
def digits? (radix : Nat) : Reader (List Char)
  | [] => none
  | c :: rest =>
    if !Text.isDigitOf radix c then none
    else match rest with
      | '_' :: more => (digits? radix more).map fun (ds, rest) => (c :: ds, rest)
      | d :: more =>
        if Text.isDigitOf radix d then
          (digits? radix (d :: more)).map fun (ds, rest) => (c :: ds, rest)
        else some ([c], d :: more)
      | [] => some ([c], [])

/-- Decimal digits without leading zeros. -/
def whole? : Reader (List Char)
  | '0' :: rest => some (['0'], rest)
  | cs => digits? 10 cs

/-- The integer of a magnitude, if 64 bits hold it. -/
def integer? (negative : Bool) (magnitude : Nat) : Option Toml :=
  if negative then if magnitude ≤ Nat.pow 2 63 then some (.integer (-(magnitude : Int))) else none
  else if magnitude < Nat.pow 2 63 then some (.integer magnitude) else none

/-- An integer in another radix, after its mark. -/
def inRadix? (radix : Nat) : Reader Toml := fun cs => do
  let (digits, rest) ← digits? radix cs
  return (← integer? false (Text.valueOf radix digits), rest)

/-- An exponent with its mark, or nothing. -/
def exponent? : Reader (List Char)
  | mark :: rest =>
    if mark = 'e' || mark = 'E' then do
      let (sign, rest) := match rest with
        | '-' :: rest => (['-'], rest)
        | '+' :: rest => ([], rest)
        | rest => ([], rest)
      let (digits, rest) ← digits? 10 rest
      return ('e' :: (sign ++ digits), rest)
    else some ([], mark :: rest)
  | [] => some ([], [])

/-- The float that a text writes, unless it exceeds the range upwards. -/
def float? (text : List Char) : Option Toml := do
  let x ← Binary64.parse? (String.ofList text)
  if x = .infinite false then none else return .float x

/-- A number in decimal digits, after its sign. -/
def decimal? (negative : Bool) : Reader Toml := fun cs => do
  let (digits, rest) ← whole? cs
  let sign := if negative then ['-'] else []
  let (fraction, rest) ← match rest with
    | '.' :: rest => (digits? 10 rest).map fun (ds, rest) => ('.' :: ds, rest)
    | rest => some ([], rest)
  let (exponent, rest) ← exponent? rest
  if fraction.isEmpty && exponent.isEmpty then
    return (← integer? negative (Text.valueOf 10 digits), rest)
  else return (← float? (sign ++ digits ++ fraction ++ exponent), rest)

/-- A number after its sign. -/
def magnitude? (negative : Bool) : Reader Toml
  | 'i' :: 'n' :: 'f' :: rest => some (.float (.infinite negative), rest)
  | 'n' :: 'a' :: 'n' :: rest => some (.float .nan, rest)
  | cs => decimal? negative cs

/-- A number. -/
def number? : Reader Toml
  | '0' :: 'x' :: rest => inRadix? 16 rest
  | '0' :: 'o' :: rest => inRadix? 8 rest
  | '0' :: 'b' :: rest => inRadix? 2 rest
  | '-' :: rest => magnitude? true rest
  | '+' :: rest => magnitude? false rest
  | cs => magnitude? false cs

/-! ## Dates and times -/

/-- A number of exactly so many digits, within bounds. -/
def field? (digits low high : Nat) : Reader Nat := fun cs =>
  let code := cs.take digits
  let value := Text.valueOf 10 code
  if code.length = digits && code.all Char.isDigit && low ≤ value && value ≤ high then
    some (value, cs.drop digits)
  else none

/-- What follows a given character. -/
def after? (c : Char) : List Char → Option (List Char)
  | d :: rest => if c = d then some rest else none
  | [] => none

def isLeapYear (year : Nat) : Bool := year % 4 = 0 && (year % 100 ≠ 0 || year % 400 = 0)

def daysIn (year month : Nat) : Nat :=
  match month with
  | 2 => if isLeapYear year then 29 else 28
  | 4 | 6 | 9 | 11 => 30
  | _ => 31

/-- What follows a date. -/
def skipDate? (cs : List Char) : Option (List Char) := do
  let (year, cs) ← field? 4 0 9999 cs
  let (month, cs) ← field? 2 1 12 (← after? '-' cs)
  let (_, rest) ← field? 2 1 (daysIn year month) (← after? '-' cs)
  return rest

/-- What follows a time. -/
def skipTime? (cs : List Char) : Option (List Char) := do
  let (_, cs) ← field? 2 0 23 cs
  let (_, cs) ← field? 2 0 59 (← after? ':' cs)
  let (_, cs) ← field? 2 0 60 (← after? ':' cs)
  match cs with
  | '.' :: cs =>
    let (c, cs) ← cs.head?.map (·, cs)
    if c.isDigit then return cs.dropWhile Char.isDigit else none
  | cs => return cs

/-- What follows an offset, if there is one. -/
def skipOffset? : List Char → Option (List Char)
  | c :: cs =>
    if c = 'Z' || c = 'z' then some cs
    else if c = '+' || c = '-' then do
      let (_, cs) ← field? 2 0 23 cs
      let (_, cs) ← field? 2 0 59 (← after? ':' cs)
      return cs
    else some (c :: cs)
  | [] => some []

def isTimeMark (c : Char) : Bool := c = 'T' || c = 't' || c = ' '

/-- What follows a date, a time, or both. -/
def skipMoment? (cs : List Char) : Option (List Char) :=
  if ((cs.drop 2).head? = some ':') then skipTime? cs
  else do
    let rest ← skipDate? cs
    match rest with
    | mark :: time =>
      -- A date alone may be followed by a blank.
      if isTimeMark mark && (field? 2 0 23 time).any fun (_, rest) => rest.head? = some ':' then
        skipOffset? (← skipTime? time)
      else return rest
    | [] => return []

/-- Whether a date or a time begins here. -/
def isMoment (cs : List Char) : Bool :=
  ((field? 4 0 9999 cs).any fun (_, rest) => rest.head? = some '-') ||
    ((field? 2 0 23 cs).any fun (_, rest) => rest.head? = some ':')

/-- A date, a time, or both. -/
def moment? : Reader Toml := fun cs => do
  let rest ← skipMoment? cs
  return (.moment (String.ofList (cs.take (cs.length - rest.length))), rest)

end Toml

end ChillerGateway
