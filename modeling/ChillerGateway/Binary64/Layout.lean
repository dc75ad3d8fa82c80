import ChillerGateway.Binary64.Digits

/-!
# How numbers are written

One layout value fixes every decision about a number's text; three of them serve the library:

* `Layout.plain` — digits without an exponent, for messages to people.
* `Layout.exact` — lists of numbers in messages: whole numbers keep `.0`, and an exponent is used
  below `10⁻⁴` and from `10¹⁶` up.
* `Layout.wire` — numbers in replies: whole numbers keep `.0`, and an exponent is used below `10⁻⁵`
  and from `10¹⁶` up, with its sign.

`toFixed` writes a set number of places.
-/

namespace ChillerGateway

/-- The decisions about a number's text. -/
structure Layout where
  /-- Whether a value whose leading digit stands at this power of ten is written
  without exponent. -/
  positional : Int → Bool
  /-- What follows a whole number. -/
  whole : String
  /-- What stands before an exponent that is not negative. -/
  plus : String
  tie : Tie

namespace Layout

def plain : Layout := ⟨fun _ => true, "", "", .up⟩

def exact : Layout := ⟨fun e => -4 ≤ e && e < 16, ".0", "", .up⟩

def wire : Layout := ⟨fun e => -5 ≤ e && e < 16, ".0", "+", .toEven⟩

end Layout

namespace Decimal

/-- Digits with the point after the first `place` of them, filled up with zeros on either side. -/
def positional (whole : String) (digits : String) (place : Int) : String :=
  let count := digits.length
  match place with
  | .ofNat p =>
    if p = 0 then "0." ++ digits
    else if count ≤ p then digits ++ String.ofList (List.replicate (p - count) '0') ++ whole
    else (digits.take p).toString ++ "." ++ (digits.drop p).toString
  | .negSucc p => "0." ++ String.ofList (List.replicate (p + 1) '0') ++ digits

/-- Digits with the point after the first one, and the exponent. -/
def scientific (plus : String) (digits : String) (exponent : Int) : String :=
  let mantissa :=
    if digits.length ≤ 1 then digits
    else (digits.take 1).toString ++ "." ++ (digits.drop 1).toString
  let sign := if exponent < 0 then "-" else plus
  mantissa ++ "e" ++ sign ++ toString exponent.natAbs

def write (layout : Layout) (d : Decimal) : String :=
  let digits := toString d.coefficient
  let lead := (digits.length : Int) + d.exponent - 1
  if layout.positional lead then positional layout.whole digits (lead + 1)
  else scientific layout.plus digits lead

end Decimal

namespace Binary64

def signText (negative : Bool) : String := if negative then "-" else ""

/-- The text of a number in a layout. -/
def write (layout : Layout) : Binary64 → String
  | nan => "NaN"
  | infinite s => signText s ++ "inf"
  | finite s u _ =>
    signText s ++ if u = 0 then "0" ++ layout.whole else (shortest layout.tie u).write layout

/-- The text of a count of `10^-places`. -/
def fixedText (places count : Nat) : String :=
  if places = 0 then toString count
  else
    let rest := toString (count % Nat.pow 10 places)
    toString (count / Nat.pow 10 places) ++ "." ++
      String.ofList (List.replicate (places - rest.length) '0') ++ rest

/-- The text of a number with a set number of places; a zero keeps its sign. -/
def toFixed (places : Nat) : Binary64 → String
  | nan => "NaN"
  | infinite s => signText s ++ "inf"
  | finite s u _ => signText s ++ fixedText places (fixed places u)

end Binary64

end ChillerGateway
