import ChillerGateway.Text.Utf8

/-!
# Base64

Four characters hold three bytes; a last group of fewer may be padded to four.  White space does not
count.

* `Base64.decode` — the bytes, or the first thing that is wrong.
-/

namespace ChillerGateway

namespace Base64

/-- What is wrong with a text. -/
inductive Fault where
  /-- A byte outside the alphabet. -/
  | character (byte : UInt8)
  /-- Padding before the last group. -/
  | earlyPadding
  /-- A last group that cannot be. -/
  | trailing
  deriving DecidableEq, Repr

def Fault.message : Fault → String
  | character byte => "InvalidCharacter(" ++ toString byte ++ ")"
  | earlyPadding => "PrematurePadding"
  | trailing => "InvalidTrailingPadding"

def isSpace (c : Char) : Bool := c = ' ' || (9 ≤ c.toNat && c.toNat ≤ 13)

/-- The value of a letter. -/
def value? (c : Char) : Option Nat :=
  if c.isUpper then some (c.toNat - 'A'.toNat)
  else if c.isLower then some (c.toNat - 'a'.toNat + 26)
  else if c.isDigit then some (c.toNat - '0'.toNat + 52)
  else if c = '+' then some 62
  else if c = '/' then some 63
  else none

/-- A letter's value, or none for padding. -/
abbrev Sign := Option Nat

def sign (c : Char) : Except Fault Sign :=
  if c = '=' then .ok none
  else match value? c with
    | some n => .ok (some n)
    | none => .error (.character ((Text.toBytes c.toString).headD 0))

/-- The bytes of a group of at most four signs. -/
def groupBytes? : List Sign → Option (List UInt8)
  | [] => some []
  | [some a, some b] | [some a, some b, none, none] => some [.ofNat (a * 4 + b / 16)]
  | [some a, some b, some c] | [some a, some b, some c, none] =>
    some [.ofNat (a * 4 + b / 16), .ofNat (b % 16 * 16 + c / 4)]
  | [some a, some b, some c, some d] =>
    some [.ofNat (a * 4 + b / 16), .ofNat (b % 16 * 16 + c / 4), .ofNat (c % 4 * 64 + d)]
  | _ => none

/-- The bytes of a group that is not the last one. -/
def innerBytes (group : List Sign) : Except Fault (List UInt8) :=
  if group.all Option.isSome then .ok ((groupBytes? group).getD []) else .error .earlyPadding

/-- The bytes of two groups that are not the last ones. -/
def blockBytes (signs : List Sign) : Except Fault (List UInt8) := do
  return (← innerBytes (signs.take 4)) ++ (← innerBytes (signs.drop 4))

/-- The bytes of the last signs, of which there are at most eight. -/
def lastBytes (signs : List Sign) : Except Fault (List UInt8) := do
  let (inner, last) := if 4 < signs.length then (signs.take 4, signs.drop 4) else ([], signs)
  let before ← innerBytes inner
  match groupBytes? last with
  | some bytes => return before ++ bytes
  | none => throw .trailing

/-- The bytes of a text; `signs` are those not used yet, and `out` is what they come after, both in
reverse. -/
def decodeFrom : (signs : List Sign) → (out : List UInt8) → List Char → Except Fault (List UInt8)
  | signs, out, [] => do return out.reverse ++ (← lastBytes signs.reverse)
  | signs, out, c :: rest =>
    if isSpace c then decodeFrom signs out rest
    else do
      let s ← sign c
      if signs.length < 8 then decodeFrom (s :: signs) out rest
      else decodeFrom [s] ((← blockBytes signs.reverse).reverse ++ out) rest

/-- The bytes of a text. -/
def decode (text : List Char) : Except Fault (List UInt8) := decodeFrom [] [] text

end Base64

end ChillerGateway
