import ChillerGateway.Json.Basic
import ChillerGateway.Text.Digits

/-!
# JSON tokens

`Json.tokens?` cuts a text into tokens, one character at a time.  A string token carries its text
unless the escapes name half of a surrogate pair; a number token carries its value unless it is out
of range. Both are still well-formed tokens, so a reader that only skips them accepts them.

`Number.read?` gives a number's value the quick way: the leading digits that fit 64 bits are
converted, then multiplied or divided by one power of ten, which rounds up to three times.
-/

namespace ChillerGateway

namespace Json

/-! ## Numbers -/

namespace Number

/-- The digits read so far: those that fit 64 bits, and the power of ten they are to
be scaled by. -/
structure Significand where
  value : Nat
  exponent : Int
  full : Bool

def maxWord : Nat := Nat.pow 2 64 - 1

/-- A digit before the point; once the word is full each digit is one more power of ten. -/
def Significand.whole (s : Significand) (c : Char) : Significand :=
  let next := 10 * s.value + (c.toNat - '0'.toNat)
  if s.full || maxWord < next then { s with exponent := s.exponent + 1, full := true }
  else { s with value := next }

/-- A digit after the point; once the word is full digits are dropped. -/
def Significand.fraction (s : Significand) (c : Char) : Significand :=
  let next := 10 * s.value + (c.toNat - '0'.toNat)
  if s.full || maxWord < next then { s with full := true }
  else { s with value := next, exponent := s.exponent - 1 }

/-- `x · 10^exponent` by division, in steps of at most `10³⁰⁸`. -/
def scaleDown : Nat → Binary64 → Nat → Binary64
  | 0, x, _ => x
  | steps + 1, x, exponent =>
    if exponent ≤ 308 then x / .ofDecimal false 1 exponent
    else scaleDown steps (x / .ofDecimal false 1 308) (exponent - 308)

/-- The number of a significand and its exponent; none when it overflows. -/
def scale? (negative : Bool) (significand : Nat) (exponent : Int) : Option Binary64 :=
  let x := Binary64.ofNat significand
  let magnitude : Option Binary64 :=
    if significand = 0 then some x
    else match exponent with
      | .ofNat e =>
        if 308 < e then none
        else
          let y := x * .ofDecimal false 1 e
          if y.isFinite then some y else none
      | .negSucc e => some (scaleDown 4 x (e + 1))
  magnitude.map fun y => if negative then -y else y

/-- The largest exponent that is counted. -/
def maxExponent : Nat := Nat.pow 2 31 - 1

/-- The value of a number written with a point or an exponent. -/
def float? (negative : Bool) (s : Significand) (exponentNegative : Bool) (exponent : List Char) :
    Option Binary64 :=
  let magnitude := exponent.foldl
    (fun n c => Nat.min (10 * n + (c.toNat - '0'.toNat)) (maxExponent + 1)) 0
  if maxExponent < magnitude then
    if s.value = 0 ∨ exponentNegative then some (.ofUnits negative 0) else none
  else
    let power : Int := if exponentNegative then -magnitude else magnitude
    scale? negative s.value (s.exponent + power)

/-- The value of digits without point and exponent: an integer if 64 bits hold it. -/
def whole? (negative : Bool) (s : Significand) : Option Number :=
  if s.full then (scale? negative s.value s.exponent).map .float
  else if negative then
    if s.value = 0 ∨ Nat.pow 2 63 < s.value then some (.float (-.ofNat s.value))
    else some (.integer (-(s.value : Int)))
  else some (.integer s.value)

/-- The value of a number's text: none when it is no number, and `some none` when its value is out
of range. -/
def read? (text : List Char) : Option (Option Number) :=
  let (negative, text) := match text with
    | '-' :: rest => (true, rest)
    | other => (false, other)
  let digits := text.takeWhile Char.isDigit
  let rest := text.dropWhile Char.isDigit
  if digits.isEmpty || (digits.length ≠ 1 && digits.head? = some '0') then none
  else
    let s := digits.foldl Significand.whole ⟨0, 0, false⟩
    let (point, fraction, rest) := match rest with
      | '.' :: more => (true, more.takeWhile Char.isDigit, more.dropWhile Char.isDigit)
      | other => (false, [], other)
    if point && fraction.isEmpty then none
    else
      let s' := fraction.foldl Significand.fraction { s with full := false }
      match rest with
      | [] => some (if point then (float? negative s' false []).map .float else whole? negative s)
      | mark :: more =>
        let (exponentNegative, power) := match more with
          | '-' :: ds => (true, ds)
          | '+' :: ds => (false, ds)
          | ds => (false, ds)
        if (mark = 'e' ∨ mark = 'E') ∧ power ≠ [] ∧ power.all Char.isDigit then
          some ((float? negative s' exponentNegative power).map .float)
        else none

end Number

/-! ## Strings -/

/-- A part of a string: a character, or the value of a four-digit escape. -/
inductive Piece where
  | char (c : Char)
  | unit (value : Nat)
  deriving DecidableEq

/-- The characters that the parts spell; none when a surrogate has no partner. -/
def join? : List Piece → List Char → Option (List Char)
  | [], out => some out.reverse
  | .char c :: rest, out => join? rest (c :: out)
  | .unit high :: .unit low :: rest, out =>
    if 0xD800 ≤ high ∧ high < 0xDC00 then
      if 0xDC00 ≤ low ∧ low < 0xE000 then
        join? rest (Char.ofNat (0x10000 + (high - 0xD800) * 0x400 + (low - 0xDC00)) :: out)
      else none
    else if 0xDC00 ≤ high ∧ high < 0xE000 then none
    else join? (.unit low :: rest) (Char.ofNat high :: out)
  | .unit value :: rest, out =>
    if 0xD800 ≤ value ∧ value < 0xE000 then none else join? rest (Char.ofNat value :: out)
termination_by pieces => pieces.length

/-! ## The lexer -/

inductive Token where
  | null
  | bool (value : Bool)
  | number (value : Option Number)
  | string (text : Option String)
  | beginArray
  | endArray
  | beginObject
  | endObject
  | comma
  | colon
  deriving DecidableEq

/-- Where the lexer stands; unfinished texts are held in reverse. -/
inductive Lexer where
  | between
  | word (text : List Char)
  | number (text : List Char)
  | string (parts : List Piece)
  | escape (parts : List Piece)
  | code (parts : List Piece) (digits : List Nat)

def escaped? (c : Char) : Option Char :=
  match c with
  | '"' => some '"'
  | '\\' => some '\\'
  | '/' => some '/'
  | 'b' => some '\x08'
  | 'f' => some '\x0c'
  | 'n' => some '\n'
  | 'r' => some '\r'
  | 't' => some '\t'
  | _ => none

def wordToken? (word : List Char) : Option Token :=
  match String.ofList word with
  | "null" => some .null
  | "true" => some (.bool true)
  | "false" => some (.bool false)
  | _ => none

def isNumberChar (c : Char) : Bool :=
  c.isDigit || c = '-' || c = '+' || c = '.' || c = 'e' || c = 'E'

/-- The lexer after a character that starts a token or stands between two. -/
def Lexer.start? (tokens : List Token) (c : Char) : Option (Lexer × List Token) :=
  match c with
  | ' ' | '\n' | '\t' | '\r' => some (.between, tokens)
  | '[' => some (.between, .beginArray :: tokens)
  | ']' => some (.between, .endArray :: tokens)
  | '{' => some (.between, .beginObject :: tokens)
  | '}' => some (.between, .endObject :: tokens)
  | ',' => some (.between, .comma :: tokens)
  | ':' => some (.between, .colon :: tokens)
  | '"' => some (.string [], tokens)
  | _ =>
    if c.isDigit || c = '-' then some (.number [c], tokens)
    else if c.isLower then some (.word [c], tokens)
    else none

/-- The token of an unfinished word or number, before what follows it. -/
def Lexer.finish? : Lexer → List Token → Option (List Token)
  | .between, tokens => some tokens
  | .word text, tokens => (wordToken? text.reverse).map (· :: tokens)
  | .number text, tokens => (Number.read? text.reverse).map (.number · :: tokens)
  | _, _ => none

def Lexer.step? (state : Lexer) (tokens : List Token) (c : Char) : Option (Lexer × List Token) :=
  match state with
  | .between => start? tokens c
  | .word text => if c.isLower then some (.word (c :: text), tokens) else close?
  | .number text => if isNumberChar c then some (.number (c :: text), tokens) else close?
  | .string parts =>
    if c = '"' then
      some (.between, .string ((join? parts.reverse []).map String.ofList) :: tokens)
    else if c = '\\' then some (.escape parts, tokens)
    else if c.toNat < 0x20 then none
    else some (.string (.char c :: parts), tokens)
  | .escape parts =>
    if c = 'u' then some (.code parts [], tokens)
    else (escaped? c).map fun d => (.string (.char d :: parts), tokens)
  | .code parts digits =>
    (Text.digit? 16 c).map fun d =>
      match digits with
      | [x, y, z] => (.string (.unit (((z * 16 + y) * 16 + x) * 16 + d) :: parts), tokens)
      | _ => (.code parts (d :: digits), tokens)
where
  close? := do start? (← state.finish? tokens) c

/-- The tokens of a text, the last one first. -/
def Lexer.run? : List Char → Lexer → List Token → Option (List Token)
  | [], state, tokens => state.finish? tokens
  | c :: rest, state, tokens =>
    match state.step? tokens c with
    | some (state, tokens) => run? rest state tokens
    | none => none

/-- The tokens of a text; none when some part of it is no token. -/
def tokens? (text : String) : Option (List Token) :=
  (Lexer.run? text.toList .between []).map List.reverse

end Json

end ChillerGateway
