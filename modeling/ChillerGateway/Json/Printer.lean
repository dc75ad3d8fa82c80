import ChillerGateway.Json.Basic
import ChillerGateway.Binary64.Layout

/-!
# Writing JSON

`Json.render` writes a value on one line without spaces.  In strings the quote, the backslash and
the control characters are escaped; all else stands as it is.
-/

namespace ChillerGateway

namespace Json

def hexDigit (n : Nat) : Char := "0123456789abcdef".toList.getD n '0'

def renderChar (c : Char) : String :=
  if c = '"' then "\\\""
  else if c = '\\' then "\\\\"
  else if 0x20 ≤ c.toNat then c.toString
  else match c with
    | '\n' => "\\n"
    | '\r' => "\\r"
    | '\t' => "\\t"
    | '\x08' => "\\b"
    | '\x0c' => "\\f"
    | _ => String.ofList ['\\', 'u', '0', '0', hexDigit (c.toNat / 16), hexDigit (c.toNat % 16)]

/-- The text written after `out` as a string. -/
def putString (out text : String) : String :=
  (text.toList.foldl (fun out c => out ++ renderChar c) (out ++ "\"")) ++ "\""

def Number.render : Number → String
  | .integer i => toString i
  | .float x => if x.isFinite then x.write .wire else "null"

mutual

/-- A value written after `out`. -/
def put (out : String) : Json → String
  | null => out ++ "null"
  | bool b => out ++ if b then "true" else "false"
  | number n => out ++ n.render
  | string s => putString out s
  | array items => putItems (out ++ "[") items ++ "]"
  | object members => putMembers (out ++ "\x7b") members ++ "\x7d"

/-- Items written after `out`, with commas between them. -/
def putItems (out : String) : List Json → String
  | [] => out
  | [x] => put out x
  | x :: y :: rest => putItems (put out x ++ ",") (y :: rest)

/-- Members written after `out`, with commas between them. -/
def putMembers (out : String) : List (String × Json) → String
  | [] => out
  | [(name, x)] => put (putString out name ++ ":") x
  | (name, x) :: m :: rest => putMembers (put (putString out name ++ ":") x ++ ",") (m :: rest)

end

/-- The text of a value. -/
def render (j : Json) : String := put "" j

end Json

end ChillerGateway
