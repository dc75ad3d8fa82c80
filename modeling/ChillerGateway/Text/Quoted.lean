import ChillerGateway.Text.Unprintable

/-!
# Quoted text in messages

`Text.quote` writes a text between double quotes on one line: quotes and backslashes are escaped,
the common control characters have their letters, and every other unprintable character is written
as its code in braces.
-/

namespace ChillerGateway

namespace Text

def hexDigits (n : Nat) : String := String.ofList (Nat.toDigits 16 n)

def quoteChar (c : Char) : String :=
  if c = '"' then "\\\""
  else if c = '\\' then "\\\\"
  else if c = '\n' then "\\n"
  else if c = '\r' then "\\r"
  else if c = '\t' then "\\t"
  else if c.toNat = 0 then "\\0"
  else if isUnprintable c then "\\u\x7b" ++ hexDigits c.toNat ++ "\x7d"
  else c.toString

def quote (s : String) : String :=
  s.toList.foldl (fun out c => out ++ quoteChar c) "\"" ++ "\""

/-- The quoted texts between brackets. -/
def quoteList (texts : List String) : String := "[" ++ ", ".intercalate (texts.map quote) ++ "]"

end Text

end ChillerGateway
