import ChillerGateway.Text.Digits
import ChillerGateway.Toml.Basic

/-!
# Texts and keys of TOML

A text stands between quotes, which may be tripled for a text of several lines; double quotes know
escapes and single ones do not.  No control character but the tab may stand in a text or a comment.

* `Toml.text?` reads a text, `Toml.keyPath?` a dotted key.
-/

namespace ChillerGateway

namespace Toml

/-- A reader takes something from the front of a text and gives back the rest. -/
abbrev Reader (α : Type) := List Char → Option (α × List Char)

def isBlank (c : Char) : Bool := c = ' ' || c = '\t'

def skipBlanks (cs : List Char) : List Char := cs.dropWhile isBlank

/-- Whether a character may stand as it is in a text or a comment. -/
def isPlain (c : Char) : Bool := c = '\t' || (0x20 ≤ c.toNat && c.toNat ≠ 0x7F)

/-- What follows the end of a line. -/
def lineEnd? : List Char → Option (List Char)
  | '\n' :: rest => some rest
  | '\r' :: '\n' :: rest => some rest
  | _ => none

/-! ## Escapes -/

/-- The character of a code point in so many hexadecimal digits. -/
def codePoint? (digits : Nat) : Reader Char := fun cs =>
  let code := cs.take digits
  let value := Text.valueOf 16 code
  if code.length = digits && code.all (Text.isDigitOf 16) && decide value.isValidChar then
    some (Char.ofNat value, cs.drop digits)
  else none

/-- The character that an escape means, after the backslash. -/
def escape? : Reader Char
  | 'b' :: rest => some ('\x08', rest)
  | 'f' :: rest => some ('\x0c', rest)
  | 'n' :: rest => some ('\n', rest)
  | 'r' :: rest => some ('\r', rest)
  | 't' :: rest => some ('\t', rest)
  | '"' :: rest => some ('"', rest)
  | '\\' :: rest => some ('\\', rest)
  | 'u' :: rest => codePoint? 4 rest
  | 'U' :: rest => codePoint? 8 rest
  | _ => none

/-- What follows a line end that was escaped, with the blanks and line ends after it. -/
def continued? (cs : List Char) : Option (List Char) :=
  (lineEnd? (skipBlanks cs)).map (skipSpace ·)
where
  skipSpace : List Char → List Char
    | '\r' :: '\n' :: rest => skipSpace rest
    | c :: rest => if isBlank c || c = '\n' then skipSpace rest else c :: rest
    | [] => []

/-! ## Texts -/

/-- The rest of a text of one line; `out` holds what was read, in reverse, and `fuel` bounds the
parts. -/
def lineFrom? (quote : Char) : (fuel : Nat) → (out : List Char) → Reader String
  | 0, _, _ => none
  | _, _, [] => none
  | fuel + 1, out, c :: rest =>
    if c = quote then some (String.ofList out.reverse, rest)
    else if c = '\\' && quote = '"' then do
      let (d, rest) ← escape? rest
      lineFrom? quote fuel (d :: out) rest
    else if isPlain c then lineFrom? quote fuel (c :: out) rest
    else none

/-- The rest of a text of several lines; up to two quotes may stand before the three that end it. -/
def linesFrom? (quote : Char) : (fuel : Nat) → (out : List Char) → Reader String
  | 0, _, _ => none
  | _, _, [] => none
  | fuel + 1, out, c :: rest =>
    if c = quote then
      let run := 1 + (rest.takeWhile (· = quote)).length
      let kept := if run < 3 then run else min (run - 3) 2
      let out := List.replicate kept quote ++ out
      if run < 3 then linesFrom? quote fuel out (rest.drop (run - 1))
      else some (String.ofList out.reverse, rest.drop (kept + 2))
    else if c = '\\' && quote = '"' then
      match continued? rest with
      | some rest => linesFrom? quote fuel out rest
      | none => do
        let (d, rest) ← escape? rest
        linesFrom? quote fuel (d :: out) rest
    else match lineEnd? (c :: rest) with
      | some rest => linesFrom? quote fuel ('\n' :: out) rest
      | none => if isPlain c then linesFrom? quote fuel (c :: out) rest else none

/-- A text after its first quote. -/
def quoted? (quote : Char) (cs : List Char) : Option (String × List Char) :=
  lineFrom? quote (cs.length + 1) [] cs

/-- A text, in single or tripled quotes; a line end right after three quotes is not part of it. -/
def text? : Reader String
  | q :: cs =>
    if q = '"' || q = '\'' then
      match cs with
      | r :: s :: rest =>
        if r = q && s = q then linesFrom? q (cs.length + 1) [] ((lineEnd? rest).getD rest)
        else quoted? q cs
      | _ => quoted? q cs
    else none
  | [] => none

/-! ## Keys -/

def isKeyChar (c : Char) : Bool := c.isAlphanum || c = '_' || c = '-'

/-- One name, bare or in quotes. -/
def key? : Reader String
  | '"' :: rest => quoted? '"' rest
  | '\'' :: rest => quoted? '\'' rest
  | cs =>
    let name := cs.takeWhile isKeyChar
    if name.isEmpty then none else some (String.ofList name, cs.drop name.length)

/-- A key may have fewer names than this. -/
def keyLimit : Nat := 80

/-- Names with points between them, with blanks around each; so many at most. -/
def keyPathFrom? : (most : Nat) → Reader (List String)
  | 0, _ => none
  | most + 1, cs => do
    let (name, rest) ← key? (skipBlanks cs)
    match skipBlanks rest with
    | '.' :: rest => do
      let (names, rest) ← keyPathFrom? most rest
      return (name :: names, rest)
    | rest => return ([name], rest)

/-- A dotted key. -/
def keyPath? : Reader (List String) := keyPathFrom? (keyLimit - 1)

end Toml

end ChillerGateway
