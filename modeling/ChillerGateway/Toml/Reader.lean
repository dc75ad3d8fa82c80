import ChillerGateway.Toml.Number

/-!
# Reading TOML

A document is a list of lines: keys with values, headers of tables, comments.  The keys before the
first header belong to the document itself.

* `Toml.value?` reads a value with at most so many nested brackets.
* `Toml.parse?` reads a document: the entries of its table.
-/

namespace ChillerGateway

namespace Toml

/-! ## Layout -/

/-- What follows blanks, line ends and comments between the items of an array. -/
def skipLines? : (inComment : Bool) → List Char → Option (List Char)
  | _, '\n' :: rest => skipLines? false rest
  | _, '\r' :: '\n' :: rest => skipLines? false rest
  | true, c :: rest => if isPlain c then skipLines? true rest else none
  | true, [] => none
  | false, '#' :: rest => skipLines? true rest
  | false, c :: rest => if isBlank c then skipLines? false rest else some (c :: rest)
  | false, [] => some []

/-- What follows blanks, a comment and the end of the line or of the text. -/
def endLine? (cs : List Char) : Option (List Char) :=
  let cs := match skipBlanks cs with
    | '#' :: rest => rest.dropWhile isPlain
    | rest => rest
  if cs.isEmpty then some [] else lineEnd? cs

/-! ## Values -/

/-- A key, an equals sign and the value that belongs to it. -/
def entry? (value : Reader Toml) : Reader (List String × Toml) := fun cs => do
  let (path, cs) ← keyPath? cs
  let (v, rest) ← value (skipBlanks (← after? '=' cs))
  return ((path, v), rest)

/-- The items of an array from one on, with the closing bracket; a comma may follow the last one. -/
def itemsFrom? (value : Reader Toml) : (fuel : Nat) → (items : List Toml) → Reader Toml
  | 0, _, _ => none
  | fuel + 1, items, cs => do
    match ← skipLines? false cs with
    | ']' :: rest => return (.array items.reverse, rest)
    | cs =>
      let (item, cs) ← value cs
      match ← skipLines? false cs with
      | ',' :: rest => itemsFrom? value fuel (item :: items) rest
      | ']' :: rest => return (.array (item :: items).reverse, rest)
      | _ => none

/-- The entries of a table in braces from one on, with the closing brace. -/
def entriesFrom? (value : Reader Toml) : (fuel : Nat) → Entries → Reader Toml
  | 0, _, _ => none
  | fuel + 1, entries, cs => do
    let ((path, v), cs) ← entry? value cs
    let entries ← insert? v path entries
    match skipBlanks cs with
    | ',' :: rest => entriesFrom? value fuel entries rest
    | '}' :: rest => return (.table .closed entries, rest)
    | _ => none

/-- A value with at most `depth` nested brackets. -/
def value? : (depth : Nat) → Reader Toml
  | _, 't' :: 'r' :: 'u' :: 'e' :: rest => some (.boolean true, rest)
  | _, 'f' :: 'a' :: 'l' :: 's' :: 'e' :: rest => some (.boolean false, rest)
  | depth + 1, '[' :: rest => itemsFrom? (value? depth) (rest.length + 1) [] rest
  | depth + 1, '{' :: rest =>
    match skipBlanks rest with
    | '}' :: rest => some (.table .closed [], rest)
    | rest => entriesFrom? (value? depth) (rest.length + 1) [] rest
  | _, cs =>
    match cs with
    | '"' :: _ | '\'' :: _ => (text? cs).map fun (s, rest) => (.string s, rest)
    | _ => if isMoment cs then moment? cs else number? cs

/-- How many brackets may be open at once. -/
def maxDepth : Nat := 79

/-! ## Documents -/

/-- A document read so far, and the header whose table is being written. -/
structure Draft where
  entries : Entries := []
  header : List String := []

/-- The name in a header with its closing brackets, to the end of the line. -/
def headerEnd? (close : List Char) : Reader (List String) := fun cs => do
  let (path, cs) ← keyPath? cs
  if close.isPrefixOf cs then return (path, ← endLine? (cs.drop close.length)) else none

/-- The draft after a line that is neither blank nor a comment. -/
def Draft.line? (d : Draft) : Reader Draft
  | '[' :: '[' :: cs => do
    let (path, rest) ← headerEnd? [']', ']'] cs
    return (⟨← startElement? path d.entries, path⟩, rest)
  | '[' :: cs => do
    let (path, rest) ← headerEnd? [']'] cs
    return (⟨← startTable? path d.entries, path⟩, rest)
  | cs => do
    let ((path, v), cs) ← entry? (value? maxDepth) cs
    let rest ← endLine? cs
    return ({ d with entries := ← within? (insert? v path) d.header d.entries }, rest)

/-- The draft after all lines; `fuel` bounds their number. -/
def Draft.lines? : (fuel : Nat) → Draft → List Char → Option Draft
  | 0, _, _ => none
  | fuel + 1, d, cs =>
    match skipBlanks cs with
    | [] => some d
    | c :: rest =>
      if c = '#' || (lineEnd? (c :: rest)).isSome then do
        let rest ← endLine? (c :: rest)
        d.lines? fuel rest
      else do
        let (d, rest) ← d.line? (c :: rest)
        d.lines? fuel rest

def dropMark : List Char → List Char
  | '\uFEFF' :: rest => rest
  | cs => cs

/-- The entries of a document's table. -/
def parse? (text : String) : Option Entries :=
  let cs := dropMark text.toList
  (Draft.lines? (cs.length + 1) {} cs).map Draft.entries

end Toml

end ChillerGateway
