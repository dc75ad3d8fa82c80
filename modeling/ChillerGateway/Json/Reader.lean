import ChillerGateway.Json.Token

/-!
# Reading JSON

* `Json.value?` — a value from the front of a token list, with at most so many nested brackets.
* `Json.skip?` — what follows a value of any depth; texts and numbers in it need no value.
* `Json.items?`, `Json.members?` — the inside of an array or object, each entry read in its own way.
* `Json.parse?` — the value of a whole text.
-/

namespace ChillerGateway

namespace Json

/-- A reader takes a value from the front of the tokens and gives back the rest. -/
abbrev Reader (α : Type) := List Token → Option (α × List Token)

/-- How many brackets may be open at once. -/
def maxDepth : Nat := 127

/-! ## Entries between brackets -/

/-- Entries with commas between them, up to the closing bracket; `fuel` bounds their number. -/
def entries? {α : Type} (close : Token) (entry : Reader α) : Nat → List α → Reader (List α)
  | 0, _, _ => none
  | fuel + 1, read, tokens =>
    match entry tokens with
    | some (a, .comma :: rest) => entries? close entry fuel (a :: read) rest
    | some (a, t :: rest) => if t = close then some ((a :: read).reverse, rest) else none
    | _ => none

/-- The entries after an opening bracket. -/
def entriesFrom? {α : Type} (close : Token) (entry : Reader α) (tokens : List Token) :
    Option (List α × List Token) :=
  match tokens with
  | [] => none
  | t :: rest =>
    if t = close then some ([], rest) else entries? close entry tokens.length [] tokens

/-- The items after the opening bracket of an array. -/
def items? {α : Type} (item : Reader α) : Reader (List α) := entriesFrom? .endArray item

/-- A name, a colon, and the value that belongs to the name. -/
def member? {α : Type} (item : String → Reader α) : Reader (String × α)
  | .string (some name) :: .colon :: rest => (item name rest).map fun (a, rest) => ((name, a), rest)
  | _ => none

/-- The members after the opening bracket of an object. -/
def members? {α : Type} (item : String → Reader α) : Reader (List (String × α)) :=
  entriesFrom? .endObject (member? item)

/-! ## Values -/

/-- A value with at most `depth` nested brackets. -/
def value? : (depth : Nat) → Reader Json
  | _, .null :: rest => some (.null, rest)
  | _, .bool b :: rest => some (.bool b, rest)
  | _, .number (some n) :: rest => some (.number n, rest)
  | _, .string (some s) :: rest => some (.string s, rest)
  | depth + 1, .beginArray :: rest =>
    (items? (value? depth) rest).map fun (items, rest) => (.array items, rest)
  | depth + 1, .beginObject :: rest =>
    (members? (fun _ => value? depth) rest).map fun (members, rest) => (ofMembers members, rest)
  | _, _ => none

/-- The brackets around a skipped value. -/
inductive Frame where
  | array
  | object
  deriving DecidableEq

/-- What may come next inside a skipped value. -/
inductive Expected where
  | item
  | itemOrEnd
  | name
  | nameOrEnd
  | colon
  | separator

/-- What follows a value; `frames` are the brackets that are still open. -/
def skipFrom? : List Frame → Expected → List Token → Option (List Token)
  | _, _, [] => none
  | frames, expected, t :: rest =>
    let close := fun (frames : List Frame) =>
      if frames.isEmpty then some rest else skipFrom? frames .separator rest
    let item := match t with
      | .null | .bool _ | .number _ | .string _ => close frames
      | .beginArray => skipFrom? (.array :: frames) .itemOrEnd rest
      | .beginObject => skipFrom? (.object :: frames) .nameOrEnd rest
      | _ => none
    match expected, t, frames with
    | .itemOrEnd, .endArray, _ :: outer => close outer
    | .itemOrEnd, _, _ => item
    | .item, _, _ => item
    | .nameOrEnd, .endObject, _ :: outer => close outer
    | .nameOrEnd, .string _, _ => skipFrom? frames .colon rest
    | .name, .string _, _ => skipFrom? frames .colon rest
    | .colon, .colon, _ => skipFrom? frames .item rest
    | .separator, .comma, .array :: _ => skipFrom? frames .item rest
    | .separator, .comma, .object :: _ => skipFrom? frames .name rest
    | .separator, .endArray, .array :: outer => close outer
    | .separator, .endObject, .object :: outer => close outer
    | _, _, _ => none

/-- What follows a value that is not kept. -/
def skip? : Reader Unit := fun tokens => (skipFrom? [] .item tokens).map fun rest => ((), rest)

/-! ## Whole texts -/

/-- The value of a text that holds nothing else. -/
def parseWith? {α : Type} (read : Reader α) (text : String) : Option α := do
  match ← read (← tokens? text) with
  | (a, []) => some a
  | _ => none

def parse? (text : String) : Option Json := parseWith? (value? maxDepth) text

end Json

end ChillerGateway
