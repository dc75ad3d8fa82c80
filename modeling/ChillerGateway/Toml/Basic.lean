import ChillerGateway.Binary64

/-!
# TOML values

A table remembers how it was begun, because that decides who may extend it: a header may complete a
table that only a longer header implied, dotted keys may extend what dotted keys began, and a table
in braces is closed.

* `Toml.insert?` — a value under a dotted key of a table.
* `Toml.startTable?`, `Toml.startElement?` — the table of a header, or one more table of an array.
-/

namespace ChillerGateway

/-- How a table was begun. -/
inductive TableOrigin where
  /-- By a header of its own, or as the document. -/
  | header
  /-- By a longer header. -/
  | implied
  /-- By a dotted key. -/
  | dotted
  /-- In braces. -/
  | closed
  deriving DecidableEq, Repr

/-- A TOML value. -/
inductive Toml where
  | string (text : String)
  | integer (value : Int)
  | float (value : Binary64)
  | boolean (value : Bool)
  /-- A date, a time, or both, as it is written. -/
  | moment (text : String)
  | array (items : List Toml)
  | table (origin : TableOrigin) (entries : List (String × Toml))
  /-- The tables of an array that headers write, the latest first. -/
  | tables (items : List (List (String × Toml)))

namespace Toml

instance : Inhabited Toml := ⟨.boolean false⟩

/-- The entries of a table. -/
abbrev Entries := List (String × Toml)

/-- The entries with a new value under a key that is there. -/
def replace (key : String) (value : Toml) (entries : Entries) : Entries :=
  entries.map fun e => if e.1 = key then (key, value) else e

/-- The entries of a table. -/
def entries? : Toml → Option Entries
  | table _ entries => some entries
  | _ => none

/-- The items of an array. -/
def items? : Toml → Option (List Toml)
  | array items => some items
  | tables items => some (items.reverse.map (table .header))
  | _ => none

/-! ## Keys -/

/-- The entries with a value under a dotted key, which must be new. -/
def insert? (value : Toml) : (path : List String) → Entries → Option Entries
  | [], _ => none
  | [key], entries =>
    match entries.lookup key with
    | none => some (entries ++ [(key, value)])
    | some _ => none
  | key :: path, entries =>
    match entries.lookup key with
    | none => (insert? value path []).map fun inner => entries ++ [(key, .table .dotted inner)]
    | some (.table .dotted inner) =>
      (insert? value path inner).map fun inner => replace key (.table .dotted inner) entries
    | some _ => none

/-! ## Headers -/

/-- The entries with a change in the table at the end of a path.  Tables on the path that are not
there are implied, and of an array of tables the latest is meant. -/
def within? (change : Entries → Option Entries) : (path : List String) → Entries → Option Entries
  | [], entries => change entries
  | key :: path, entries =>
    match entries.lookup key with
    | none => (within? change path []).map fun inner => entries ++ [(key, .table .implied inner)]
    | some (.table .closed _) => none
    | some (.table origin inner) =>
      (within? change path inner).map fun inner => replace key (.table origin inner) entries
    | some (.tables (latest :: earlier)) =>
      (within? change path latest).map fun latest =>
        replace key (.tables (latest :: earlier)) entries
    | some _ => none

/-- The entries with a table that a header begins under a key. -/
def startTableAt? (key : String) (entries : Entries) : Option Entries :=
  match entries.lookup key with
  | none => some (entries ++ [(key, .table .header [])])
  | some (.table .implied inner) => some (replace key (.table .header inner) entries)
  | some _ => none

/-- The entries with one more table in the array of tables under a key. -/
def startElementAt? (key : String) (entries : Entries) : Option Entries :=
  match entries.lookup key with
  | none => some (entries ++ [(key, .tables [[]])])
  | some (.tables items) => some (replace key (.tables ([] :: items)) entries)
  | some _ => none

/-- A change under the last key of a path. -/
def atLast? (change : String → Entries → Option Entries) (path : List String) (entries : Entries) :
    Option Entries := do
  within? (change (← path.getLast?)) path.dropLast entries

def startTable? : List String → Entries → Option Entries := atLast? startTableAt?

def startElement? : List String → Entries → Option Entries := atLast? startElementAt?

end Toml

end ChillerGateway
