import ChillerGateway.Text.Blank
import ChillerGateway.Text.Utf8

/-!
# Comma-separated records

Records end at a line feed or a carriage return and empty lines are no records.  A field that starts
with a quote runs to the next lone quote and may hold commas and line ends; inside it a doubled
quote stands for one.  A leading byte-order mark is dropped and an open quote ends with the input.

* `Csv.records` — the records of a byte string, each field as bytes.
* `Csv.texts?` — the trimmed texts of a record, none when some field is not made of characters.
-/

namespace ChillerGateway

namespace Csv

abbrev Bytes := List UInt8

def comma : UInt8 := 44
def quote : UInt8 := 34

def isLineEnd (b : UInt8) : Bool := b = 10 || b = 13

/-- Where the reader stands; the bytes of the field and the fields of the record are in reverse. -/
inductive State where
  | betweenRecords
  | fieldStart (record : List Bytes)
  | plain (record : List Bytes) (field : Bytes)
  | quoted (record : List Bytes) (field : Bytes)
  /-- After a quote inside a quoted field: its end, or the first of two. -/
  | afterQuote (record : List Bytes) (field : Bytes)

/-- A record from its fields in reverse. -/
def record (fields : List Bytes) : List Bytes := fields.reverse

/-- The state after a byte that cannot belong to a quoted field, and the record that it ends. -/
def State.unquoted (fields : List Bytes) (field : Bytes) (b : UInt8) :
    State × Option (List Bytes) :=
  if b = comma then (.fieldStart (field.reverse :: fields), none)
  else if isLineEnd b then (.betweenRecords, some (record (field.reverse :: fields)))
  else (.plain fields (b :: field), none)

/-- The state after a byte, and the record that it ends. -/
def State.step (s : State) (b : UInt8) : State × Option (List Bytes) :=
  match s with
  | .betweenRecords => if isLineEnd b then (.betweenRecords, none) else start [] b
  | .fieldStart fields => start fields b
  | .plain fields field => unquoted fields field b
  | .quoted fields field =>
    if b = quote then (.afterQuote fields field, none) else (.quoted fields (b :: field), none)
  | .afterQuote fields field =>
    if b = quote then (.quoted fields (b :: field), none) else unquoted fields field b
where
  start (fields : List Bytes) (b : UInt8) :=
    if b = quote then (.quoted fields [], none) else unquoted fields [] b

/-- The record that the end of input ends. -/
def State.finish : State → Option (List Bytes)
  | .betweenRecords => none
  | .fieldStart fields => some (record ([] :: fields))
  | .plain fields field | .quoted fields field | .afterQuote fields field =>
    some (record (field.reverse :: fields))

/-- The records from a state on, after those already read, which are in reverse. -/
def State.run : State → List (List Bytes) → Bytes → List (List Bytes)
  | s, read, [] => (s.finish.toList ++ read).reverse
  | s, read, b :: rest =>
    let (s, ended) := s.step b
    run s (ended.toList ++ read) rest

def dropMark : Bytes → Bytes
  | 0xEF :: 0xBB :: 0xBF :: rest => rest
  | bytes => bytes

/-- The records of a byte string. -/
def records (bytes : Bytes) : List (List Bytes) := State.run .betweenRecords [] (dropMark bytes)

/-- The fields of a record as texts without blanks around them. -/
def texts? (fields : List Bytes) : Option (List String) :=
  fields.mapM fun field => (Text.ofBytes? field).map Text.trim

end Csv

end ChillerGateway
