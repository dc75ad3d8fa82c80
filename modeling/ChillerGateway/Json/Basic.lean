import ChillerGateway.Binary64

/-!
# JSON values

`Json` is a value; the members of an object are kept in ascending order of their names, each name
once. Numbers are integers that fit 64 bits, with or without a sign, or double-precision numbers.
-/

namespace ChillerGateway

namespace Json

/-- A JSON number. -/
inductive Number where
  | integer (value : Int)
  | float (value : Binary64)
  deriving DecidableEq

/-- The double-precision number nearest to it. -/
def Number.toBinary64 : Number → Binary64
  | .integer i => .ofInt i
  | .float x => x

end Json

/-- A JSON value. -/
inductive Json where
  | null
  | bool (value : Bool)
  | number (value : Json.Number)
  | string (value : String)
  | array (items : List Json)
  | object (members : List (String × Json))

namespace Json

instance : Inhabited Json := ⟨.null⟩

/-- Of neighbours with one name the last. -/
def keepLast : List (String × Json) → List (String × Json)
  | [] => []
  | [m] => [m]
  | m :: n :: rest => if m.1 = n.1 then keepLast (n :: rest) else m :: keepLast (n :: rest)

/-- The object of some members; of two members with one name the later one stays. -/
def ofMembers (members : List (String × Json)) : Json :=
  .object (keepLast (members.mergeSort fun a b => decide (a.1 ≤ b.1)))

/-- A finite number as it is, and null for any other. -/
def ofBinary64 (x : Binary64) : Json := if x.isFinite then .number (.float x) else .null

def ofInt (i : Int) : Json := .number (.integer i)

def isNull : Json → Bool
  | null => true
  | _ => false

/-- The member of that name, of an object. -/
def get? (name : String) : Json → Option Json
  | object members => members.lookup name
  | _ => none

def asNumber? : Json → Option Binary64
  | number n => some n.toBinary64
  | _ => none

def asBool? : Json → Option Bool
  | bool b => some b
  | _ => none

def asString? : Json → Option String
  | string s => some s
  | _ => none

end Json

end ChillerGateway
