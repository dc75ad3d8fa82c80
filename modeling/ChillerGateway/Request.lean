import ChillerGateway.Error
import ChillerGateway.Json.Reader

/-!
# Requests

A request is one JSON text: an object whose known members are the fields, each at most once, or an
array of the fields in order, of which the last may be missing.  Unknown members are passed over,
whatever they hold.

* `Request.ofLine?` — the request that a line holds.
* `Request.parse` — the same, or the failure that a client is told of.
-/

namespace ChillerGateway

/-- What a client asks for. -/
structure Request where
  command : Option String := none
  value : Option Json := none
  /-- The device; none means the default device. -/
  chillerId : Option String := none
  token : Option String := none
  /-- The text of a schedule to load. -/
  csv : Option String := none
  deriving Inhabited

namespace Request

/-- The fields in order. -/
def fields : List String := ["command", "value", "chiller_id", "token", "csv"]

/-- A text field: a missing field and null are both none. -/
def text? : Option Json → Option (Option String)
  | none | some .null => some none
  | some (.string s) => some (some s)
  | some _ => none

/-- The request whose fields the function gives. -/
def ofFields? (field : String → Option Json) : Option Request := do
  let value := (field "value").filter fun v => !v.isNull
  return {
    command := ← text? (field "command")
    value
    chillerId := ← text? (field "chiller_id")
    token := ← text? (field "token")
    csv := ← text? (field "csv") }

/-- The value of a known member; any other member is passed over. -/
def member (name : String) : Json.Reader (Option Json) := fun tokens =>
  if fields.contains name then
    (Json.value? (Json.maxDepth - 1) tokens).map fun (v, rest) => (some v, rest)
  else (Json.skip? tokens).map fun (_, rest) => (none, rest)

def ofMembers? (members : List (String × Option Json)) : Option Request :=
  let known := members.filterMap fun (name, value) => value.map (name, ·)
  if (known.map Prod.fst).Nodup then ofFields? (known.lookup ·) else none

def ofItems? (items : List Json) : Option Request :=
  if fields.length < items.length then none else ofFields? ((fields.zip items).lookup ·)

def read? : Json.Reader Request
  | .beginObject :: rest => do
    let (members, rest) ← Json.members? member rest
    return (← ofMembers? members, rest)
  | .beginArray :: rest => do
    let (items, rest) ← Json.items? (Json.value? (Json.maxDepth - 1)) rest
    return (← ofItems? items, rest)
  | _ => none

/-- The request that a line holds, if it holds one. -/
def ofLine? (line : String) : Option Request := Json.parseWith? read? line

/-- The failure of a line that holds none. -/
def malformed (remark : String) : Error := .validation ("Malformed JSON" ++ remark)

/-- The request of a line; `remark` is what the JSON library has to say of a line that holds none,
from the colon on. -/
def parse (line : String) (remark : String → String := fun _ => "") : Except Error Request :=
  match ofLine? line with
  | some r => .ok r
  | none => .error (malformed (remark line))

theorem parse_eq_ok_iff {line : String} {remark : String → String} {r : Request} :
    parse line remark = .ok r ↔ ofLine? line = some r := by
  unfold parse
  cases ofLine? line with
  | none => simp
  | some => simp

end Request

end ChillerGateway
