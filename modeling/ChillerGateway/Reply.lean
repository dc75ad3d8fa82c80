import ChillerGateway.Error
import ChillerGateway.Json.Printer
import ChillerGateway.Json.Reader

/-!
# Replies

A reply is one line of JSON with its status first and the protocol version last.

* `Reply.line` writes a reply, `Reply.parse?` reads one; the status may be named anywhere in the
  object, or stand first in an array with the fields after it.
-/

namespace ChillerGateway

/-- What a client gets back. -/
inductive Reply where
  | ok (result : Json) (version : Nat)
  | error (message : String) (version : Nat)
  deriving Inhabited

namespace Reply

/-- The version of the envelope and of the command set. -/
def currentVersion : Nat := 2

def succeed (result : Json) : Reply := .ok result currentVersion

/-- The reply for a failure says only what a client may know. -/
def fail (e : Error) : Reply := .error e.clientMessage currentVersion

/-- The reply for a result or a failure. -/
def ofResult : Except Error Json → Reply
  | .ok result => succeed result
  | .error e => fail e

/-- The reply to a line over the size limit. -/
def tooLarge : Reply := .error "Message too large" currentVersion

/-- The text of a reply, without a line end. -/
def line (r : Reply) : String :=
  let (status, field, body, version) := match r with
    | .ok result version => ("ok", "result", result, version)
    | .error message version => ("error", "error", .string message, version)
  let out := Json.putString "\x7b\"status\":" status
  let out := Json.put (Json.putString (out ++ ",") field ++ ":") body
  Json.putString (out ++ ",") "protocol_version" ++ ":" ++ toString version ++ "\x7d"

/-! ## Reading -/

def version? : Json → Option Nat
  | .number (.integer (.ofNat n)) => if n < Nat.pow 2 32 then some n else none
  | _ => none

/-- The reply with a status, its body and its version. -/
def ofFields? (status : String) (body version : Json) : Option Reply :=
  match status, body with
  | "ok", result => (version? version).map (.ok result)
  | "error", .string message => (version? version).map (.error message)
  | _, _ => none

/-- The name of the body for a status. -/
def bodyName (status : String) : String := if status = "ok" then "result" else "error"

def ofMembers? (members : List (String × Json)) : Option Reply :=
  match members.lookup "status" with
  | some (.string status) =>
    let body := bodyName status
    let names := (members.map Prod.fst).filter ["status", body, "protocol_version"].contains
    if names.Nodup then do
      ofFields? status (← members.lookup body) (← members.lookup "protocol_version")
    else none
  | _ => none

def ofItems? : List Json → Option Reply
  | [.string status, body, version] => ofFields? status body version
  | _ => none

def read? : Json.Reader Reply
  | .beginObject :: rest => do
    let (members, rest) ← Json.members? (fun _ => Json.value? (Json.maxDepth - 1)) rest
    return (← ofMembers? members, rest)
  | .beginArray :: rest => do
    let (items, rest) ← Json.items? (Json.value? (Json.maxDepth - 1)) rest
    return (← ofItems? items, rest)
  | _ => none

/-- The reply that a line holds. -/
def parse? (line : String) : Option Reply := Json.parseWith? read? line

end Reply

end ChillerGateway
