import ChillerGateway.Reply
import ChillerGateway.Proofs.Json.OneLine
import ChillerGateway.Proofs.Json.RoundTrip

/-!
# A reply is one line

A reply is written like an object whose members stand in an order of their own.  Its line holds no
line end, whatever texts it carries, and the reply is read back from it.

* `Reply.line_eq` — the line is the text of an object.
* `Reply.oneLine_reply` — it holds no line end.
* `Reply.line_restores` — a client reads what was replied.
-/

namespace ChillerGateway

namespace Reply

/-- The status of a reply, the name of its body, and the body. -/
def status : Reply → String
  | .ok .. => "ok"
  | .error .. => "error"

def body : Reply → Json
  | .ok result _ => result
  | .error message _ => .string message

def version : Reply → Nat
  | .ok _ version | .error _ version => version

/-- The members of a reply in the order in which they are written. -/
def members (r : Reply) : List (String × Json) :=
  [("status", .string r.status), (bodyName r.status, r.body),
    ("protocol_version", .ofInt r.version)]

/-- A reply whose result is read back inside it, with a version that fits its word. -/
structure Restorable (r : Reply) : Prop where
  body : r.body.Restores (Json.maxDepth - 1)
  version : r.version < 2 ^ 32

/-- **The line of a reply** is the text of an object. -/
theorem line_eq (r : Reply) : r.line = (Json.object r.members).render := by
  cases r with
  | ok | error => rfl

/-- **A reply is one line.** -/
theorem oneLine_reply (r : Reply) : OneLine r.line := by
  rw [line_eq]
  exact Json.oneLine_put _ "" (by decide)

/-- The members of a reply are those of one reply only. -/
theorem ofMembers?_members {r : Reply} (h : r.version < 2 ^ 32) :
    ofMembers? r.members = some r := by
  have hversion : version? (.ofInt r.version) = some r.version := if_pos h
  cases r with
  | ok | error =>
    simp only [version] at hversion
    simp [ofMembers?, members, status, body, Reply.version, bodyName, ofFields?, List.lookup_cons,
      hversion]

theorem Restorable.parse?_line {r : Reply} (h : r.Restorable) : parse? r.line = some r := by
  have hrestores : ∀ m ∈ r.members, m.2.Restores (Json.maxDepth - 1) := by
    have hfits : Json.Number.Fits r.version := by
      have hversion := h.version
      have hunsigned : Nat.pow 2 64 = 2 ^ 64 := rfl
      unfold Json.Number.Fits
      omega
    unfold members
    simp only [List.forall_mem_cons]
    exact ⟨.string _, h.body, .number (Json.Number.restores_integer hfits), List.forall_mem_nil _⟩
  have htokens := (Json.written_object fun m hm => (hrestores m hm).put).tokens?_render
  have hread := Json.members?_tokens (fun m hm => (hrestores m hm).readable) []
  unfold parse? Json.parseWith?
  rw [line_eq, htokens]
  simp [Json.tokens, read?, hread, ofMembers?_members h.version]

/-- A reply for a failure is read back, whatever texts the failure carries. -/
theorem restorable_fail (e : Error) : (fail e).Restorable where
  body := .string e.clientMessage
  version := (by decide : currentVersion < 2 ^ 32)

/-- **A client reads what was replied.**  Every reply is one line; it is read back from it when its
result is, which is so of texts, words, objects of them, and numbers that are read back from their
own text.  What a client is told of a failure is one line too. -/
theorem line_restores :
    (∀ r : Reply, OneLine r.line ∧ (r.Restorable → parse? r.line = some r)) ∧
      ∀ e : Error, OneLine e.clientMessage ∧ (fail e).Restorable :=
  ⟨fun r => ⟨r.oneLine_reply, Restorable.parse?_line⟩,
    fun e => ⟨e.clientMessage_isLine, restorable_fail e⟩⟩

/-- A status with a quote, a backslash, a line end, a control character and a letter that is not
ASCII, beside a temperature of 30 degrees. -/
theorem line_restores_status :
    let result := Json.ofMembers [("temperature", .number (.float (.ofInt 30))),
      ("running", .bool true), ("status", .string "\"Ü\\\r\n\x01")]
    parse? (succeed result).line = some (succeed result) := by
  intro result
  have hnumber : (Json.Number.float (.ofInt 30)).Restores := by decide +kernel
  have hresult : result.Restores (Json.maxDepth - 1) := Json.restores_ofMembers <| by
    simp only [List.forall_mem_cons]
    exact ⟨.number hnumber, .bool _, .string _, List.forall_mem_nil _⟩
  exact (line_restores.1 (succeed result)).2 ⟨hresult, by decide⟩

end Reply

end ChillerGateway
