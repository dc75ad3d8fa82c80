import ChillerGateway.Reply
import Mathlib.Data.List.Basic

/-!
# What a reply tells apart

A client sees only the message of a failure.  Most failures share theirs with others, but that of a
client over its limit, and that of a line over the size limit, belong to nothing else: the first
letter tells them apart.

* `Error.head?_clientMessage` — the first letter of what a client is told.
* `Reply.isLimit_ofResult`, `Reply.isTooLarge_ofResult` — the two replies that stand for themselves.
-/

namespace ChillerGateway

namespace Error

/-- The first letter of the message for a client. -/
def initial : Error → Char
  | protocol _ | unacknowledged _ | stateUnknown _ | timeout => 'D'
  | permission => 'A'
  | rateLimited => 'R'
  | readOnly | reconnecting => 'S'
  | _ => 'I'

theorem head?_oneLine {s : String} {c : Char} (h : s.toList.head? = some c)
    (hc : isLineEnd c = false) : (oneLine s).toList.head? = some c := by
  unfold oneLine
  rw [String.toList_ofList, List.head?_map, h, Option.map_some, hc]
  rfl

theorem head?_append {s : String} {c : Char} (h : s.toList.head? = some c) (t : String) :
    (s ++ t).toList.head? = some c := by
  rw [String.toList_append, List.head?_append, h]
  rfl

theorem head?_clientMessage (e : Error) : e.clientMessage.toList.head? = some e.initial := by
  cases e with
  | validation text | unknownCommand name | unknownDevice id | csv text =>
    exact head?_oneLine (c := 'I') (head?_append (s := "Invalid request: ") (by decide) _)
      (by decide)
  | protocol text | unacknowledged text | stateUnknown text =>
    exact head?_oneLine (c := 'D') (head?_append (s := "Device error: ") (by decide) text)
      (by decide)
  | io | serial | config | tls =>
    exact head?_oneLine (s := "Internal server error") (c := 'I') (by decide) (by decide)
  | _ => exact head?_oneLine (by decide) (by decide)

theorem eq_rateLimited_of_initial {e : Error} (h : e.initial = 'R') : e = .rateLimited := by
  cases e with
  | rateLimited => rfl
  | _ => exact absurd h (by simp [initial])

theorem initial_ne (e : Error) : e.initial ≠ 'M' := by
  cases e <;> simp [initial]

end Error

namespace Reply

/-- Whether a reply is the refusal of a client over its limit. -/
def isLimit : Reply → Bool
  | .error message _ => message == "Rate limit exceeded"
  | .ok .. => false

/-- Whether a reply is the one to a line over the size limit. -/
def isTooLarge : Reply → Bool
  | .error message _ => message == "Message too large"
  | .ok .. => false

/-- Only a client over its limit is told so. -/
theorem isLimit_ofResult {r : Except Error Json} :
    (ofResult r).isLimit = true ↔ r = .error .rateLimited := by
  cases r with
  | ok json => exact iff_of_false Bool.false_ne_true fun h => by cases h
  | error e =>
    show (e.clientMessage == "Rate limit exceeded") = true ↔ _
    rw [beq_iff_eq]
    constructor
    · intro h
      have hhead := e.head?_clientMessage
      rw [h] at hhead
      exact congrArg _ (Error.eq_rateLimited_of_initial (Option.some.inj hhead).symm)
    · rintro ⟨⟩
      decide

/-- No failure reads like a line over the size limit. -/
theorem isTooLarge_ofResult (r : Except Error Json) : (ofResult r).isTooLarge = false := by
  cases r with
  | ok json => rfl
  | error e =>
    show (e.clientMessage == "Message too large") = false
    rw [beq_eq_false_iff_ne]
    intro h
    have hhead := e.head?_clientMessage
    rw [h] at hhead
    exact e.initial_ne (Option.some.inj hhead).symm

end Reply

end ChillerGateway
