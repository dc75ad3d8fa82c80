import ChillerGateway.Device.Bath
import ChillerGateway.Device.LineCodec

/-!
# The far end of a stream

What answers a driver's commands: a script of answers, a simulated bath, or nothing at all.  The far
end reads one line at a time, may take a while before it answers, and does not read meanwhile.

* `Responder.react` — the answer to a line.
* `FarEnd` — a responder with the connections to it.  A connection that the driver dropped lives on
  until its lines are read or an answer finds nobody.
-/

namespace ChillerGateway

/-- An answer: after a delay some bytes, and perhaps the end of the stream. -/
structure FarAnswer where
  delay : Nat := 0
  bytes : LineCodec.Bytes := []
  close : Bool := false
  deriving DecidableEq, Repr

/-- What decides the answers. -/
inductive Responder where
  /-- Answers in the order of the lines; lines that write get one only if `answerWrites` says so. -/
  | script (answers : List (Option FarAnswer)) (answerWrites : Bool)
  | bath (bath : Bath)
  deriving DecidableEq

namespace Responder

/-- The mark of a line that writes. -/
def writeMark : String := "out_"

/-- The answer with that text; a text that is no line ends the stream. -/
def answerText (text : String) : FarAnswer :=
  match LineCodec.encode text with
  | .ok bytes => { bytes }
  | .error _ => { close := true }

/-- The answer to a line read at a time. -/
def react (r : Responder) (now : Nat) (line : String) : Option FarAnswer × Responder :=
  match r with
  | script answers answerWrites =>
    if line.startsWith writeMark && !answerWrites then (none, r)
    else (answers.head?.join, script answers.tail answerWrites)
  | bath b =>
    let (text, b) := b.respond now line
    (text.map answerText, bath b)

end Responder

/-- An answer under way: when it is due, and since when. -/
structure Pending where
  due : Nat
  since : Nat
  answer : FarAnswer
  deriving DecidableEq, Repr

/-- One connection as the far end sees it. -/
structure Session where
  /-- The number of the connection, counted from the first. -/
  connection : Nat := 0
  /-- Lines that arrived and were not read, with their times. -/
  queue : List (Nat × String) := []
  pending : Option Pending := none
  /-- Since when the far end is free to read. -/
  free : Nat := 0
  /-- Whether the driver still holds the stream. -/
  attached : Bool := true
  deriving DecidableEq, Repr

/-- A line that the far end read, and its answer. -/
structure Heard where
  time : Nat
  connection : Nat
  line : String
  answer : Option FarAnswer
  deriving DecidableEq, Repr

/-- A responder, its connections with the oldest first, and what it has read. -/
structure FarEnd where
  responder : Responder
  sessions : List Session := []
  /-- How many connections were opened. -/
  opened : Nat := 0
  /-- The lines read, the latest first. -/
  heard : List Heard := []
  deriving DecidableEq

namespace Session

/-- When the far end acts next on a connection: the time, and since when that was settled. -/
def next? (s : Session) : Option (Nat × Nat) :=
  match s.pending, s.queue with
  | some p, _ => some (p.due, p.since)
  | none, (arrived, _) :: _ => some (max arrived s.free, max arrived s.free)
  | none, [] => none

/-- How many acts are left at most. -/
def work (s : Session) : Nat := 2 * s.queue.length + if s.pending.isSome then 1 else 0

end Session

/-- What an act of the far end brings to the driver. -/
structure Delivery where
  bytes : LineCodec.Bytes := []
  close : Bool := false
  deriving DecidableEq, Repr

namespace FarEnd

def work (f : FarEnd) : Nat := (f.sessions.map Session.work).foldr (· + ·) 0

/-- Whether the driver can send. -/
def isAttached (f : FarEnd) : Bool := f.sessions.any Session.attached

/-- Opens a connection. -/
def connect (f : FarEnd) (now : Nat) : FarEnd :=
  { f with
    sessions := f.sessions ++ [{ connection := f.opened, free := now }]
    opened := f.opened + 1 }

/-- The driver drops its stream. -/
def detach (f : FarEnd) : FarEnd :=
  { f with sessions := f.sessions.map fun s => { s with attached := false } }

/-- A line arrives on the driver's connection. -/
def arrive (f : FarEnd) (now : Nat) (line : String) : FarEnd :=
  { f with sessions := f.sessions.map fun s =>
      if s.attached then { s with queue := s.queue ++ [(now, line)] } else s }

/-- The driver's connection ends without being read. -/
def hangUp (f : FarEnd) : FarEnd := { f with sessions := f.sessions.filter fun s => !s.attached }

/-- The earliest act, by time and then by since when it was settled, with its place. -/
def next? (f : FarEnd) : Option (Nat × Nat × Nat) :=
  let acts := f.sessions.zipIdx.filterMap fun (s, i) =>
    s.next?.map fun (time, since) => (time, since, i)
  acts.foldl (fun best act =>
    match best with
    | none => some act
    | some b => if act.1 < b.1 ∨ (act.1 = b.1 ∧ act.2.1 < b.2.1) then some act else best) none

/-- One act on a connection: what is left of the connection, what it brings, and the far end without
it. -/
def act (f : FarEnd) (s : Session) : Option Session × Delivery × FarEnd :=
  match s.pending, s.queue with
  | some p, _ =>
    let unheard := !s.attached && !p.answer.bytes.isEmpty
    let rest := { s with pending := none, free := p.due }
    let delivery := if s.attached then ⟨p.answer.bytes, p.answer.close⟩ else {}
    (if p.answer.close || unheard then none else some rest, delivery, f)
  | none, (arrived, line) :: queue =>
    let time := max arrived s.free
    let (answer, responder) := f.responder.react time line
    let pending := answer.map fun a => ⟨time + a.delay, time, a⟩
    (some { s with queue, pending, free := time }, {},
      { f with responder, heard := ⟨time, s.connection, line, answer⟩ :: f.heard })
  | none, [] => (some s, {}, f)

/-- The act of the connection at a place. -/
def actAt (f : FarEnd) (i : Nat) : Delivery × FarEnd :=
  match f.sessions[i]? with
  | none => ({}, f)
  | some s =>
    let (s', delivery, f) := f.act s
    let sessions := f.sessions.take i ++ s'.toList ++ f.sessions.drop (i + 1)
    (delivery, { f with sessions := sessions.filter fun s => s.attached || s.work ≠ 0 })

end FarEnd

end ChillerGateway
