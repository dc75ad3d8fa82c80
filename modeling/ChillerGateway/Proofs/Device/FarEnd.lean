import ChillerGateway.Proofs.Device.Query

/-!
# A far end that answers with lines

* `FarAnswer.IsLine`, `Responder.Orderly` — every answer is one short line.
* `FarEnd.told` — what was read on a connection, with the answers, in order.
* `FarEnd.Orderly` — the invariant of a far end whose answers are lines; every act keeps it.
* `FarEnd.own_actAt` — an act changes the driver's connection only if it is its own.
-/

namespace ChillerGateway

/-- One line of at most 255 bytes with its line end, after which the stream goes on. -/
def FarAnswer.IsLine (a : FarAnswer) : Prop :=
  a.close = false ∧ ∃ body, a.bytes = body ++ [13, LineCodec.lineFeed] ∧
    LineCodec.lineFeed ∉ body ∧ body.length ≤ 255

/-- The text of an answer's line, trimmed. -/
def FarAnswer.text (a : FarAnswer) : String :=
  LineCodec.textOf (a.bytes.takeWhile (· ≠ LineCodec.lineFeed))

theorem FarAnswer.IsLine.bytes_ne_nil {a : FarAnswer} (h : a.IsLine) : a.bytes ≠ [] := by
  obtain ⟨-, body, hb, -⟩ := h
  rw [hb]
  simp

/-! ## What decides the answers -/

namespace Responder

/-- A responder after it read some lines at some times. -/
def after (r : Responder) (lines : List (Nat × String)) : Responder :=
  lines.foldl (fun r line => (r.react line.1 line.2).2) r

/-- Every answer, whatever lines come before, is one line. -/
def Orderly (r : Responder) : Prop :=
  ∀ lines now line, ∀ a ∈ ((r.after lines).react now line).1, a.IsLine

theorem Orderly.answer {r : Responder} (h : r.Orderly) (now : Nat) (line : String) :
    ∀ a ∈ (r.react now line).1, a.IsLine := h [] now line

theorem Orderly.react {r : Responder} (h : r.Orderly) (now : Nat) (line : String) :
    (r.react now line).2.Orderly := fun lines => h ((now, line) :: lines)

theorem react_script (answers : List (Option FarAnswer)) (answerWrites : Bool) (now : Nat)
    (line : String) :
    (script answers answerWrites).react now line =
      if line.startsWith writeMark && !answerWrites then (none, script answers answerWrites)
      else (answers.head?.join, script answers.tail answerWrites) := rfl

/-- What is left of a script after some lines is a script of some of its answers. -/
theorem after_script (answers : List (Option FarAnswer)) (answerWrites : Bool)
    (lines : List (Nat × String)) :
    ∃ rest, (script answers answerWrites).after lines = script rest answerWrites ∧
      ∀ o ∈ rest, o ∈ answers := by
  induction lines generalizing answers with
  | nil => exact ⟨answers, rfl, fun o ho => ho⟩
  | cons line lines ih =>
    unfold after
    rw [List.foldl_cons, react_script]
    by_cases hw : (line.2.startsWith writeMark && !answerWrites) = true
    · rw [if_pos hw]
      exact ih answers
    · rw [if_neg hw]
      obtain ⟨rest, hr, hrest⟩ := ih answers.tail
      exact ⟨rest, hr, fun o ho => List.mem_of_mem_tail (hrest o ho)⟩

/-- A script of lines is orderly. -/
theorem orderly_script {answers : List (Option FarAnswer)} (answerWrites : Bool)
    (h : ∀ a, some a ∈ answers → a.IsLine) : (script answers answerWrites).Orderly := by
  intro lines now line a ha
  obtain ⟨rest, hr, hrest⟩ := after_script answers answerWrites lines
  rw [hr, react_script] at ha
  by_cases hw : (line.startsWith writeMark && !answerWrites) = true
  · rw [if_pos hw] at ha
    cases ha
  · rw [if_neg hw] at ha
    cases rest with
    | nil => cases ha
    | cons o rest =>
      have ho : o = some a := by simpa using ha
      exact h a (ho ▸ hrest o List.mem_cons_self)

end Responder

/-- The bytes of the answer to a line. -/
def Heard.bytes (h : Heard) : LineCodec.Bytes := (h.answer.map FarAnswer.bytes).getD []

/-- The bytes of the answer under way. -/
def Session.pendingBytes (s : Session) : LineCodec.Bytes :=
  (s.pending.map (·.answer.bytes)).getD []

namespace FarEnd

/-- What was read on a connection, the earliest line first. -/
def told (f : FarEnd) (connection : Nat) : List Heard :=
  f.heard.reverse.filter (·.connection = connection)

/-- The connection that the driver holds, if any. -/
def own (f : FarEnd) : List Session := f.sessions.filter Session.attached

/-- The lines that were sent on a connection: those that were read, and those that wait. -/
def sentOn (f : FarEnd) (s : Session) : List String :=
  (f.told s.connection).map Heard.line ++ s.queue.map Prod.snd

/-- A far end whose answers are lines, and whose connections are numbered in order. -/
structure Orderly (f : FarEnd) : Prop where
  responder : f.responder.Orderly
  heard : ∀ h ∈ f.heard, h.connection < f.opened ∧ ∀ a ∈ h.answer, a.IsLine
  sessions : ∀ s ∈ f.sessions, s.connection < f.opened ∧ ∀ p ∈ s.pending, p.answer.IsLine

variable {f : FarEnd} {s : Session}

/-! ### The three kinds of act -/

/-- An answer under way is delivered. -/
theorem act_deliver {p : Pending} (hp : s.pending = some p) :
    f.act s =
      (if p.answer.close || (!s.attached && !p.answer.bytes.isEmpty) then none
        else some { s with pending := none, free := p.due },
        if s.attached then ⟨p.answer.bytes, p.answer.close⟩ else {}, f) := by
  unfold act
  rw [hp]

/-- A line is read. -/
theorem act_read {arrived : Nat} {line : String} {queue : List (Nat × String)}
    (hp : s.pending = none) (hq : s.queue = (arrived, line) :: queue) :
    f.act s =
      (some { s with
        queue
        pending := (f.responder.react (max arrived s.free) line).1.map fun a =>
          ⟨max arrived s.free + a.delay, max arrived s.free, a⟩
        free := max arrived s.free }, {},
      { f with
        responder := (f.responder.react (max arrived s.free) line).2
        heard := ⟨max arrived s.free, s.connection, line,
          (f.responder.react (max arrived s.free) line).1⟩ :: f.heard }) := by
  unfold act
  rw [hp, hq]

theorem act_idle (hp : s.pending = none) (hq : s.queue = []) : f.act s = (some s, {}, f) := by
  unfold act
  rw [hp, hq]

theorem act_sessions (f : FarEnd) (s : Session) : (f.act s).2.2.sessions = f.sessions := by
  unfold act
  split <;> rfl

theorem act_opened (f : FarEnd) (s : Session) : (f.act s).2.2.opened = f.opened := by
  unfold act
  split <;> rfl

/-- What an act leaves of its connection has the same number and the same holder. -/
theorem act_session {s' : Session} (h : (f.act s).1 = some s') :
    s'.connection = s.connection ∧ s'.attached = s.attached := by
  unfold act at h
  split at h
  · simp only at h
    split at h
    · cases h
    · cases h
      exact ⟨rfl, rfl⟩
  · cases h
    exact ⟨rfl, rfl⟩
  · cases h
    exact ⟨rfl, rfl⟩

theorem mem_actAt {i : Nat} {o : Session} (h : o ∈ (f.actAt i).2.sessions) :
    o ∈ f.sessions ∨ ∃ s ∈ f.sessions, (f.act s).1 = some o := by
  unfold actAt at h
  split at h
  · exact .inl h
  · rename_i s hs
    have hmem := (List.mem_filter.mp h).1
    rw [act_sessions, List.mem_append, List.mem_append] at hmem
    rcases hmem with (hmem | hmem) | hmem
    · exact .inl (List.mem_of_mem_take hmem)
    · exact .inr ⟨s, List.mem_of_getElem? hs, by simpa using hmem⟩
    · exact .inl (List.mem_of_mem_drop hmem)

theorem Orderly.act (hf : f.Orderly) (hs : s ∈ f.sessions) :
    (f.act s).2.2.responder.Orderly ∧
      (∀ h ∈ (f.act s).2.2.heard, h.connection < f.opened ∧ ∀ a ∈ h.answer, a.IsLine) ∧
      ∀ s', (f.act s).1 = some s' → ∀ p ∈ s'.pending, p.answer.IsLine := by
  obtain ⟨hnumber, hpending⟩ := hf.sessions s hs
  unfold FarEnd.act
  split
  · refine ⟨hf.responder, hf.heard, ?_⟩
    intro s' hs'
    simp only at hs'
    split at hs'
    · cases hs'
    · cases hs'
      intro p hp
      cases hp
  · rename_i arrived line queue _ _
    have hanswer := hf.responder.answer (max arrived s.free) line
    refine ⟨hf.responder.react _ _, ?_, ?_⟩
    · intro h hh
      rcases List.mem_cons.mp hh with rfl | hh
      · exact ⟨hnumber, hanswer⟩
      · exact hf.heard h hh
    · intro s' hs' p hp
      cases hs'
      obtain ⟨a, ha, rfl⟩ := Option.map_eq_some_iff.mp hp
      exact hanswer a ha
  · refine ⟨hf.responder, hf.heard, ?_⟩
    intro s' hs'
    cases hs'
    exact hpending

/-- **Every act keeps a far end orderly.** -/
theorem Orderly.actAt (hf : f.Orderly) (i : Nat) : (f.actAt i).2.Orderly := by
  have hsessions : ∀ o ∈ (f.actAt i).2.sessions,
      o.connection < f.opened ∧ ∀ p ∈ o.pending, p.answer.IsLine := by
    intro o ho
    rcases mem_actAt ho with ho | ⟨s, hs, ho⟩
    · exact hf.sessions o ho
    · rw [(act_session ho).1]
      exact ⟨(hf.sessions s hs).1, (hf.act hs).2.2 o ho⟩
  revert hsessions
  unfold FarEnd.actAt
  split
  · exact fun _ => hf
  · rename_i s hs
    obtain ⟨hresponder, hheard, -⟩ := hf.act (List.mem_of_getElem? hs)
    intro hsessions
    refine ⟨hresponder, ?_, ?_⟩
    · simpa only [act_opened] using hheard
    · simpa only [act_opened] using hsessions

end FarEnd

end ChillerGateway
