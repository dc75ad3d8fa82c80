import ChillerGateway.Proofs.Device.Reached

/-!
# Which line an answer belongs to

A query throws away what is buffered before its line goes out, and takes the next line that arrives.
An answer that was late is not always in the buffer by then: it may wait in the pipe, be under way,
or belong to a line that the far end has not read.

* `CaughtUp` — none of this is the case when the line goes out.
* `query_answer` — then, and only then, a query returns the answer to its own line; otherwise it
  returns what is left of the answer to an earlier one.
* `query_takes_late_answer` — an answer that came after its query timed out is returned to the next.
-/

namespace ChillerGateway

/-- The answer that the far end gave to the line at a place of a connection. -/
def FarEnd.OwnAnswer (f : FarEnd) (connection place : Nat) (line answer : String) : Prop :=
  ∃ h a, (f.told connection)[place]? = some h ∧ h.line = line ∧ h.answer = some a ∧ answer = a.text

/-- An answer, or the rest of one, that the far end gave to a line before a place. -/
def FarEnd.LateAnswer (f : FarEnd) (connection place : Nat) (answer : String) : Prop :=
  ∃ k < place, ∃ h a front body, (f.told connection)[k]? = some h ∧ h.answer = some a ∧
    a.bytes = front ++ (body ++ [LineCodec.lineFeed]) ∧ answer = LineCodec.textOf body

theorem FarEnd.length_sentOn (f : FarEnd) (s : Session) :
    (f.sentOn s).length = (f.told s.connection).length + s.queue.length := by
  simp [sentOn]

theorem Link.answerOf_eq_ok {x : Reception} {answer : String} (h : answerOf x = .ok answer) :
    x = .line answer := by
  unfold answerOf at h
  split at h
  · cases h
  · cases h
  · cases h
  · cases h
  · split at h
    · cases h
    · cases h
      rfl

namespace LinkDevice

/-- When a line goes out on a connection, all answers to earlier lines were taken from the pipe;
`after` tells which answers the lines get that were not read yet. -/
structure CaughtUp (l : LinkDevice) (s : Session) (after : FarEnd) : Prop where
  pipe : ∀ st, l.stream = some st → st.pipe = []
  pending : s.pending = none
  unread : ∀ k h, (l.farEnd.told s.connection).length ≤ k → k < (l.farEnd.sentOn s).length →
    (after.told s.connection)[k]? = some h → h.answer = none

/-! ## The place of the next line -/

section

variable {known told before after : List Heard} {entry : Heard} {a : FarAnswer}
  {read waiting front body : LineCodec.Bytes} {n : Nat}

/-- If nothing was waiting and no line before a place was answered meanwhile, the next line is not
the answer to a line before that place. -/
theorem place_of_caughtUp (hknown : known <+: told) (htold : told = before ++ entry :: after)
    (hentry : entry.answer = some a) (hbytes : a.bytes = front ++ (body ++ [LineCodec.lineFeed]))
    (hread : read = before.flatMap Heard.bytes ++ front)
    (hall : known.flatMap Heard.bytes = read)
    (hnone : ∀ k h, known.length ≤ k → k < n → told[k]? = some h → h.answer = none) :
    n ≤ before.length := by
  by_contra hlt
  have hlong : entry.bytes.length = front.length + (body.length + 1) := by
    simp [Heard.bytes, hentry, hbytes]
  rcases Nat.lt_or_ge before.length known.length with hk | hk
  · -- The entry was known, so its answer was read as a whole.
    have hprefix : before ++ [entry] <+: known := by
      refine List.prefix_of_prefix_length_le ⟨after, ?_⟩ hknown ?_
      · rw [htold, List.append_assoc]
        rfl
      · simpa [Nat.succ_le_iff] using hk
    obtain ⟨rest, hrest⟩ := hprefix
    have := congrArg List.length hall
    rw [← hrest, hread] at this
    simp only [List.flatMap_append, List.flatMap_cons, List.flatMap_nil, List.append_nil,
      List.length_append] at this
    omega
  · have hat : told[before.length]? = some entry := by rw [htold]; simp
    rw [hnone before.length entry hk (by omega) hat] at hentry
    cases hentry

/-- If the next line is the answer to the line at a place, nothing was waiting and no line before
that place was answered meanwhile. -/
theorem caughtUp_of_place (hknown : known <+: told) (htold : told = before ++ entry :: after)
    (hread : read = before.flatMap Heard.bytes ++ front)
    (hall : known.flatMap Heard.bytes = read ++ waiting) (hn : known.length ≤ before.length) :
    waiting = [] ∧ front = [] ∧
      ∀ k h, known.length ≤ k → k < before.length → told[k]? = some h → h.bytes = [] := by
  obtain ⟨more, rfl⟩ : known <+: before :=
    List.prefix_of_prefix_length_le hknown ⟨entry :: after, htold.symm⟩ hn
  have hlength := congrArg List.length hall
  rw [hread] at hlength
  simp only [List.flatMap_append, List.length_append] at hlength
  refine ⟨List.eq_nil_of_length_eq_zero (by omega), List.eq_nil_of_length_eq_zero (by omega), ?_⟩
  intro k h hk hlt hat
  have hmem : h ∈ more := by
    rw [htold, List.getElem?_append_left hlt, List.getElem?_append_right hk] at hat
    exact List.mem_of_getElem? hat
  have hnone : more.flatMap Heard.bytes = [] := List.eq_nil_of_length_eq_zero (by omega)
  exact List.flatMap_eq_nil_iff.mp hnone h hmem

end

/-! ## Queries -/

variable {l : LinkDevice} {now timeout : Nat} {command answer : String}

/-- The line that a wait ends with is what is left of the answer to a line of the connection, at
most the one that went out last. -/
theorem Received.exists_place {after : LinkDevice} {s : Session} {read : LineCodec.Bytes}
    (hr : Received (l.farEnd.arrive now command)
      { s with queue := s.queue ++ [(now, command)] } read (.line answer) after) :
    ∃ before entry later a front body,
      after.farEnd.told s.connection = before ++ entry :: later ∧ entry.answer = some a ∧
      read = before.flatMap Heard.bytes ++ front ∧
      a.bytes = front ++ (body ++ [LineCodec.lineFeed]) ∧ LineCodec.lineFeed ∉ body ∧
      answer = LineCodec.textOf body ∧ after.farEnd.Orderly ∧
      l.farEnd.told s.connection <+: after.farEnd.told s.connection ∧
      before.length ≤ (l.farEnd.sentOn s).length ∧
      (before.length = (l.farEnd.sentOn s).length → entry.line = command) := by
  cases hr with
  | line h hf hl hp hb =>
  rename_i l₃ s₃ st₃ body rest
  have hsame : s₃.connection = s.connection := hl.connection
  have hbytes := h.bytes
  rw [hsame, hp, List.append_assoc, List.append_assoc, List.cons_append] at hbytes
  obtain ⟨before, entry, later, a, front, hentries, ha, hread, hanswer⟩ :=
    exists_entry (Connection.lines hf s.connection) hb hbytes
  -- The lines on the connection are the earlier ones and then this one.
  have hsent : l₃.farEnd.sentOn s₃ = l.farEnd.sentOn s ++ [command] := by
    rw [hl.sent]
    unfold FarEnd.sentOn
    simp only [List.map_append, List.map_cons, List.map_nil, List.append_assoc]
    rfl
  have hline : (l.farEnd.sentOn s ++ [command])[before.length]? = some entry.line := by
    have hmap : ((l₃.farEnd.told s.connection).map Heard.line)[before.length]? =
        some entry.line := by
      rw [hentries]
      simp
    rw [← hsent]
    unfold FarEnd.sentOn
    rw [hsame, List.getElem?_append_left (List.getElem?_eq_some_iff.mp hmap).1, hmap]
  have hle : before.length ≤ (l.farEnd.sentOn s).length := by
    have := (List.getElem?_eq_some_iff.mp hline).1
    rw [List.length_append, List.length_singleton] at this
    omega
  refine ⟨before, entry, later, a, front, body, hentries, ha, hread, hanswer, hb, rfl, hf, hl.told,
    hle, ?_⟩
  intro he
  rw [he, List.getElem?_append_right (Nat.le_refl _), Nat.sub_self] at hline
  exact (Option.some.inj hline).symm

/-- **Which line a query's answer belongs to.**  In any link in use whose far end answers with
lines, a query that succeeds returns the answer to its own line if all earlier answers were taken
by then, and otherwise what is left of the answer to an earlier line. -/
theorem query_answer (h : Reached now l)
    (hr : (attempt (Link.query timeout command) now l).1 = .ok answer) :
    ∃ s, (l.cleared now).farEnd.own = [s] ∧
      let after := (attempt (Link.query timeout command) now l).2.2.farEnd
      let place := ((l.cleared now).farEnd.sentOn s).length
      (CaughtUp (l.cleared now) s after →
        after.OwnAnswer s.connection place (Text.trim command) answer) ∧
      (¬ CaughtUp (l.cleared now) s after → after.LateAnswer s.connection place answer) := by
  rcases h.accounted.query now timeout command with ⟨e, time, l', hq, -⟩ |
    ⟨s, st, read, r, time, l', hc, hq, hreceived⟩
  · rw [hq] at hr
    cases hr
  rw [hq] at hr ⊢
  obtain rfl := Link.answerOf_eq_ok hr
  obtain ⟨before, entry, later, a, front, body, hentries, ha, hread, hanswer, hb, rfl, hf, htold,
    hle, hline⟩ := hreceived.exists_place
  have hlength := FarEnd.length_sentOn (l.cleared now).farEnd s
  have hat : (l'.farEnd.told s.connection)[before.length]? = some entry := by
    rw [hentries]
    simp
  have hknown := hc.bytes
  rw [List.append_assoc] at hknown
  refine ⟨s, hc.own, ?_, ?_⟩
  · intro hcaught
    have hall : ((l.cleared now).farEnd.told s.connection).flatMap Heard.bytes = read := by
      rw [hknown, hcaught.pipe st hc.stream, Session.pendingBytes, hcaught.pending]
      simp
    have hplace : before.length = ((l.cleared now).farEnd.sentOn s).length :=
      hle.antisymm (place_of_caughtUp htold hentries ha hanswer hread hall hcaught.unread)
    obtain ⟨-, rfl, -⟩ := caughtUp_of_place htold hentries hread
      (hall.trans (List.append_nil read).symm) (by omega)
    refine ⟨entry, a, hplace ▸ hat, hline hplace, ha, ?_⟩
    unfold FarAnswer.text
    rw [hanswer, List.nil_append, LineCodec.takeWhile_line hb]
  · intro hbehind
    refine ⟨before.length, ?_, entry, a, front, body, hat, ha, hanswer, rfl⟩
    by_contra hge
    obtain ⟨hwaiting, -, hunread⟩ := caughtUp_of_place htold hentries hread hknown (by omega)
    obtain ⟨hpipe, hpending⟩ := List.append_eq_nil_iff.mp hwaiting
    refine hbehind ⟨?_, ?_, ?_⟩
    · intro st' hst'
      rw [hc.stream] at hst'
      cases hst'
      exact hpipe
    · cases hp : s.pending with
      | none => rfl
      | some p =>
        have hanswered := ((h.accounted.cleared now).orderly.sessions s hc.mem.1).2 p hp
        exact absurd (by simpa [Session.pendingBytes, hp] using hpending) hanswered.bytes_ne_nil
    · intro k e hk hlt he
      have hempty := hunread k e hk (by omega) he
      cases hb : e.answer with
      | none => rfl
      | some b =>
        have hanswered := Connection.lines hf s.connection e (List.mem_of_getElem? he) b hb
        exact absurd (by simpa [Heard.bytes, hb] using hempty) hanswered.bytes_ne_nil

/-! ## A late answer -/

/-- A link to a far end with a script of lines, each after its delay. -/
def toScript (lines : List (Nat × String)) : LinkDevice where
  timeout := 500
  farEnd.responder := .script (lines.map fun line =>
    some { delay := line.1, bytes := LineCodec.charBytes (line.2.toList ++ ['\r', '\n']) }) true

/-- The same link, opened. -/
def scripted (lines : List (Nat × String)) : LinkDevice :=
  (attempt (Link.perform 500 .connect) 0 (toScript lines)).2.2

theorem reached_scripted {lines : List (Nat × String)}
    (h : ∀ line ∈ lines, LineCodec.IsLine line.2 ∧ line.2.toList.length ≤ 255) :
    Reached 0 (scripted lines) := by
  have horderly : (toScript lines).farEnd.responder.Orderly := by
    refine Responder.orderly_script true ?_
    intro a ha
    obtain ⟨line, hline, he⟩ := List.mem_map.mp ha
    cases he
    refine ⟨rfl, LineCodec.charBytes line.2.toList, ?_,
      LineCodec.lineFeed_not_mem_charBytes (h line hline).1, ?_⟩
    · rw [LineCodec.charBytes_append]
      rfl
    · simpa [LineCodec.charBytes] using (h line hline).2
  exact (Reached.fresh 0 rfl rfl rfl horderly).perform 500 .connect

/-- An answer in time is the answer to its line. -/
theorem query_takes_prompt_answer :
    ∃ s, ((scripted [(20, "v1")]).cleared 0).farEnd.own = [s] ∧
      (attempt (Link.query 500 "version") 0 (scripted [(20, "v1")])).2.2.farEnd.OwnAnswer
        s.connection 0 "version" "v1" := by
  have hreached : Reached 0 (scripted [(20, "v1")]) := reached_scripted (by decide +kernel)
  have hanswer : (attempt (Link.query 500 "version") 0 (scripted [(20, "v1")])).1 = .ok "v1" := by
    decide +kernel
  obtain ⟨s, hs, hown, -⟩ := query_answer hreached hanswer
  have hplace : ((scripted [(20, "v1")]).cleared 0).farEnd.own.map (fun s =>
      (((scripted [(20, "v1")]).cleared 0).farEnd.sentOn s).length) = [0] := by decide +kernel
  have hidle : ∀ s ∈ ((scripted [(20, "v1")]).cleared 0).farEnd.own, s.pending = none := by
    decide +kernel
  rw [hs] at hplace hidle
  have hplace : (((scripted [(20, "v1")]).cleared 0).farEnd.sentOn s).length = 0 := by
    simpa using hplace
  have htrim : Text.trim "version" = "version" := by decide +kernel
  simp only [hplace, htrim] at hown
  refine ⟨s, hs, hown ⟨?_, hidle s (List.mem_singleton_self s), ?_⟩⟩
  · decide +kernel
  · intro k h _ hk
    omega

/-- **A query does not always take its own answer**: one that came after its own query timed out is
returned to the next. -/
theorem query_takes_late_answer :
    ¬ ∀ (l : LinkDevice) (now timeout : Nat) (command answer : String), Reached now l →
      (attempt (Link.query timeout command) now l).1 = .ok answer →
      ∃ s, (l.cleared now).farEnd.own = [s] ∧
        (attempt (Link.query timeout command) now l).2.2.farEnd.OwnAnswer s.connection
          ((l.cleared now).farEnd.sentOn s).length (Text.trim command) answer := by
  intro hall
  let lines := [(600, "late"), (0, "second")]
  let behind := (attempt (Link.perform 500 .identify) 0 (scripted lines)).2.2
  have htime : (attempt (Link.perform 500 .identify) 0 (scripted lines)).2.1 = 500 := by
    decide +kernel
  have hreached : Reached 500 behind := by
    have hopened : Reached 0 (scripted lines) := reached_scripted (by decide +kernel)
    rw [← htime]
    exact hopened.perform 500 .identify
  obtain ⟨s, hs, h, a, hat, -, ha, htext⟩ :=
    hall behind 500 500 "status" "late" hreached (by decide +kernel)
  have hplace : (behind.cleared 500).farEnd.own.map (fun s =>
      (s.connection, ((behind.cleared 500).farEnd.sentOn s).length)) = [(0, 1)] := by decide +kernel
  have htold : ((((attempt (Link.query 500 "status") 500 behind).2.2.farEnd.told 0)[1]?.bind
      Heard.answer).map FarAnswer.text) = some "second" := by decide +kernel
  rw [hs] at hplace
  obtain ⟨hconnection, hlength⟩ : s.connection = 0 ∧
      ((behind.cleared 500).farEnd.sentOn s).length = 1 := by simpa using hplace
  rw [hconnection, hlength] at hat
  rw [hat, Option.bind_some, ha, Option.map_some, ← htext] at htold
  exact absurd htold (by decide)

end LinkDevice

end ChillerGateway
