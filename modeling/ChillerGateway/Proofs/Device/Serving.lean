import ChillerGateway.Proofs.Device.FarEnd
import ChillerGateway.Proofs.Device.Stream

/-!
# A link to a bath that answers at once

Between operations nothing is under way on such a link: the far end has read every line and the
driver every answer.  A query is answered in the moment in which it goes out, and a line that gets
no answer is read in the pause before the next command.

* `Serving` — nothing under way.
* `Sent.receive` — the answer to a line is had at once.
* `Sent.advance` — a line without answer is read while the driver waits.
-/

namespace ChillerGateway

/-- A connection on which nothing is under way. -/
def Session.IsIdle (s : Session) : Prop := s.queue = [] ∧ s.pending = none

namespace FarEnd

variable {f : FarEnd} {old : List Session} {s : Session}

/-- Idle connections have nothing left to do. -/
theorem foldr_work_of_idle (ho : ∀ o ∈ old, o.IsIdle) (n : Nat) :
    (old.map Session.work).foldr (· + ·) n = n := by
  induction old with
  | nil => rfl
  | cons o old ih =>
    obtain ⟨hq, hp⟩ := ho o List.mem_cons_self
    have ih := ih fun o hmem => ho o (List.mem_cons_of_mem _ hmem)
    simp [Session.work, hq, hp, ih]

theorem filterMap_next?_of_idle (ho : ∀ o ∈ old, o.IsIdle) :
    old.zipIdx.filterMap (fun x : Session × Nat =>
      x.1.next?.map fun act => (act.1, act.2, x.2)) = [] := by
  rw [List.filterMap_eq_nil_iff]
  rintro ⟨o, i⟩ hmem
  obtain ⟨hq, hp⟩ := ho o (List.fst_mem_of_mem_zipIdx hmem)
  simp [Session.next?, hq, hp]

/-- Where all connections are idle nothing happens. -/
theorem next?_eq_none_of_idle (hf : ∀ o ∈ f.sessions, o.IsIdle) : f.next? = none := by
  unfold next?
  simp only [filterMap_next?_of_idle hf]
  rfl

/-- The last connection alone decides when idle ones are before it. -/
theorem next?_of_idle (hf : f.sessions = old ++ [s]) (ho : ∀ o ∈ old, o.IsIdle) :
    f.next? = s.next?.map fun act => (act.1, act.2, old.length) := by
  have hnone := filterMap_next?_of_idle ho
  unfold next?
  simp only [hf, List.zipIdx_append, List.filterMap_append, hnone, List.nil_append]
  cases h : s.next? with
  | none => simp [h]
  | some act => simp [h]

/-- Idle connections that were dropped are forgotten at the next act. -/
theorem actAt_last (hf : f.sessions = old ++ [s])
    (ho : ∀ o ∈ old, o.IsIdle ∧ o.attached = false) {s' : Session} {d : Delivery} {f' : FarEnd}
    (ha : f.act s = (some s', d, f')) (hs : s'.attached = true) :
    f.actAt old.length = (d, { f' with sessions := [s'] }) := by
  have hget : f.sessions[old.length]? = some s := by rw [hf]; simp
  have hgone : old.filter (fun s => s.attached || decide (s.work ≠ 0)) = [] := by
    rw [List.filter_eq_nil_iff]
    intro o hmem
    obtain ⟨⟨hq, hp⟩, hd⟩ := ho o hmem
    simp [Session.work, hq, hp, hd]
  have hsame : f'.sessions = old ++ [s] := by rw [← hf, ← act_sessions f s, ha]
  unfold actAt
  rw [hget]
  simp only [ha, hsame]
  rw [List.take_left', List.drop_of_length_le (by simp), List.append_nil, List.filter_append, hgone]
  · simp [hs]
  · rfl

end FarEnd

namespace LinkDevice

/-- A link to a bath on which nothing is under way at a time. -/
structure Serving (l : LinkDevice) (now : Nat) (b : Bath) : Prop where
  responder : l.farEnd.responder = .bath b
  stream : ∃ st, l.stream = some st ∧ st.Live ∧ st.pipe = []
  /-- One connection is the driver's, and dropped ones have nothing left to do. -/
  sessions : ∃ old s, l.farEnd.sessions = old ++ [s] ∧
    (∀ o ∈ old, o.IsIdle ∧ o.attached = false) ∧ s.IsIdle ∧ s.attached = true ∧ s.free ≤ now

/-- A link to a bath on which a line has just gone out. -/
structure Sent (l : LinkDevice) (now : Nat) (b : Bath) (line : String) : Prop where
  responder : l.farEnd.responder = .bath b
  stream : ∃ st, l.stream = some st ∧ st.Live ∧ st.pipe = [] ∧ st.buffer = []
  sessions : ∃ old s, l.farEnd.sessions = old ++ [s] ∧
    (∀ o ∈ old, o.IsIdle ∧ o.attached = false) ∧ s.queue = [(now, line)] ∧ s.pending = none ∧
      s.attached = true ∧ s.free ≤ now

namespace Serving

variable {l : LinkDevice} {now later : Nat} {b : Bath}

theorem mono (h : Serving l now b) (hl : now ≤ later) : Serving l later b := by
  obtain ⟨old, s, hf, ho, hs, ha, hfree⟩ := h.sessions
  exact ⟨h.responder, h.stream, old, s, hf, ho, hs, ha, hfree.trans hl⟩

theorem next?_eq_none (h : Serving l now b) : l.farEnd.next? = none := by
  obtain ⟨old, s, hf, ho, ⟨hq, hp⟩, -⟩ := h.sessions
  rw [FarEnd.next?_of_idle hf fun o hmem => (ho o hmem).1]
  simp [Session.next?, hq, hp]

/-- Waiting changes nothing. -/
theorem advance (h : Serving l now b) (time settled : Nat) : l.advance time settled = l :=
  advanceFrom_idle h.next?_eq_none _ _ _

/-- The pause before a command changes nothing. -/
theorem ready (h : Serving l now b) : (l.ready now).2 = l := by
  unfold LinkDevice.ready
  split
  · rfl
  · split
    · exact h.advance _ _
    · rfl

/-- A line that goes out. -/
theorem send (h : Serving l now b) {command : String} (hline : LineCodec.IsLine command)
    (hlen : command.toList.length ≤ 1000) {st : Stream} (hst : l.stream = some st)
    (hb : st.buffer = []) :
    ∃ sent, l.send now command = (.ok (), sent) ∧ Sent sent now b (Text.trim command) ∧
      sent.lastCommand = l.lastCommand := by
  obtain ⟨old, s, hf, ho, ⟨hq, hp⟩, ha, hfree⟩ := h.sessions
  obtain ⟨st', hst', hlive, hpipe⟩ := h.stream
  obtain rfl : st = st' := by rw [hst] at hst'; exact Option.some.inj hst'
  have hencode := LineCodec.encode_of_isLine hline
  have hattached : l.farEnd.isAttached = true := by
    unfold FarEnd.isAttached
    rw [hf]
    simp [ha]
  have hshort := LineCodec.length_encode hencode
  have hold : old.map (fun s : Session =>
      if s.attached then { s with queue := s.queue ++ [(now, Text.trim command)] } else s) =
        old := by
    rw [List.map_congr_left (g := id), List.map_id]
    intro o hmem
    rw [(ho o hmem).2]
    rfl
  refine ⟨{ l with farEnd := l.farEnd.arrive now (Text.trim command) }, ?_, ?_, rfl⟩
  · unfold LinkDevice.send
    simp only [hencode, hattached, Bool.not_true, Bool.false_eq_true, if_false]
    rw [if_neg (by rw [hshort]; unfold Stream.chunk; omega), LineCodec.decode_encode hencode]
  · refine ⟨h.responder, ⟨st, hst, hlive, hpipe, hb⟩, old,
      { s with queue := [(now, Text.trim command)] }, ?_, ho, rfl, hp, ha, hfree⟩
    unfold FarEnd.arrive
    simp only [hf, List.map_append, hold]
    simp [ha, hq]

end Serving

/-- A link to a bath with an answer that is due at once. -/
structure Due (l : LinkDevice) (now : Nat) (b : Bath) (bytes : LineCodec.Bytes) : Prop where
  responder : l.farEnd.responder = .bath b
  stream : ∃ st, l.stream = some st ∧ st.Live ∧ st.pipe = [] ∧ st.buffer = []
  sessions : ∃ s, l.farEnd.sessions = [s] ∧ s.queue = [] ∧
    s.pending = some ⟨now, now, { bytes }⟩ ∧ s.attached = true

namespace Sent

variable {l : LinkDevice} {now : Nat} {b b' : Bath} {line : String}

/-- The far end reads the line next, in this moment. -/
theorem next? (h : Sent l now b line) : ∃ i, l.farEnd.next? = some (now, now, i) := by
  obtain ⟨old, s, hf, ho, hq, hp, -, hfree⟩ := h.sessions
  refine ⟨old.length, ?_⟩
  rw [FarEnd.next?_of_idle hf fun o hmem => (ho o hmem).1]
  simp [Session.next?, hq, hp, Nat.max_eq_left hfree]

theorem work (h : Sent l now b line) : l.farEnd.work = 2 := by
  obtain ⟨old, s, hf, ho, hq, hp, -⟩ := h.sessions
  unfold FarEnd.work
  rw [hf, List.map_append, List.foldr_append, FarEnd.foldr_work_of_idle fun o hmem => (ho o hmem).1]
  simp [Session.work, hq, hp]

/-- What reading the line does. -/
theorem act (h : Sent l now b line) {answer : Option String}
    (hr : b.respond now line = (answer, b')) {i : Nat}
    (hi : l.farEnd.next? = some (now, now, i)) :
    ∃ s, (l.acted i).farEnd.sessions = [s] ∧ s.queue = [] ∧ s.attached = true ∧ s.free = now ∧
      s.pending = answer.map (fun text =>
        ⟨now + (Responder.answerText text).delay, now, Responder.answerText text⟩) ∧
      (l.acted i).farEnd.responder = .bath b' ∧
      (l.acted i).stream = l.stream := by
  obtain ⟨old, s, hf, ho, hq, hp, ha, hfree⟩ := h.sessions
  rw [FarEnd.next?_of_idle hf fun o hmem => (ho o hmem).1] at hi
  have hplace : i = old.length := by
    simp only [Session.next?, hq, hp, Option.map_some, Option.some.injEq, Prod.mk.injEq] at hi
    exact hi.2.2.symm
  subst hplace
  have hreact : l.farEnd.responder.react now line =
      (answer.map Responder.answerText, .bath b') := by
    rw [h.responder]
    simp only [Responder.react, hr]
  have hact : l.farEnd.act s = (some { s with
      queue := []
      free := now
      pending := answer.map fun text =>
        ⟨now + (Responder.answerText text).delay, now, Responder.answerText text⟩ }, {},
      { l.farEnd with
        responder := .bath b'
        heard := ⟨now, s.connection, line, answer.map Responder.answerText⟩ ::
          l.farEnd.heard }) := by
    unfold FarEnd.act
    simp only [hp, hq, Nat.max_eq_left hfree, hreact]
    cases answer <;> rfl
  have hat := FarEnd.actAt_last hf ho hact ha
  refine ⟨{ s with
    queue := []
    free := now
    pending := answer.map fun text =>
      ⟨now + (Responder.answerText text).delay, now, Responder.answerText text⟩ },
    ?_, rfl, ha, rfl, rfl, ?_, ?_⟩
  · unfold acted
    rw [hat]
  · unfold acted
    rw [hat]
  · unfold acted
    rw [hat]
    simp

/-- **A line without answer** is read while the driver waits. -/
theorem advance (h : Sent l now b line) (hr : b.respond now line = (none, b')) {time : Nat}
    (ht : now < time) (settled : Nat) : Serving (l.advance time settled) now b' := by
  obtain ⟨i, hi⟩ := h.next?
  obtain ⟨s, hs, hq, ha, hfree, hp, hb, hst⟩ := h.act hr hi
  obtain ⟨st, hopen, hlive, hpipe, -⟩ := h.stream
  have hserving : Serving (l.acted i) now b' := by
    refine ⟨hb, ⟨st, hst.trans hopen, hlive, hpipe⟩, [], s, hs, ?_, ⟨hq, hp⟩, ha, hfree.le⟩
    intro o hmem
    cases hmem
  unfold LinkDevice.advance
  rw [h.work, advanceFrom_act hi (.inl ht), advanceFrom_idle hserving.next?_eq_none]
  exact hserving

/-- A line with an answer is read, and the answer is due. -/
theorem due (h : Sent l now b line) {text : String} (hr : b.respond now line = (some text, b'))
    (hline : LineCodec.IsLine text) {i : Nat} (hi : l.farEnd.next? = some (now, now, i)) :
    Due (l.acted i) now b' (LineCodec.charBytes (text.toList ++ ['\r', '\n'])) := by
  obtain ⟨s, hs, hq, ha, -, hp, hb, hst⟩ := h.act hr hi
  obtain ⟨st, hopen, hlive, hpipe, hbuffer⟩ := h.stream
  have hanswer : Responder.answerText text =
      { bytes := LineCodec.charBytes (text.toList ++ ['\r', '\n']) } := by
    unfold Responder.answerText
    rw [LineCodec.encode_of_isLine hline]
  refine ⟨hb, ⟨st, hst.trans hopen, hlive, hpipe, hbuffer⟩, s, hs, hq, ?_, ha⟩
  rw [hp, Option.map_some, hanswer, Nat.add_zero]

end Sent

namespace Due

variable {l : LinkDevice} {now : Nat} {b : Bath} {bytes : LineCodec.Bytes}

theorem next? (h : Due l now b bytes) : l.farEnd.next? = some (now, now, 0) := by
  obtain ⟨s, hf, hq, hp, -⟩ := h.sessions
  have hlast : l.farEnd.sessions = [] ++ [s] := hf
  rw [FarEnd.next?_of_idle hlast fun o hmem => by cases hmem]
  simp [Session.next?, hp]

/-- The answer arrives. -/
theorem act (h : Due l now b bytes) :
    ∃ st, (l.acted 0).stream = some st ∧ st.Live ∧ st.pipe = bytes ∧ st.buffer = [] ∧
      ∀ st', st'.Live → st'.pipe = [] → Serving { l.acted 0 with stream := some st' } now b := by
  obtain ⟨s, hf, hq, hp, ha⟩ := h.sessions
  obtain ⟨st, hopen, hlive, hpipe, hbuffer⟩ := h.stream
  have hact : l.farEnd.act s =
      (some { s with pending := none, free := now }, ⟨bytes, false⟩, l.farEnd) := by
    unfold FarEnd.act
    simp [hp, ha]
  have hlast : l.farEnd.sessions = [] ++ [s] := hf
  have hat := FarEnd.actAt_last hlast (fun o hmem => by cases hmem) hact ha
  have hacted : l.acted 0 = { l with
      farEnd := { l.farEnd with sessions := [{ s with pending := none, free := now }] }
      stream := some { st with pipe := bytes, pipeEnded := false } } := by
    unfold acted
    rw [show (0 : Nat) = ([] : List Session).length from rfl, hat, hopen]
    simp [hpipe, hlive.pipeEnded]
  rw [hacted]
  refine ⟨_, rfl, ⟨hlive.failed, hlive.ended, rfl⟩, rfl, hbuffer, ?_⟩
  intro st' hlive' hpipe'
  refine ⟨h.responder, ⟨st', rfl, hlive', hpipe'⟩, [], { s with pending := none, free := now }, rfl,
    ?_, ⟨hq, rfl⟩, ha, Nat.le_refl _⟩
  intro o hmem
  cases hmem

end Due

/-! ## The wait for an answer -/

/-- **The answer to a line is had at once**, with its ends trimmed. -/
theorem Sent.receive {l : LinkDevice} {now timeout : Nat} {b b' : Bath} {line text : String}
    (h : Sent l now b line) (hr : b.respond now line = (some text, b'))
    (hline : LineCodec.IsLine text) (hlen : text.toList.length ≤ 1000) (ht : 0 < timeout) :
    ∃ l', l.receive now timeout = (now, .line (Text.trim text), l') ∧ Serving l' now b' := by
  obtain ⟨st, hopen, hlive, hpipe, hbuffer⟩ := h.stream
  -- Nothing is there yet, so the driver waits for the far end.
  have hempty := poll_of_stream hopen (hlive.poll_empty hbuffer hpipe)
  have hwaiting : Sent { l with stream := some { st with readable := false } } now b line :=
    ⟨h.responder, ⟨_, rfl, hlive.unread, hpipe, hbuffer⟩, h.sessions⟩
  obtain ⟨i, hi⟩ := hwaiting.next?
  have hdue := hwaiting.due hr hline hi
  obtain ⟨st₂, hopen₂, hlive₂, hpipe₂, hbuffer₂, hserving⟩ := hdue.act
  have hsettle : LinkDevice.settle { l with stream := some { st with readable := false } } now =
      (LinkDevice.acted { l with stream := some { st with readable := false } } i).acted 0 := by
    unfold settle LinkDevice.advance
    rw [hwaiting.work, advanceFrom_act hi (.inr ⟨rfl, Nat.lt_succ_self now⟩),
      advanceFrom_act hdue.next? (.inr ⟨rfl, Nat.lt_succ_self now⟩)]
    rfl
  -- Now its answer is there.
  obtain ⟨body, hbytes, hbody, hcount, htext⟩ := LineCodec.exists_body hline
  rw [hbytes] at hpipe₂
  have hpoll := poll_of_stream hopen₂ (hlive₂.poll_line hbuffer₂ hpipe₂ hbody (by
    rw [hcount]
    unfold Stream.chunk
    omega))
  refine ⟨_, ?_, hserving (st₂.afterLine body) (hlive₂.afterLine body) ?_⟩
  · unfold LinkDevice.receive
    rw [h.work, receiveFrom_act hempty hi (.inl (by omega)), Nat.max_self, hsettle,
      receiveFrom_poll hpoll, htext]
  · unfold Stream.afterLine
    rw [hpipe₂]
    refine List.drop_of_length_le ?_
    rw [List.length_append, hcount, List.length_singleton]
    unfold Stream.chunk
    omega

/-! ## Commands -/

/-- A link on which nothing will be under way once the pause before the next command is over. -/
def Paced (l : LinkDevice) (now : Nat) (b : Bath) : Prop :=
  Serving (l.ready now).2 (l.ready now).1 b

variable {l : LinkDevice} {now : Nat} {b b' : Bath} {line : String}

theorem Serving.paced (h : Serving l now b) : Paced l now b := by
  unfold Paced
  rw [h.ready]
  exact h.mono (l.le_ready now)

/-- The pause after a line is long enough for it to be read. -/
theorem Sent.paced (h : Sent l now b line) (hr : b.respond now line = (none, b'))
    (hl : l.lastCommand = some now) : Paced l now b' := by
  have hlt : now < now + Link.commandInterval := Nat.lt_add_of_pos_right (by decide)
  unfold Paced LinkDevice.ready
  rw [hl]
  simp only [if_pos hlt]
  exact (h.advance hr hlt now).mono hlt.le

namespace Paced

/-- When the next command goes out nothing is under way and nothing is buffered. -/
theorem cleared (h : Paced l now b) :
    Serving (l.cleared now) (l.ready now).1 b ∧
      ∃ st, (l.cleared now).stream = some st ∧ st.buffer = [] := by
  obtain ⟨st, hopen, hlive, hpipe⟩ := h.stream
  have hclear : (l.cleared now).stream = some st.clear := by
    unfold LinkDevice.cleared
    simp only [hopen, Option.map_some]
  exact ⟨⟨h.responder, ⟨st.clear, hclear, hlive.clear, hpipe⟩, h.sessions⟩, st.clear, hclear, rfl⟩

theorem isOpen (h : Paced l now b) : (l.ready now).2.stream.isSome = true := by
  obtain ⟨st, hopen, -⟩ := h.stream
  rw [hopen]
  rfl

/-- A write leaves its line to be read. -/
theorem write (h : Paced l now b) {command : String} (hline : LineCodec.IsLine command)
    (hlen : command.toList.length ≤ 1000) :
    ∃ sent, attempt (Link.write command) now l = (.ok (), (l.ready now).1, sent) ∧
      Sent sent (l.ready now).1 b (Text.trim command) ∧
      sent.lastCommand = some (l.ready now).1 := by
  obtain ⟨hserving, st, hst, hbuffer⟩ := h.cleared
  obtain ⟨sent, hsend, hsent, hlast⟩ := hserving.send hline hlen hst hbuffer
  refine ⟨sent, ?_, hsent, hlast⟩
  rw [attempt_write h.isOpen, hsend]

/-- **A query is answered at once.** -/
theorem query (h : Paced l now b) {command text : String} (hline : LineCodec.IsLine command)
    (hlen : command.toList.length ≤ 1000)
    (hr : b.respond (l.ready now).1 (Text.trim command) = (some text, b'))
    (htext : LineCodec.IsLine text) (htlen : text.toList.length ≤ 1000) {timeout : Nat}
    (ht : 0 < timeout) :
    ∃ l', attempt (Link.query timeout command) now l =
        (Link.answerOf (.line (Text.trim text)), (l.ready now).1, l') ∧
      Serving l' (l.ready now).1 b' := by
  obtain ⟨hserving, st, hst, hbuffer⟩ := h.cleared
  obtain ⟨sent, hsend, hsent, -⟩ := hserving.send hline hlen hst hbuffer
  obtain ⟨l', hreceive, hl'⟩ := hsent.receive hr htext htlen ht
  refine ⟨l', ?_, hl'⟩
  rw [attempt_query h.isOpen hsend, hreceive]

end Paced

/-- A newly opened link to a bath has nothing under way. -/
theorem serving_openStream (hb : l.farEnd.responder = .bath b) (hr : l.refusals = some 0)
    (ho : ∀ s ∈ l.farEnd.sessions, s.IsIdle ∧ s.attached = false) (now : Nat) :
    (l.openStream now).1 = .ok () ∧ Serving (l.openStream now).2 now b := by
  unfold openStream
  rw [hr]
  exact ⟨rfl, hb, ⟨{}, rfl, Stream.live_new, rfl⟩, l.farEnd.sessions, _, rfl, ho, ⟨rfl, rfl⟩, rfl,
    Nat.le_refl _⟩

end LinkDevice

end ChillerGateway
