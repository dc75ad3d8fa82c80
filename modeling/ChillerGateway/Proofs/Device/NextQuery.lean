import ChillerGateway.Proofs.Device.Overlong
import ChillerGateway.Proofs.Device.Serving

/-!
# The query after a query

When all that the far end answered was received, whatever it was, and the stream is open, the next
query that is answered at once gets its answer, unless too many bytes came without a line feed: then
it fails at once.

* `AtRest` — everything was answered and received.
* `Stage` — a line on its way to the far end, and its answer on the way back.
* `Stage.receiveFrom` — the answer is what the wait for it ends with.
* `query_after_query` — what the next query comes to.
* `query_after_overlong` — the exception.
-/

namespace ChillerGateway

namespace FarEnd

variable {f : FarEnd} {s : Session} {i : Nat}

/-- What was told on a connection stays told. -/
theorem told_act (f : FarEnd) (s : Session) (c : Nat) : f.told c <+: (f.act s).2.2.told c := by
  unfold act told
  split
  · exact List.prefix_refl _
  · rw [List.reverse_cons, List.filter_append]
    exact List.prefix_append _ _
  · exact List.prefix_refl _

theorem told_actAt_prefix (f : FarEnd) (i c : Nat) : f.told c <+: (f.actAt i).2.told c := by
  cases hs : f.sessions[i]? with
  | none =>
    have hsame : (f.actAt i).2 = f := congrArg Prod.snd (actAt_none hs)
    exact ⟨[], by rw [hsame, List.append_nil]⟩
  | some s =>
    rw [told_actAt hs]
    exact told_act f s c

theorem told_cons {f' : FarEnd} {e : Heard} (h : f'.heard = e :: f.heard) {c : Nat}
    (hc : e.connection = c) : f'.told c = f.told c ++ [e] := by
  unfold told
  rw [h, List.reverse_cons, List.filter_append, List.filter_cons_of_pos (by simp [hc]),
    List.filter_nil]

end FarEnd

namespace LinkDevice

variable {l : LinkDevice} {s : Session} {st : Stream} {now time settled : Nat}

theorem told_advance (l : LinkDevice) (time settled c : Nat) :
    l.farEnd.told c <+: (l.advance time settled).farEnd.told c :=
  advance_rel (R := fun l l' => l.farEnd.told c <+: l'.farEnd.told c)
    (fun _ => List.prefix_refl _) (fun l i _ h => (l.farEnd.told_actAt_prefix i c).trans h)
    l time settled

theorem told_receiveFrom (start deadline fuel time : Nat) (l : LinkDevice) (c : Nat) :
    l.farEnd.told c <+: (receiveFrom start deadline fuel time l).2.2.farEnd.told c :=
  receiveFrom_rel (R := fun l l' => l.farEnd.told c <+: l'.farEnd.told c)
    (fun _ => List.prefix_refl _) (fun l _ h => farEnd_poll l ▸ h)
    (fun l time settled _ h => (told_advance l time settled c).trans h) start deadline fuel time l

/-- Waiting leaves no more to do. -/
theorem work_advanceFrom_le (fuel : Nat) (l : LinkDevice) :
    (advanceFrom fuel time settled l).farEnd.work ≤ l.farEnd.work := by
  induction fuel generalizing l with
  | zero => exact Nat.le_refl _
  | succ fuel ih =>
    rw [advanceFrom_succ]
    split
    · exact Nat.le_refl _
    · rename_i due since i hn
      split
      · obtain ⟨s, hs, hnext⟩ := FarEnd.next?_eq_some hn
        exact (ih (l.acted i)).trans (FarEnd.work_actAt_lt hs hnext).le
      · exact Nat.le_refl _

/-- The next act is done by the time at which it is due. -/
theorem work_settle_lt (ho : l.farEnd.InOrder now) {due since i : Nat}
    (hn : l.farEnd.next? = some (due, since, i)) :
    (l.settle due).farEnd.work < l.farEnd.work := by
  obtain ⟨s, hs, hnext⟩ := FarEnd.next?_eq_some hn
  have hless := FarEnd.work_actAt_lt hs hnext
  have hsince : since ≤ due := by
    unfold Session.next? at hnext
    split at hnext
    · rename_i p hp
      cases hnext
      exact ho.since s (List.mem_of_getElem? hs) p hp
    · cases hnext
      exact Nat.le_refl _
    · cases hnext
  obtain ⟨n, hwork⟩ : ∃ n, l.farEnd.work = n + 1 := ⟨l.farEnd.work - 1, by omega⟩
  unfold settle LinkDevice.advance
  rw [hwork, advanceFrom_act hn (.inr ⟨rfl, Nat.lt_succ_of_le hsince⟩), ← hwork]
  exact (work_advanceFrom_le n (l.acted i)).trans_lt hless

/-! ## A connection on which all was answered -/

/-- Everything that was sent on the driver's connection was answered and received, and its stream is
open. -/
structure AtRest (l : LinkDevice) (s : Session) (st : Stream) : Prop where
  own : l.farEnd.own = [s]
  idle : s.IsIdle
  stream : l.stream = some st
  pipe : st.pipe = []
  pipeEnded : st.pipeEnded = false

namespace AtRest

/-- What happens then happens on dropped connections. -/
theorem acted (h : AtRest l s st) (ho : l.farEnd.InOrder now) {due since i : Nat}
    (hn : l.farEnd.next? = some (due, since, i)) :
    AtRest (l.acted i) s st ∧
      (l.acted i).farEnd.told s.connection = l.farEnd.told s.connection := by
  rcases FarEnd.own_or_dropped h.own hn with ⟨-, hnext⟩ | ⟨o, hi, hd⟩
  · simp only [Session.next?, h.idle.1, h.idle.2] at hnext
    cases hnext
  · obtain ⟨hown, htold, hstream⟩ := acted_elsewhere ho h.own hi hd
    exact ⟨⟨hown, h.idle, hstream.trans h.stream, h.pipe, h.pipeEnded⟩, htold⟩

theorem advance (h : AtRest l s st) (ho : l.InOrder now) (ht : time ≤ now) (settled : Nat) :
    AtRest (l.advance time settled) s st ∧
      (l.advance time settled).farEnd.told s.connection = l.farEnd.told s.connection := by
  refine (advance_keeps (P := fun l' => l'.InOrder now ∧ AtRest l' s st ∧
    l'.farEnd.told s.connection = l.farEnd.told s.connection) ?_ settled ⟨ho, h, rfl⟩).2
  rintro l' due since i hn hdue ⟨ho', hrest, htold⟩
  obtain ⟨hacted, hsame⟩ := hrest.acted ho'.farEnd hn
  exact ⟨ho'.acted hn (hdue.trans ht), hacted, hsame.trans htold⟩

theorem ready (h : AtRest l s st) (ho : l.InOrder now) :
    AtRest (l.ready now).2 s st ∧
      (l.ready now).2.farEnd.told s.connection = l.farEnd.told s.connection := by
  rcases l.ready_cases now with hready | ⟨later, hle, hready⟩
  · rw [hready]
    exact ⟨h, rfl⟩
  · rw [hready]
    exact h.advance (ho.mono hle) (Nat.le_refl later) now

end AtRest

/-! ## A line and its answer -/

/-- The driver's connection with its stream, and nothing read that was not used. -/
structure Held (l : LinkDevice) (connection : Nat) (s : Session) (st : Stream) : Prop where
  own : l.farEnd.own = [s]
  number : s.connection = connection
  stream : l.stream = some st
  live : st.Live
  buffer : st.buffer = []

namespace Held

variable {c i : Nat} {o s' : Session} {bytes : LineCodec.Bytes} {f : FarEnd}

theorem acted_elsewhere (h : Held l c s st) (ho : l.farEnd.InOrder now)
    (hi : l.farEnd.sessions[i]? = some o) (hd : o.attached = false) :
    Held (l.acted i) c s st ∧ (l.acted i).farEnd.told c = l.farEnd.told c := by
  obtain ⟨hown, htold, hstream⟩ := LinkDevice.acted_elsewhere ho h.own hi hd
  rw [h.number] at htold
  exact ⟨⟨hown, h.number, hstream.trans h.stream, h.live, h.buffer⟩, htold⟩

/-- An act on the driver's connection that does not end it. -/
theorem acted_own (h : Held l c s st) (hi : l.farEnd.sessions[i]? = some s)
    (hact : l.farEnd.act s = (some s', ⟨bytes, false⟩, f)) :
    Held (l.acted i) c s' { st with pipe := st.pipe ++ bytes } ∧
      (l.acted i).farEnd.told c = f.told c := by
  have hsome : (l.farEnd.act s).1 = some s' := congrArg Prod.fst hact
  have hdelivery : (l.farEnd.actAt i).1 = ⟨bytes, false⟩ :=
    (FarEnd.actAt_delivery hi).trans (congrArg (·.2.1) hact)
  refine ⟨⟨?_, ?_, ?_, h.live.arrive bytes, h.buffer⟩, ?_⟩
  · exact FarEnd.own_actAt_own hi (FarEnd.mem_of_own h.own).2 h.own hsome
  · exact (FarEnd.act_session hsome).1.trans h.number
  · unfold LinkDevice.acted
    simp [h.stream, hdelivery]
  · exact (FarEnd.told_actAt hi c).trans (congrArg (·.2.2.told c) hact)

/-- The far end has something to do by the time at which it acts on the driver's connection. -/
theorem exists_act (h : Held l c s st) (hs : s.next? = some (time, time)) :
    ∃ due since i, l.farEnd.next? = some (due, since, i) ∧ due ≤ time := by
  obtain ⟨⟨due, since, i⟩, hn, hle⟩ := FarEnd.next?_le (FarEnd.mem_of_own h.own).1 hs
  exact ⟨due, since, i, hn, hle.elim le_of_lt fun heq => heq.1.le⟩

end Held

/-- **A line that went out, on its way**, with what was told before it and the answer that it is to
get: it waits to be read, its answer is due, or its answer is there; or it is answered otherwise. -/
inductive Stage (told : List Heard) (entry : Heard) (a : FarAnswer) (l : LinkDevice) : Prop where
  | awaiting {s : Session} {st : Stream} (held : Held l entry.connection s st)
      (pipe : st.pipe = []) (queue : s.queue = [(entry.time, entry.line)])
      (pending : s.pending = none) (free : s.free ≤ entry.time)
      (known : l.farEnd.told entry.connection = told)
  | answering {s : Session} {st : Stream} (held : Held l entry.connection s st)
      (pipe : st.pipe = []) (queue : s.queue = [])
      (pending : s.pending = some ⟨entry.time, entry.time, a⟩)
      (known : l.farEnd.told entry.connection = told ++ [entry])
  | arrived {s : Session} {st : Stream} (held : Held l entry.connection s st)
      (pipe : st.pipe = a.bytes) (idle : s.IsIdle)
      (known : l.farEnd.told entry.connection = told ++ [entry])
  | otherwise {other : Heard} (hne : other ≠ entry)
      (known : told ++ [other] <+: l.farEnd.told entry.connection)

namespace Stage

variable {told : List Heard} {entry : Heard} {a : FarAnswer}

/-- **Every act of the far end takes the line along its way.** -/
theorem acted (h : Stage told entry a l) (ho : l.farEnd.InOrder now)
    (hentry : entry.answer = some a) (hdelay : a.delay = 0) (hclose : a.close = false)
    {due since i : Nat} (hn : l.farEnd.next? = some (due, since, i)) :
    Stage told entry a (l.acted i) := by
  cases h with
  | @awaiting s st held pipe queue pending free known =>
    rcases FarEnd.own_or_dropped held.own hn with ⟨hi, -⟩ | ⟨o, hi, hd⟩
    · have hact := FarEnd.act_read (f := l.farEnd) pending queue
      rw [Nat.max_eq_left free] at hact
      obtain ⟨hheld, htold⟩ := held.acted_own hi hact
      replace htold := htold.trans (FarEnd.told_cons (f := l.farEnd)
        (e := ⟨entry.time, s.connection, entry.line, _⟩) rfl held.number)
      rw [known] at htold
      generalize (l.farEnd.responder.react entry.time entry.line).1 = answer at hheld htold
      -- The answer is the one that the line is to get, or another.
      by_cases hanswer : answer = some a
      · subst hanswer
        obtain ⟨time, connection, line, _⟩ := entry
        obtain rfl : _ = some a := hentry
        rw [held.number] at htold
        refine .answering hheld ?_ rfl ?_ htold
        · rw [pipe]
          rfl
        · simp [hdelay]
      · refine .otherwise (fun heq => hanswer ?_) ⟨[], (List.append_nil _).trans htold.symm⟩
        rw [← hentry, ← heq]
    · obtain ⟨hheld, htold⟩ := held.acted_elsewhere ho hi hd
      exact .awaiting hheld pipe queue pending free (htold.trans known)
  | @answering s st held pipe queue pending known =>
    rcases FarEnd.own_or_dropped held.own hn with ⟨hi, -⟩ | ⟨o, hi, hd⟩
    · have hact := FarEnd.act_deliver (f := l.farEnd) pending
      rw [hclose, (FarEnd.mem_of_own held.own).2] at hact
      obtain ⟨hheld, htold⟩ := held.acted_own hi hact
      refine .arrived hheld ?_ ⟨queue, rfl⟩ (htold.trans known)
      rw [pipe]
      rfl
    · obtain ⟨hheld, htold⟩ := held.acted_elsewhere ho hi hd
      exact .answering hheld pipe queue pending (htold.trans known)
  | @arrived s st held pipe idle known =>
    rcases FarEnd.own_or_dropped held.own hn with ⟨-, hnext⟩ | ⟨o, hi, hd⟩
    · simp only [Session.next?, idle.1, idle.2] at hnext
      cases hnext
    · obtain ⟨hheld, htold⟩ := held.acted_elsewhere ho hi hd
      exact .arrived hheld pipe idle (htold.trans known)
  | otherwise hne known =>
    exact .otherwise hne (known.trans (l.farEnd.told_actAt_prefix i _))

theorem advance (h : Stage told entry a l) (ho : l.InOrder now) (hentry : entry.answer = some a)
    (hdelay : a.delay = 0) (hclose : a.close = false) (ht : time ≤ now) (settled : Nat) :
    Stage told entry a (l.advance time settled) := by
  refine (advance_keeps (P := fun l' => l'.InOrder now ∧ Stage told entry a l') ?_ settled
    ⟨ho, h⟩).2
  rintro l' due since i hn hdue ⟨ho', hstage⟩
  exact ⟨ho'.acted hn (hdue.trans ht), hstage.acted ho'.farEnd hentry hdelay hclose hn⟩

/-- **A wait ends with the answer**, in the moment in which it began, if the line is answered as it
is to be. -/
theorem receiveFrom {body : LineCodec.Bytes} {deadline fuel : Nat} (h : Stage told entry a l)
    (ho : l.InOrder entry.time) (hentry : entry.answer = some a) (hdelay : a.delay = 0)
    (hclose : a.close = false) (hbytes : a.bytes = body ++ [LineCodec.lineFeed])
    (hbody : LineCodec.lineFeed ∉ body) (hlen : body.length < Stream.chunk)
    (hdeadline : entry.time < deadline) (hwork : l.farEnd.work < fuel)
    (hanswered : (LinkDevice.receiveFrom entry.time deadline fuel entry.time l).2.2.farEnd.told
      entry.connection <+: told ++ [entry]) :
    (LinkDevice.receiveFrom entry.time deadline fuel entry.time l).1 = entry.time ∧
      (LinkDevice.receiveFrom entry.time deadline fuel entry.time l).2.1 =
        .line (LineCodec.textOf body) := by
  induction fuel generalizing l with
  | zero => exact absurd hwork (Nat.not_lt_zero _)
  | succ fuel ih =>
    -- While nothing is there yet, the far end's next act is waited for.
    have hwait : ∀ {s : Session} {st : Stream}, Held l entry.connection s st → st.pipe = [] →
        s.next? = some (entry.time, entry.time) →
        Stage told entry a { l with stream := some { st with readable := false } } →
        (LinkDevice.receiveFrom entry.time deadline (fuel + 1) entry.time l).1 = entry.time ∧
          (LinkDevice.receiveFrom entry.time deadline (fuel + 1) entry.time l).2.1 =
            .line (LineCodec.textOf body) := by
      intro s st held pipe hnext hstage
      have hpoll := poll_of_stream held.stream (held.live.poll_empty held.buffer pipe)
      have hpolled := ho.poll
      rw [hpoll] at hpolled
      obtain ⟨due, since, i, hn, hdue⟩ := held.exists_act hnext
      rw [receiveFrom_act hpoll hn (.inl (hdue.trans_lt hdeadline)), Nat.max_eq_left hdue]
        at hanswered ⊢
      refine ih (hstage.advance hpolled hentry hdelay hclose hdue _)
        (hpolled.advance hdue _) ?_ hanswered
      have hless := work_settle_lt hpolled.farEnd hn
      exact Nat.lt_of_lt_of_le hless (Nat.le_of_lt_succ hwork)
    cases h with
    | awaiting held pipe queue pending free known =>
      refine hwait held pipe ?_ (.awaiting ⟨held.own, held.number, rfl, held.live.unread,
        held.buffer⟩ pipe queue pending free known)
      simp only [Session.next?, pending, queue, Nat.max_eq_left free]
    | answering held pipe queue pending known =>
      refine hwait held pipe ?_ (.answering ⟨held.own, held.number, rfl, held.live.unread,
        held.buffer⟩ pipe queue pending known)
      simp only [Session.next?, pending]
    | arrived held pipe idle known =>
      rw [receiveFrom_poll (poll_of_stream held.stream (held.live.poll_line held.buffer
        (pipe.trans hbytes) hbody hlen))]
      exact ⟨rfl, rfl⟩
    | @otherwise other hne known =>
      have htold := (known.trans (told_receiveFrom _ _ _ _ l _)).trans hanswered
      have hsame := List.append_cancel_left (htold.eq_of_length (by simp))
      exact absurd (List.singleton_inj.mp hsame) hne

end Stage

/-! ## Two queries -/

variable {l' : LinkDevice} {timeout : Nat} {command : String} {r : Except Error String}

/-- The link when a command went out. -/
def sent (l : LinkDevice) (now : Nat) (command : String) : LinkDevice :=
  { l.cleared now with
    farEnd := (l.cleared now).farEnd.arrive (l.ready now).1 (Text.trim command) }

/-- A line that goes out arrives on an open stream. -/
theorem send_of_write (h : (attempt (Link.write command) now l).1 = .ok ()) :
    (l.ready now).2.stream.isSome = true ∧
      (l.cleared now).send (l.ready now).1 command = (.ok (), l.sent now command) := by
  cases hst : (l.ready now).2.stream with
  | none =>
    rw [attempt_write_closed hst] at h
    cases h
  | some st =>
    rw [attempt_write (by rw [hst]; rfl)] at h
    refine ⟨rfl, ?_⟩
    rcases (l.cleared now).send_cases (l.ready now).1 command with ⟨e, hs | hs⟩ | ⟨-, hs⟩
    · rw [hs] at h
      cases h
    · rw [hs] at h
      cases h
    · exact hs

theorem sent_stream (command : String) (h : (l.ready now).2.stream = some st) :
    (l.sent now command).stream = some st.clear := by
  unfold sent cleared
  simp only [h, Option.map_some]

/-- **What a query leaves of the stream** is left by what came of its wait. -/
theorem query_leftBy (ho : l.InOrder now) (hw : (attempt (Link.write command) now l).1 = .ok ())
    (hq : attempt (Link.query timeout command) now l = (r, time, l')) :
    ∃ x st, r = Link.answerOf x ∧ l'.stream = some st ∧ st.LeftBy x := by
  obtain ⟨hopen, hsend⟩ := send_of_write hw
  have hsent := ho.cleared.send command
  rw [attempt_query hopen hsend] at hq
  rw [hsend] at hsent
  obtain ⟨opened, hopened⟩ := Option.isSome_iff_exists.mp hopen
  obtain ⟨st, hst, hleft⟩ := receive_leftBy hsent (sent_stream command hopened) timeout
  cases hq
  exact ⟨_, st, rfl, hst, hleft⟩

/-- An answer of one line, at once. -/
def oneLine (text : String) : FarAnswer :=
  { bytes := LineCodec.charBytes (text.toList ++ ['\r', '\n']) }

/-- Between two states of a link the far end read a line on a connection, in the moment in which it
went out, and answered it at once with one line. -/
def AnsweredAtOnce (before after : LinkDevice) (connection sent : Nat) (line text : String) :
    Prop :=
  after.farEnd.told connection = before.farEnd.told connection ++
    [⟨sent, connection, line, some (oneLine text)⟩]

/-- A query on a connection at rest whose stream failed fails at once. -/
theorem AtRest.query_failed (h : AtRest l s st) (ho : l.InOrder now) (hfailed : st.failed = true)
    (hw : (attempt (Link.write command) now l).1 = .ok ())
    (hq : attempt (Link.query timeout command) now l = (r, time, l')) :
    r = .error .streamClosed := by
  obtain ⟨hopen, hsend⟩ := send_of_write hw
  have hclosed : st.clear.poll = _ := Stream.poll_failed hfailed
  rw [attempt_query hopen hsend, receive, receiveFrom_poll
    (poll_of_stream (sent_stream command (h.ready ho).1.stream) hclosed)] at hq
  cases hq
  rfl

/-- **A query on a connection at rest** whose stream did not fail gets the line with which it is
answered at once. -/
theorem AtRest.query_answered {text : String} (h : AtRest l s st) (ho : l.InOrder now)
    (hfailed : st.failed = false) (hw : (attempt (Link.write command) now l).1 = .ok ())
    (hq : attempt (Link.query timeout command) now l = (r, time, l')) (ht : 0 < timeout)
    (hline : LineCodec.IsLine text) (hlen : text.toList.length ≤ 255)
    (hanswer : AnsweredAtOnce l (l'.settle time) s.connection (l.ready now).1 (Text.trim command)
      text) :
    r = Link.answerOf (.line (Text.trim text)) := by
  obtain ⟨hopen, hsend⟩ := send_of_write hw
  rw [attempt_query hopen hsend] at hq
  have hsent := ho.cleared.send command
  rw [hsend] at hsent
  obtain ⟨hrest, htold⟩ := h.ready ho
  have hended := ho.ended_eq_false h.stream h.pipeEnded
  have hown : (l.sent now command).farEnd.own =
      [{ s with queue := [((l.ready now).1, Text.trim command)] }] := by
    have harrive := FarEnd.own_arrive (l.cleared now).farEnd (l.ready now).1 (Text.trim command)
    rwa [show (l.cleared now).farEnd.own = [s] from hrest.own, List.map_singleton, h.idle.1]
      at harrive
  obtain ⟨body, hbytes, hbody, hcount, htext⟩ := LineCodec.exists_body hline
  -- The line that went out waits to be read.
  have hstage : Stage (l.farEnd.told s.connection) ⟨(l.ready now).1, s.connection,
      Text.trim command, some (oneLine text)⟩ (oneLine text) (l.sent now command) :=
    .awaiting ⟨hown, rfl, sent_stream command hrest.stream, ⟨hfailed, hended, h.pipeEnded⟩, rfl⟩
      h.pipe rfl h.idle.2
      (ho.ready.farEnd.free s (FarEnd.mem_of_own hrest.own).1) htold
  have hreceive := hstage.receiveFrom hsent rfl rfl rfl hbytes hbody
    (by rw [hcount]; unfold Stream.chunk; omega) (Nat.lt_add_of_pos_right ht)
    (Nat.lt_succ_self _) ?_
  · cases hq
    rw [← htext]
    exact congrArg Link.answerOf hreceive.2
  · cases hq
    exact hanswer ▸ told_advance _ _ _ _

/-- **The query after a query**, with everything received in between: it fails if the first one
found too many bytes without a line feed, and otherwise gets the line with which it is answered at
once, whatever the first one was answered. -/
theorem query_after_query {l l₁ l₂ : LinkDevice} {now time later finish timeout timeout' : Nat}
    {command command' : String} {first second : Except Error String} {s : Session} {st : Stream}
    (h : InUse now l) (hsent : (attempt (Link.write command) now l).1 = .ok ())
    (hfirst : attempt (Link.query timeout command) now l = (first, time, l₁))
    (hreceived : AtRest l₁ s st) (hlater : time ≤ later)
    (hsent' : (attempt (Link.write command') later l₁).1 = .ok ())
    (hsecond : attempt (Link.query timeout' command') later l₁ = (second, finish, l₂)) :
    (first = .error .overlong → second = .error .streamClosed) ∧
    (first ≠ .error .overlong → ∀ text, 0 < timeout' → LineCodec.IsLine text →
      text.toList.length ≤ 255 →
      AnsweredAtOnce l₁ (l₂.settle finish) s.connection (l₁.ready later).1 (Text.trim command') text →
      second = Link.answerOf (.line (Text.trim text))) := by
  obtain ⟨x, st', rfl, hst, hleft⟩ := query_leftBy h.inOrder hsent hfirst
  obtain rfl := Option.some.inj (hst.symm.trans hreceived.stream)
  have hfailed := hleft.failed_iff hreceived.pipeEnded
  have horder := (h.execute (Link.query timeout command).run).inOrder
  change InOrder (attempt (Link.query timeout command) now l).2.2
    (attempt (Link.query timeout command) now l).2.1 at horder
  rw [hfirst] at horder
  replace horder := horder.mono hlater
  rw [← Link.answerOf_overlong] at hfailed
  constructor
  · intro hoverlong
    exact hreceived.query_failed horder (hfailed.mpr hoverlong) hsent' hsecond
  · intro hother text ht hline hlen hanswer
    exact hreceived.query_answered horder (Bool.eq_false_iff.mpr fun hf => hother (hfailed.mp hf))
      hsent' hsecond ht hline hlen hanswer

/-- A link to a far end that gives such answers, at once. -/
def toAnswers (answers : List LineCodec.Bytes) : LinkDevice where
  timeout := 500
  farEnd.responder := .script (answers.map fun bytes => some { bytes }) true

/-- The same link, opened. -/
def answered (answers : List LineCodec.Bytes) : LinkDevice := ((toAnswers answers).openStream 0).2

/-- The same after a query. -/
def identified (answers : List LineCodec.Bytes) : LinkDevice :=
  (attempt (Link.query 500 "version") 0 (answered answers)).2.2

theorem inUse_answered (answers : List LineCodec.Bytes) : InUse 0 (answered answers) :=
  InUse.step (.new 0 rfl rfl : InUse 0 (toAnswers answers)) .openStream

/-- A byte outside ASCII, then a line. -/
def glitched : List LineCodec.Bytes := [[0xFF, LineCodec.lineFeed], (oneLine "second").bytes]

/-- A byte outside ASCII spoils no other answer than its own. -/
theorem query_after_glitch :
    (attempt (Link.query 500 "status") 0 (identified glitched)).1 =
      Link.answerOf (.line (Text.trim "second")) := by
  have hsent : (attempt (Link.write "version") 0 (answered glitched)).1 = .ok () := by
    decide +kernel
  have hfirst : attempt (Link.query 500 "version") 0 (answered glitched) =
      (.ok "?", 0, identified glitched) := by decide +kernel
  have hrest : AtRest (identified glitched) {} { readable := true } :=
    ⟨by decide +kernel, ⟨rfl, rfl⟩, by decide +kernel, rfl, rfl⟩
  have hsent' : (attempt (Link.write "status") 0 (identified glitched)).1 = .ok () := by
    decide +kernel
  refine (query_after_query (inUse_answered _) hsent hfirst hrest (Nat.le_refl 0) hsent' rfl).2
    (by decide +kernel) "second" (by decide) (by decide +kernel) (by decide) ?_
  unfold AnsweredAtOnce
  decide +kernel

/-- Three hundred bytes without a line feed, then a line. -/
def endless : List LineCodec.Bytes := [List.replicate 300 120, (oneLine "second").bytes]

/-- **A bad answer does not always spoil only its own query**: after too many bytes without a line
feed the next query fails, whatever it is answered. -/
theorem query_after_overlong :
    ¬ ∀ (l l₁ l₂ : LinkDevice) (now time later finish timeout timeout' : Nat)
      (command command' text : String) (first second : Except Error String) (s : Session)
      (st : Stream), InUse now l → (attempt (Link.write command) now l).1 = .ok () →
      attempt (Link.query timeout command) now l = (first, time, l₁) → AtRest l₁ s st →
      time ≤ later → (attempt (Link.write command') later l₁).1 = .ok () →
      attempt (Link.query timeout' command') later l₁ = (second, finish, l₂) → 0 < timeout' →
      LineCodec.IsLine text → text.toList.length ≤ 255 →
      AnsweredAtOnce l₁ (l₂.settle finish) s.connection (l₁.ready later).1 (Text.trim command') text →
      second = Link.answerOf (.line (Text.trim text)) := by
  intro hall
  have hsent : (attempt (Link.write "version") 0 (answered endless)).1 = .ok () := by
    decide +kernel
  have hfirst : attempt (Link.query 500 "version") 0 (answered endless) =
      (.error .overlong, 0, identified endless) := by decide +kernel
  have hrest : AtRest (identified endless) {} { readable := true, failed := true } :=
    ⟨by decide +kernel, ⟨rfl, rfl⟩, by decide +kernel, rfl, rfl⟩
  have hsent' : (attempt (Link.write "status") 0 (identified endless)).1 = .ok () := by
    decide +kernel
  have hsecond : attempt (Link.query 500 "status") 0 (identified endless) =
      (.error .streamClosed, 100,
        (attempt (Link.query 500 "status") 0 (identified endless)).2.2) := by decide +kernel
  have hanswer : AnsweredAtOnce (identified endless)
      ((attempt (Link.query 500 "status") 0 (identified endless)).2.2.settle 100) 0
      ((identified endless).ready 0).1 (Text.trim "status") "second" := by
    unfold AnsweredAtOnce
    decide +kernel
  have hclaim := hall _ _ _ 0 0 0 100 500 500 "version" "status" "second" _ _ {} _
    (inUse_answered endless) hsent hfirst hrest (Nat.le_refl 0) hsent' hsecond (by decide)
    (by decide +kernel) (by decide) hanswer
  revert hclaim
  decide +kernel

end LinkDevice

end ChillerGateway
