import ChillerGateway.Proofs.Device.Attempt
import ChillerGateway.Proofs.Device.LineCodec

/-!
# One command on a link

What a write and a query do to a link, with the driver program taken apart: the pause that keeps
commands apart, the buffer thrown away, the line sent, and for a query the wait for an answer.

* `attempt_write`, `attempt_query` — the program as one expression in the link.
* `advanceFrom_succ` — the far end's acts one at a time.
* `receiveFrom_poll`, `receiveFrom_act` — a wait is over, or goes on with the far end's next act.
-/

namespace ChillerGateway

namespace LinkDevice

/-! ## Acts of the far end -/

/-- The link after one act of the far end. -/
def acted (l : LinkDevice) (i : Nat) : LinkDevice :=
  { l with
    farEnd := (l.farEnd.actAt i).2
    stream := l.stream.map fun s =>
      { s with
        pipe := s.pipe ++ (l.farEnd.actAt i).1.bytes
        pipeEnded := s.pipeEnded || (l.farEnd.actAt i).1.close } }

theorem advanceFrom_succ (fuel time settled : Nat) (l : LinkDevice) :
    advanceFrom (fuel + 1) time settled l =
      match l.farEnd.next? with
      | none => l
      | some (due, since, i) =>
        if due < time ∨ (due = time ∧ since < settled) then
          advanceFrom fuel time settled (l.acted i)
        else l := rfl

/-- A far end with nothing to do stays as it is. -/
theorem advanceFrom_idle {l : LinkDevice} (h : l.farEnd.next? = none) (fuel time settled : Nat) :
    advanceFrom fuel time settled l = l := by
  cases fuel with
  | zero => rfl
  | succ fuel => rw [advanceFrom_succ, h]

theorem advanceFrom_act {l : LinkDevice} {due since i time settled : Nat}
    (h : l.farEnd.next? = some (due, since, i))
    (hd : due < time ∨ (due = time ∧ since < settled)) (fuel : Nat) :
    advanceFrom (fuel + 1) time settled l = advanceFrom fuel time settled (l.acted i) := by
  rw [advanceFrom_succ, h]
  exact if_pos hd

/-! ## The pause between commands -/

/-- When a command may go out, and the link by then. -/
def ready (l : LinkDevice) (now : Nat) : Nat × LinkDevice :=
  match l.lastCommand with
  | none => (now, l)
  | some last =>
    if now < last + Link.commandInterval then
      (last + Link.commandInterval, l.advance (last + Link.commandInterval) now)
    else (now, l)

/-- The link when a command goes out, with the time noted and the buffer thrown away. -/
def cleared (l : LinkDevice) (now : Nat) : LinkDevice :=
  { (l.ready now).2 with
    lastCommand := some (l.ready now).1
    stream := (l.ready now).2.stream.map Stream.clear }

theorem le_ready (l : LinkDevice) (now : Nat) : now ≤ (l.ready now).1 := by
  unfold ready
  split
  · exact Nat.le_refl _
  · split
    · exact Nat.le_of_lt (by assumption)
    · exact Nat.le_refl _

theorem attempt_pace (now : Nat) (l : LinkDevice) :
    attempt Link.pace now l =
      (.ok (), (l.ready now).1, { (l.ready now).2 with lastCommand := some (l.ready now).1 }) := by
  unfold Link.pace
  rw [attempt_bind, attempt_step]
  unfold ready
  cases h : l.lastCommand with
  | none =>
    simp only [exchange, h]
    rfl
  | some last =>
    simp only [exchange, h]
    rw [attempt_bind, attempt_step]
    simp only [exchange]
    split
    · rfl
    · rfl

/-- A write on an open link. -/
theorem attempt_write {l : LinkDevice} {now : Nat} (ho : (l.ready now).2.stream.isSome = true)
    (command : String) :
    attempt (Link.write command) now l =
      (((l.cleared now).send (l.ready now).1 command).1, (l.ready now).1,
        ((l.cleared now).send (l.ready now).1 command).2) := by
  unfold Link.write
  rw [attempt_bind_ok (attempt_pace now l)]
  rw [attempt_bind, attempt_step]
  simp only [exchange, ho, Bool.not_true, Bool.false_eq_true, if_false]
  rfl

/-- A query on an open link whose line goes out. -/
theorem attempt_query {l sent : LinkDevice} {now : Nat} {command : String}
    (ho : (l.ready now).2.stream.isSome = true)
    (hs : (l.cleared now).send (l.ready now).1 command = (.ok (), sent)) (timeout : Nat) :
    attempt (Link.query timeout command) now l =
      (Link.answerOf (sent.receive (l.ready now).1 timeout).2.1,
        (sent.receive (l.ready now).1 timeout).1, (sent.receive (l.ready now).1 timeout).2.2) := by
  have hw := attempt_write ho command
  rw [hs] at hw
  unfold Link.query
  rw [attempt_bind_ok hw]
  rfl

/-- A query whose line does not go out. -/
theorem attempt_query_unsent {l sent : LinkDevice} {now : Nat} {command : String} {e : Error}
    (ho : (l.ready now).2.stream.isSome = true)
    (hs : (l.cleared now).send (l.ready now).1 command = (.error e, sent)) (timeout : Nat) :
    attempt (Link.query timeout command) now l = (.error e, (l.ready now).1, sent) := by
  have hw := attempt_write ho command
  rw [hs] at hw
  unfold Link.query
  exact attempt_bind_error hw

/-- A write on a closed link. -/
theorem attempt_write_closed {l : LinkDevice} {now : Nat} (hc : (l.ready now).2.stream = none)
    (command : String) :
    attempt (Link.write command) now l =
      (.error .notConnected, (l.ready now).1,
        { (l.ready now).2 with lastCommand := some (l.ready now).1 }) := by
  unfold Link.write
  rw [attempt_bind_ok (attempt_pace now l)]
  rw [attempt_bind, attempt_step]
  simp only [exchange, hc]
  rfl

theorem attempt_query_closed {l : LinkDevice} {now : Nat} (hc : (l.ready now).2.stream = none)
    (timeout : Nat) (command : String) :
    attempt (Link.query timeout command) now l =
      (.error .notConnected, (l.ready now).1,
        { (l.ready now).2 with lastCommand := some (l.ready now).1 }) := by
  unfold Link.query
  exact attempt_bind_error (attempt_write_closed hc command)

/-! ## The wait for an answer -/

theorem poll_of_stream {l : LinkDevice} {st st' : Stream} {r : Option Reception}
    (hs : l.stream = some st) (hp : st.poll = (r, st')) :
    l.poll = (r, { l with stream := some st' }) := by
  unfold poll
  rw [hs]
  simp only [hp]

theorem receiveFrom_poll {l l' : LinkDevice} {r : Reception} (hp : l.poll = (some r, l'))
    (start deadline fuel time : Nat) :
    receiveFrom start deadline (fuel + 1) time l = (time, r, l') := by
  rw [receiveFrom, hp]

theorem receiveFrom_act {l l' : LinkDevice} {due since i start deadline : Nat}
    (hp : l.poll = (none, l')) (hn : l'.farEnd.next? = some (due, since, i))
    (hd : due < deadline ∨ (due = deadline ∧ since < start)) (fuel time : Nat) :
    receiveFrom start deadline (fuel + 1) time l =
      receiveFrom start deadline fuel (max time due) (l'.settle due) := by
  rw [receiveFrom, hp]
  simp only [hn]
  exact if_pos hd

/-! ## Connecting -/

theorem attempt_connect_open {l : LinkDevice} (ho : l.stream.isSome = true) (now : Nat) :
    attempt Link.connect now l = (.ok (), now, l) := by
  unfold Link.connect
  rw [attempt_bind, attempt_step]
  show attempt (if (!l.stream.isSome) = true then _ else _) now l = _
  rw [if_neg (by simp [ho])]
  rfl

theorem attempt_connect_closed {l : LinkDevice} (hc : l.stream = none) (now : Nat) :
    attempt Link.connect now l =
      match l.openStream now with
      | (.ok _, l') => (.ok (), now, { l' with lastCommand := none })
      | (.error e, l') => (.error e, now, l') := by
  unfold Link.connect
  rw [attempt_bind, attempt_step]
  show attempt (if (!l.stream.isSome) = true then _ else _) now l = _
  rw [if_pos (by simp [hc]), attempt_bind, attempt_openStream]
  generalize l.openStream now = x
  obtain ⟨r, l'⟩ := x
  cases r <;> rfl

/-! ## Sending a line -/

/-- The link whose connection ended without being read. -/
def hungUp (l : LinkDevice) : LinkDevice :=
  { l with farEnd := l.farEnd.hangUp, stream := l.stream.map ({ · with pipeEnded := true }) }

/-- A line is refused, or ends the connection, or arrives. -/
theorem send_cases (l : LinkDevice) (now : Nat) (command : String) :
    (∃ e, l.send now command = (.error e, l) ∨ l.send now command = (.error e, l.hungUp)) ∨
      l.farEnd.isAttached = true ∧ l.send now command =
        (.ok (), { l with farEnd := l.farEnd.arrive now (Text.trim command) }) := by
  unfold send
  cases he : LineCodec.encode command with
  | error e => exact .inl ⟨e, .inl rfl⟩
  | ok bytes =>
    simp only [LineCodec.decode_encode he]
    cases ha : l.farEnd.isAttached with
    | false => exact .inl ⟨_, .inl rfl⟩
    | true =>
      simp only [Bool.not_true, Bool.false_eq_true, if_false]
      split
      · exact .inl ⟨_, .inr rfl⟩
      · exact .inr ⟨trivial, rfl⟩

end LinkDevice

end ChillerGateway
