import ChillerGateway.Proofs.Device.InUse

/-!
# What a wait for an answer leaves of the stream

A stream that stays open is left as good as new by whatever comes of a wait, but for one thing: too
many bytes without a line feed, after which it reports its end once.

* `Link.answerOf_overlong` — how the driver reports too many bytes.
* `Stream.Live.poll` — one look at the stream.
* `LinkDevice.receive_leftBy` — what a wait leaves of it.
-/

namespace ChillerGateway

/-- Too many bytes came without a line feed. -/
def Reception.overlong : Reception := .failed "reply exceeds maximum length"

/-- Too many bytes, as the driver reports them. -/
def Error.overlong : Error := .io "reply exceeds maximum length"

/-- The end of a stream, as the driver reports it. -/
def Error.streamClosed : Error := .io "device stream closed"

theorem Link.answerOf_overlong {r : Reception} :
    answerOf r = .error .overlong ↔ r = .overlong := by
  refine ⟨fun h => ?_, fun h => by rw [h]; rfl⟩
  unfold answerOf at h
  split at h
  · cases h
  · exact absurd (Error.io.inj (Except.error.inj h)) (by decide)
  · exact congrArg Reception.failed (Error.io.inj (Except.error.inj h))
  · cases h
  · split at h
    · cases h
    · cases h

namespace Stream

variable {s : Stream}

/-- After a failure a stream reports its end once. -/
theorem poll_failed (h : s.failed = true) :
    s.poll = (some .closed, { s with readable := false, failed := false }) := by
  unfold poll
  rw [pollFrom]
  unfold take
  rw [if_pos h]

/-- What the buffer of an open stream gives. -/
theorem Live.take (h : s.Live) :
    (s.take.1 = some .overlong ∧ s.take.2.failed = true) ∨
      (s.take.1 ≠ some .overlong ∧ s.take.2.Live) := by
  unfold Stream.take
  rw [if_neg (by simp [h.failed])]
  split
  · exact .inr ⟨nofun, h⟩
  · split
    · exact .inr ⟨nofun, ⟨h.failed, h.ended, h.pipeEnded⟩⟩
    · exact .inl ⟨rfl, rfl⟩
    · rw [if_neg (by simp [h.ended])]
      exact .inr ⟨nofun, h.unread⟩

theorem Live.read? (h : s.Live) {s' : Stream} (hr : s.read? = some s') : s'.Live := by
  unfold Stream.read? at hr
  split at hr
  · cases hr
    exact ⟨h.failed, rfl, h.pipeEnded⟩
  · rw [if_neg (by simp [h.pipeEnded])] at hr
    cases hr

/-- **One look at an open stream** leaves it as it is to be, or finds too many bytes. -/
theorem Live.pollFrom (h : s.Live) (fuel : Nat) :
    ((s.pollFrom fuel).1 = some .overlong ∧ (s.pollFrom fuel).2.failed = true) ∨
      ((s.pollFrom fuel).1 ≠ some .overlong ∧ (s.pollFrom fuel).2.Live) := by
  induction fuel generalizing s with
  | zero => exact .inr ⟨(Option.some_ne_none _).symm, h⟩
  | succ fuel ih =>
    have htake := h.take
    rw [Stream.pollFrom]
    split
    · rename_i heq
      rw [heq] at htake
      exact htake
    · rename_i s' heq
      rw [heq] at htake
      obtain ⟨hnone, -⟩ | ⟨-, hlive⟩ := htake
      · cases hnone
      · replace hlive : s'.Live := hlive
        split
        · rename_i hread
          exact ih (hlive.read? hread)
        · rw [if_neg (by simp [hlive.pipeEnded])]
          exact .inr ⟨(Option.some_ne_none _).symm, hlive⟩

theorem Live.poll (h : s.Live) :
    (s.poll.1 = some .overlong ∧ s.poll.2.failed = true) ∨
      (s.poll.1 ≠ some .overlong ∧ s.poll.2.Live) := h.pollFrom _

/-- A stream that goes on, or whose end came. -/
def Sound (s : Stream) : Prop := s.Live ∨ s.pipeEnded = true

/-- What a wait that ended so may leave of a stream: its end came, or too many bytes, or it goes
on. -/
def LeftBy (s : Stream) (r : Reception) : Prop :=
  s.pipeEnded = true ∨ (r = .overlong ∧ s.failed = true) ∨ (r ≠ .overlong ∧ s.Live)

theorem Sound.leftBy {r : Reception} (h : s.Sound) (hr : r ≠ .overlong) : s.LeftBy r :=
  h.elim (fun hlive => .inr (.inr ⟨hr, hlive⟩)) .inl

theorem Sound.poll (h : s.Sound) :
    (∀ r, s.poll.1 = some r → s.poll.2.LeftBy r) ∧ (s.poll.1 = none → s.poll.2.Sound) := by
  rcases h with hlive | hended
  · rcases hlive.poll with ⟨hfound, hfailed⟩ | ⟨hother, hlive'⟩
    · rw [hfound]
      exact ⟨fun r hr => .inr (.inl ⟨(Option.some.inj hr).symm, hfailed⟩), nofun⟩
    · exact ⟨fun r hr => .inr (.inr ⟨fun heq => hother (heq ▸ hr), hlive'⟩), fun _ => .inl hlive'⟩
  · have hstays : s.poll.2.pipeEnded = true := (ended_poll fun _ => hended).1.trans hended
    exact ⟨fun _ _ => .inl hstays, fun _ => .inr hstays⟩

/-- The stream of a wait that left it open failed exactly for too many bytes. -/
theorem LeftBy.failed_iff {r : Reception} (h : s.LeftBy r) (ho : s.pipeEnded = false) :
    s.failed = true ↔ r = .overlong := by
  rcases h with hended | ⟨hr, hfailed⟩ | ⟨hr, hlive⟩
  · rw [ho] at hended
    cases hended
  · exact iff_of_true hfailed hr
  · exact iff_of_false (by simp [hlive.failed]) hr

end Stream

namespace LinkDevice

variable {l : LinkDevice} {st : Stream} {now : Nat}

/-! ## A whole wait -/

/-- A link with a stream that goes on, or whose end came. -/
def Sound (l : LinkDevice) : Prop := ∃ st, l.stream = some st ∧ st.Sound

theorem Sound.acted (h : l.Sound) (i : Nat) : (l.acted i).Sound := by
  obtain ⟨st, hst, hsound⟩ := h
  unfold Sound LinkDevice.acted
  rw [hst]
  refine ⟨_, rfl, ?_⟩
  rcases hsound with hlive | hended
  · cases hclose : (l.farEnd.actAt i).1.close with
    | false => exact .inl ⟨hlive.failed, hlive.ended, by simp [hlive.pipeEnded]⟩
    | true => exact .inr (Bool.or_true _)
  · exact .inr (Bool.or_eq_true_iff.mpr (.inl hended))

theorem Sound.advance (h : l.Sound) (time settled : Nat) : (l.advance time settled).Sound :=
  advance_rel (R := fun l l' => l.Sound → l'.Sound) (fun _ => id)
    (fun _ i _ hrest h => hrest (h.acted i)) l time settled h

theorem Sound.receiveFrom (h : l.Sound) (start deadline fuel time : Nat) :
    ∃ st, (LinkDevice.receiveFrom start deadline fuel time l).2.2.stream = some st ∧
      st.LeftBy (LinkDevice.receiveFrom start deadline fuel time l).2.1 := by
  induction fuel generalizing l time with
  | zero =>
    obtain ⟨st, hst, hsound⟩ := h
    exact ⟨st, hst, hsound.leftBy (r := .timeout) nofun⟩
  | succ fuel ih =>
    obtain ⟨st, hst, hsound⟩ := h
    obtain ⟨hfound, hnothing⟩ := hsound.poll
    have hpoll := poll_of_stream (l := l) hst (Prod.eta st.poll).symm
    cases hr : st.poll.1 with
    | some r =>
      rw [hr] at hpoll
      rw [receiveFrom_poll hpoll]
      exact ⟨_, rfl, hfound r hr⟩
    | none =>
      rw [hr] at hpoll
      have hpolled : Sound { l with stream := some st.poll.2 } := ⟨_, rfl, hnothing hr⟩
      rw [LinkDevice.receiveFrom, hpoll]
      simp only
      split
      · exact ⟨_, rfl, (hnothing hr).leftBy (r := .timeout) nofun⟩
      · split
        · exact ih (hpolled.advance _ _) _
        · exact ⟨_, rfl, (hnothing hr).leftBy (r := .timeout) nofun⟩

/-- **What a wait for an answer leaves of the stream**, whatever was left of it before. -/
theorem receive_leftBy (h : l.InOrder now) (hst : l.stream = some st) (timeout : Nat) :
    ∃ st, (l.receive now timeout).2.2.stream = some st ∧
      st.LeftBy (l.receive now timeout).2.1 := by
  unfold receive
  cases hended : st.pipeEnded with
  | true => exact Sound.receiveFrom ⟨st, hst, .inr hended⟩ _ _ _ _
  | false =>
    have hopen := h.ended_eq_false hst hended
    cases hfailed : st.failed with
    | false => exact Sound.receiveFrom ⟨st, hst, .inl ⟨hfailed, hopen, hended⟩⟩ _ _ _ _
    | true =>
      rw [receiveFrom_poll (poll_of_stream hst (Stream.poll_failed hfailed))]
      exact ⟨_, rfl, .inr (.inr ⟨nofun, ⟨rfl, hopen, hended⟩⟩)⟩

end LinkDevice

end ChillerGateway
