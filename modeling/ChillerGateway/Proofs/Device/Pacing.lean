import ChillerGateway.Proofs.Device.InUse
import ChillerGateway.Proofs.Device.Operations
import ChillerGateway.Proofs.Device.Settings

/-!
# Commands keep their distance

A controller loses commands that follow each other too closely.  From the opening of a stream to its
closing, whatever is done over the link and however it ends, the commands that the stream is handed
lie at least the interval apart.  The link keeps one time only, that of the last command: it is what
carries the distance from one operation to the next.

* `LinkDevice.handed` — the lines that the stream is handed, with their times.
* `LinkDevice.Spaced` — what holds of a link between two operations.
* `LinkDevice.spaces_write` — a write keeps it; the pause before the line is what makes it so.
* `LinkDevice.Opened` — a link since its stream was opened.
* `Opened.commands_apart` — the distance between any two commands.
-/

namespace ChillerGateway

/-- The line that a step hands to the stream, whether or not the stream takes it. -/
def Exchange.command? : Exchange → Option String
  | .send line => some line
  | _ => none

theorem Exchange.IsSilent.command? {op : Exchange} (h : op.IsSilent) : op.command? = none := by
  cases op with
  | send => exact h.elim
  | _ => rfl

namespace LinkDevice

variable {α β : Type}

/-! ## What the stream is handed -/

/-- The lines that a program alone with a link hands to the stream, with their times. -/
def handed : Program Exchange.interface α → Nat → LinkDevice → List (Nat × String)
  | .done _, _, _ => []
  | .ask op next, now, l =>
    let (time, answer, l') := l.exchange now op
    (Exchange.command? op).toList.map (now, ·) ++ handed (next answer) time l'

theorem handed_bind (p : Program Exchange.interface α) (f : α → Program Exchange.interface β)
    (now : Nat) (l : LinkDevice) :
    handed (p.bind f) now l = handed p now l ++
      handed (f (execute p now l).1) (execute p now l).2.1 (execute p now l).2.2 := by
  induction p generalizing now l with
  | done a => rfl
  | ask op next ih => exact (congrArg _ (ih _ _ _)).trans (List.append_assoc _ _ _).symm

/-- After a failure nothing is handed any more. -/
theorem handed_attempt_bind (p : Attempt α) (f : α → Attempt β) (now : Nat) (l : LinkDevice) :
    handed (p >>= f).run now l = handed p.run now l ++
      match attempt p now l with
      | (.ok a, time, l') => handed (f a).run time l'
      | (.error _, _, _) => [] := by
  rw [Attempt.run_bind, handed_bind]
  unfold attempt
  generalize execute p.run now l = x
  obtain ⟨r, time, l'⟩ := x
  cases r <;> rfl

theorem handed_outcome (p : Attempt α) (now : Nat) (l : LinkDevice) :
    handed (Attempt.outcome p).run now l = handed p.run now l := by
  rw [Attempt.run_outcome, handed_bind]
  exact List.append_nil _

theorem handed_silent {p : Program Exchange.interface α} {Q : α → Prop}
    (h : p.Along Exchange.IsSilent Q) (now : Nat) (l : LinkDevice) : handed p now l = [] := by
  induction p generalizing now l with
  | done a => rfl
  | ask op next ih =>
    obtain ⟨hop, hnext⟩ := h
    refine List.append_eq_nil_iff.mpr ⟨?_, ih _ (hnext _) _ _⟩
    rw [hop.command?]
    rfl

/-- A write hands over its line once the pause is over. -/
theorem handed_write {l : LinkDevice} {now : Nat} (ho : (l.ready now).2.stream.isSome = true)
    (command : String) :
    handed (Link.write command).run now l = [((l.ready now).1, command)] := by
  have hpace := handed_silent (Link.along_pace.mono (fun _ h => h.isSilent) fun _ h => h) now l
  unfold Link.write
  rw [handed_attempt_bind, hpace, attempt_pace, List.nil_append]
  simp only
  rw [handed_attempt_bind, attempt_step]
  simp only [exchange, ho, Bool.not_true, Bool.false_eq_true, if_false]
  rfl

/-! ## The time of the last command -/

variable {l : LinkDevice} {now : Nat}

theorem lastCommand_advance (l : LinkDevice) (time settled : Nat) :
    (l.advance time settled).lastCommand = l.lastCommand :=
  advance_rel (R := fun l l' => l'.lastCommand = l.lastCommand) (fun _ => rfl)
    (fun _ _ _ h => h) l time settled

theorem lastCommand_poll (l : LinkDevice) : l.poll.2.lastCommand = l.lastCommand := by
  unfold poll
  cases l.stream <;> rfl

theorem lastCommand_receive (l : LinkDevice) (now timeout : Nat) :
    (l.receive now timeout).2.2.lastCommand = l.lastCommand :=
  receiveFrom_rel (R := fun l l' => l'.lastCommand = l.lastCommand) (fun _ => rfl)
    (fun l _ h => h.trans (lastCommand_poll l))
    (fun l _ _ _ h => h.trans (lastCommand_advance l _ _)) _ _ _ _ l

theorem lastCommand_send (l : LinkDevice) (now : Nat) (line : String) :
    (l.send now line).2.lastCommand = l.lastCommand := by
  rcases l.send_cases now line with ⟨e, h | h⟩ | ⟨-, h⟩
  · rw [h]
  · rw [h]
    rfl
  · rw [h]

/-- A command is not ready before the interval since the last one is over. -/
theorem interval_le_ready {last : Nat} (h : l.lastCommand = some last) (now : Nat) :
    last + Link.commandInterval ≤ (l.ready now).1 := by
  unfold ready
  rw [h]
  simp only
  split
  · exact Nat.le_refl _
  · omega

theorem isSome_stream_ready (l : LinkDevice) (now : Nat) :
    (l.ready now).2.stream.isSome = l.stream.isSome := by
  rcases l.ready_cases now with h | ⟨later, -, h⟩
  · rw [h]
  · rw [h, isSome_stream_advance]

/-! ## What an operation keeps -/

/-- An open link that was handed these commands: they lie the interval apart, and the time noted is
no earlier than any of them. -/
structure Spaced (sent : List (Nat × String)) (l : LinkDevice) : Prop where
  isOpen : l.stream.isSome = true
  apart : sent.Pairwise fun s s' => s.1 + Link.commandInterval ≤ s'.1
  noted : ∀ s ∈ sent, ∃ last, l.lastCommand = some last ∧ s.1 ≤ last

/-- An attempt that keeps commands apart. -/
def Spaces (p : Attempt α) : Prop :=
  ∀ sent now l, Spaced sent l → Spaced (sent ++ handed p.run now l) (attempt p now l).2.2

theorem Spaced.of_eq {sent : List (Nat × String)} {l' : LinkDevice} (h : Spaced sent l)
    (hs : l'.stream.isSome = l.stream.isSome) (hl : l'.lastCommand = l.lastCommand) :
    Spaced sent l' :=
  ⟨hs.trans h.isOpen, h.apart, fun s hs => hl ▸ h.noted s hs⟩

theorem Spaced.advance {sent : List (Nat × String)} (h : Spaced sent l) (time settled : Nat) :
    Spaced sent (l.advance time settled) :=
  h.of_eq (isSome_stream_advance l _ _) (lastCommand_advance l _ _)

/-- An attempt that hands over nothing, opens or closes nothing and notes no time. -/
theorem spaces_of_silent {p : Attempt α} {Q : Except Error α → Prop}
    (hp : p.run.Along Exchange.IsSilent Q)
    (hs : ∀ now l, (attempt p now l).2.2.stream.isSome = l.stream.isSome)
    (hl : ∀ now l, (attempt p now l).2.2.lastCommand = l.lastCommand) : Spaces p := by
  intro sent now l h
  rw [handed_silent hp, List.append_nil]
  exact h.of_eq (hs now l) (hl now l)

theorem Spaces.bind {p : Attempt α} {f : α → Attempt β} (hp : Spaces p) (hf : ∀ a, Spaces (f a)) :
    Spaces (p >>= f) := by
  intro sent now l h
  have hfirst := hp sent now l h
  rw [handed_attempt_bind, attempt_bind, ← List.append_assoc]
  generalize attempt p now l = x at hfirst ⊢
  obtain ⟨r, time, l'⟩ := x
  cases r with
  | ok a => exact hf a _ time l' hfirst
  | error e =>
    rw [List.append_nil]
    exact hfirst

theorem Spaces.outcome {p : Attempt α} (hp : Spaces p) : Spaces (Attempt.outcome p) := by
  intro sent now l h
  rw [handed_outcome, attempt_outcome]
  exact hp sent now l h

/-- **A write keeps commands apart**: its line goes out when the pause is over, and that is the time
noted. -/
theorem spaces_write (command : String) : Spaces (Link.write command) := by
  intro sent now l h
  have ho : (l.ready now).2.stream.isSome = true := (isSome_stream_ready l now).trans h.isOpen
  have hopen : (l.cleared now).stream.isSome = true := (Option.isSome_map ..).trans ho
  rw [handed_write ho, attempt_write ho]
  have hsteady : (Exchange.send command).isSteady = true := rfl
  refine ⟨(isSome_stream_exchange _ _ hsteady).trans hopen, ?_, ?_⟩
  · refine List.pairwise_append.mpr ⟨h.apart, List.pairwise_singleton _ _, fun s hs s' hs' => ?_⟩
    obtain rfl := List.mem_singleton.mp hs'
    obtain ⟨last, hlast, hle⟩ := h.noted s hs
    exact (Nat.add_le_add_right hle _).trans (interval_le_ready hlast now)
  · intro s hs
    refine ⟨(l.ready now).1, lastCommand_send _ _ _, ?_⟩
    rcases List.mem_append.mp hs with hs | hs
    · obtain ⟨last, hlast, hle⟩ := h.noted s hs
      exact (hle.trans (Nat.le_add_right _ _)).trans (interval_le_ready hlast now)
    · obtain rfl := List.mem_singleton.mp hs
      exact Nat.le_refl _

theorem spaces_receive (timeout : Nat) : Spaces (Attempt.step (.receive timeout)) := by
  have hsteady : (Exchange.receive timeout).isSteady = true := rfl
  exact spaces_of_silent (Q := fun _ => True) ⟨trivial, fun _ => trivial⟩
    (fun now l => isSome_stream_exchange l now hsteady)
    (fun now l => lastCommand_receive l now timeout)

theorem spaces_pause : Spaces Link.pause := by
  have hpause : ∀ now l,
      (attempt Link.pause now l).2.2 = l.advance (now + Link.verifyDelay) now := by
    intro now l
    unfold Link.pause
    rw [attempt_bind, attempt_step]
    simp only [exchange]
    rw [attempt_step]
    simp only [exchange]
    rw [if_pos (Nat.lt_add_of_pos_right (by decide))]
  refine spaces_of_silent (Q := fun _ => True)
    ⟨trivial, fun _ => ⟨trivial, fun _ => trivial⟩⟩ (fun now l => ?_) (fun now l => ?_)
  · rw [hpause, isSome_stream_advance]
  · rw [hpause, lastCommand_advance]

/-- A link that is open already stays as it is when it is to be opened. -/
theorem spaces_connect : Spaces Link.connect := by
  have hsilent : Link.connect.run.Along Exchange.IsSilent fun _ => True := by
    refine ⟨trivial, fun isOpen => ?_⟩
    cases isOpen with
    | true => trivial
    | false =>
      refine ⟨trivial, fun opened => ?_⟩
      cases opened with
      | error => trivial
      | ok => exact ⟨trivial, fun _ => trivial⟩
  intro sent now l h
  rw [handed_silent hsilent, List.append_nil, attempt_connect_open h.isOpen]
  exact h

/-- A link on which opening succeeded is open. -/
theorem isSome_stream_connect (h : (attempt Link.connect now l).1 = .ok ()) :
    (attempt Link.connect now l).2.2.stream.isSome = true := by
  cases hs : l.stream with
  | some st =>
    have ho : l.stream.isSome = true := by rw [hs]; rfl
    rw [attempt_connect_open ho]
    exact ho
  | none =>
    rw [attempt_connect_closed hs] at h ⊢
    unfold openStream at h ⊢
    cases hr : l.refusals with
    | none => simp [hr] at h
    | some n =>
      cases n with
      | zero => rfl
      | succ n => simp [hr] at h

/-- The parts of every operation keep commands apart. -/
theorem kept_spaces : Link.Kept Spaces where
  result := fun _ => spaces_of_silent (Q := fun _ => True) trivial (fun _ _ => rfl) (fun _ _ => rfl)
  bind := Spaces.bind
  outcome := Spaces.outcome
  write := spaces_write
  query := fun timeout command => (spaces_write command).bind fun _ =>
    (spaces_receive timeout).bind fun _ => spaces_of_silent (Q := fun _ => True) trivial
      (fun _ _ => rfl) (fun _ _ => rfl)
  pause := spaces_pause

/-- Every operation but closing keeps commands apart. -/
theorem spaces_perform (timeout : Nat) {op : Operation} (hop : op ≠ .close) :
    Spaces (Link.perform timeout op) :=
  kept_spaces.perform timeout (fun _ => spaces_connect) fun h => absurd h hop

/-! ## From opening to closing -/

/-- **A link since its stream was opened**, with the commands that the stream was handed: any
operations but closing, with any result, and any waits between them. -/
inductive Opened : List (Nat × String) → Nat → LinkDevice → Prop where
  | connect {now : Nat} {l : LinkDevice} (hs : l.stream = none)
      (ho : (attempt Link.connect now l).1 = .ok ()) :
      Opened [] now (attempt Link.connect now l).2.2
  | perform {sent : List (Nat × String)} {now : Nat} {l : LinkDevice} (h : Opened sent now l)
      (timeout : Nat) (op : Operation) (hop : op ≠ .close) :
      Opened (sent ++ handed (Link.perform timeout op).run now l)
        (attempt (Link.perform timeout op) now l).2.1 (attempt (Link.perform timeout op) now l).2.2
  | later {sent : List (Nat × String)} {now : Nat} {l : LinkDevice} (h : Opened sent now l)
      (later : Nat) (hl : now ≤ later) : Opened sent later l
  | settled {sent : List (Nat × String)} {now : Nat} {l : LinkDevice} (h : Opened sent now l)
      (later : Nat) (hl : now ≤ later) (settled : Nat) :
      Opened sent later (l.advance later settled)

namespace Opened

variable {sent : List (Nat × String)}

theorem spaced (h : Opened sent now l) : Spaced sent l := by
  induction h with
  | connect hs ho =>
    rename_i now l
    refine ⟨?_, List.Pairwise.nil, List.forall_mem_nil _⟩
    exact isSome_stream_connect ho
  | perform _ timeout op hop ih => exact spaces_perform timeout hop _ _ _ ih
  | later _ _ _ ih => exact ih
  | settled _ later _ settled ih => exact ih.advance later settled

/-- **Commands keep their distance.**  Any two that the stream is handed between an opening and the
next closing lie the interval apart, in one operation or in two. -/
theorem commands_apart (h : Opened sent now l) :
    sent.Pairwise fun s s' => s.1 + Link.commandInterval ≤ s'.1 := h.spaced.apart

/-- A line that the stream refuses counts like one that it takes. -/
theorem commands_apart_refused : ∃ sent now l, Opened sent now l ∧
    sent = [(40, "version"), (140, "two\nlines"), (240, "status")] ∧
    sent.Pairwise fun s s' => s.1 + Link.commandInterval ≤ s'.1 := by
  have hopened : Opened [] 40 (attempt Link.connect 40
      { timeout := 500, farEnd := { responder := .bath {} } }).2.2 := .connect rfl rfl
  have hrefused := (hopened.perform 500 .identify (by decide)).perform 500 (.raw "two\nlines")
    (by decide)
  have hlast := (hrefused.settled 200 (by decide +kernel) 0).perform 500 .status (by decide)
  exact ⟨_, _, _, hlast, by decide +kernel, hlast.commands_apart⟩

end Opened

end LinkDevice

end ChillerGateway
