import ChillerGateway.Proofs.Device.NextAct
import ChillerGateway.Proofs.Device.Sending

/-!
# Links in use

Whatever the far end answers, a link in use has its connections in order, and the end of its stream
was read only after it came.

* `LinkDevice.advance_keeps` — what every act that is due keeps is kept while time passes.
* `LinkDevice.InOrder` — what holds of every link in use.
* `LinkDevice.InUse` — the states of a link: any steps of drivers, with any waits between them.
* `InUse.inOrder` — the invariant holds in all of them.
-/

namespace ChillerGateway

namespace Stream

variable {s : Stream}

/-- A look at a stream learns of its end only when it came. -/
theorem ended_pollFrom (fuel : Nat) (h : s.ended = true → s.pipeEnded = true) :
    (s.pollFrom fuel).2.pipeEnded = s.pipeEnded ∧
      ((s.pollFrom fuel).2.ended = true → s.pipeEnded = true) := by
  induction fuel generalizing s with
  | zero => exact ⟨rfl, h⟩
  | succ fuel ih =>
    have htake : s.take.2.pipeEnded = s.pipeEnded ∧ s.take.2.ended = s.ended := by
      unfold take
      repeat' split
      all_goals exact ⟨rfl, rfl⟩
    obtain ⟨hpipe, hended⟩ := htake
    rw [pollFrom]
    split
    · rename_i heq
      rw [heq] at hpipe hended
      exact ⟨hpipe, fun he => h (hended ▸ he)⟩
    · rename_i s' heq
      rw [heq] at hpipe hended
      split
      · rename_i s'' hread
        have hnext : s''.pipeEnded = s'.pipeEnded ∧ (s''.ended = true → s''.pipeEnded = true) := by
          unfold read? at hread
          split at hread
          · cases hread
            exact ⟨rfl, fun he => by cases he⟩
          · split at hread
            · rename_i hcame
              cases hread
              rw [Bool.and_eq_true] at hcame
              exact ⟨rfl, fun _ => hcame.1⟩
            · cases hread
        obtain ⟨hsame, hlast⟩ := ih hnext.2
        rw [hnext.1, hpipe] at hsame hlast
        exact ⟨hsame, hlast⟩
      · split
        · exact ⟨hpipe, fun he => h (hended ▸ he)⟩
        · exact ⟨hpipe, fun he => h (hended ▸ he)⟩

theorem ended_poll (h : s.ended = true → s.pipeEnded = true) :
    s.poll.2.pipeEnded = s.pipeEnded ∧ (s.poll.2.ended = true → s.pipeEnded = true) :=
  ended_pollFrom _ h

end Stream

namespace LinkDevice

variable {l : LinkDevice} {now later time : Nat}

/-- What every act that is due keeps is kept while time passes. -/
theorem advance_keeps {P : LinkDevice → Prop}
    (hact : ∀ {l : LinkDevice} {due since i : Nat}, l.farEnd.next? = some (due, since, i) →
      due ≤ time → P l → P (l.acted i)) (settled : Nat) (h : P l) : P (l.advance time settled) := by
  unfold advance
  generalize l.farEnd.work = fuel
  induction fuel generalizing l with
  | zero => exact h
  | succ fuel ih =>
    rw [advanceFrom_succ]
    split
    · exact h
    · rename_i due since i hn
      split
      · rename_i hdue
        exact ih (hact hn (by omega) h)
      · exact h

/-- A command waits until it may go out, or not at all. -/
theorem ready_cases (l : LinkDevice) (now : Nat) :
    l.ready now = (now, l) ∨
      ∃ later, now ≤ later ∧ l.ready now = (later, l.advance later now) := by
  unfold ready
  split
  · exact .inl rfl
  · split
    · rename_i hlt
      exact .inr ⟨_, hlt.le, rfl⟩
    · exact .inl rfl

/-- What holds of a link in use. -/
structure InOrder (l : LinkDevice) (now : Nat) : Prop where
  farEnd : l.farEnd.InOrder now
  ended : ∀ st, l.stream = some st → st.ended = true → st.pipeEnded = true

namespace InOrder

theorem mono (h : l.InOrder now) (hl : now ≤ later) : l.InOrder later :=
  ⟨h.farEnd.mono hl, h.ended⟩

/-- The driver has not read the end of an open stream. -/
theorem ended_eq_false (h : l.InOrder now) {st : Stream} (hst : l.stream = some st)
    (hopen : st.pipeEnded = false) : st.ended = false := by
  by_contra he
  exact Bool.false_ne_true (hopen.symm.trans (h.ended st hst (by simpa using he)))

theorem acted (h : l.InOrder now) {due since i : Nat}
    (hn : l.farEnd.next? = some (due, since, i)) (hd : due ≤ now) : (l.acted i).InOrder now where
  farEnd := h.farEnd.actAt hn hd
  ended := by
    intro st hst he
    obtain ⟨st', hst', rfl⟩ := Option.map_eq_some_iff.mp hst
    exact Bool.or_eq_true_iff.mpr (.inl (h.ended st' hst' he))

/-- Waiting keeps a link in order, with nothing done later than now. -/
theorem advance (h : l.InOrder now) (ht : time ≤ now) (settled : Nat) :
    (l.advance time settled).InOrder now :=
  advance_keeps (P := fun l => l.InOrder now) (fun hn hdue ho => ho.acted hn (hdue.trans ht))
    settled h

theorem poll (h : l.InOrder now) : l.poll.2.InOrder now := by
  unfold LinkDevice.poll
  cases hs : l.stream with
  | none => exact h
  | some st =>
    refine ⟨h.farEnd, fun st' hst' he => ?_⟩
    obtain rfl := Option.some.inj hst'
    obtain ⟨hpipe, hended⟩ := Stream.ended_poll (h.ended st hs)
    exact hpipe.trans (hended he)

/-- A wait for an answer ends with a link in order, and not before it began. -/
theorem receiveFrom (h : l.InOrder time) {deadline : Nat} (ht : time ≤ deadline)
    (start fuel : Nat) :
    (LinkDevice.receiveFrom start deadline fuel time l).2.2.InOrder
        (LinkDevice.receiveFrom start deadline fuel time l).1 ∧
      time ≤ (LinkDevice.receiveFrom start deadline fuel time l).1 := by
  induction fuel generalizing l time with
  | zero => exact ⟨h.mono ht, ht⟩
  | succ fuel ih =>
    have hpolled := h.poll
    rw [LinkDevice.receiveFrom]
    split
    · rename_i heq
      rw [heq] at hpolled
      exact ⟨hpolled, Nat.le_refl _⟩
    · rename_i l' heq
      rw [heq] at hpolled
      split
      · exact ⟨hpolled.mono ht, ht⟩
      · rename_i due since i hn
        split
        · rename_i hdue
          have hsettled := (hpolled.mono (Nat.le_max_left time due)).advance
            (Nat.le_max_right time due) (due + 1)
          obtain ⟨hlast, hle⟩ := ih hsettled (by omega)
          exact ⟨hlast, (Nat.le_max_left time due).trans hle⟩
        · exact ⟨hpolled.mono ht, ht⟩

theorem openStream (h : l.InOrder now) : (l.openStream now).2.InOrder now := by
  unfold LinkDevice.openStream
  split
  · exact h
  · exact ⟨h.farEnd, h.ended⟩
  · exact ⟨h.farEnd.connect, fun st hst he => by
      obtain rfl := Option.some.inj hst
      cases he⟩

theorem send (h : l.InOrder now) (line : String) : (l.send now line).2.InOrder now := by
  rcases l.send_cases now line with ⟨e, hs | hs⟩ | ⟨-, hs⟩
  · rw [hs]
    exact h
  · rw [hs]
    refine ⟨h.farEnd.of_sublist List.filter_sublist rfl, fun st hst he => ?_⟩
    obtain ⟨st', -, rfl⟩ := Option.map_eq_some_iff.mp hst
    rfl
  · rw [hs]
    refine ⟨h.farEnd.of_map rfl rfl fun s => ?_, h.ended⟩
    split <;> exact ⟨rfl, rfl, rfl⟩

/-- The pause before a command keeps a link in order. -/
theorem ready (h : l.InOrder now) : (l.ready now).2.InOrder (l.ready now).1 := by
  rcases l.ready_cases now with hready | ⟨later, hle, hready⟩
  · rw [hready]
    exact h
  · rw [hready]
    exact (h.mono hle).advance (Nat.le_refl later) now

theorem cleared (h : l.InOrder now) : (l.cleared now).InOrder (l.ready now).1 := by
  refine ⟨h.ready.farEnd, fun st hst he => ?_⟩
  obtain ⟨st', hst', rfl⟩ := Option.map_eq_some_iff.mp hst
  exact h.ready.ended st' hst' he

/-- **Every step of a driver keeps a link in order**, and takes time if any. -/
theorem exchange (h : l.InOrder now) (op : Exchange) :
    (l.exchange now op).2.2.InOrder (l.exchange now op).1 ∧ now ≤ (l.exchange now op).1 := by
  cases op with
  | now => exact ⟨h, Nat.le_refl _⟩
  | sleepUntil time =>
    simp only [LinkDevice.exchange]
    split
    · rename_i hlt
      exact ⟨(h.mono hlt.le).advance (Nat.le_refl _) now, hlt.le⟩
    · exact ⟨h, Nat.le_refl _⟩
  | lastCommand => exact ⟨h, Nat.le_refl _⟩
  | setLastCommand time => exact ⟨⟨h.farEnd, h.ended⟩, Nat.le_refl _⟩
  | isOpen => exact ⟨h, Nat.le_refl _⟩
  | openStream => exact ⟨h.openStream, Nat.le_refl _⟩
  | dropStream =>
    exact ⟨⟨h.farEnd.of_map rfl rfl fun s => ⟨rfl, rfl, rfl⟩, fun st hst => by cases hst⟩,
      Nat.le_refl _⟩
  | clearInput =>
    refine ⟨⟨h.farEnd, fun st hst he => ?_⟩, Nat.le_refl _⟩
    obtain ⟨st', hst', rfl⟩ := Option.map_eq_some_iff.mp hst
    exact h.ended st' hst' he
  | send line => exact ⟨h.send line, Nat.le_refl _⟩
  | receive timeout => exact h.receiveFrom (Nat.le_add_right now timeout) now _
  | simulated op => exact ⟨h, Nat.le_refl _⟩

end InOrder

/-! ## The states of a link -/

/-- **The states of a link in use**, at their times: a new link, and what becomes of it by any steps
of a driver and any time that passes. -/
inductive InUse : Nat → LinkDevice → Prop where
  | new (now : Nat) {l : LinkDevice} (hs : l.stream = none) (hf : l.farEnd.sessions = []) :
      InUse now l
  | step {now : Nat} {l : LinkDevice} (h : InUse now l) (op : Exchange) :
      InUse (l.exchange now op).1 (l.exchange now op).2.2
  | later {now later : Nat} {l : LinkDevice} (h : InUse now l) (hl : now ≤ later) : InUse later l
  | settled {now later : Nat} {l : LinkDevice} (h : InUse now l) (hl : now ≤ later) :
      InUse later (l.settle later)

namespace InUse

theorem inOrder (h : InUse now l) : l.InOrder now := by
  induction h with
  | new now hs hf =>
    refine ⟨⟨?_, ?_, ?_, ?_⟩, fun st hst => ?_⟩
    · rw [hf]
      exact List.nodup_nil
    · rw [hf]
      exact List.forall_mem_nil _
    · rw [hf]
      exact List.forall_mem_nil _
    · rw [hf]
      exact List.forall_mem_nil _
    · rw [hs] at hst
      cases hst
  | step _ op ih => exact (ih.exchange op).1
  | later _ hl ih => exact ih.mono hl
  | settled _ hl ih => exact (ih.mono hl).advance (Nat.le_refl _) _

/-- A driver program leads from one such state to another. -/
theorem execute (h : InUse now l) {α : Type} (p : Program Exchange.interface α) :
    InUse (LinkDevice.execute p now l).2.1 (LinkDevice.execute p now l).2.2 := by
  induction p generalizing now l with
  | done a => exact h
  | ask op next ih => exact ih _ (h.step op)

end InUse

end LinkDevice

end ChillerGateway
