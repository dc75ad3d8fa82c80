import ChillerGateway.Proofs.Device.BathLines
import ChillerGateway.Proofs.Device.Reached
import ChillerGateway.Proofs.Program

/-!
# What a driver sends

The lines that a driver brings to the far end of a link, whatever else happens to the link between
its steps: the far end goes on, answers late, or hangs up.  A line that does not go out leaves a
link on which nothing goes out any more until its stream is opened.

* `LinkDevice.advance_rel`, `LinkDevice.receiveFrom_rel` — what is kept while a link is waited for.
* `LinkDevice.exchange_arrives` — what a step brings to the far end.
* `LinkDevice.Falls` — a link between two steps of its driver.
* `LinkDevice.Talks` — a driver program carried out on a link, with the lines that went out.
* `Link.talks_write`, `Link.talks_query` — one command.
-/

namespace ChillerGateway

/-- The line that a step of a driver brings to the far end, as the far end reads it. -/
def Exchange.line? : (op : Exchange) → op.Answer → Option String
  | .send line => fun sent => sent.toOption.map fun _ => Text.trim line
  | _ => fun _ => none

/-! ## What arrives at the far end -/

namespace FarEnd

variable {f f' f'' : FarEnd}

/-- No line arrived: what waits at the far end has waited there, on the same connection. -/
def NothingNew (f f' : FarEnd) : Prop :=
  ∀ s' ∈ f'.sessions, s'.queue = [] ∨
    ∃ s ∈ f.sessions, s.connection = s'.connection ∧ s'.queue <:+ s.queue

theorem NothingNew.of_mem (h : ∀ s' ∈ f'.sessions, ∃ s ∈ f.sessions,
    s.connection = s'.connection ∧ s'.queue <:+ s.queue) : NothingNew f f' :=
  fun s' hs' => .inr (h s' hs')

theorem NothingNew.refl (f : FarEnd) : NothingNew f f :=
  .of_mem fun s hs => ⟨s, hs, rfl, List.suffix_refl _⟩

theorem NothingNew.trans (h : NothingNew f f') (h' : NothingNew f' f'') : NothingNew f f'' := by
  intro s'' hs''
  rcases h' s'' hs'' with hnil | ⟨s', hs', hc', hq'⟩
  · exact .inl hnil
  · rcases h s' hs' with hnil | ⟨s, hs, hc, hq⟩
    · exact .inl (List.suffix_nil.mp (hnil ▸ hq'))
    · exact .inr ⟨s, hs, hc.trans hc', hq'.trans hq⟩

/-- An act at most reads the first line that waits. -/
theorem act_queue {s s' : Session} (h : (f.act s).1 = some s') : s'.queue <:+ s.queue := by
  unfold act at h
  split at h
  · simp only at h
    split at h
    · cases h
    · cases h
      exact List.suffix_refl _
  · rename_i hq
    cases h
    rw [hq]
    exact List.suffix_cons _ _
  · cases h
    exact List.suffix_refl _

theorem nothingNew_actAt (f : FarEnd) (i : Nat) : NothingNew f (f.actAt i).2 := by
  refine .of_mem fun s' hs' => ?_
  rcases mem_actAt hs' with hold | ⟨s, hs, hact⟩
  · exact ⟨s', hold, rfl, List.suffix_refl _⟩
  · exact ⟨s, hs, (act_session hact).1.symm, act_queue hact⟩

end FarEnd

namespace LinkDevice

open FarEnd (NothingNew)

/-- What every act of the far end keeps is kept while time passes. -/
theorem advance_rel {R : LinkDevice → LinkDevice → Prop} (hrefl : ∀ l, R l l)
    (hact : ∀ l i l', R (l.acted i) l' → R l l') (l : LinkDevice) (time settled : Nat) :
    R l (l.advance time settled) := by
  unfold advance
  generalize l.farEnd.work = fuel
  induction fuel generalizing l with
  | zero => exact hrefl l
  | succ fuel ih =>
    rw [advanceFrom_succ]
    split
    · exact hrefl l
    · split
      · exact hact l _ _ (ih (l.acted _))
      · exact hrefl l

/-- What is kept while time passes, and by a look at the stream, is kept by a wait for an answer. -/
theorem receiveFrom_rel {R : LinkDevice → LinkDevice → Prop} (hrefl : ∀ l, R l l)
    (hpoll : ∀ l l', R l.poll.2 l' → R l l')
    (hadvance : ∀ l time settled l', R (l.advance time settled) l' → R l l')
    (start deadline fuel time : Nat) (l : LinkDevice) :
    R l (receiveFrom start deadline fuel time l).2.2 := by
  induction fuel generalizing time l with
  | zero => exact hrefl l
  | succ fuel ih =>
    refine hpoll l _ ?_
    rw [receiveFrom]
    split
    · rename_i heq
      rw [heq]
      exact hrefl _
    · rename_i heq
      rw [heq]
      split
      · exact hrefl _
      · split
        · exact hadvance _ _ _ _ (ih _ _)
        · exact hrefl _

theorem nothingNew_advance (l : LinkDevice) (time settled : Nat) :
    NothingNew l.farEnd (l.advance time settled).farEnd :=
  advance_rel (R := fun l l' => NothingNew l.farEnd l'.farEnd) (fun l => .refl l.farEnd)
    (fun l _ _ h => (l.farEnd.nothingNew_actAt _).trans h) l time settled

theorem farEnd_poll (l : LinkDevice) : l.poll.2.farEnd = l.farEnd := by
  unfold poll
  cases l.stream <;> rfl

theorem nothingNew_receiveFrom (start deadline fuel time : Nat) (l : LinkDevice) :
    NothingNew l.farEnd (receiveFrom start deadline fuel time l).2.2.farEnd :=
  receiveFrom_rel (R := fun l l' => NothingNew l.farEnd l'.farEnd) (fun l => .refl l.farEnd)
    (fun l _ h => farEnd_poll l ▸ h) (fun l _ _ _ h => (nothingNew_advance l _ _).trans h)
    start deadline fuel time l

/-- **A step of a driver brings its line to the driver's connection at the far end**; a step without
a line brings nothing. -/
theorem exchange_arrives (l : LinkDevice) (now : Nat) (op : Exchange) :
    match op.line? (l.exchange now op).2.1 with
    | some line => l.farEnd.own ≠ [] ∧
        (l.exchange now op).2.2 = { l with farEnd := l.farEnd.arrive now line }
    | none => NothingNew l.farEnd (l.exchange now op).2.2.farEnd := by
  cases op with
  | send line =>
    rcases l.send_cases now line with ⟨e, hsend | hsend⟩ | ⟨hheld, hsend⟩
    · simp only [exchange, hsend]
      exact .refl _
    · simp only [exchange, hsend]
      exact .of_mem fun s hs => ⟨s, (List.mem_filter.mp hs).1, rfl, List.suffix_refl _⟩
    · simp only [exchange, hsend]
      refine ⟨fun hnone => ?_, rfl⟩
      obtain ⟨s, hs, hown⟩ := List.any_eq_true.mp hheld
      exact List.filter_eq_nil_iff.mp hnone s hs hown
  | openStream =>
    show NothingNew l.farEnd (l.openStream now).2.farEnd
    unfold openStream
    split
    · exact .refl _
    · exact .refl _
    · intro s hs
      rcases List.mem_append.mp hs with hold | hnew
      · exact .inr ⟨s, hold, rfl, List.suffix_refl _⟩
      · exact .inl (List.mem_singleton.mp hnew ▸ rfl)
  | dropStream =>
    refine .of_mem fun s' hs' => ?_
    obtain ⟨s, hs, rfl⟩ := List.mem_map.mp hs'
    exact ⟨s, hs, rfl, List.suffix_refl _⟩
  | receive timeout => exact nothingNew_receiveFrom _ _ _ _ l
  | sleepUntil time =>
    show NothingNew l.farEnd (l.exchange now (.sleepUntil time)).2.2.farEnd
    simp only [exchange]
    split
    · exact nothingNew_advance _ _ _
    · exact .refl _
  | _ => exact .refl _

end LinkDevice

namespace Exchange

/-- A step that sends no line. -/
def IsSilent : Exchange → Prop
  | .send _ => False
  | _ => True

theorem IsSilent.line? {op : Exchange} (h : op.IsSilent) (a : op.Answer) : op.line? a = none := by
  cases op with
  | send => exact h.elim
  | _ => rfl

/-- A step that neither sends a line nor opens the stream. -/
def IsQuiet : Exchange → Prop
  | .send _ | .openStream => False
  | _ => True

theorem IsQuiet.ne_openStream {op : Exchange} (h : op.IsQuiet) : op ≠ .openStream := by
  rintro rfl
  exact h

theorem IsQuiet.isSilent {op : Exchange} (h : op.IsQuiet) : op.IsSilent := by
  cases op with
  | send => exact h
  | _ => trivial

end Exchange

namespace LinkDevice

variable {l l' l'' : LinkDevice} {now : Nat}

/-! ## A link between two steps of its driver -/

/-- The stream does not open by itself, and a connection that was cut off does not come back. -/
structure Falls (l l' : LinkDevice) : Prop where
  stream : l.stream = none → l'.stream = none
  own : l.farEnd.own = [] → l'.farEnd.own = []

/-- A link on which no line goes out. -/
def IsDown (l : LinkDevice) : Prop := l.stream = none ∨ l.farEnd.own = []

theorem Falls.isDown (h : Falls l l') (hd : l.IsDown) : l'.IsDown := hd.imp h.stream h.own

theorem Falls.refl (l : LinkDevice) : Falls l l := ⟨id, id⟩

theorem Falls.trans (h : Falls l l') (h' : Falls l' l'') : Falls l l'' :=
  ⟨fun hs => h'.stream (h.stream hs), fun ho => h'.own (h.own ho)⟩

theorem falls_acted (l : LinkDevice) (i : Nat) : Falls l (l.acted i) where
  stream := fun hs => by simp [acted, hs]
  own := fun ho => own_acted ho i

theorem falls_advance (l : LinkDevice) (time settled : Nat) : Falls l (l.advance time settled) :=
  advance_rel (R := Falls) .refl (fun l _ _ h => (falls_acted l _).trans h) l time settled

theorem falls_poll (l : LinkDevice) : Falls l l.poll.2 := by
  unfold poll
  cases hs : l.stream with
  | none => exact .refl l
  | some st =>
    refine ⟨fun hn => ?_, id⟩
    cases hs.symm.trans hn

theorem falls_receiveFrom (start deadline fuel time : Nat) (l : LinkDevice) :
    Falls l (receiveFrom start deadline fuel time l).2.2 :=
  receiveFrom_rel (R := Falls) .refl (fun l _ h => (falls_poll l).trans h)
    (fun l _ _ _ h => (falls_advance l _ _).trans h) start deadline fuel time l

theorem falls_send (l : LinkDevice) (now : Nat) (line : String) :
    Falls l (l.send now line).2 := by
  rcases l.send_cases now line with ⟨e, h | h⟩ | ⟨-, h⟩
  · rw [h]
    exact .refl l
  · rw [h]
    exact ⟨fun hs => by simp [hungUp, hs], fun _ => FarEnd.own_hangUp _⟩
  · rw [h]
    refine ⟨id, fun ho => ?_⟩
    simp only [FarEnd.own_arrive, ho, List.map_nil]

/-- Only opening the stream brings a link up. -/
theorem falls_exchange (l : LinkDevice) (now : Nat) {op : Exchange} (h : op ≠ .openStream) :
    Falls l (l.exchange now op).2.2 := by
  cases op with
  | openStream => exact absurd rfl h
  | sleepUntil time =>
    simp only [exchange]
    split
    · exact falls_advance l _ _
    · exact .refl l
  | dropStream => exact ⟨fun _ => rfl, fun _ => FarEnd.own_detach _⟩
  | clearInput => exact ⟨fun hs => by simp [exchange, hs], id⟩
  | send line => exact falls_send l now line
  | receive timeout => exact falls_receiveFrom _ _ _ _ l
  | now | lastCommand | setLastCommand | isOpen | simulated => exact ⟨id, id⟩

/-! ## Driver programs -/

/-- A driver program on a link, from its first step to its result, with the lines that it brings to
the far end.  Between its steps the link goes on by itself. -/
inductive Talks {α : Type} : LinkDevice → Program Exchange.interface α → List String → α →
    LinkDevice → Prop where
  | done {l l' a} : Falls l l' → Talks l (.done a) [] a l'
  | ask {l l₁ l' op next lines a} (now : Nat) : Falls l l₁ →
      Talks (l₁.exchange now op).2.2 (next (l₁.exchange now op).2.1) lines a l' →
      Talks l (.ask op next) ((op.line? (l₁.exchange now op).2.1).toList ++ lines) a l'

namespace Talks

variable {α β : Type} {lines : List String}

theorem of_done {a b : α} (h : Talks l (Program.done a) lines b l') :
    lines = [] ∧ b = a ∧ Falls l l' := by
  cases h with
  | done hf => exact ⟨rfl, rfl, hf⟩

theorem bind {p : Program Exchange.interface α} {f : α → Program Exchange.interface β} {b : β}
    (h : Talks l (p.bind f) lines b l') :
    ∃ a l₁ before after, lines = before ++ after ∧ Talks l p before a l₁ ∧
      Talks l₁ (f a) after b l' := by
  induction p generalizing l lines with
  | done a => exact ⟨a, l, [], lines, rfl, .done (.refl l), h⟩
  | ask op next ih =>
    cases h with
    | ask now hf h =>
      obtain ⟨a, l₁, before, after, rfl, hp, hk⟩ := ih _ h
      exact ⟨a, l₁, _, after, (List.append_assoc _ _ _).symm, .ask now hf hp, hk⟩

/-- One step. -/
theorem of_perform {op : Exchange} {a : op.Answer}
    (h : Talks l (Program.perform (I := Exchange.interface) op) lines a l') :
    ∃ l₁ now, Falls l l₁ ∧ a = (l₁.exchange now op).2.1 ∧ lines = (op.line? a).toList ∧
      Falls (l₁.exchange now op).2.2 l' := by
  cases h with
  | ask now hf h =>
    obtain ⟨rfl, rfl, hf'⟩ := h.of_done
    exact ⟨_, now, hf, rfl, List.append_nil _, hf'⟩

variable {r : Except Error α}

theorem of_pure {a : α} (h : Talks l (pure a : Attempt α).run lines r l') :
    lines = [] ∧ r = .ok a ∧ Falls l l' := h.of_done

theorem of_throw {e : Error} (h : Talks l (throw e : Attempt α).run lines r l') :
    lines = [] ∧ r = .error e ∧ Falls l l' := h.of_done

/-- The link may go on by itself after the last step. -/
theorem falls {p : Program Exchange.interface α} {a : α} (h : Talks l p lines a l')
    (hf : Falls l' l'') : Talks l p lines a l'' := by
  induction h with
  | done hf' => exact .done (hf'.trans hf)
  | ask now hf' _ ih => exact .ask now hf' (ih hf)

/-- A failure ends an attempt. -/
theorem attempt_bind {p : Attempt α} {f : α → Attempt β} {r : Except Error β}
    (h : Talks l (p >>= f).run lines r l') :
    (∃ e, r = .error e ∧ Talks l p.run lines (.error e) l') ∨
      ∃ a l₁ before after, lines = before ++ after ∧ Talks l p.run before (.ok a) l₁ ∧
        Talks l₁ (f a).run after r l' := by
  obtain ⟨x, l₁, before, after, rfl, hp, hk⟩ := Talks.bind h
  cases x with
  | error e =>
    obtain ⟨rfl, rfl, hf⟩ := hk.of_done
    rw [List.append_nil]
    exact .inl ⟨e, rfl, hp.falls hf⟩
  | ok a => exact .inr ⟨a, l₁, before, after, rfl, hp, hk⟩

theorem of_step {op : Exchange} {r : Except Error op.Answer}
    (h : Talks l (Attempt.step op).run lines r l') :
    ∃ l₁ now, Falls l l₁ ∧ r = .ok (l₁.exchange now op).2.1 ∧
      lines = (op.line? (l₁.exchange now op).2.1).toList ∧
      Falls (l₁.exchange now op).2.2 l' := by
  obtain ⟨a, l₂, before, after, rfl, hp, hk⟩ := Talks.bind h
  obtain ⟨l₁, now, hf, rfl, rfl, hf'⟩ := hp.of_perform
  obtain ⟨rfl, rfl, hf''⟩ := hk.of_done
  exact ⟨l₁, now, hf, rfl, List.append_nil _, hf'.trans hf''⟩

theorem of_outcome {p : Attempt α} {r : Except Error (Except Error α)}
    (h : Talks l (Attempt.outcome p).run lines r l') :
    ∃ x, r = .ok x ∧ Talks l p.run lines x l' := by
  obtain ⟨x, l₁, before, after, rfl, hp, hk⟩ := Talks.bind h
  obtain ⟨rfl, rfl, hf⟩ := hk.of_done
  rw [List.append_nil]
  exact ⟨x, rfl, hp.falls hf⟩

/-- What is made of an outcome. -/
theorem of_outcome_map {p : Attempt α} {f : Except Error α → β} {r : Except Error β}
    (h : Talks l (Attempt.outcome p >>= fun x => pure (f x)).run lines r l') :
    ∃ x, r = .ok (f x) ∧ Talks l p.run lines x l' := by
  rcases h.attempt_bind with ⟨e, -, ho⟩ | ⟨x, l₁, before, after, rfl, ho, hk⟩
  · obtain ⟨x, hx, -⟩ := ho.of_outcome
    cases hx
  · obtain ⟨x', hx, ho⟩ := ho.of_outcome
    cases hx
    obtain ⟨rfl, rfl, hf⟩ := hk.of_pure
    rw [List.append_nil]
    exact ⟨x, rfl, ho.falls hf⟩

end Talks

/-- A program that sends no line. -/
theorem Talks.silent {α : Type} {p : Program Exchange.interface α} {Q : α → Prop}
    {lines : List String} {a : α} (h : Talks l p lines a l') (hp : p.Along Exchange.IsSilent Q) :
    lines = [] := by
  induction h with
  | done hf => rfl
  | ask now hf _ ih =>
    rw [ih (hp.2 _), hp.1.line?]
    rfl

/-- A program that neither sends a line nor opens the stream. -/
theorem Talks.quiet {α : Type} {p : Program Exchange.interface α} {Q : α → Prop}
    {lines : List String} {a : α} (h : Talks l p lines a l') (hp : p.Along Exchange.IsQuiet Q) :
    lines = [] ∧ Q a ∧ Falls l l' := by
  induction h with
  | done hf => exact ⟨rfl, hp, hf⟩
  | ask now hf _ ih =>
    obtain ⟨hop, hnext⟩ := hp
    obtain ⟨rfl, ha, hf'⟩ := ih (hnext _)
    rw [hop.isSilent.line?]
    exact ⟨rfl, ha, (hf.trans (falls_exchange _ now hop.ne_openStream)).trans hf'⟩

end LinkDevice

/-! ## One command -/

namespace Link

open LinkDevice

variable {l l' : LinkDevice} {lines : List String}

theorem along_pace : (pace.run).Along Exchange.IsQuiet (· = .ok ()) := by
  refine ⟨trivial, fun last => ?_⟩
  cases last with
  | none => exact ⟨trivial, fun _ => ⟨trivial, fun _ => rfl⟩⟩
  | some last => exact ⟨trivial, fun _ => ⟨trivial, fun _ => ⟨trivial, fun _ => rfl⟩⟩⟩

/-- A command that is one line, and not too long for the far end. -/
def Fits (command : String) : Prop :=
  ∃ bytes, LineCodec.encode command = .ok bytes ∧ bytes.length ≤ Stream.chunk

theorem fits_of_line {line : String} (h : LineCodec.Fits line) : Fits line := by
  refine ⟨_, LineCodec.encode_of_isLine h.isLine, ?_⟩
  rw [LineCodec.length_encode (LineCodec.encode_of_isLine h.isLine)]
  exact (Nat.add_le_add_right h.length_le 2).trans (by decide)

/-- A line arrives on the driver's connection, or is refused; then there is no such connection, if
the line is one that could go out. -/
theorem send_or (l : LinkDevice) (now : Nat) (command : String) :
    (l.farEnd.own ≠ [] ∧ l.send now command =
        (.ok (), { l with farEnd := l.farEnd.arrive now (Text.trim command) })) ∨
      (∃ e, (l.send now command).1 = .error e) ∧
        (Fits command → (l.send now command).2.farEnd.own = []) := by
  have hattached : l.farEnd.isAttached = false → l.farEnd.own = [] := by
    intro h
    exact List.filter_eq_nil_iff.mpr (by simpa [FarEnd.isAttached] using h)
  unfold send
  cases he : LineCodec.encode command with
  | error e =>
    refine .inr ⟨⟨e, rfl⟩, ?_⟩
    rintro ⟨bytes, hb, -⟩
    cases he.symm.trans hb
  | ok bytes =>
    simp only [LineCodec.decode_encode he]
    cases ha : l.farEnd.isAttached with
    | false => exact .inr ⟨⟨_, rfl⟩, fun _ => hattached ha⟩
    | true =>
      simp only [Bool.not_true, Bool.false_eq_true, if_false]
      split
      · rename_i hlong
        refine .inr ⟨⟨_, rfl⟩, ?_⟩
        rintro ⟨bytes', hb, hle⟩
        obtain rfl := Except.ok.inj (he.symm.trans hb)
        exact absurd hle (Nat.not_le_of_lt hlong)
      · refine .inl ⟨fun hnone => ?_, rfl⟩
        obtain ⟨s, hs, hheld⟩ := List.any_eq_true.mp ha
        exact List.filter_eq_nil_iff.mp hnone s hs hheld

/-- A line goes out, or the write fails; then the link is down, if the line is one that could go
out. -/
theorem talks_write {command : String} {r : Except Error Unit}
    (h : Talks l (write command).run lines r l') :
    (lines = [Text.trim command] ∧ r = .ok () ∧ ¬ l.IsDown) ∨
      (lines = [] ∧ (∃ e, r = .error e) ∧ (Fits command → l'.IsDown)) := by
  unfold write at h
  rcases h.attempt_bind with ⟨e, rfl, hpace⟩ | ⟨_, l₁, before, after, rfl, hpace, h₁⟩
  · cases (hpace.quiet along_pace).2.1
  obtain ⟨rfl, -, hf₁⟩ := hpace.quiet along_pace
  rcases h₁.attempt_bind with ⟨e, rfl, ho⟩ | ⟨o, l₃, before, after, rfl, ho, h₂⟩
  · obtain ⟨_, _, _, ho, -⟩ := ho.of_step
    cases ho
  obtain ⟨l₂, now, hf₂, heq, rfl, hf₃⟩ := ho.of_step
  obtain rfl : o = l₂.stream.isSome := Except.ok.inj heq
  cases hs : l₂.stream with
  | none =>
    rw [hs] at h₂
    obtain ⟨rfl, rfl, hf₄⟩ := h₂.of_throw
    exact .inr ⟨rfl, ⟨_, rfl⟩, fun _ => .inl (hf₄.stream (hf₃.stream hs))⟩
  | some st =>
    rw [hs] at h₂
    rcases Talks.attempt_bind h₂ with ⟨e, rfl, hc⟩ | ⟨_, l₄, before, after, rfl, hc, h₃⟩
    · obtain ⟨_, _, _, hc, -⟩ := hc.of_step
      cases hc
    have hclear : (Attempt.step .clearInput).run.Along Exchange.IsQuiet fun _ => True :=
      ⟨trivial, fun _ => trivial⟩
    obtain ⟨rfl, -, hf₄⟩ := hc.quiet hclear
    obtain ⟨l₅, now', hf₅, rfl, rfl, hf₆⟩ := Talks.of_perform h₃
    have hfalls : Falls l l₂ ∧ Falls l₂ l₅ :=
      ⟨hf₁.trans hf₂, (hf₃.trans hf₄).trans hf₅⟩
    have hsent : (l₅.exchange now' (.send command)) = (now', l₅.send now' command) := rfl
    rw [hsent] at hf₆ ⊢
    rcases send_or l₅ now' command with ⟨hown, hsend⟩ | ⟨⟨e, he⟩, hdown⟩
    · rw [hsend]
      refine .inl ⟨rfl, rfl, ?_⟩
      rintro (hclosed | hcut)
      · cases hs.symm.trans (hfalls.1.stream hclosed)
      · exact hown (hfalls.2.own (hfalls.1.own hcut))
    · refine .inr ⟨?_, ⟨e, he⟩, fun hfits => .inr (hf₆.own (hdown hfits))⟩
      show ((Exchange.send command).line? (l₅.send now' command).1).toList = []
      rw [he]
      rfl

/-- What follows the line of a query sends nothing. -/
theorem talks_query {timeout : Nat} {command : String} {r : Except Error String}
    (h : Talks l (query timeout command).run lines r l') :
    (lines = [Text.trim command] ∧ ¬ l.IsDown) ∨
      (lines = [] ∧ (∃ e, r = .error e) ∧ (Fits command → l'.IsDown)) := by
  unfold query at h
  rcases h.attempt_bind with ⟨e, rfl, hw⟩ | ⟨_, l₁, before, after, rfl, hw, hr⟩
  · rcases talks_write hw with ⟨-, hok, -⟩ | hunsent
    · cases hok
    · exact .inr ⟨hunsent.1, ⟨e, rfl⟩, hunsent.2.2⟩
  · have hreceive : (do ExceptT.mk (pure (answerOf (← Attempt.step (.receive timeout)))) :
        Attempt String).run.Along Exchange.IsQuiet fun _ => True := ⟨trivial, fun _ => trivial⟩
    obtain ⟨rfl, -, -⟩ := hr.quiet hreceive
    rcases talks_write hw with ⟨rfl, -, hup⟩ | ⟨-, ⟨e, he⟩, -⟩
    · exact .inl ⟨rfl, hup⟩
    · cases he

end Link

end ChillerGateway
