import ChillerGateway.Proofs.Gateway.Run

/-!
# What a ticker calls

A ticker asks whether its schedule was cancelled, then whether the device is online, then for the
device's lock, then once more whether the device is online, and then writes.  It does not ask about
its schedule again before it writes.

* `calls` — how many calls of a device a course begins.
* `Calm`, `Cleared`, `Pending` — where a ticker can be: it begins no call unless it is told that
  its schedule goes on; it was told so; or it is on its way to a call.
* `Ticker.stands` — it is always at one of these places.
* `Calm.course`, `Stands.course` — when its schedule is cancelled, it begins no call, or one.
* `Ticker.Stands.finished` — it begins one exactly if one is due and the device is not offline.
-/

namespace ChillerGateway

/-! ## Calls -/

/-- Whether a question is the one whether a device is online. -/
def Action.asksOnline : Action → Bool
  | .isOnline _ => true
  | _ => false

theorem Action.asksOnline_of_exchanges {op : Action} (h : op.exchanges = true) :
    op.asksOnline = false := by
  cases op with
  | exchange => rfl
  | _ => cases h

namespace Answered

/-- Whether a device was found online. -/
def foundOnline : Answered → Bool
  | ⟨.isOnline _, found⟩ => found
  | _ => false

/-- Whether a device was found offline. -/
def foundOffline : Answered → Bool
  | ⟨.isOnline _, found⟩ => !found
  | _ => false

variable {op : Action} (a : op.Answer)

theorem foundOnline_of_other (h : op.asksOnline = false) : foundOnline ⟨op, a⟩ = false := by
  cases op with
  | isOnline => cases h
  | _ => rfl

theorem foundOffline_of_other (h : op.asksOnline = false) : foundOffline ⟨op, a⟩ = false := by
  cases op with
  | isOnline => cases h
  | _ => rfl

theorem heeds_of_exchanges (g : Nat) (h : op.exchanges = true) : Heeds g ⟨op, a⟩ := by
  cases op with
  | exchange => trivial
  | _ => cases h

end Answered

/-- How many calls of a device a worker begins: steps of a driver right after the device was found
online. -/
def calls : List Answered → Nat
  | x :: y :: rest =>
    (if x.foundOnline && y.op.exchanges then 1 else 0) + calls (y :: rest)
  | _ => 0

/-- Whether a device was found online last of all. -/
def justOnline (es : List Answered) : Bool := es.getLast?.any Answered.foundOnline

@[simp] theorem justOnline_snoc (es : List Answered) (x : Answered) :
    justOnline (es ++ [x]) = x.foundOnline := by
  unfold justOnline
  rw [List.getLast?_concat]
  rfl

theorem calls_snoc (es : List Answered) (x : Answered) :
    calls (es ++ [x]) = calls es + if justOnline es && x.op.exchanges then 1 else 0 := by
  induction es with
  | nil => rfl
  | cons y es ih =>
    cases es with
    | nil => simp [calls, justOnline]
    | cons z es =>
      have hlast : justOnline (y :: z :: es) = justOnline (z :: es) := by
        unfold justOnline
        rw [List.getLast?_cons_cons]
      rw [hlast]
      simp only [List.cons_append, calls] at ih ⊢
      omega

/-- One more question of a worker with a history. -/
theorem calls_append_snoc (history es : List Answered) (x : Answered) :
    calls (history ++ (es ++ [x])) =
      calls (history ++ es) + if justOnline (history ++ es) && x.op.exchanges then 1 else 0 := by
  rw [← List.append_assoc, calls_snoc]

theorem calls_append_snoc_of_other {history es : List Answered} {x : Answered}
    (h : (justOnline (history ++ es) && x.op.exchanges) = false) :
    calls (history ++ (es ++ [x])) = calls (history ++ es) := by
  rw [calls_append_snoc, h]
  rfl

theorem justOnline_append_snoc (history es : List Answered) (x : Answered) :
    justOnline (history ++ (es ++ [x])) = x.foundOnline := by
  rw [← List.append_assoc, justOnline_snoc]

/-! ## The places of a ticker -/

/-- A driver takes a step to write the target, and does not refuse it at once. -/
def Handle.Takes (device : Handle) (target : Binary64) : Prop :=
  ∀ r, (device.backend.perform (.setSetpoint target)).run ≠ Program.done r

namespace Ticker

/-- Whether a tick hands its target on: the target moved away from the last one. -/
def HandsOn (t : Ticker) (now : Nat) : Prop :=
  t.runner.isRunning = true ∧ t.runner.moved (t.runner.target now) = true

/-- What a ticker does after a tick. -/
def conclude (t : Ticker) : Except Error (Option Binary64) × Runner → Work (Option Ticker)
  | (result, runner) =>
    match result, runner.finished with
    | .ok (some _), false => do
      let _ ← Work.pause interval (some (.schedule t.generation))
      return some { t with runner }
    | _, _ => t.finish

/-- The round of a ticker that was told that its schedule goes on. -/
def cleared (t : Ticker) : Work (Option Ticker) :=
  Program.ask .now fun now => (t.runner.tick (apply t.device) now).bind t.conclude

/-- The end of a round. -/
def ends (next : Option Ticker) : Work RoundEnd := Program.done (Worker.following .ticker next)

/-- What a ticker does on a locked device. -/
def write (device : Handle) (target : Binary64) : Work (Except Error Unit) := do
  if ← Work.ask (.isOnline device.ref) then
    Work.drive device.ref (device.backend.perform (.setSetpoint target))
  else return .error .reconnecting

theorem round_eq (intake : Intake) (t : Ticker) :
    (Worker.ticker t).round intake =
      (Program.ask (.isCancelled (.schedule t.generation)) fun (cancelled : Bool) =>
        if cancelled then t.finish.bind ends else t.cleared.bind ends : Work RoundEnd) := by
  show Program.ask _ _ = _
  congr 1
  funext cancelled
  cases cancelled with
  | true => rfl
  | false => rfl

/-- A ticker was told that its schedule goes on, and has not looked at the clock since. -/
def Cleared (g : Nat) (p : Work RoundEnd) : Prop :=
  ∃ t : Ticker, t.generation = g ∧ p = t.cleared.bind ends

/-- A ticker of a generation begins no call unless it is told that its schedule goes on; `online`
says whether it just found the device online. -/
def Calm (g : Nat) : (online : Bool) → Work RoundEnd → Prop
  | _, Program.done (.ended _) => True
  | _, Program.done (.again worker) => ∃ t : Ticker, worker = .ticker t ∧ t.generation = g
  | online, Program.ask op next =>
    Action.asksOnline op = false ∧ (online && Action.exchanges op) = false ∧
      ∀ a, Calm g false (next a) ∨ ¬ Answered.Heeds g ⟨op, a⟩ ∧ Cleared g (next a)

/-- A ticker goes on to write a target, unless it finds the device offline. -/
inductive Pending (g : Nat) (device : Handle) (target : Binary64) :
    Bool → Work RoundEnd → Prop where
  | asks {online k} : (∀ r, Calm g true (k r)) →
      Pending g device target online ((apply device target).bind k)
  | queues {online k} : (∀ r, Calm g true (k r)) →
      Pending g device target online
        ((Work.locked device.ref (write device target)).bind k)
  | holds {online k} : (∀ r, Calm g true (k r)) →
      Pending g device target online ((write device target).bind k)
  | begins {op next} : device.Takes target → (∀ a, Calm g false (next a)) →
      Pending g device target true (Program.ask (.exchange device.ref op) next)

/-- All places where a ticker can be. -/
inductive Stands (g : Nat) (online : Bool) (p : Work RoundEnd) : Prop where
  | calm : Calm g online p → Stands g online p
  | cleared : Cleared g p → Stands g online p
  | pending {device target} : Pending g device target online p → Stands g online p

/-! ## Calm programs -/

section Calm

variable {g : Nat} {online : Bool}

theorem calm_ask {op : Action} {next : op.Answer → Work RoundEnd} (h : op.asksOnline = false)
    (he : (online && op.exchanges) = false) (hn : ∀ a, Calm g false (next a)) :
    Calm g online (Program.ask op next) := ⟨h, he, fun a => .inl (hn a)⟩

theorem Calm.relax {p : Work RoundEnd} (h : Calm g true p) : Calm g online p := by
  cases p with
  | done r => cases r <;> exact h
  | ask op next =>
    obtain ⟨hop, he, hn⟩ := h
    refine ⟨hop, ?_, hn⟩
    rw [Bool.true_and] at he
    rw [he, Bool.and_false]

/-- The steps of a driver that has begun. -/
theorem calm_drive {α : Type} (ref : Nat) (q : Attempt α) {k : Except Error α → Work RoundEnd}
    (hk : ∀ r, Calm g true (k r)) : Calm g false ((Work.drive ref q).bind k) := by
  unfold Work.drive
  generalize q.run = p
  induction p with
  | done r => exact (hk r).relax
  | ask op next ih => exact calm_ask rfl rfl ih

variable {t : Ticker}

theorem calm_finish (t : Ticker) : Calm g true (t.finish.bind ends) :=
  calm_ask rfl rfl fun _ => trivial

theorem calm_conclude (ht : t.generation = g) (x : Except Error (Option Binary64) × Runner) :
    Calm g true ((t.conclude x).bind ends) := by
  unfold conclude
  obtain ⟨result, runner⟩ := x
  simp only
  split
  · refine calm_ask rfl rfl fun now => calm_ask rfl rfl fun _ => ?_
    exact ⟨{ t with runner }, rfl, ht⟩
  · exact calm_finish t

/-- The next round is calm. -/
theorem calm_round (intake : Intake) (ht : t.generation = g) :
    Calm g true ((Worker.ticker t).round intake) := by
  rw [round_eq]
  refine ⟨rfl, rfl, ?_⟩
  intro cancelled
  cases cancelled with
  | true => exact .inl (calm_finish t).relax
  | false =>
    refine .inr ⟨?_, t, ht, rfl⟩
    intro hheeds
    cases hheeds (ht ▸ rfl)

end Calm

/-! ## On the way to a call -/

section Pending

variable {g : Nat} {device : Handle} {target : Binary64} {online : Bool}

/-- What one answer makes of a ticker on its way to a call. -/
inductive Onward (g : Nat) (device : Handle) (target : Binary64) (online : Bool) (x : Answered)
    (p : Work RoundEnd) : Prop where
  | goes : x.foundOffline = false → x.op.exchanges = false →
      Pending g device target x.foundOnline p → Onward g device target online x p
  | calls : device.Takes target → x.foundOffline = false → online = true →
      x.op.exchanges = true → Calm g false p → Onward g device target online x p
  | spared : x.foundOffline = true → x.op.exchanges = false → Calm g true p →
      Onward g device target online x p
  /-- The driver refuses the target before it takes a step. -/
  | refused : x.foundOffline = false → x.op.exchanges = false →
      ¬ device.Takes target → Calm g true p → Onward g device target online x p

/-- A driver refuses the target at once, or its first step begins the call. -/
theorem drive_cases (device : Handle) (target : Binary64) {k : Except Error Unit → Work RoundEnd}
    (hk : ∀ r, Calm g true (k r)) :
    Pending g device target true
      ((Work.drive device.ref (device.backend.perform (.setSetpoint target))).bind k) ∨
    (¬ device.Takes target ∧ Calm g true
      ((Work.drive device.ref (device.backend.perform (.setSetpoint target))).bind k)) := by
  cases hq : (device.backend.perform (.setSetpoint target)).run with
  | done r =>
    refine .inr ⟨fun h => h r hq, ?_⟩
    unfold Work.drive
    rw [hq]
    exact hk r
  | ask op next =>
    have hcalm := calm_drive device.ref (device.backend.perform (.setSetpoint target)) hk
    unfold Work.drive at hcalm ⊢
    rw [hq] at hcalm ⊢
    refine .inl (.begins (fun r h => ?_) fun a => ?_)
    · rw [hq] at h
      cases h
    · exact (hcalm.2.2 a).resolve_right fun hnot => hnot.1 trivial

theorem Pending.ne_done {p : Work RoundEnd} (h : Pending g device target online p)
    (r : RoundEnd) : p ≠ Program.done r := by
  intro hp
  cases h with
  | asks | queues | holds | begins => cases hp

theorem Pending.onward {op : Action} {next : op.Answer → Work RoundEnd}
    (h : Pending g device target online (Program.ask op next)) (a : op.Answer) :
    Onward g device target online ⟨op, a⟩ (next a) := by
  generalize hp : (Program.ask op next : Work RoundEnd) = p at h
  cases h with
  | asks hk =>
    cases hp
    cases a with
    | false => exact .spared rfl rfl (hk _)
    | true => exact .goes rfl rfl (.queues hk)
  | queues hk =>
    cases hp
    have hunlock : ∀ r, Calm g true
        (((Work.ask (.unlock device.ref)).bind fun _ => Program.done r).bind _) := fun r =>
      calm_ask rfl rfl fun _ => (hk r).relax
    have hholds : Pending g device target false _ := .holds hunlock
    rw [← Program.bind_assoc] at hholds
    exact .goes rfl rfl hholds
  | holds hk =>
    cases hp
    cases a with
    | false => exact .spared rfl rfl (hk _)
    | true =>
      rcases drive_cases device target hk with hgoes | ⟨htakes, hcalm⟩
      · exact .goes rfl rfl hgoes
      · exact .refused rfl rfl htakes hcalm
  | begins htakes hn =>
    cases hp
    exact .calls htakes rfl rfl rfl (hn a)

end Pending

/-! ## One question -/

section

variable {g : Nat} {online : Bool} {op : Action} {next : op.Answer → Work RoundEnd}

/-- With the clock read, a tick that hands its target on is on its way to a call. -/
theorem pending_tick {t : Ticker} {now : Nat} (ht : t.generation = g) (h : t.HandsOn now) :
    Pending g t.device (t.runner.target now) online
      (((t.runner.tick (apply t.device) now).bind t.conclude).bind ends) := by
  unfold Runner.tick Runner.tickTo
  rw [if_neg (by simp [h.1]), if_pos h.2, Program.bind_eq, Program.bind_assoc, Program.bind_assoc]
  refine .asks ?_
  intro r
  cases r with
  | error e => exact calm_conclude ht _
  | ok _ => exact calm_conclude ht _

/-- Any other tick is over at once. -/
theorem calm_tick {t : Ticker} {now : Nat} (ht : t.generation = g) (h : ¬ t.HandsOn now) :
    Calm g true (((t.runner.tick (apply t.device) now).bind t.conclude).bind ends) := by
  unfold Runner.tick Runner.tickTo
  split
  · exact calm_conclude ht _
  · rename_i hrunning
    rw [if_neg fun hmoved => h ⟨by simpa using hrunning, hmoved⟩]
    exact calm_conclude ht _

/-- With the clock read, a ticker is on its way to a call, or it is calm. -/
theorem Cleared.onward (h : Cleared g (Program.ask op next)) (a : op.Answer) :
    op.asksOnline = false ∧ op.exchanges = false ∧ Stands g false (next a) := by
  obtain ⟨t, ht, hp⟩ := h
  cases hp
  refine ⟨rfl, rfl, ?_⟩
  by_cases hon : t.HandsOn a
  · exact .pending (pending_tick ht hon)
  · exact .calm (calm_tick ht hon).relax

/-- Waiting for an answer is calm. -/
theorem Calm.resumes {p q : Work RoundEnd} (h : Calm g false p) (hr : Resumes op p q) :
    Calm g false q := by
  cases hr with
  | now => exact h
  | later => exact calm_ask rfl rfl fun _ => h

/-- A calm ticker stays calm with an answer that does not tell it to go on. -/
theorem Calm.onward {q : Work RoundEnd} (h : Calm g online (Program.ask op next)) (a : op.Answer)
    (hheeds : Answered.Heeds g ⟨op, a⟩) (hr : Resumes op (next a) q) : Calm g false q :=
  ((h.2.2 a).resolve_right fun hnot => hnot.1 hheeds).resumes hr

theorem Onward.resumes {device : Handle} {target : Binary64} {a : op.Answer} {p q : Work RoundEnd}
    (h : Onward g device target online ⟨op, a⟩ p) (hr : Resumes op p q) :
    Onward g device target online ⟨op, a⟩ q := by
  cases hr with
  | now => exact h
  | later time hop =>
    cases h with
    | calls htakes hoff honline hcall hcalm =>
      exact .calls htakes hoff honline hcall (hcalm.resumes (.later time hop))
    | goes _ hnot => cases hop.symm.trans hnot
    | spared _ hnot => cases hop.symm.trans hnot
    | refused _ hnot => cases hop.symm.trans hnot

/-- A ticker begins its next round where it stands. -/
theorem Calm.again {worker : Worker} {intake : Intake}
    (h : Calm g online (Program.done (.again worker))) : Calm g online (worker.round intake) := by
  obtain ⟨t, rfl, ht⟩ := h
  exact (calm_round intake ht).relax

theorem Stands.again {worker : Worker} {intake : Intake}
    (h : Stands g online (Program.done (.again worker))) :
    Stands g online (worker.round intake) := by
  cases h with
  | calm h => exact .calm h.again
  | cleared h =>
    obtain ⟨t, -, hp⟩ := h
    cases hp
  | pending h => exact absurd rfl (h.ne_done _)

/-- An answer leaves a ticker at one of its places. -/
theorem Stands.onward {q : Work RoundEnd} (h : Stands g online (Program.ask op next))
    (a : op.Answer) (hr : Resumes op (next a) q) : Stands g (Answered.foundOnline ⟨op, a⟩) q := by
  cases h with
  | calm h =>
    rw [Answered.foundOnline_of_other a h.1]
    rcases h.2.2 a with hcalm | ⟨hnot, hcleared⟩
    · exact .calm (hcalm.resumes hr)
    · have hop : op.exchanges = false := by
        by_contra hop
        exact hnot (Answered.heeds_of_exchanges a g (by simpa using hop))
      rw [hr.eq hop]
      exact .cleared hcleared
  | cleared h =>
    obtain ⟨hop, hnot, hstands⟩ := h.onward a
    rw [Answered.foundOnline_of_other a hop, hr.eq hnot]
    exact hstands
  | pending h =>
    cases (h.onward a).resumes hr with
    | goes _ _ hnext => exact .pending hnext
    | calls _ _ _ hcall hcalm =>
      rw [Answered.foundOnline_of_other a (Action.asksOnline_of_exchanges hcall)]
      exact .calm hcalm
    | spared _ _ hcalm => exact .calm hcalm.relax
    | refused _ _ _ hcalm => exact .calm hcalm.relax

/-- An answer that does not tell a ticker to go on begins one call at most, and then the ticker is
calm. -/
theorem Stands.heeding {q : Work RoundEnd} (h : Stands g online (Program.ask op next))
    (a : op.Answer) (hheeds : Answered.Heeds g ⟨op, a⟩) (hr : Resumes op (next a) q) :
    ((online && op.exchanges) = false ∧ Stands g (Answered.foundOnline ⟨op, a⟩) q) ∨
      ((online && op.exchanges) = true ∧ Calm g (Answered.foundOnline ⟨op, a⟩) q) := by
  cases hcall : online && op.exchanges with
  | false => exact .inl ⟨rfl, h.onward a hr⟩
  | true =>
    obtain ⟨-, hop⟩ := Bool.and_eq_true_iff.mp hcall
    refine .inr ⟨rfl, ?_⟩
    rw [Answered.foundOnline_of_other a (Action.asksOnline_of_exchanges hop)]
    cases h with
    | calm h => exact h.onward a hheeds hr
    | cleared h => cases hop.symm.trans (h.onward a).2.1
    | pending h =>
      cases (h.onward a).resumes hr with
      | calls _ _ _ _ hcalm => exact hcalm
      | goes _ hnot => cases hop.symm.trans hnot
      | spared _ hnot => cases hop.symm.trans hnot
      | refused _ hnot => cases hop.symm.trans hnot

end

/-! ## A whole course -/

section

variable {intake : Intake} {g : Nat} {p q : Work RoundEnd} {es history rest : List Answered}

/-- **From its start on, a ticker is always at one of its places.** -/
theorem stands {t : Ticker} (ht : t.generation = g)
    (h : Course intake (Program.done (.again (.ticker t))) es q) : Stands g (justOnline es) q := by
  induction h with
  | start => exact .calm ⟨t, rfl, ht⟩
  | answered a _ hr ih =>
    rw [justOnline_snoc]
    exact ih.onward a hr
  | again _ ih => exact ih.again

/-- **A calm ticker whose schedule is cancelled begins no call, and asks for none.** -/
theorem Calm.course (h : Calm g (justOnline history) p) (hc : Course intake p rest q)
    (hheeds : ∀ x ∈ rest, x.Heeds g) :
    calls (history ++ rest) = calls history ∧ (∀ x ∈ rest, x.foundOffline = false) ∧
      Calm g (justOnline (history ++ rest)) q := by
  induction hc with
  | start =>
    rw [List.append_nil]
    refine ⟨rfl, ?_, h⟩
    intro x hx
    cases hx
  | @answered es op next q a _ hr ih =>
    obtain ⟨hes, hlast⟩ := List.forall_mem_append.mp hheeds
    obtain ⟨hcalls, hoff, hcalm⟩ := ih hes
    refine ⟨?_, ?_, ?_⟩
    · rw [calls_append_snoc_of_other hcalm.2.1, hcalls]
    · have hother := Answered.foundOffline_of_other a hcalm.1
      exact List.forall_mem_append.mpr ⟨hoff, List.forall_mem_singleton.mpr hother⟩
    · rw [justOnline_append_snoc, Answered.foundOnline_of_other a hcalm.1]
      exact hcalm.onward a (List.forall_mem_singleton.mp hlast) hr
  | again _ ih =>
    obtain ⟨hcalls, hoff, hcalm⟩ := ih hheeds
    exact ⟨hcalls, hoff, hcalm.again⟩

/-- **A ticker whose schedule is cancelled begins one call at most.** -/
theorem Stands.course (h : Stands g (justOnline history) p) (hc : Course intake p rest q)
    (hheeds : ∀ x ∈ rest, x.Heeds g) :
    (calls (history ++ rest) = calls history ∧ Stands g (justOnline (history ++ rest)) q) ∨
      (calls (history ++ rest) = calls history + 1 ∧
        Calm g (justOnline (history ++ rest)) q) := by
  induction hc with
  | start =>
    rw [List.append_nil]
    exact .inl ⟨rfl, h⟩
  | @answered es op next q a _ hr ih =>
    obtain ⟨hes, hlast⟩ := List.forall_mem_append.mp hheeds
    have hx := List.forall_mem_singleton.mp hlast
    rw [calls_append_snoc, justOnline_append_snoc]
    rcases ih hes with ⟨hcalls, hstands⟩ | ⟨hcalls, hcalm⟩
    · rw [hcalls]
      rcases hstands.heeding a hx hr with ⟨hnone, hnext⟩ | ⟨hcall, hnext⟩
      · rw [hnone]
        exact .inl ⟨rfl, hnext⟩
      · rw [hcall]
        exact .inr ⟨rfl, hnext⟩
    · rw [hcalls, hcalm.2.1, Answered.foundOnline_of_other a hcalm.1]
      exact .inr ⟨rfl, hcalm.onward a hx hr⟩
  | again _ ih =>
    exact (ih hheeds).imp (And.imp_right Stands.again) (And.imp_right Calm.again)

/-- How far a ticker is that was on its way to a call when its schedule was cancelled. -/
inductive Fate (g : Nat) (device : Handle) (target : Binary64) (history rest : List Answered)
    (p : Work RoundEnd) : Prop where
  | waits : calls (history ++ rest) = calls history → (∀ x ∈ rest, x.foundOffline = false) →
      Pending g device target (justOnline (history ++ rest)) p → Fate g device target history rest p
  | called : device.Takes target → calls (history ++ rest) = calls history + 1 →
      (∀ x ∈ rest, x.foundOffline = false) → Calm g (justOnline (history ++ rest)) p →
      Fate g device target history rest p
  | spared : calls (history ++ rest) = calls history →
      (∃ x ∈ rest, x.foundOffline = true) ∨ ¬ device.Takes target →
      Calm g (justOnline (history ++ rest)) p → Fate g device target history rest p

/-- **A ticker on its way to a call, whose schedule is cancelled, calls unless it finds the device
offline.** -/
theorem Pending.course {device : Handle} {target : Binary64}
    (h : Pending g device target (justOnline history) p) (hc : Course intake p rest q)
    (hheeds : ∀ x ∈ rest, x.Heeds g) : Fate g device target history rest q := by
  induction hc with
  | start =>
    refine .waits ?_ ?_ ?_
    · rw [List.append_nil]
    · intro x hx
      cases hx
    · rwa [List.append_nil]
  | @answered es op next q a _ hr ih =>
    obtain ⟨hes, hlast⟩ := List.forall_mem_append.mp hheeds
    have hx := List.forall_mem_singleton.mp hlast
    have hall : (∀ x ∈ es, x.foundOffline = false) → Answered.foundOffline ⟨op, a⟩ = false →
        ∀ x ∈ es ++ [⟨op, a⟩], x.foundOffline = false := fun hold hnew =>
      List.forall_mem_append.mpr ⟨hold, List.forall_mem_singleton.mpr hnew⟩
    have hquiet : Action.exchanges op = false →
        calls (history ++ (es ++ [⟨op, a⟩])) = calls (history ++ es) := fun hnot =>
      calls_append_snoc_of_other (by rw [hnot, Bool.and_false])
    have hstays : Calm g (justOnline (history ++ es)) (Program.ask op next) →
        Calm g (justOnline (history ++ (es ++ [⟨op, a⟩]))) q := by
      intro hcalm
      rw [justOnline_append_snoc, Answered.foundOnline_of_other a hcalm.1]
      exact hcalm.onward a hx hr
    cases ih hes with
    | waits hcalls hold hpending =>
      cases (hpending.onward a).resumes hr with
      | goes hoff hnot hnext =>
        refine .waits ((hquiet hnot).trans hcalls) (hall hold hoff) ?_
        rwa [justOnline_append_snoc]
      | calls htakes hoff honline hcall hcalm =>
        refine .called htakes ?_ (hall hold hoff) ?_
        · rw [calls_append_snoc, hcalls, hcall, honline]
          rfl
        · rw [justOnline_append_snoc,
            Answered.foundOnline_of_other a (Action.asksOnline_of_exchanges hcall)]
          exact hcalm
      | spared hoff hnot hcalm =>
        refine .spared ((hquiet hnot).trans hcalls) (.inl ⟨_, ?_, hoff⟩) hcalm.relax
        exact List.mem_append_right _ (List.mem_singleton_self _)
      | refused hoff hnot htakes hcalm =>
        exact .spared ((hquiet hnot).trans hcalls) (.inr htakes) hcalm.relax
    | called htakes hcalls hold hcalm =>
      refine .called htakes ?_ (hall hold (Answered.foundOffline_of_other a hcalm.1)) (hstays hcalm)
      rw [calls_append_snoc_of_other hcalm.2.1, hcalls]
    | spared hcalls hwhy hcalm =>
      refine .spared ?_ (hwhy.imp_left ?_) (hstays hcalm)
      · rw [calls_append_snoc_of_other hcalm.2.1, hcalls]
      · rintro ⟨x, hmem, hoff⟩
        exact ⟨x, List.mem_append_left _ hmem, hoff⟩
  | again _ ih =>
    cases ih hheeds with
    | waits _ _ hpending => exact absurd rfl (hpending.ne_done _)
    | called htakes hcalls hes hcalm => exact .called htakes hcalls hes hcalm.again
    | spared hcalls hwhy hcalm => exact .spared hcalls hwhy hcalm.again

/-! ## A course to its end -/

/-- A ticker that was on its way to a call, or sets out for one with the next look at the clock. -/
inductive Due (g : Nat) (online : Bool) (rest : List Answered) (p : Work RoundEnd) : Prop where
  | pending {device target} : Pending g device target online p → device.Takes target →
      Due g online rest p
  | ticks {t : Ticker} {now : Nat} {es : List Answered} : t.generation = g →
      p = t.cleared.bind ends → rest = ⟨.now, now⟩ :: es → t.HandsOn now →
      t.device.Takes (t.runner.target now) → Due g online rest p

variable {reply : Option Reply}

theorem Pending.finished {device : Handle} {target : Binary64}
    (h : Pending g device target (justOnline history) p)
    (hc : Course intake p rest (Program.done (.ended reply))) (hheeds : ∀ x ∈ rest, x.Heeds g) :
    calls (history ++ rest) = calls history + 1 ↔
      device.Takes target ∧ ∀ x ∈ rest, x.foundOffline = false := by
  cases h.course hc hheeds with
  | waits _ _ hpending => exact absurd rfl (hpending.ne_done _)
  | called htakes hcalls hon _ => exact ⟨fun _ => ⟨htakes, hon⟩, fun _ => hcalls⟩
  | spared hcalls hwhy _ =>
    rw [hcalls]
    refine ⟨fun h => by omega, ?_⟩
    rintro ⟨htakes, hon⟩
    rcases hwhy with ⟨x, hx, hoff⟩ | hnot
    · cases (hon x hx).symm.trans hoff
    · exact absurd htakes hnot

/-- A ticker that was told that its schedule goes on looks at the clock first of all. -/
theorem cleared_finished (history : List Answered) {t : Ticker} (ht : t.generation = g)
    (hc : Course intake (t.cleared.bind ends) rest (Program.done (.ended reply)))
    (hheeds : ∀ x ∈ rest, x.Heeds g) :
    ∃ now es, rest = ⟨.now, now⟩ :: es ∧
      (calls (history ++ rest) = calls history + 1 ↔
        (t.HandsOn now ∧ t.device.Takes (t.runner.target now)) ∧
          ∀ x ∈ rest, x.foundOffline = false) := by
  rcases Course.asked hc with ⟨-, hp⟩ | ⟨now, p', es, rfl, hr, hc⟩
  · cases hp
  · refine ⟨now, es, rfl, ?_⟩
    rw [hr.eq rfl] at hc
    have hheeds' : ∀ x ∈ es, x.Heeds g := fun x hx => hheeds x (List.mem_cons_of_mem _ hx)
    have hsplit : history ++ ⟨.now, now⟩ :: es = (history ++ [⟨.now, now⟩]) ++ es := by
      rw [List.append_assoc, List.singleton_append]
    have hnone : calls (history ++ [⟨.now, now⟩]) = calls history := by
      rw [calls_snoc]
      show calls history + (if justOnline history && false then 1 else 0) = _
      rw [Bool.and_false]
      rfl
    have hoff : (∀ x ∈ (⟨.now, now⟩ :: es : List Answered), x.foundOffline = false) ↔
        ∀ x ∈ es, x.foundOffline = false := by
      rw [List.forall_mem_cons]
      exact and_iff_right rfl
    rw [hsplit, ← hnone, hoff]
    by_cases hon : t.HandsOn now
    · rw [(pending_tick ht hon).finished hc hheeds']
      exact and_congr_left fun _ => (and_iff_right hon).symm
    · rw [((calm_tick ht hon).relax.course hc hheeds').1]
      exact ⟨fun h => by omega, fun h => absurd h.1.1 hon⟩

/-- **A ticker whose schedule is cancelled begins one more call exactly if one is due and it never
finds the device offline.** -/
theorem Stands.finished (h : Stands g (justOnline history) p)
    (hc : Course intake p rest (Program.done (.ended reply))) (hheeds : ∀ x ∈ rest, x.Heeds g) :
    calls (history ++ rest) = calls history + 1 ↔
      Due g (justOnline history) rest p ∧ ∀ x ∈ rest, x.foundOffline = false := by
  constructor
  · intro hcalls
    cases h with
    | calm h =>
      rw [(h.course hc hheeds).1] at hcalls
      omega
    | pending h =>
      obtain ⟨htakes, hon⟩ := (h.finished hc hheeds).mp hcalls
      exact ⟨.pending h htakes, hon⟩
    | cleared h =>
      obtain ⟨t, ht, rfl⟩ := h
      obtain ⟨now, es, hrest, hiff⟩ := cleared_finished history ht hc hheeds
      obtain ⟨⟨hhands, htakes⟩, hon⟩ := hiff.mp hcalls
      exact ⟨.ticks ht rfl hrest hhands htakes, hon⟩
  · rintro ⟨hdue, hon⟩
    cases hdue with
    | pending hp htakes => exact (hp.finished hc hheeds).mpr ⟨htakes, hon⟩
    | @ticks t now es ht hp hrest hhands htakes =>
      subst hp
      obtain ⟨now', es', hrest', hiff⟩ := cleared_finished history ht hc hheeds
      cases hrest.symm.trans hrest'
      exact hiff.mpr ⟨⟨hhands, htakes⟩, hon⟩

end

end Ticker

end ChillerGateway
