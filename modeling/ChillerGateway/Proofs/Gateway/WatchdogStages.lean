import ChillerGateway.Proofs.Device.Openings
import ChillerGateway.Proofs.Gateway.Errands
import ChillerGateway.Proofs.Watchdog.State

/-!
# What a watchdog does in a state

A round of a watchdog is a stage, which is what it does in its state, and then the announcement of
the next state.  A stage begins with a sleep, if it has one; past it the watchdog turns to its device
and its flag only.

* `flag`, `closed`, `announced` — how the flag of a device stands, whether the device is closed, and
  the state of its watchdog, by what a worker was answered that alone has to do with them.
* `Watchdog.stage`, `Watchdog.round_eq` — stages, and that rounds are made of them.
* `Watchdog.staged` — the way down a stage.
* `Watchdog.completed` — the ways to its end.
* `Watchdog.stage_done`, `Watchdog.stage_ended` — what a stage comes to.
* `Watchdog.flag_of_suspended` — the flag wherever a watchdog may have to wait.
-/

namespace ChillerGateway

/-! ## What answers tell -/

namespace Action

/-- Whether a worker may have to wait for the answer. -/
def suspends : Action → Bool
  | .pauseUntil .. | .lock _ | .exchange .. | .awaitTickers _ | .read .. | .awaitReply _ => true
  | _ => false

/-- Whether a question is a sleep that can be cancelled. -/
def sleeps : Action → Bool
  | .pauseUntil _ (some _) => true
  | _ => false

def announces : Action → Bool
  | .announce .. => true
  | _ => false

theorem suspends_of_sleeps {op : Action} (h : op.sleeps = true) : op.suspends = true := by
  cases op with
  | pauseUntil => rfl
  | _ => cases h

end Action

theorem foldl_fixed_of_mem {α β : Type} {f : α → β → α} {a : α} {l : List β}
    (h : ∀ x ∈ l, f a x = a) : l.foldl f a = a := by
  induction l with
  | nil => rfl
  | cons x l ih =>
    rw [List.forall_mem_cons] at h
    rw [List.foldl_cons, h.1]
    exact ih h.2

/-- The flag of a device after what a worker was answered that alone turns it. -/
def flag (ref : Nat) (online : Bool) (es : List Answered) : Bool :=
  es.foldl (fun online x => match x.op with
    | .setOnline r value => if r = ref then value else online
    | _ => online) online

/-- Whether a device is closed after what a worker was answered that alone opens it. -/
def closed (ref : Nat) (b : Backend) (before : Bool) (es : List Answered) : Bool :=
  es.foldl (fun before x => match x.op with
    | .exchange r op => if r = ref then op.closes b || (before && !op.opens) else before
    | _ => before) before

/-- The state that a watchdog announced last. -/
def announced (index : Nat) (state : WatchdogState) (es : List Answered) : WatchdogState :=
  es.foldl (fun state x => match x.op with
    | .announce i next => if i = index then next else state
    | _ => state) state

/-- Whether the answers on the flag of a device are what a worker knows that alone turns it. -/
def Truthful (ref : Nat) : (online : Bool) → List Answered → Prop
  | _, [] => True
  | online, x :: es =>
    (∀ a, x = ⟨.isOnline ref, a⟩ → a = online) ∧ Truthful ref (flag ref online [x]) es

section

variable {ref : Nat} {online before : Bool} {b : Backend} {es fs : List Answered}

theorem flag_append (ref : Nat) (online : Bool) (es fs : List Answered) :
    flag ref online (es ++ fs) = flag ref (flag ref online es) fs := List.foldl_append

theorem closed_append (ref : Nat) (b : Backend) (before : Bool) (es fs : List Answered) :
    closed ref b before (es ++ fs) = closed ref b (closed ref b before es) fs := List.foldl_append

theorem announced_append (index : Nat) (state : WatchdogState) (es fs : List Answered) :
    announced index state (es ++ fs) = announced index (announced index state es) fs :=
  List.foldl_append

theorem truthful_append : Truthful ref online (es ++ fs) ↔
    Truthful ref online es ∧ Truthful ref (flag ref online es) fs := by
  induction es generalizing online with
  | nil => simp [Truthful, flag]
  | cons x es ih =>
    have hflag : flag ref online (x :: es) = flag ref (flag ref online [x]) es := rfl
    rw [List.cons_append, Truthful, Truthful, ih, hflag, and_assoc]

theorem flag_of_not_flags (h : ∀ x ∈ es, x.op.flags = false) : flag ref online es = online := by
  refine foldl_fixed_of_mem fun x hx => ?_
  have hx := h x hx
  obtain ⟨op, a⟩ := x
  cases op with
  | setOnline => cases hx
  | _ => rfl

theorem closed_of_not_exchanges (h : ∀ x ∈ es, x.op.exchanges = false) :
    closed ref b before es = before := by
  refine foldl_fixed_of_mem fun x hx => ?_
  have hx := h x hx
  obtain ⟨op, a⟩ := x
  cases op with
  | exchange => cases hx
  | _ => rfl

theorem announced_of_not_announces {index : Nat} {state : WatchdogState}
    (h : ∀ x ∈ es, x.op.announces = false) : announced index state es = state := by
  refine foldl_fixed_of_mem fun x hx => ?_
  have hx := h x hx
  obtain ⟨op, a⟩ := x
  cases op with
  | announce => cases hx
  | _ => rfl

end

namespace Watchdog

open Work (Stretch)

/-- What a watchdog does in its state, up to the next one if it goes on. -/
def stage (w : Watchdog) : Work (Option WatchdogState) := do
  match w.state with
  | .healthy =>
    if ← w.pause w.policy.interval then return some (w.state.afterCheck (← w.check)) else return none
  | .unhealthy =>
    Work.ask (.setOnline w.device.ref false)
    w.disconnect
    return some (w.state.afterDisconnect w.policy)
  | .reconnecting _ backoff =>
    if ← w.pause backoff then
      if ← w.reconnect then Work.ask (.setOnline w.device.ref true)
      return w.state.afterReconnect? w.policy (← Work.ask (.isOnline w.device.ref))
    else return none
  | .givenUp => return none

/-- Enters the next state, if there is one. -/
def proceed (w : Watchdog) : Option WatchdogState → Work (Option Watchdog)
  | some state => w.enter state
  | none => return none

/-- A program that ends with another one, for each way in which its first part ends. -/
theorem bind_eq_of {α β γ : Type} {p : Work α} {f : α → Work β} {g : β → Work γ} {k : α → Work γ}
    (h : ∀ a, k a = (f a).bind g) : p.bind k = (p.bind f).bind g := by
  rw [Program.bind_assoc]
  exact congrArg (Program.bind p) (funext h)

/-- A round is what there is to do in a state, and then the next state. -/
theorem round_eq (w : Watchdog) : w.round = w.stage.bind w.proceed := by
  obtain ⟨index, device, policy, state⟩ := w
  cases state with
  | healthy =>
    refine bind_eq_of fun ok => ?_
    cases ok with
    | false => rfl
    | true => exact bind_eq_of fun _ => rfl
  | unhealthy => exact bind_eq_of fun _ => bind_eq_of fun _ => rfl
  | reconnecting attempt backoff =>
    refine bind_eq_of fun ok => ?_
    cases ok with
    | false => rfl
    | true =>
      refine bind_eq_of fun back => ?_
      have hlast : ∀ next : Option WatchdogState, (match next with
          | some state => enter ⟨index, device, policy, .reconnecting attempt backoff⟩ state
          | none => return none) = proceed ⟨index, device, policy, .reconnecting attempt backoff⟩ next := by
        rintro (_ | state)
        · rfl
        · rfl
      cases back with
      | false => exact bind_eq_of fun online => hlast _
      | true => exact bind_eq_of fun _ => bind_eq_of fun online => hlast _
  | givenUp => rfl

variable {w : Watchdog} {now : List Answered} {op : Action}

/-! ### Ways down a stage -/

/-- What a watchdog asks when it has slept; a step of a driver may take its time. -/
def Tends (w : Watchdog) : Action → Prop
  | .lock ref | .unlock ref | .isOnline ref | .setOnline ref _ | .exchange ref _ =>
    ref = w.device.ref
  | .pauseUntil _ token => token = none
  | _ => False

theorem Tends.sleeps (h : w.Tends op) : op.sleeps = false := by
  cases op with
  | pauseUntil time token =>
    cases h
    rfl
  | _ => rfl

theorem Tends.announces (h : w.Tends op) : op.announces = false := by
  cases op with
  | announce => cases h
  | _ => rfl

theorem tends_of_asks {e : Errand} (he : e.device = w.device) (hc : e.isCommand = false)
    (h : e.Asks op) : w.Tends op := by
  cases op with
  | isOnline | exchange => exact h.trans (congrArg Handle.ref he)
  | audit => cases hc.symm.trans h
  | _ => cases h

/-- The answers of a sleep that passed. -/
def rested (w : Watchdog) (time span : Nat) : List Answered :=
  [⟨.now, time⟩, ⟨.pauseUntil (time + span) (some (.watchdog w.index)), true⟩]

/-- Where a watchdog is that sleeps before it goes on. -/
theorem pause_cases {α : Type} {span : Nat} {k : Bool → Work α} {q : Work α}
    (h : Stretch ((w.pause span).bind k) now q) :
    (now = [] ∧ ∃ next, q = Program.ask (I := Action.interface) .now next) ∨
    (∃ time next, now = [⟨.now, time⟩] ∧
      q = Program.ask (I := Action.interface)
        (.pauseUntil (time + span) (some (.watchdog w.index))) next) ∨
    ∃ time passed rest, Stretch (k passed) rest q ∧
      now = ⟨.now, time⟩ :: ⟨.pauseUntil (time + span) (some (.watchdog w.index)), passed⟩ :: rest := by
  rcases Stretch.asked_other h rfl with ⟨rfl, rfl⟩ | ⟨time, _, rfl, hasked⟩
  · exact .inl ⟨rfl, _, rfl⟩
  rcases Stretch.asked_other hasked rfl with ⟨rfl, rfl⟩ | ⟨passed, rest, rfl, hrest⟩
  · exact .inr (.inl ⟨time, _, rfl, rfl⟩)
  · exact .inr (.inr ⟨time, passed, rest, hrest, rfl⟩)

/-- A watchdog is at the beginning of a sleep, asleep, or past it. -/
inductive Staged (w : Watchdog) : List Answered → Work (Option WatchdogState) → Prop where
  | awake {next} : Staged w [] (Program.ask (I := Action.interface) .now next)
  | asleep {time deadline : Nat} {next} : Staged w [⟨.now, time⟩]
      (Program.ask (I := Action.interface) (.pauseUntil deadline (some (.watchdog w.index))) next)
  | past {sleep rest q} : (∀ x ∈ sleep, x.op = .now ∨ x.op.sleeps = true) →
      (∀ x ∈ rest, w.Tends x.op) → q.Along w.Tends (fun _ => True) → Staged w (sleep ++ rest) q

theorem staged_pause {span : Nat} {k : Bool → Work (Option WatchdogState)}
    {q : Work (Option WatchdogState)} (hk : ∀ passed, (k passed).Along w.Tends fun _ => True)
    (h : Stretch ((w.pause span).bind k) now q) : w.Staged now q := by
  rcases pause_cases h with ⟨rfl, next, rfl⟩ | ⟨time, next, rfl, rfl⟩ |
    ⟨time, passed, rest, hrest, rfl⟩
  · exact .awake
  · exact .asleep
  · obtain ⟨hes, hq⟩ := hrest.along (hk passed) fun _ => rfl
    show w.Staged ([_, _] ++ rest) q
    exact .past (by simp [Action.sleeps]) hes hq

/-- A watchdog only sleeps before it turns to its device. -/
theorem staged {q : Work (Option WatchdogState)} (h : Stretch w.stage now q) :
    w.Staged now q := by
  have hlocked : ∀ (e : Errand), e.device = w.device → e.isCommand = false →
      (Work.locked e.device.ref e.program).Along w.Tends fun _ => True := fun e he hc =>
    Errand.along_locked (congrArg Handle.ref he) (congrArg Handle.ref he)
      fun op hop => tends_of_asks he hc hop
  obtain ⟨index, device, policy, state⟩ := w
  cases state with
  | healthy =>
    refine staged_pause (fun passed => ?_) h
    cases passed with
    | false => trivial
    | true => exact Program.Along.bind (hlocked (.check device) rfl rfl) fun _ _ => trivial
  | unhealthy =>
    have hclose : (stage ⟨index, device, policy, .unhealthy⟩).Along
        (Tends ⟨index, device, policy, .unhealthy⟩) fun _ => True :=
      Work.along_question rfl fun _ =>
        Program.Along.bind (hlocked (.disconnect device) rfl rfl) fun _ _ => trivial
    obtain ⟨hes, hq⟩ := h.along hclose fun _ => rfl
    show Staged _ ([] ++ now) q
    exact .past (by simp) hes hq
  | reconnecting attempt backoff =>
    refine staged_pause (fun passed => ?_) h
    cases passed with
    | false => trivial
    | true =>
      refine Program.Along.bind (hlocked (.reconnect device) rfl rfl) fun back _ => ?_
      cases back with
      | false => exact ⟨rfl, fun _ => trivial⟩
      | true => exact ⟨rfl, fun _ => ⟨rfl, fun _ => trivial⟩⟩
  | givenUp =>
    obtain ⟨rfl, rfl⟩ := h.of_done
    show Staged _ ([] ++ []) _
    exact .past (by simp) (by simp) trivial

/-! ### What a stage comes to -/

/-- What a watchdog was answered in a stage that it completed, with what came of it. -/
inductive Round (w : Watchdog) : List Answered → WatchdogEvent → Prop where
  | checked {time inside result} : w.state = .healthy →
      Stretch (Work.drive w.device.ref (w.device.backend.perform .status)) inside
        (Program.done result) →
      Round w (w.rested time w.policy.interval ++ tenure w.device.ref inside)
        (.checked result.toOption.isSome)
  | disconnected {inside result} : w.state = .unhealthy →
      Stretch (Work.drive w.device.ref (w.device.backend.perform .close)) inside
        (Program.done result) →
      Round w (⟨.setOnline w.device.ref false, ()⟩ :: tenure w.device.ref inside) .disconnected
  /-- The device was opened and has identified itself under one hold of its lock. -/
  | reconnected {attempt backoff time connecting identifying identity} :
      w.state = .reconnecting attempt backoff →
      Stretch (Work.drive w.device.ref (w.device.backend.perform .connect)) connecting
        (Program.done (.ok ())) →
      Stretch (Work.drive w.device.ref (w.device.backend.perform .identify)) identifying
        (Program.done (.ok identity)) →
      Round w (w.rested time backoff ++ (tenure w.device.ref (connecting ++ identifying) ++
        [⟨.setOnline w.device.ref true, ()⟩, ⟨.isOnline w.device.ref, true⟩])) (.reconnected true)
  /-- One of the two failed, and the device was closed. -/
  | failed {attempt backoff time trying closing e result} : w.state = .reconnecting attempt backoff →
      Stretch (Work.drive w.device.ref w.device.backend.introduce) trying
        (Program.done (.error e)) →
      Stretch (Work.drive w.device.ref (w.device.backend.perform .close)) closing
        (Program.done result) →
      Round w (w.rested time backoff ++ (tenure w.device.ref (trying ++ closing) ++
        [⟨.isOnline w.device.ref, false⟩])) (.reconnected false)

theorem not_flags_of_driven {ref : Nat} {α : Type} {p : Attempt α} {es : List Answered}
    {q : Work (Except Error α)} (h : Stretch (Work.drive ref p) es q) :
    ∀ x ∈ es, x.op.flags = false :=
  h.forall_mem_driven (P := fun op => op.flags = false) (fun _ => rfl) fun _ => rfl

theorem not_announces_of_driven {ref : Nat} {α : Type} {p : Attempt α} {es : List Answered}
    {q : Work (Except Error α)} (h : Stretch (Work.drive ref p) es q) :
    ∀ x ∈ es, x.op.announces = false :=
  h.forall_mem_driven (P := fun op => op.announces = false) (fun _ => rfl) fun _ => rfl

theorem not_flags_tenure {ref : Nat} {inside : List Answered}
    (h : ∀ x ∈ inside, x.op.flags = false) : ∀ x ∈ tenure ref inside, x.op.flags = false :=
  forall_mem_tenure rfl rfl h

theorem not_flags_rested (w : Watchdog) (time span : Nat) :
    ∀ x ∈ w.rested time span, x.op.flags = false := by
  simp [rested, Action.flags]

/-- What is answered past a sleep and a hold of the lock. -/
theorem truthful_past {ref ref' time span : Nat} {online : Bool} {inside rest : List Answered}
    (h : ∀ x ∈ inside, x.op.flags = false)
    (ht : Truthful ref online (w.rested time span ++ (tenure ref' inside ++ rest))) :
    Truthful ref online rest := by
  obtain ⟨-, ht⟩ := truthful_append.mp ht
  obtain ⟨-, ht⟩ := truthful_append.mp ht
  rwa [flag_of_not_flags (not_flags_rested w time span),
    flag_of_not_flags (not_flags_tenure h)] at ht

theorem check_done {ok : Bool} (h : Stretch w.check now (Program.done ok)) :
    ∃ inside result, now = tenure w.device.ref inside ∧ ok = result.toOption.isSome ∧
      Stretch (Work.drive w.device.ref (w.device.backend.perform .status)) inside
        (Program.done result) := by
  obtain ⟨inside, rfl, hinside⟩ := Stretch.locked_done h
  obtain ⟨result, es, fs, rfl, hstatus, hdone⟩ := Stretch.bind_done hinside
  obtain ⟨rfl, heq⟩ := hdone.of_done
  rw [List.append_nil]
  exact ⟨es, result, rfl, Program.done.inj heq, hstatus⟩

theorem disconnect_done {u : Unit} (h : Stretch w.disconnect now (Program.done u)) :
    ∃ inside result, now = tenure w.device.ref inside ∧
      Stretch (Work.drive w.device.ref (w.device.backend.perform .close)) inside
        (Program.done result) := by
  obtain ⟨inside, rfl, hinside⟩ := Stretch.locked_done h
  obtain ⟨result, es, fs, rfl, hclosed, hdone⟩ := Stretch.bind_done hinside
  obtain ⟨rfl, heq⟩ := hdone.of_done
  rw [List.append_nil]
  exact ⟨es, result, rfl, hclosed⟩

theorem reconnect_done {back : Bool} (h : Stretch w.reconnect now (Program.done back)) :
    (back = true ∧ ∃ connecting identifying identity,
      now = tenure w.device.ref (connecting ++ identifying) ∧
      Stretch (Work.drive w.device.ref (w.device.backend.perform .connect)) connecting
        (Program.done (.ok ())) ∧
      Stretch (Work.drive w.device.ref (w.device.backend.perform .identify)) identifying
        (Program.done (.ok identity))) ∨
    (back = false ∧ ∃ trying closing e result, now = tenure w.device.ref (trying ++ closing) ∧
      Stretch (Work.drive w.device.ref w.device.backend.introduce) trying
        (Program.done (.error e)) ∧
      Stretch (Work.drive w.device.ref (w.device.backend.perform .close)) closing
        (Program.done result)) := by
  obtain ⟨inside, rfl, hinside⟩ := Stretch.locked_done h
  obtain ⟨outcome, trying, rest, rfl, hintroduced, hend⟩ := Stretch.bind_done hinside
  cases outcome with
  | ok identity =>
    obtain ⟨rfl, heq⟩ := hend.of_done
    rw [List.append_nil]
    rcases hintroduced.attempt_bind with ⟨e, hnot, -⟩ |
      ⟨_, connecting, identifying, rfl, hconnect, hidentify⟩
    · cases hnot
    · exact .inl ⟨Program.done.inj heq, connecting, identifying, identity, rfl, hconnect, hidentify⟩
  | error e =>
    obtain ⟨result, closing, fs, rfl, hclosed, hend⟩ := Stretch.bind_done hend
    obtain ⟨rfl, heq⟩ := hend.of_done
    rw [List.append_nil]
    exact .inr ⟨Program.done.inj heq, trying, closing, e, result, rfl, hintroduced, hclosed⟩

/-- A watchdog that is past its sleep, on its way to the end of a stage. -/
theorem pause_done {α : Type} {span : Nat} {k : Bool → Work α} {a : α}
    (h : Stretch ((w.pause span).bind k) now (Program.done a)) :
    ∃ time passed rest, Stretch (k passed) rest (Program.done a) ∧
      now = ⟨.now, time⟩ :: ⟨.pauseUntil (time + span) (some (.watchdog w.index)), passed⟩ :: rest := by
  rcases pause_cases h with ⟨-, next, heq⟩ | ⟨time, next, -, heq⟩ | hpast
  · cases heq
  · cases heq
  · exact hpast

/-- What a watchdog was answered in a stage that it completed, with the state to come. -/
inductive Completed (w : Watchdog) : List Answered → Option WatchdogState → Prop where
  /-- It was cancelled in its sleep. -/
  | cancelled {time deadline} :
      Completed w [⟨.now, time⟩, ⟨.pauseUntil deadline (some (.watchdog w.index)), false⟩] none
  | checked {time inside result} : w.state = .healthy →
      Stretch (Work.drive w.device.ref (w.device.backend.perform .status)) inside
        (Program.done result) →
      Completed w (w.rested time w.policy.interval ++ tenure w.device.ref inside)
        (some (w.state.afterCheck result.toOption.isSome))
  | disconnected {inside result} : w.state = .unhealthy →
      Stretch (Work.drive w.device.ref (w.device.backend.perform .close)) inside
        (Program.done result) →
      Completed w (⟨.setOnline w.device.ref false, ()⟩ :: tenure w.device.ref inside)
        (some (w.state.afterDisconnect w.policy))
  | reconnected {attempt backoff time connecting identifying identity online} :
      w.state = .reconnecting attempt backoff →
      Stretch (Work.drive w.device.ref (w.device.backend.perform .connect)) connecting
        (Program.done (.ok ())) →
      Stretch (Work.drive w.device.ref (w.device.backend.perform .identify)) identifying
        (Program.done (.ok identity)) →
      Completed w (w.rested time backoff ++ (tenure w.device.ref (connecting ++ identifying) ++
        [⟨.setOnline w.device.ref true, ()⟩, ⟨.isOnline w.device.ref, online⟩]))
        (w.state.afterReconnect? w.policy online)
  | failed {attempt backoff time trying closing e result online} :
      w.state = .reconnecting attempt backoff →
      Stretch (Work.drive w.device.ref w.device.backend.introduce) trying
        (Program.done (.error e)) →
      Stretch (Work.drive w.device.ref (w.device.backend.perform .close)) closing
        (Program.done result) →
      Completed w (w.rested time backoff ++ (tenure w.device.ref (trying ++ closing) ++
        [⟨.isOnline w.device.ref, online⟩])) (w.state.afterReconnect? w.policy online)
  | spent : w.state = .givenUp → Completed w [] none

/-- The ways to the end of a stage. -/
theorem completed {next : Option WatchdogState} (h : Stretch w.stage now (Program.done next)) :
    w.Completed now next := by
  obtain ⟨index, device, policy, state⟩ := w
  cases state with
  | healthy =>
    obtain ⟨time, passed, rest, hrest, rfl⟩ := pause_done h
    cases passed with
    | false =>
      obtain ⟨rfl, heq⟩ := Stretch.of_done hrest
      cases heq
      exact .cancelled
    | true =>
      obtain ⟨ok, es, fs, rfl, hcheck, hdone⟩ := Stretch.bind_done hrest
      obtain ⟨inside, result, rfl, rfl, hstatus⟩ := check_done hcheck
      obtain ⟨rfl, heq⟩ := hdone.of_done
      cases heq
      rw [List.append_nil]
      exact .checked rfl hstatus
  | unhealthy =>
    obtain ⟨_, rest, rfl, hrest⟩ := Stretch.question_done h rfl
    obtain ⟨_, es, fs, rfl, hclose, hdone⟩ := Stretch.bind_done hrest
    obtain ⟨inside, result, rfl, hclosed⟩ := disconnect_done hclose
    obtain ⟨rfl, heq⟩ := hdone.of_done
    cases heq
    rw [List.append_nil]
    exact .disconnected rfl hclosed
  | reconnecting attempt backoff =>
    obtain ⟨time, passed, rest, hrest, rfl⟩ := pause_done h
    cases passed with
    | false =>
      obtain ⟨rfl, heq⟩ := Stretch.of_done hrest
      cases heq
      exact .cancelled
    | true =>
      obtain ⟨back, es, fs, rfl, hreconnect, hdone⟩ := Stretch.bind_done hrest
      rcases reconnect_done hreconnect with
        ⟨rfl, connecting, identifying, identity, rfl, hconnect, hidentify⟩ |
        ⟨rfl, trying, closing, e, result, rfl, htrying, hclosed⟩
      · obtain ⟨_, fs, rfl, hflagged⟩ := Stretch.question_done hdone rfl
        obtain ⟨online, fs, rfl, hend⟩ := Stretch.question_done hflagged rfl
        obtain ⟨rfl, heq⟩ := hend.of_done
        rw [Program.done.inj heq]
        exact .reconnected rfl hconnect hidentify
      · obtain ⟨online, fs, rfl, hend⟩ := Stretch.question_done hdone rfl
        obtain ⟨rfl, heq⟩ := hend.of_done
        rw [Program.done.inj heq]
        exact .failed rfl htrying hclosed
  | givenUp =>
    obtain ⟨rfl, heq⟩ := h.of_done
    cases heq
    exact .spent rfl

/-- **A stage that is completed comes to the event of its state**, and that to the next state. -/
theorem stage_done {s : WatchdogState} (h : Stretch w.stage now (Program.done (some s)))
    (ht : w.state.isDown = true → Truthful w.device.ref false now) :
    ∃ e, w.Round now e ∧ w.state.after? w.policy e = some s := by
  have hcompleted := completed h
  generalize hnext : some s = next at hcompleted
  cases hcompleted with
  | cancelled | spent => cases hnext
  | checked hstate hstatus => exact ⟨_, .checked hstate hstatus, rfl⟩
  | disconnected hstate hclosed => exact ⟨_, .disconnected hstate hclosed, rfl⟩
  | @reconnected _ _ _ _ _ _ online hstate hconnect hidentify =>
    have hdown : w.state.isDown = true := by rw [hstate]; rfl
    obtain ⟨-, htold, -⟩ := truthful_past (List.forall_mem_append.mpr
      ⟨not_flags_of_driven hconnect, not_flags_of_driven hidentify⟩) (ht hdown)
    obtain rfl : online = true := (htold online rfl).trans (by simp [flag])
    exact ⟨_, .reconnected hstate hconnect hidentify, rfl⟩
  | @failed _ _ _ _ _ _ _ online hstate htrying hclosed =>
    have hdown : w.state.isDown = true := by rw [hstate]; rfl
    obtain ⟨htold, -⟩ := truthful_past (List.forall_mem_append.mpr
      ⟨not_flags_of_driven htrying, not_flags_of_driven hclosed⟩) (ht hdown)
    obtain rfl : online = false := htold online rfl
    exact ⟨_, .failed hstate htrying hclosed, rfl⟩

/-- Why a watchdog ends: it has given up, it was cancelled, or the next pause outgrows the clock. -/
theorem stage_ended (h : Stretch w.stage now (Program.done none)) :
    w.state = .givenUp ∨ (∃ time, ⟨.pauseUntil time (some (.watchdog w.index)), false⟩ ∈ now) ∨
      ∃ attempt backoff, w.state = .reconnecting attempt backoff ∧ attempt < w.policy.maxRetries ∧
        ¬ WatchdogState.Expressible (backoff * w.policy.backoffFactor) := by
  have hcompleted := completed h
  generalize hnext : none = next at hcompleted
  cases hcompleted with
  | cancelled => exact .inr (.inl ⟨_, List.mem_cons_of_mem _ List.mem_cons_self⟩)
  | checked | disconnected => cases hnext
  | reconnected hstate | failed hstate =>
    rw [hstate] at hnext ⊢
    exact .inr (.inr ⟨_, _, rfl, WatchdogState.not_expressible_of_afterReconnect? hnext.symm⟩)
  | spent hstate => exact .inl hstate

/-! ### On the way -/

variable {next : op.Answer → Work (Option WatchdogState)}

/-- A watchdog sleeps at the beginning of a stage only. -/
theorem asked_of_asleep (h : Stretch w.stage now (Program.ask op next)) (hop : op.sleeps = true) :
    ∃ time, now = [⟨.now, time⟩] := by
  have hstaged := staged h
  generalize hq : (Program.ask op next : Work (Option WatchdogState)) = q at hstaged
  cases hstaged with
  | awake =>
    cases hq
    cases hop
  | @asleep time => exact ⟨time, rfl⟩
  | past _ _ hpast =>
    subst hq
    cases hpast.1.sleeps.symm.trans hop

theorem not_announces_of_stage {q : Work (Option WatchdogState)} (h : Stretch w.stage now q) :
    ∀ x ∈ now, x.op.announces = false := by
  cases staged h with
  | awake => simp
  | asleep => simp [Action.announces]
  | past hsleep hrest _ =>
    refine List.forall_mem_append.mpr ⟨fun x hx => ?_, fun x hx => (hrest x hx).announces⟩
    rcases hsleep x hx with hop | hop
    · rw [hop]
      rfl
    · cases hx' : x.op with
      | announce =>
        rw [hx'] at hop
        cases hop
      | _ => rfl

theorem not_flags_of_asks {e : Errand} (h : e.Asks op) : op.flags = false := by
  cases op with
  | setOnline => cases h
  | _ => rfl

theorem not_flags_of_locked (e : Errand) {es : List Answered} {q : Work e.Result}
    (h : Stretch (Work.locked e.device.ref e.program) es q) : ∀ x ∈ es, x.op.flags = false := by
  have halong : (Work.locked e.device.ref e.program).Along (Action.flags · = false) fun _ => True :=
    Errand.along_locked rfl rfl fun op => not_flags_of_asks
  exact (h.along halong fun _ => rfl).1

/-- **Wherever a watchdog may have to wait, it has turned the flag as its state demands**: it is on
while the watchdog is healthy, and off in every other state. -/
theorem flag_of_suspended (h : Stretch w.stage now (Program.ask op next))
    (hop : op.suspends = true) :
    flag w.device.ref (!w.state.isDown) now = decide (w.state = .healthy) := by
  obtain ⟨index, device, policy, state⟩ := w
  cases state with
  | healthy =>
    rcases pause_cases h with ⟨rfl, -⟩ | ⟨time, -, rfl, -⟩ | ⟨time, passed, rest, hrest, rfl⟩
    · rfl
    · rfl
    cases passed with
    | false => cases (Stretch.of_done hrest).2
    | true =>
      rcases Stretch.bind_cases hrest with ⟨q, hq, -⟩ | ⟨ok, es, fs, rfl, -, hdone⟩
      · show flag _ true rest = true
        exact flag_of_not_flags (not_flags_of_locked (.check device) hq)
      · cases hdone.of_done.2
  | unhealthy =>
    rcases Stretch.question_other h rfl with ⟨-, heq⟩ | ⟨_, rest, rfl, hrest⟩
    · cases heq
      cases hop
    rcases Stretch.bind_cases hrest with ⟨q, hq, -⟩ | ⟨_, es, fs, rfl, -, hdone⟩
    · show flag _ (if device.ref = device.ref then false else true) rest = false
      rw [if_pos rfl]
      exact flag_of_not_flags (not_flags_of_locked (.disconnect device) hq)
    · cases hdone.of_done.2
  | reconnecting attempt backoff =>
    rcases pause_cases h with ⟨rfl, -⟩ | ⟨time, -, rfl, -⟩ | ⟨time, passed, rest, hrest, rfl⟩
    · rfl
    · rfl
    cases passed with
    | false => cases (Stretch.of_done hrest).2
    | true =>
      rcases Stretch.bind_cases hrest with ⟨q, hq, -⟩ | ⟨back, es, fs, rfl, -, hafter⟩
      · show flag _ false rest = false
        exact flag_of_not_flags (not_flags_of_locked (.reconnect device) hq)
      -- Past the attempt it only asks what is answered at once.
      cases back with
      | true =>
        rcases Stretch.question_other hafter rfl with ⟨-, heq⟩ | ⟨_, fs, rfl, hflagged⟩
        · cases heq
          cases hop
        rcases Stretch.question_other hflagged rfl with ⟨-, heq⟩ | ⟨online, fs, rfl, hend⟩
        · cases heq
          cases hop
        · cases hend.of_done.2
      | false =>
        rcases Stretch.question_other hafter rfl with ⟨-, heq⟩ | ⟨online, fs, rfl, hend⟩
        · cases heq
          cases hop
        · cases hend.of_done.2
  | givenUp => cases h.of_done.2

end Watchdog

end ChillerGateway
