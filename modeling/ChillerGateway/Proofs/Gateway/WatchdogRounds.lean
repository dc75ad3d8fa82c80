import ChillerGateway.Proofs.Gateway.WatchdogStages

/-!
# The rounds of a watchdog

A watchdog goes from state to state, as the rules of its states have it, as long as it is told the
truth of the flag that it alone turns.

* `Watchdog.course_rounds` — its course is a sequence of completed stages and the one under way.
* `Watchdog.Lived` — what it has been through.
* `Watchdog.Rounds.lived` — it lives by the rules of its states, and leaves the flag and the device
  as each state has them.
* `Watchdog.Lived.recovered` — how it becomes healthy again.
-/

namespace ChillerGateway

namespace Watchdog

open Work (Stretch)

variable {w d : Watchdog} {now past : List Answered} {events : List WatchdogEvent}
  {e : WatchdogEvent} {s : WatchdogState}

/-! ## What a stage leaves behind -/

theorem awaits_of_round (h : w.Round now e) : w.state.awaits e = true := by
  cases h with
  | checked hstate => rw [hstate]; rfl
  | disconnected hstate => rw [hstate]; rfl
  | reconnected hstate => rw [hstate]; rfl
  | failed hstate => rw [hstate]; rfl

/-- After a stage the flag is as the next state has it. -/
theorem flag_of_round (h : w.Round now e) (hs : w.state.after? w.policy e = some s) :
    flag w.device.ref (!w.state.isDown) now = !s.isDown := by
  cases h with
  | @checked time inside result hstate hstatus =>
    rw [flag_append, flag_of_not_flags (not_flags_rested w _ _),
      flag_of_not_flags (not_flags_tenure (not_flags_of_driven hstatus)), hstate]
    rw [hstate] at hs
    cases result with
    | ok => cases hs; rfl
    | error => cases hs; rfl
  | disconnected hstate hclosed =>
    rw [hstate] at hs
    cases hs
    show flag _ (if w.device.ref = w.device.ref then false else _) _ = false
    rw [if_pos rfl]
    exact flag_of_not_flags (not_flags_tenure (not_flags_of_driven hclosed))
  | reconnected hstate hconnect hidentify =>
    rw [hstate] at hs
    cases hs
    rw [flag_append, flag_append]
    simp [flag, WatchdogState.isDown]
  | failed hstate htrying hclosed =>
    have hinside := List.forall_mem_append.mpr
      ⟨not_flags_of_driven htrying, not_flags_of_driven hclosed⟩
    rw [flag_append, flag_append, flag_of_not_flags (not_flags_rested w _ _),
      flag_of_not_flags (not_flags_tenure hinside), hstate]
    rw [hstate] at hs
    rw [WatchdogState.isDown_of_failed hs]
    rfl

/-- A single step of a driver, which may take its time. -/
theorem stepped {α : Type} {ref : Nat} (op : Exchange) (f : op.Answer → α) {es : List Answered}
    {r : α} (h : Stretch (Program.ask (I := Action.interface) (.exchange ref op) fun a =>
      Program.done (f a)) es (Program.done r)) :
    ∃ a rest, es = ⟨.exchange ref op, a⟩ :: rest ∧ ∀ x ∈ rest, x.op.exchanges = false := by
  rcases h.asked with ⟨-, heq⟩ | ⟨a, p, fs, rfl, hfs, rfl | ⟨-, time, rfl⟩⟩
  · cases heq
  · obtain ⟨rfl, -⟩ := hfs.of_done
    exact ⟨a, [], rfl, fun x hx => (by cases hx)⟩
  · obtain ⟨_, gs, rfl, hdone⟩ := hfs.ask_done rfl
    obtain ⟨rfl, -⟩ := hdone.of_done
    exact ⟨a, _, rfl, List.forall_mem_singleton.mpr rfl⟩

/-- Closing closes, whatever was before. -/
theorem closed_of_close {ref : Nat} {b : Backend} {es : List Answered} {r : Except Error Unit}
    (h : Stretch (Work.drive ref (b.perform .close)) es (Program.done r)) (before : Bool) :
    closed ref b before es = true := by
  obtain ⟨op, a, rest, rfl, hop, hrest⟩ : ∃ op a rest, es = ⟨.exchange ref op, a⟩ :: rest ∧
      op.closes b = true ∧ ∀ x ∈ rest, x.op.exchanges = false := by
    cases b with
    | simulated =>
      obtain ⟨a, rest, rfl, hrest⟩ := stepped (.simulated .close) (fun a => a) h
      exact ⟨_, a, rest, rfl, rfl, hrest⟩
    | link timeout =>
      obtain ⟨a, rest, rfl, hrest⟩ := stepped .dropStream (fun a => Except.ok a) h
      exact ⟨_, a, rest, rfl, rfl, hrest⟩
  show closed ref b (if ref = ref then op.closes b || (before && !op.opens) else before) rest = true
  rw [if_pos rfl, hop, closed_of_not_exchanges hrest]
  rfl

/-- A stage after which a device is down has closed it. -/
theorem closed_of_round (h : w.Round now e) (hs : w.state.after? w.policy e = some s)
    (hdown : s.isDown = true) (before : Bool) :
    closed w.device.ref w.device.backend before now = true := by
  have hunlock : ∀ before, closed w.device.ref w.device.backend before
      [⟨.unlock w.device.ref, ()⟩] = before := fun _ => rfl
  cases h with
  | @checked time inside result hstate hstatus =>
    rw [hstate] at hs
    cases result with
    | ok => cases hs; cases hdown
    | error => cases hs; cases hdown
  | @disconnected inside result hstate hclosed =>
    show closed _ _ before (inside ++ [_]) = true
    rw [closed_append, closed_of_close hclosed, hunlock]
  | reconnected hstate hconnect hidentify =>
    rw [hstate] at hs
    cases hs
    cases hdown
  | @failed _ _ _ trying closing _ _ hstate htrying hclosed =>
    rw [closed_append, closed_append]
    show closed _ _ (closed _ _ before ((trying ++ closing) ++ [_])) _ = true
    rw [closed_append, closed_append, closed_of_close hclosed, hunlock]
    rfl

/-! ## The course of a watchdog -/

/-- The stages that a watchdog has completed, with what it was answered up to the announcement of the
last one. -/
inductive Rounds (w : Watchdog) : List Answered → Watchdog → Prop where
  | start : Rounds w [] w
  | next {past now : List Answered} {d : Watchdog} {s : WatchdogState} : Rounds w past d →
      Stretch d.stage now (Program.done (some s)) →
      Rounds w (past ++ (now ++ [⟨.announce d.index s, ()⟩])) { d with state := s }

/-- The end of a round. -/
def ends (next : Option Watchdog) : Work RoundEnd :=
  Program.done (Worker.following .watchdog next)

/-- Where a watchdog is in its state, with what it was answered since it came to it. -/
inductive Within (w : Watchdog) : List Answered → Work RoundEnd → Prop where
  | beginning : Within w [] (Program.done (.again (.watchdog w)))
  | acting {now : List Answered} {q : Work (Option WatchdogState)} : Stretch w.stage now q →
      Within w now ((q.bind w.proceed).bind ends)

/-- A watchdog is always at some point of some state. -/
theorem course_rounds {intake : Intake} {es : List Answered} {p : Work RoundEnd}
    (h : Course intake (Program.done (.again (.watchdog w))) es p) :
    ∃ past now d, es = past ++ now ∧ w.Rounds past d ∧ d.Within now p := by
  induction h with
  | start => exact ⟨[], [], w, rfl, .start, .beginning⟩
  | @answered es op next q a _ hr ih =>
    obtain ⟨past, now, d, rfl, hrounds, hwithin⟩ := ih
    generalize hp : (Program.ask op next : Work RoundEnd) = p at hwithin
    cases hwithin with
    | beginning => cases hp
    | @acting _ q hq =>
      cases q with
      | ask op' next' =>
        cases hp
        rw [List.append_assoc]
        cases hr with
        | now => exact ⟨past, _, d, rfl, hrounds, .acting (hq.answered a)⟩
        | later time hop => exact ⟨past, _, d, rfl, hrounds, .acting (hq.delayed a time hop)⟩
      | done next' =>
        cases next' with
        | none => cases hp
        | some s =>
          cases hp
          obtain rfl := hr.eq rfl
          refine ⟨past ++ (now ++ [⟨.announce d.index s, ()⟩]), [], { d with state := s }, ?_,
            hrounds.next hq, .beginning⟩
          rw [List.append_nil, List.append_assoc]
  | @again es worker _ ih =>
    obtain ⟨past, now, d, rfl, hrounds, hwithin⟩ := ih
    generalize hp : (Program.done (.again worker) : Work RoundEnd) = p at hwithin
    cases hwithin with
    | beginning =>
      cases hp
      have hround : (Worker.watchdog d).round intake = (d.stage.bind d.proceed).bind ends :=
        congrArg (Program.bind · ends) d.round_eq
      rw [hround]
      exact ⟨past, [], d, rfl, hrounds, .acting .start⟩
    | @acting _ q hq =>
      cases q with
      | ask => cases hp
      | done next' => cases next' <;> cases hp

/-- What is asked in a state. -/
theorem Within.asked {op : Action} {next : op.Answer → Work RoundEnd}
    (h : w.Within now (Program.ask op next)) :
    (∃ next', Stretch w.stage now (Program.ask op next')) ∨ op.announces = true := by
  generalize hp : (Program.ask op next : Work RoundEnd) = p at h
  cases h with
  | beginning => cases hp
  | @acting _ q hq =>
    cases q with
    | ask op' next' =>
      cases hp
      exact .inl ⟨next', hq⟩
    | done next' =>
      cases next' with
      | none => cases hp
      | some s =>
        cases hp
        exact .inr rfl

theorem Within.not_announces {p : Work RoundEnd} (h : w.Within now p) :
    ∀ x ∈ now, x.op.announces = false := by
  cases h with
  | beginning => exact fun x hx => by cases hx
  | acting hq => exact not_announces_of_stage hq

/-! ## Lives -/

/-- What a watchdog has been through, with what it was answered. -/
inductive Lived (w : Watchdog) : List Answered → List WatchdogEvent → Watchdog → Prop where
  | start : Lived w [] [] w
  | next {past now : List Answered} {events : List WatchdogEvent} {d : Watchdog}
      {e : WatchdogEvent} {s : WatchdogState} : Lived w past events d → d.Round now e →
      d.state.after? d.policy e = some s →
      Lived w (past ++ (now ++ [⟨.announce d.index s, ()⟩])) (events ++ [e]) { d with state := s }

theorem Lived.eq (h : w.Lived past events d) : d = { w with state := d.state } := by
  induction h with
  | start => rfl
  | next _ _ _ ih => rw [ih]

theorem Lived.device_eq (h : w.Lived past events d) : d.device = w.device := by rw [h.eq]

theorem Lived.index_eq (h : w.Lived past events d) : d.index = w.index := by rw [h.eq]

theorem Lived.policy_eq (h : w.Lived past events d) : d.policy = w.policy := by rw [h.eq]

/-- **A watchdog that is told the truth of its flag lives by the rules of its states**, and when it
comes to a state the device is as the state has it. -/
theorem Rounds.lived (h : w.Rounds past d) (hw : w.state = .healthy)
    (ht : Truthful w.device.ref true past) :
    (∃ events, w.Lived past events d) ∧ flag w.device.ref true past = !d.state.isDown ∧
      (d.state.isDown = true → closed w.device.ref w.device.backend false past = true) := by
  induction h with
  | start =>
    refine ⟨⟨[], .start⟩, ?_, fun hdown => ?_⟩
    · rw [hw]
      rfl
    · rw [hw] at hdown
      cases hdown
  | @next past now d s hrounds hstage ih =>
    obtain ⟨hpast, hnow⟩ := truthful_append.mp ht
    obtain ⟨⟨events, hlived⟩, hflag, -⟩ := ih hpast
    obtain ⟨hnow, -⟩ := truthful_append.mp hnow
    have hdevice := hlived.device_eq
    rw [hflag, ← hdevice] at hnow
    obtain ⟨e, hround, hs⟩ := stage_done hstage fun hdown => by rwa [hdown] at hnow
    refine ⟨⟨_, hlived.next hround hs⟩, ?_, fun hdown => ?_⟩
    · rw [flag_append, flag_append, hflag, ← hdevice, flag_of_round hround hs]
      rfl
    · rw [closed_append, closed_append, ← hdevice, closed_of_round hround hs hdown]
      rfl

theorem Lived.reached (h : w.Lived past events d) (hw : w.state = .healthy) :
    WatchdogState.Reached w.policy events d.state := by
  induction h with
  | start => exact hw ▸ .start
  | next hlived hround hs ih =>
    exact .next ih (awaits_of_round hround) (hlived.policy_eq ▸ hs)

theorem not_announces_of_round (h : w.Round now e) : ∀ x ∈ now, x.op.announces = false := by
  have hrested : ∀ {time span}, ∀ x ∈ w.rested time span, x.op.announces = false := by
    simp [rested, Action.announces]
  have htenure : ∀ {inside : List Answered}, (∀ x ∈ inside, x.op.announces = false) →
      ∀ x ∈ tenure w.device.ref inside, x.op.announces = false := forall_mem_tenure rfl rfl
  cases h with
  | checked _ hstatus =>
    exact List.forall_mem_append.mpr ⟨hrested, htenure (not_announces_of_driven hstatus)⟩
  | disconnected _ hclosed =>
    exact List.forall_mem_cons.mpr ⟨rfl, htenure (not_announces_of_driven hclosed)⟩
  | reconnected _ hconnect hidentify =>
    refine List.forall_mem_append.mpr ⟨hrested, List.forall_mem_append.mpr ⟨?_, ?_⟩⟩
    · exact htenure (List.forall_mem_append.mpr
        ⟨not_announces_of_driven hconnect, not_announces_of_driven hidentify⟩)
    · simp [Action.announces]
  | failed _ htrying hclosed =>
    refine List.forall_mem_append.mpr ⟨hrested, List.forall_mem_append.mpr ⟨?_, ?_⟩⟩
    · exact htenure (List.forall_mem_append.mpr
        ⟨not_announces_of_driven htrying, not_announces_of_driven hclosed⟩)
    · simp [Action.announces]

/-- A watchdog is in the state that it announced last. -/
theorem Lived.announced_eq (h : w.Lived past events d) :
    announced w.index w.state past = d.state := by
  induction h with
  | start => rfl
  | @next past now events d e s hlived hround _ ih =>
    rw [announced_append, announced_append, ih,
      announced_of_not_announces (not_announces_of_round hround), ← hlived.index_eq]
    show (if d.index = d.index then s else _) = s
    exact if_pos rfl

/-- **A watchdog comes back to being healthy only by opening the device and having it identify
itself**, both under one hold of its lock. -/
theorem Lived.recovered (h : w.Lived past events d) {before after : List Answered}
    (hpast : past = before ++ ⟨.announce w.index .healthy, ()⟩ :: after)
    (hill : announced w.index w.state before ≠ .healthy) :
    ∃ earlier connecting identifying identity,
      before = earlier ++ (tenure w.device.ref (connecting ++ identifying) ++
        [⟨.setOnline w.device.ref true, ()⟩, ⟨.isOnline w.device.ref, true⟩]) ∧
      Stretch (Work.drive w.device.ref (w.device.backend.perform .connect)) connecting
        (Program.done (.ok ())) ∧
      Stretch (Work.drive w.device.ref (w.device.backend.perform .identify)) identifying
        (Program.done (.ok identity)) := by
  induction h generalizing after with
  | start => simp at hpast
  | @next past now events d e s hlived hround hs ih =>
    have hquiet := not_announces_of_round hround
    rw [← List.append_assoc, hlived.index_eq] at hpast
    rcases List.eq_nil_or_concat after with rfl | ⟨after, last, rfl⟩
    · -- It is the announcement of the last stage.
      obtain ⟨rfl, hlast⟩ := List.append_inj' hpast rfl
      cases hlast
      rw [announced_append, hlived.announced_eq, announced_of_not_announces hquiet] at hill
      rw [← hlived.device_eq]
      cases hround with
      | checked hstate => exact absurd hstate hill
      | disconnected hstate =>
        rw [hstate] at hs
        cases hs
      | @reconnected _ backoff time connecting identifying identity _ hconnect hidentify =>
        exact ⟨past ++ d.rested time backoff, connecting, identifying, identity,
          (List.append_assoc _ _ _).symm, hconnect, hidentify⟩
      | failed hstate =>
        rw [hstate] at hs
        cases WatchdogState.isDown_of_failed hs
    · rw [List.concat_eq_append, ← List.cons_append, ← List.append_assoc] at hpast
      obtain ⟨hbefore, -⟩ := List.append_inj' hpast rfl
      rcases List.append_eq_append_iff.mp hbefore with ⟨inner, rfl, hinner⟩ | ⟨inner, hinner, hnow⟩
      · have hnot := hquiet _ (hinner ▸ List.mem_append_right inner List.mem_cons_self)
        cases hnot
      · cases inner with
        | nil =>
          have hnot := hquiet _ ((show _ = now from hnow) ▸ List.mem_cons_self)
          cases hnot
        | cons x inner =>
          cases hnow
          exact ih hinner

end Watchdog

end ChillerGateway
