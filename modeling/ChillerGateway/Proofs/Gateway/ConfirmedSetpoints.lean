import ChillerGateway.Proofs.Device.Attempt
import ChillerGateway.Proofs.Gateway.Handling

/-!
# Confirmed setpoints

A request for a setpoint that reaches a device has the driver read the value before, write the new
one and confirm it.  The reply is made from one more reading: only if that succeeds too, the client
gets it and the audit trail a record.

* `Setting` — what the driver came to.
* `Gateway.setpoint_confirmed_iff` — the result and the records of every request for a setpoint.
* `Gateway.handling_of_setting` — whatever the driver may come to, a request can come to it.
* `Gateway.setpoint_confirmed_unrecorded` — a setpoint that was confirmed and left no record.
-/

namespace ChillerGateway

open Work (Stretch)

/-- What the driver of a device came to that was given a setpoint. -/
structure Setting where
  device : Handle
  value : Binary64
  prior : Except Error Binary64
  /-- What came of writing the value and confirming it. -/
  wrote : Except Error Unit
  /-- What came of one more reading; of none, after a write that failed. -/
  shown : Except Error Binary64
  /-- What was answered in each of the three. -/
  reading : List Answered
  writing : List Answered
  showing : List Answered

namespace Setting

/-- The driver came to this. -/
structure Made (s : Setting) : Prop where
  read : Stretch (Work.drive s.device.ref (s.device.backend.perform .setpoint)) s.reading
    (Program.done s.prior)
  wrote : Stretch (Work.drive s.device.ref (s.device.backend.perform (.setSetpoint s.value)))
    s.writing (Program.done s.wrote)
  shown : s.wrote = .ok () → Stretch (Work.drive s.device.ref (s.device.backend.perform .setpoint))
    s.showing (Program.done s.shown)
  unconfirmed : ∀ e, s.wrote = .error e → s.showing = [] ∧ s.shown = .error e

/-- The record of a setpoint that was shown. -/
def entry (s : Setting) (client : String) (x : Binary64) : AuditEntry :=
  ⟨client, s.device.id, "set_setpoint", s.prior.toOption.map (·.write .plain),
    (Json.ofBinary64 x).render⟩

/-- The result for the client. -/
def result (s : Setting) : Except Error Json :=
  match s.shown with
  | .ok x => .ok (.ofBinary64 x)
  | .error e => .error (Gateway.recovering e)

/-- What the audit trail receives. -/
def records (s : Setting) (client : String) : List AuditEntry :=
  match s.shown with
  | .ok x => [s.entry client x]
  | .error _ => []

/-- What was answered under the lock of the device. -/
def asked (s : Setting) (client : String) : List Answered :=
  ⟨.isOnline s.device.ref, true⟩ :: (s.reading ++ (s.writing ++ s.showing ++
    (s.records client).map fun entry => ⟨.audit entry, ()⟩))

/-- What the trail receives is a record of a setpoint that was shown, or nothing. -/
theorem Made.audits_asked {s : Setting} (h : s.Made) (client : String) :
    audits (s.asked client) = s.records client := by
  have hshowing : audits s.showing = [] := by
    cases hwrote : s.wrote with
    | ok _ => exact (h.shown hwrote).audits_drive
    | error e =>
      rw [(h.unconfirmed e hwrote).1]
      rfl
  unfold asked records
  rw [audits_cons rfl, audits_append, audits_append, audits_append, h.read.audits_drive,
    h.wrote.audits_drive, hshowing]
  cases s.shown <;> rfl

/-- Nor does it receive anything else, if the lock was taken for that between harmless questions. -/
theorem Made.audits_tenure {s : Setting} (h : s.Made) (client : String)
    {before after : List Answered} (hothers : ∀ x ∈ before ++ after, x.op.isHarmless = true) :
    audits (before ++ tenure s.device.ref (s.asked client) ++ after) = s.records client := by
  rw [List.forall_mem_append] at hothers
  unfold tenure
  rw [audits_append, audits_append, audits_cons rfl, audits_append, h.audits_asked,
    audits_of_isHarmless hothers.1, audits_of_isHarmless hothers.2]
  simp [audits, Answered.audit?]

end Setting

/-- A command for a setpoint has a value. -/
theorem Command.eq_setSetpoint {c : Command} (h : c.name = "set_setpoint") :
    ∃ value, c = .setSetpoint value := by
  unfold name at h
  split at h
  case h_4 value => exact ⟨value, rfl⟩
  all_goals exact absurd h (by decide)

namespace Gateway

variable {limited : Bool} {intake : Intake} {line client : String} {r : Request}
  {es : List Answered} {result : Except Error Json}

/-- The driver of a device that is online is given a setpoint. -/
theorem setting_of_run {device : Handle} {value : Binary64}
    (h : Stretch (run device (.setSetpoint value) client) es (Program.done result)) :
    ∃ s : Setting, s.Made ∧ s.device = device ∧ s.value = value ∧ result = s.result ∧
      ⟨.isOnline device.ref, true⟩ :: es = s.asked client := by
  rcases Errand.run_cases h with ⟨hc, taken, outcome, reading, during, rest, rfl, hprior, hwrote,
    hend⟩ | ⟨hnot, -⟩
  · rw [Command.drive_priorValue hc] at hprior
    obtain ⟨prior, reading, after, rfl, hread, hdone⟩ := hprior.bind_done
    obtain ⟨rfl, heq⟩ := hdone.of_done
    cases heq
    rcases hwrote.attempt_bind with ⟨e, rfl, hfailed⟩ | ⟨_, writing, after, rfl, hwritten, hshow⟩
    · -- The write failed, or no reading confirmed it.
      rcases hend with ⟨_, heq, rfl, rfl⟩ | ⟨_, heq, -⟩
      · cases heq
        refine ⟨⟨device, value, prior, .error e, .error e, reading, during, []⟩,
          ⟨hread, hfailed, ?_, ?_⟩, rfl, rfl, rfl, by simp [Setting.asked, Setting.records]⟩
        · intro hok
          cases hok
        · rintro _ ⟨⟩
          exact ⟨rfl, rfl⟩
      · cases heq
    · have hmade : ∀ shown showing, Stretch (Work.drive device.ref
          (device.backend.perform .setpoint)) showing (Program.done shown) →
          Setting.Made ⟨device, value, prior, .ok (), shown, reading, writing, showing⟩ := by
        intro shown showing hshown
        refine ⟨hread, hwritten, fun _ => hshown, ?_⟩
        rintro _ ⟨⟩
      rcases hshow.attempt_bind with ⟨e, rfl, hfailed⟩ | ⟨x, showing, last, rfl, hshown, hlast⟩
      · -- It was confirmed, and then could not be shown.
        rcases hend with ⟨_, heq, rfl, rfl⟩ | ⟨_, heq, -⟩
        · cases heq
          exact ⟨_, hmade _ _ hfailed, rfl, rfl, rfl, by simp [Setting.asked, Setting.records]⟩
        · cases heq
      · obtain ⟨rfl, heq⟩ := hlast.of_done
        cases heq
        rcases hend with ⟨_, heq, -⟩ | ⟨_, heq, rfl, rfl⟩
        · cases heq
        · cases heq
          refine ⟨_, hmade _ _ hshown, rfl, rfl, rfl, ?_⟩
          simp [Setting.asked, Setting.records, Setting.entry, Except.toOption, Command.state,
            Command.name]
  · cases hnot

/-- **What comes of a request for a setpoint.**  Unless it is refused before the driver is asked, the
driver reads the value, writes the new one and confirms it, and reads once more.  A setpoint that
the driver confirmed gets a reply with the reading and exactly one record, if and only if that last
reading succeeds; else the client gets an error, and nothing is recorded. -/
theorem setpoint_confirmed_iff (hline : Request.ofLine? line = some r)
    (hname : r.command = some "set_setpoint")
    (h : Stretch (handling limited intake line client) es (Program.done result)) :
    ((∀ x ∈ es, x.op.exchanges = false) ∧ (∃ e, result = .error e) ∧ audits es = []) ∨
    ∃ (s : Setting) (before after : List Answered), s.Made ∧
      Command.parse "set_setpoint" r.value = .ok (.setSetpoint s.value) ∧
      ⟨.resolve r.chillerId, some s.device⟩ ∈ before ∧
      es = before ++ tenure s.device.ref (s.asked client) ++ after ∧
      (∀ x ∈ before ++ after, x.op.exchanges = false) ∧
      result = s.result ∧ audits es = s.records client ∧
      (s.wrote = .ok () →
        ((∃ json, result = .ok json) ∧ (audits es).length = 1 ↔ ∃ x, s.shown = .ok x)) ∧
      ∀ e, s.wrote = .error e → result = .error (recovering e) ∧ audits es = [] := by
  cases handled h with
  | refused hes =>
    refine .inl ⟨fun x hx => ?_, ⟨_, rfl⟩, audits_of_isHarmless hes⟩
    exact Action.not_exchanges_of_isHarmless (hes x hx)
  | answered hes hother => exact absurd (hother r _ hline hname) (by decide)
  | @executed r' device command before inside after _ hline' hname' hparse hdevice hothers hrun =>
    cases hline.symm.trans hline'
    have hcommand : command.name = "set_setpoint" := Option.some.inj (hname'.symm.trans hname)
    obtain ⟨value, rfl⟩ := Command.eq_setSetpoint hcommand
    obtain ⟨s, hmade, rfl, rfl, rfl, hasked⟩ := setting_of_run hrun
    have hrecords := hmade.audits_tenure client hothers
    refine .inr ⟨s, before, after, hmade, hparse, hdevice, by rw [hasked], ?_, rfl, ?_, ?_, ?_⟩
    · exact fun x hx => Action.not_exchanges_of_isHarmless (hothers x hx)
    · rw [hasked, hrecords]
    · intro _
      rw [hasked, hrecords]
      unfold Setting.result Setting.records
      cases s.shown with
      | ok x => simp
      | error e => simp
    · intro e hwrote
      rw [hasked, hrecords]
      unfold Setting.result Setting.records
      rw [(hmade.unconfirmed e hwrote).2]
      exact ⟨rfl, rfl⟩

/-- Whatever the driver may come to, the command can come to it. -/
theorem run_of_setting {s : Setting} (h : s.Made) (client : String) :
    Stretch (run s.device (.setSetpoint s.value) client)
      (s.reading ++ (s.writing ++ s.showing ++
        (s.records client).map fun entry => ⟨.audit entry, ()⟩)) (Program.done s.result) := by
  have hprior : Stretch (Work.drive s.device.ref
      ((Command.setSetpoint s.value).priorValue s.device.backend)) s.reading
      (Program.done (.ok (s.prior.toOption.map (·.write .plain)))) := by
    rw [Command.drive_priorValue (by rfl)]
    exact h.read.bind
  have hcommand : Stretch (Work.drive s.device.ref
      ((Command.setSetpoint s.value).execute s.device.backend)) (s.writing ++ s.showing)
      (Program.done (s.shown.map .ofBinary64)) := by
    cases hwrote : s.wrote with
    | error e =>
      obtain ⟨hshowing, hshown⟩ := h.unconfirmed e hwrote
      rw [hshowing, hshown, List.append_nil]
      exact (hwrote ▸ h.wrote).attempt_bind_error
    | ok _ =>
      refine (hwrote ▸ h.wrote).attempt_bind_ok ?_
      have hread := h.shown hwrote
      cases hshown : s.shown with
      | error e => exact (hshown ▸ hread).attempt_bind_error
      | ok x =>
        rw [← List.append_nil s.showing]
        exact (hshown ▸ hread).attempt_bind_ok .start
  refine Stretch.bind_trans hprior (Stretch.bind_trans hcommand ?_)
  unfold Setting.records Setting.result
  cases s.shown with
  | error e => exact .start
  | ok x => exact .cons _ .start

/-- What is left of a command when its outcome is known: it counts, if it succeeded. -/
def counting (name : String) (began : Nat) : Except Error Json → Work (Except Error Json)
  | .error e => Program.done (.error e)
  | .ok result => (Work.ask (.countCommand name none began)).bind fun _ => Program.done (.ok result)

/-- Whatever the driver may come to, a request for a setpoint can come to it. -/
theorem handling_of_setting {s : Setting} (h : s.Made) (hline : Request.ofLine? line = some r)
    (hname : r.command = some "set_setpoint")
    (hparse : Command.parse "set_setpoint" r.value = .ok (.setSetpoint s.value))
    (client : String) :
    ∃ closing, (∀ x ∈ closing, x.op.isHarmless = true) ∧
      Stretch (handling false {} line client)
        ([⟨.beginCommand, ⟨{}, 0⟩⟩, ⟨.resolve r.chillerId, some s.device⟩,
          ⟨.isOnline s.device.ref, true⟩] ++ tenure s.device.ref (s.asked client) ++ closing)
        (Program.done s.result) := by
  have hexecute : Stretch (execute s.device (.setSetpoint s.value) client)
      (tenure s.device.ref (s.asked client)) (Program.done s.result) := by
    unfold execute tenure Setting.asked
    rw [Work.locked_eq]
    refine .cons _ (Stretch.bind_trans (Stretch.question _ ?_) (.cons _ .start))
    exact run_of_setting h client
  have hdispatch : dispatch s.device "set_setpoint" r client =
      execute s.device (.setSetpoint s.value) client := by
    unfold dispatch
    simp only [hparse]
    rfl
  have hnamed : nonEmpty r.command = some "set_setpoint" := by
    rw [hname]
    rfl
  have houtcome : ∀ {fs}, Stretch ((dispatch s.device "set_setpoint" r client).bind
      (counting "set_setpoint" 0)) fs (Program.done s.result) →
      Stretch (outcome {} line client) ([⟨.beginCommand, ⟨{}, 0⟩⟩,
        ⟨.resolve r.chillerId, some s.device⟩, ⟨.isOnline s.device.ref, true⟩] ++ fs)
          (Program.done s.result) := by
    intro fs hserved
    unfold outcome process
    rw [Request.parse_eq_ok_iff.mpr hline]
    simp only [isAuthorized, hnamed]
    exact .cons _ (.cons _ (.cons _ hserved))
  rw [hdispatch] at houtcome
  have hhandling : handling false {} line client = (outcome {} line client).bind counted := rfl
  rw [hhandling]
  cases hresult : s.result with
  | error e =>
    rw [hresult] at hexecute houtcome
    refine ⟨[⟨.countError e.kind, ()⟩], List.forall_mem_singleton.mpr rfl, ?_⟩
    refine Stretch.bind_trans (houtcome ?_) (.cons _ .start)
    exact hexecute.bind
  | ok json =>
    rw [hresult] at hexecute houtcome
    refine ⟨[⟨.countCommand "set_setpoint" none 0, ()⟩], List.forall_mem_singleton.mpr rfl, ?_⟩
    rw [← List.append_nil (_ ++ _ ++ _), List.append_assoc _ (tenure _ _)]
    refine Stretch.bind_trans (houtcome ?_) .start
    exact hexecute.bind_trans (.cons _ .start)

end Gateway

/-! ## On a link -/

namespace LinkDevice

variable {α : Type}

/-- What a driver program that is alone with a link is answered. -/
def answers (ref : Nat) : Program Exchange.interface α → Nat → LinkDevice → List Answered
  | .done _, _, _ => []
  | .ask op next, now, l =>
    ⟨.exchange ref op, (l.exchange now op).2.1⟩ ::
      answers ref (next (l.exchange now op).2.1) (l.exchange now op).1 (l.exchange now op).2.2

theorem stretch_answers (ref : Nat) (p : Program Exchange.interface α) (now : Nat)
    (l : LinkDevice) :
    Stretch (Program.within (I := Exchange.interface) (fun op => Work.ask (.exchange ref op)) p)
      (answers ref p now l) (Program.done (execute p now l).1) := by
  induction p generalizing now l with
  | done a => exact .start
  | ask op next ih => exact Stretch.cons _ (ih _ _ _)

theorem dialogue_answers (ref : Nat) (p : Program Exchange.interface α) (now : Nat)
    (l : LinkDevice) :
    Device.Dialogue ref (.link l) (answers ref p now l) (.link (execute p now l).2.2) := by
  induction p generalizing now l with
  | done a => exact .start ref _
  | ask op next ih => exact ⟨_, _, .refl, .driven now op (.link l), ih _ _ _⟩

theorem stretch_attempt (ref : Nat) (p : Attempt α) (now : Nat) (l : LinkDevice) :
    Stretch (Work.drive ref p) (answers ref p.run now l) (Program.done (attempt p now l).1) :=
  stretch_answers ref p.run now l

/-- The device of a gateway that is this link. -/
def handle (l : LinkDevice) : Handle := ⟨0, World.defaultId, .link l.timeout⟩

/-- What the driver comes to that is alone with a link, from one reading to the next. -/
def setting (l : LinkDevice) (value : Binary64) : Setting :=
  let read := l.handle.backend.perform .setpoint
  let write := l.handle.backend.perform (.setSetpoint value)
  let before := attempt read 0 l
  let written := attempt write before.2.1 before.2.2
  { device := l.handle
    value
    prior := before.1
    wrote := written.1
    shown := written.1.bind fun _ => (attempt read written.2.1 written.2.2).1
    reading := answers 0 read.run 0 l
    writing := answers 0 write.run before.2.1 before.2.2
    showing :=
      if written.1.toOption.isSome then answers 0 read.run written.2.1 written.2.2 else [] }

theorem made_setting (l : LinkDevice) (value : Binary64) : (l.setting value).Made := by
  refine ⟨stretch_attempt 0 _ _ _, stretch_attempt 0 _ _ _, ?_, ?_⟩
  · intro hwrote
    unfold setting at hwrote ⊢
    simp only at hwrote ⊢
    rw [hwrote]
    exact stretch_attempt 0 _ _ _
  · intro e hwrote
    unfold setting at hwrote ⊢
    simp only at hwrote ⊢
    rw [hwrote]
    exact ⟨rfl, rfl⟩

/-- All of that is the link's own doing. -/
theorem dialogue_setting (l : LinkDevice) (value : Binary64) : ∃ d,
    Device.Dialogue 0 (.link l) ((l.setting value).reading ++ ((l.setting value).writing ++
      (l.setting value).showing)) d := by
  have hshowing : ∀ now l', ∃ d, Device.Dialogue 0 (.link l') (if
      ((l.setting value).wrote).toOption.isSome then
        answers 0 (l.handle.backend.perform .setpoint).run now l' else []) d := by
    intro now l'
    split
    · exact ⟨_, dialogue_answers 0 _ now l'⟩
    · exact ⟨_, .start 0 _⟩
  obtain ⟨d, hd⟩ := hshowing _ _
  exact ⟨d, Device.Dialogue.append_iff.mpr ⟨_, dialogue_answers 0 _ _ _,
    Device.Dialogue.append_iff.mpr ⟨_, dialogue_answers 0 _ _ _, hd⟩⟩⟩

/-- A driver program at a moment of a link: its result, and the moment at which it is over. -/
def proceed (p : Attempt α) (x : Nat × LinkDevice) : Except Error α × Nat × LinkDevice :=
  attempt p x.1 x.2

/-- What the parts of a setting come to: the line that writes, the first reading after it, and a
later one. -/
def parts (l : LinkDevice) (value : Binary64) :
    Except Error Unit × Except Error (Bool × String) × Except Error Binary64 :=
  let prior := proceed (Link.queryNumber l.timeout "in_sp_00") (0, l)
  let sent := proceed (Link.write ("out_sp_00 " ++ value.toFixed 1)) prior.2
  let first := proceed (Link.observe l.timeout (.setpoint value)) sent.2
  (sent.1, first.1, (proceed (Link.queryNumber l.timeout "in_sp_00") first.2).1)

/-- The first reading confirms a value that was written, and one more shows it, or does not. -/
theorem setting_confirmed {l : LinkDevice} {value : Binary64} {seen : String}
    {shown : Except Error Binary64} (hx : Setpoint.InRange value)
    (h : l.parts value = (.ok (), .ok (true, seen), shown)) :
    (l.setting value).wrote = .ok () ∧ (l.setting value).shown = shown := by
  obtain ⟨x₀, hread⟩ : ∃ x, (attempt (Link.queryNumber l.timeout "in_sp_00") 0 l).2 = x := ⟨_, rfl⟩
  unfold parts proceed at h
  simp only [hread, Prod.mk.injEq] at h
  obtain ⟨hwrite, hobserve, hshow⟩ := h
  have hvalid : attempt (ExceptT.mk (pure (Setpoint.validate value))) x₀.1 x₀.2 = (.ok (), x₀) := by
    rw [attempt_mk, Setpoint.validate_accepted hx]
  have hset : attempt (l.handle.backend.perform (.setSetpoint value)) x₀.1 x₀.2 = (.ok (),
      (attempt (Link.observe l.timeout (.setpoint value))
        (attempt (Link.write ("out_sp_00 " ++ value.toFixed 1)) x₀.1 x₀.2).2.1
        (attempt (Link.write ("out_sp_00 " ++ value.toFixed 1)) x₀.1 x₀.2).2.2).2) := by
    show attempt (Link.setSetpoint l.timeout value) x₀.1 x₀.2 = _
    unfold Link.setSetpoint Link.verify Link.verifyAttempts
    rw [attempt_bind_ok hvalid, attempt_bind_ok (Prod.ext hwrite rfl), Link.verifyFrom, attempt_bind,
      attempt_outcome, hobserve]
    rfl
  have hbefore : (attempt (l.handle.backend.perform .setpoint) 0 l).2 = x₀ := hread
  unfold setting
  simp only [hbefore, hset, true_and]
  exact hshow

/-- A new link to a far end that answers its first lines like this, and then no more. -/
def answering (answers : List String) : LinkDevice :=
  let far : FarEnd := { responder := .script (answers.map fun a => Responder.answerText a) false }
  (openStream { timeout := 500, farEnd := far } 0).2

end LinkDevice

namespace Gateway

open Device (Dialogue)
open LinkDevice (answering)

/-- A request for 30 °C. -/
def thirty : String := "\x7b\"command\":\"set_setpoint\",\"value\":30\x7d"

theorem parse_thirty : ∃ r, Request.ofLine? thirty = some r ∧ r.command = some "set_setpoint" ∧
    Command.parse "set_setpoint" r.value = .ok (.setSetpoint 30) := by
  have hall : (Request.ofLine? thirty).any (fun r => r.command = some "set_setpoint" ∧
      Command.parse "set_setpoint" r.value = .ok (.setSetpoint 30)) = true := by
    decide +kernel
  obtain ⟨r, hline, hr⟩ := (Option.any_eq_true _ _).mp hall
  exact ⟨r, hline, of_decide_eq_true hr⟩

/-- What the driver comes to that is given 30 °C, on a link whose far end answers like this. -/
def thirtyOn (answers : List String) : Setting := (answering answers).setting 30

theorem made_thirtyOn (answers : List String) : (thirtyOn answers).Made :=
  (answering answers).made_setting 30

/-- The far end answers up to the confirmation, and then no more. -/
theorem thirtyOn_quiet : (thirtyOn ["20.00", "30.00"]).wrote = .ok () ∧
    (thirtyOn ["20.00", "30.00"]).shown = .error .timeout := by
  have hparts : (answering ["20.00", "30.00"]).parts 30 =
      (.ok (), .ok (true, "30.00 °C"), .error .timeout) := by
    decide +kernel
  exact LinkDevice.setting_confirmed (by decide +kernel) hparts

/-- The far end answers once more. -/
theorem thirtyOn_shown : (thirtyOn ["20.00", "30.00", "30.00"]).wrote = .ok () ∧
    (thirtyOn ["20.00", "30.00", "30.00"]).shown = .ok 30 := by
  have hparts : (answering ["20.00", "30.00", "30.00"]).parts 30 =
      (.ok (), .ok (true, "30.00 °C"), .ok 30) := by
    decide +kernel
  exact LinkDevice.setting_confirmed (by decide +kernel) hparts

/-- A confirmed setpoint that is shown gets a reply and one record. -/
theorem setpoint_confirmed_shown : ∃ es json,
    Stretch (handling false {} thirty "127.0.0.1") es (Program.done (.ok json)) ∧
      (audits es).length = 1 := by
  obtain ⟨r, hline, hname, hparse⟩ := parse_thirty
  obtain ⟨hwrote, hshown⟩ := thirtyOn_shown
  obtain ⟨closing, -, h⟩ := handling_of_setting (made_thirtyOn ["20.00", "30.00", "30.00"]) hline
    hname hparse "127.0.0.1"
  have hresult : (thirtyOn ["20.00", "30.00", "30.00"]).result = .ok (.ofBinary64 30) := by
    unfold Setting.result
    rw [hshown]
  rw [hresult] at h
  refine ⟨_, _, h, ?_⟩
  rcases setpoint_confirmed_iff hline hname h with ⟨-, ⟨e, heq⟩, -⟩ | ⟨s, -, -, -, -, -, -, -, hok,
    haudits, -, -⟩
  · cases heq
  · unfold Setting.result at hok
    rw [haudits]
    unfold Setting.records
    cases hshown : s.shown with
    | ok x => rfl
    | error e =>
      rw [hshown] at hok
      cases hok

/-- **A confirmed setpoint may go unrecorded.**  The far end shows the new setpoint once, which
confirms it, and is silent when it is asked again: the client gets an error, and the trail has no
record. -/
theorem setpoint_confirmed_unrecorded : ∃ (s : Setting) (es : List Answered) (d : Device),
    Stretch (handling false {} thirty "127.0.0.1") es (Program.done (.error .timeout)) ∧
      Dialogue s.device.ref (.link (answering ["20.00", "30.00"])) es d ∧
      s.Made ∧ s.value = 30 ∧ s.wrote = .ok () ∧
      tenure s.device.ref (s.asked "127.0.0.1") <:+: es ∧ audits es = [] := by
  obtain ⟨r, hline, hname, hparse⟩ := parse_thirty
  obtain ⟨hwrote, hshown⟩ := thirtyOn_quiet
  have hmade := made_thirtyOn ["20.00", "30.00"]
  obtain ⟨closing, hclosing, h⟩ := handling_of_setting hmade hline hname hparse "127.0.0.1"
  have hresult : (thirtyOn ["20.00", "30.00"]).result = .error .timeout := by
    unfold Setting.result
    rw [hshown]
    rfl
  have hrecords : (thirtyOn ["20.00", "30.00"]).records "127.0.0.1" = [] := by
    unfold Setting.records
    rw [hshown]
  rw [hresult] at h
  obtain ⟨d, hd⟩ := (answering ["20.00", "30.00"]).dialogue_setting 30
  refine ⟨_, _, d, h, ?_, hmade, rfl, hwrote, ⟨_, _, rfl⟩, ?_⟩
  · have hinside : tenure 0 ((thirtyOn ["20.00", "30.00"]).asked "127.0.0.1") =
        [⟨.lock 0, ()⟩, ⟨.isOnline 0, true⟩] ++ ((thirtyOn ["20.00", "30.00"]).reading ++
          ((thirtyOn ["20.00", "30.00"]).writing ++ (thirtyOn ["20.00", "30.00"]).showing)) ++
            [⟨.unlock 0, ()⟩] := by
      unfold tenure Setting.asked
      rw [hrecords]
      simp [thirtyOn, LinkDevice.setting, LinkDevice.handle]
    have hasked : Dialogue 0 (.link (answering ["20.00", "30.00"]))
        (tenure 0 ((thirtyOn ["20.00", "30.00"]).asked "127.0.0.1")) d := by
      rw [hinside]
      refine Dialogue.append_iff.mpr ⟨d, Dialogue.append_iff.mpr ⟨_, .aside _ ?_, hd⟩, .aside _ ?_⟩
      · simp [Action.exchanges]
      · simp [Action.exchanges]
    refine Dialogue.append_iff.mpr ⟨d, Dialogue.append_iff.mpr ⟨_, .aside _ ?_, hasked⟩, .aside _ ?_⟩
    · simp [Action.exchanges]
    · exact fun x hx => Action.not_exchanges_of_isHarmless (hclosing x hx)
  · have hothers : ∀ x ∈ ([⟨.beginCommand, ⟨{}, 0⟩⟩, ⟨.resolve r.chillerId,
        some (thirtyOn ["20.00", "30.00"]).device⟩, ⟨.isOnline 0, true⟩] : List Answered) ++ closing,
          x.op.isHarmless = true :=
      List.forall_mem_append.mpr ⟨by simp [Action.isHarmless], hclosing⟩
    rw [← hrecords]
    exact hmade.audits_tenure "127.0.0.1" hothers

end Gateway

end ChillerGateway
