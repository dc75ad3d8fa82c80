import ChillerGateway.Proofs.Gateway.AuditTrail

/-!
# The handling of a line

A line of a client is counted against the client's limit, read as a request, and processed; a
failure is counted.  What comes of it is the result, and the reply says no more than that.

* `Gateway.handling` — the handling of a line, which connections and single requests have in common.
* `Gateway.Handled` — what can come of it, by what was asked of the device.
* `Gateway.handled` — that nothing else can.
* `Gateway.failures_eq` — what is counted of a failure.
* `World.Handling` — a line that a worker handles in a run; `World.handling_of_run` follows it.
-/

namespace ChillerGateway

namespace Gateway

/-- The result of a line: that of the request which it holds. -/
def outcome (intake : Intake) (line client : String) : Work (Except Error Json) :=
  match Request.parse line intake.remark with
  | .error e => Program.done (.error e)
  | .ok r => process intake.auth r client

/-- A result; a failure is counted. -/
def counted (result : Except Error Json) : Work (Except Error Json) := do
  if let .error e := result then Work.ask (.countError e.kind)
  return result

/-- The handling of a line up to its result.  The lines of a connection count against the limit of
its client. -/
def handling (limited : Bool) (intake : Intake) (line client : String) :
    Work (Except Error Json) :=
  (if limited then checkRate client else Program.done (.ok ())).bind fun
    | .ok () => (outcome intake line client).bind counted
    | .error e => counted (.error e)

/-! ## Who handles lines -/

theorem respond_eq (result : Except Error Json) :
    respond result = (counted result).bind fun r => Program.done (Reply.ofResult r) := by
  cases result <;> rfl

/-- The reply to a line is that for its result. -/
theorem handleLine_outcome (intake : Intake) (line client : String) :
    handleLine intake line client = (outcome intake line client).bind fun r =>
      (counted r).bind fun r => Program.done (Reply.ofResult r) := by
  rw [show (fun r => (counted r).bind fun r => Program.done (Reply.ofResult r)) = respond from
    (funext respond_eq).symm]
  unfold handleLine outcome
  cases Request.parse line intake.remark <;> rfl

theorem handleLine_eq (intake : Intake) (line client : String) :
    handleLine intake line client =
      (handling false intake line client).bind fun r => Program.done (Reply.ofResult r) := by
  rw [handleLine_outcome]
  exact (Program.bind_assoc _ _ _).symm

/-- A single request handles its line. -/
theorem round_request (intake : Intake) (line client : String) :
    (Worker.request line client).round intake =
      (handling false intake line client).bind fun r =>
        Program.done (.ended (some (.ofResult r))) := by
  show (handleLine intake line client).bind _ = _
  rw [handleLine_eq, Program.bind_assoc]
  rfl

/-- A connection handles each of its lines that is not blank, and sends the reply. -/
theorem answer_eq (c : Connection) (intake : Intake) {line : String}
    (h : (Text.trim line).isEmpty = false) :
    c.answer intake line = (handling true intake (Text.trim line) c.client).bind fun r =>
      Work.ask (.reply c.index (.ofResult r)) := by
  unfold Connection.answer handling
  simp only [h, Bool.false_eq_true, if_false, if_true, Program.bind_eq, Program.bind_assoc]
  refine congrArg _ (funext fun allowed => ?_)
  cases allowed with
  | ok _ =>
    simp only [handleLine_outcome, Program.bind_assoc]
    rfl
  | error e => rfl

end Gateway

/-! ## What can come of a line -/

/-- Whether a question leaves the devices, the table of schedules and the audit trail alone. -/
def Action.isHarmless : Action → Bool
  | .setOnline .. | .exchange .. | .loadSchedule .. | .stopSchedule _ | .retire .. | .audit _ => false
  | _ => true

theorem Action.not_exchanges_of_isHarmless {op : Action} (h : op.isHarmless = true) :
    op.exchanges = false := by
  cases op with
  | exchange => cases h
  | _ => rfl

theorem audits_of_isHarmless {es : List Answered} (h : ∀ x ∈ es, x.op.isHarmless = true) :
    audits es = [] := by
  refine List.filterMap_eq_nil_iff.mpr fun x hx => ?_
  obtain ⟨op, a⟩ := x
  cases op with
  | audit => cases h _ hx
  | _ => rfl

/-- The kind of failure that a question counts. -/
def Answered.failure? : Answered → Option String
  | ⟨.countError kind, _⟩ => some kind
  | _ => none

/-- The kinds of failures that were counted. -/
def failures (es : List Answered) : List String := es.filterMap Answered.failure?

theorem failures_append (es fs : List Answered) : failures (es ++ fs) = failures es ++ failures fs :=
  List.filterMap_append

theorem failures_eq_nil {es : List Answered} (h : ∀ x ∈ es, ∀ kind, x.op ≠ .countError kind) :
    failures es = [] := by
  refine List.filterMap_eq_nil_iff.mpr fun x hx => ?_
  obtain ⟨op, a⟩ := x
  cases op with
  | countError kind => exact absurd rfl (h _ hx kind)
  | _ => rfl

namespace Gateway

open Work (Stretch)

/-- The kinds of failures that a result is counted as. -/
def kinds : Except Error Json → List String
  | .error e => [e.kind]
  | .ok _ => []

/-- What can come of a line, with what was asked on the way. -/
inductive Handled (line client : String) : List Answered → Except Error Json → Prop where
  /-- Nothing was asked of a device. -/
  | refused {es e} : (∀ x ∈ es, x.op.isHarmless = true) → Handled line client es (.error e)
  /-- The command is not one for a device. -/
  | answered {es json} : (∀ x ∈ es, x.op.exchanges = false) →
      (∀ r name, Request.ofLine? line = some r → r.command = some name →
        Command.isMutatingName name = false) → Handled line client es (.ok json)
  /-- The command was run on a device that is online, under its lock. -/
  | executed (r : Request) (device : Handle) (command : Command) {before inside after result} :
      Request.ofLine? line = some r → r.command = some command.name →
      Command.parse command.name r.value = .ok command →
      ⟨.resolve r.chillerId, some device⟩ ∈ before →
      (∀ x ∈ before ++ after, x.op.isHarmless = true) →
      Stretch (run device command client) inside (Program.done result) →
      Handled line client
        (before ++ tenure device.ref (⟨.isOnline device.ref, true⟩ :: inside) ++ after) result

variable {line client : String} {es fs : List Answered} {result : Except Error Json}

namespace Handled

/-- Something harmless was asked before. -/
theorem after_others (h : Handled line client es result)
    (hfs : ∀ x ∈ fs, x.op.isHarmless = true) : Handled line client (fs ++ es) result := by
  cases h with
  | refused hes => exact .refused (List.forall_mem_append.mpr ⟨hfs, hes⟩)
  | answered hes hname =>
    refine .answered (List.forall_mem_append.mpr ⟨fun x hx => ?_, hes⟩) hname
    exact Action.not_exchanges_of_isHarmless (hfs x hx)
  | executed r device command hline hname hparse hdevice hothers hrun =>
    rw [← List.append_assoc, ← List.append_assoc]
    refine .executed r device command hline hname hparse (List.mem_append_right _ hdevice) ?_ hrun
    rw [List.append_assoc]
    exact List.forall_mem_append.mpr ⟨hfs, hothers⟩

/-- Something harmless was asked afterwards. -/
theorem before_others (h : Handled line client es result)
    (hfs : ∀ x ∈ fs, x.op.isHarmless = true) : Handled line client (es ++ fs) result := by
  cases h with
  | refused hes => exact .refused (List.forall_mem_append.mpr ⟨hes, hfs⟩)
  | answered hes hname =>
    refine .answered (List.forall_mem_append.mpr ⟨hes, fun x hx => ?_⟩) hname
    exact Action.not_exchanges_of_isHarmless (hfs x hx)
  | executed r device command hline hname hparse hdevice hothers hrun =>
    rw [List.append_assoc]
    refine .executed r device command hline hname hparse hdevice ?_ hrun
    rw [← List.append_assoc]
    exact List.forall_mem_append.mpr ⟨hothers, hfs⟩

end Handled

variable {device : Handle} {r : Request}

/-- A command under the lock. -/
theorem handled_execute {command : Command} {before : List Answered}
    (hline : Request.ofLine? line = some r) (hname : r.command = some command.name)
    (hparse : Command.parse command.name r.value = .ok command)
    (hdevice : ⟨.resolve r.chillerId, some device⟩ ∈ before)
    (hbefore : ∀ x ∈ before, x.op.isHarmless = true)
    (h : Stretch (execute device command client) es (Program.done result)) :
    Handled line client (before ++ es) result := by
  obtain ⟨inside, rfl, hinside⟩ := Stretch.locked_done h
  obtain ⟨online, fs, rfl, hfs⟩ := Stretch.ask_done hinside rfl
  cases online with
  | true =>
    rw [← List.append_nil (before ++ _)]
    refine .executed r device command hline hname hparse hdevice ?_ hfs
    rwa [List.append_nil]
  | false =>
    -- The device went down while the worker waited for its lock.
    obtain ⟨rfl, heq⟩ := hfs.of_done
    cases heq
    refine .refused (List.forall_mem_append.mpr ⟨hbefore, ?_⟩)
    simp [tenure, Action.isHarmless]

/-- A named command on a device that was found. -/
theorem handled_dispatch {name : String} {before : List Answered}
    (hline : Request.ofLine? line = some r) (hname : r.command = some name)
    (hdevice : ⟨.resolve r.chillerId, some device⟩ ∈ before)
    (hbefore : ∀ x ∈ before, x.op.isHarmless = true)
    (h : Stretch (dispatch device name r client) es (Program.done result)) :
    Handled line client (before ++ es) result := by
  have hrefused : ∀ {p : Work (Except Error Json)} {e}, p = Program.done (.error e) →
      Stretch p es (Program.done result) → Handled line client (before ++ es) result := by
    rintro p e rfl hdone
    obtain ⟨rfl, heq⟩ := hdone.of_done
    cases heq
    rw [List.append_nil]
    exact .refused hbefore
  have hanswered : ∀ (op : Action) (f : op.Answer → Json), op.exchanges = false →
      Command.isMutatingName name = false →
      Stretch (Program.ask (I := Action.interface) op fun a => Program.done (.ok (f a))) es
        (Program.done result) → Handled line client (before ++ es) result := by
    intro op f hop hfree hasked
    obtain ⟨a, fs, rfl, hdone⟩ := hasked.ask_done hop
    obtain ⟨rfl, heq⟩ := hdone.of_done
    cases heq
    refine .answered (List.forall_mem_append.mpr ⟨fun x hx => ?_, List.forall_mem_singleton.mpr hop⟩)
      ?_
    · exact Action.not_exchanges_of_isHarmless (hbefore x hx)
    · intro r' name' hline' hname'
      cases hline.symm.trans hline'
      cases hname.symm.trans hname'
      exact hfree
  unfold dispatch at h
  split at h
  · unfold loadSchedule at h
    split at h
    · exact hrefused rfl h
    · split at h
      · exact hrefused rfl h
      · rename_i schedule _
        exact hanswered _ (fun _ => Schedules.summary schedule) rfl (by decide) h
  · exact hanswered _ (fun _ => .string "stopped") rfl (by decide) h
  · exact hanswered (.scheduleStatus device.id) (fun status => status) rfl (by decide) h
  · split at h
    · exact hrefused rfl h
    · rename_i command hparse
      obtain rfl := Command.name_of_parse hparse
      exact handled_execute hline hname hparse hdevice hbefore h

/-- A named command, past the read-only gate. -/
theorem handled_serveCommand {name : String} {began : Nat} (hline : Request.ofLine? line = some r)
    (hname : r.command = some name)
    (h : Stretch (serveCommand name r client began) es (Program.done result)) :
    Handled line client es result := by
  unfold serveCommand at h
  obtain ⟨found, fs, rfl, hfound⟩ := Stretch.ask_done h rfl
  cases found with
  | none =>
    obtain ⟨rfl, heq⟩ := Stretch.of_done hfound
    cases heq
    exact .refused (by simp [Action.isHarmless])
  | some device =>
    obtain ⟨online, gs, rfl, honline⟩ := Stretch.ask_done hfound rfl
    cases online with
    | false =>
      obtain ⟨rfl, heq⟩ := Stretch.of_done honline
      cases heq
      exact .refused (by simp [Action.isHarmless])
    | true =>
      have hpast : Stretch ((dispatch device name r client).bind _) gs
          (Program.done result) := honline
      obtain ⟨outcome, before, after, rfl, hdispatch, hrest⟩ := hpast.bind_done
      have hdone : Handled line client ([⟨.resolve r.chillerId, some device⟩,
          ⟨.isOnline device.ref, true⟩] ++ before) outcome :=
        handled_dispatch hline hname List.mem_cons_self (by simp [Action.isHarmless]) hdispatch
      cases outcome with
      | error e =>
        obtain ⟨rfl, heq⟩ := Stretch.of_done hrest
        cases heq
        rwa [List.append_nil]
      | ok json =>
        obtain ⟨_, fs, rfl, hend⟩ := Stretch.ask_done hrest rfl
        obtain ⟨rfl, heq⟩ := Stretch.of_done hend
        cases heq
        exact hdone.before_others (List.forall_mem_singleton.mpr rfl)

theorem handled_process {auth : Option String} (hline : Request.ofLine? line = some r)
    (h : Stretch (process auth r client) es (Program.done result)) :
    Handled line client es result := by
  have hrefused : ∀ {e}, Stretch (Program.done (.error e)) es (Program.done result) →
      Handled line client es result := by
    intro e hdone
    obtain ⟨rfl, heq⟩ := hdone.of_done
    cases heq
    exact .refused fun x hx => by cases hx
  unfold process at h
  split at h
  · exact hrefused h
  split at h
  · exact hrefused h
  rename_i name hfilter
  have hname : r.command = some name := by
    unfold nonEmpty at hfilter
    exact (Option.filter_eq_some_iff.mp hfilter).1
  obtain ⟨outset, fs, rfl, hfs⟩ := Stretch.ask_done h rfl
  simp only [Program.bind] at hfs
  split at hfs
  · obtain ⟨rfl, heq⟩ := Stretch.of_done hfs
    cases heq
    exact .refused (List.forall_mem_singleton.mpr rfl)
  split at hfs
  · rename_i hping
    obtain ⟨_, gs, rfl, hdone⟩ := Stretch.ask_done hfs rfl
    obtain ⟨rfl, heq⟩ := Stretch.of_done hdone
    cases heq
    refine .answered (by simp [Action.exchanges]) fun r' name' hline' hname' => ?_
    cases hline.symm.trans hline'
    cases hname.symm.trans hname'
    exact hping ▸ (by decide)
  · exact (handled_serveCommand hline hname hfs).after_others (List.forall_mem_singleton.mpr rfl)

/-- Only a failure is counted, by its kind. -/
theorem of_counted {r : Except Error Json}
    (h : Stretch (counted r) es (Program.done result)) :
    result = r ∧ (∀ x ∈ es, x.op.isHarmless = true) ∧ failures es = kinds r := by
  cases r with
  | error e =>
    obtain ⟨_, fs, rfl, hdone⟩ := Stretch.ask_done h rfl
    obtain ⟨rfl, heq⟩ := Stretch.of_done hdone
    cases heq
    exact ⟨rfl, List.forall_mem_singleton.mpr rfl, rfl⟩
  | ok json =>
    obtain ⟨rfl, heq⟩ := h.of_done
    cases heq
    exact ⟨rfl, fun x hx => (by cases hx), rfl⟩

/-- **A line is refused before a device is asked for anything, or is answered without a device, or
its command is run on one device under its lock.** -/
theorem handled {limited : Bool} {intake : Intake}
    (h : Stretch (handling limited intake line client) es (Program.done result)) :
    Handled line client es result := by
  obtain ⟨allowed, before, after, rfl, hallowed, hrest⟩ := h.bind_done
  have hbefore : ∀ x ∈ before, x.op.isHarmless = true := by
    cases limited with
    | false =>
      obtain ⟨rfl, -⟩ := hallowed.of_done
      exact fun x hx => by cases hx
    | true =>
      obtain ⟨_, fs, rfl, hdone⟩ := Stretch.ask_done hallowed rfl
      obtain ⟨rfl, -⟩ := Stretch.of_done hdone
      exact List.forall_mem_singleton.mpr rfl
  cases allowed with
  | error e =>
    obtain ⟨rfl, hafter, -⟩ := of_counted hrest
    exact .refused (List.forall_mem_append.mpr ⟨hbefore, hafter⟩)
  | ok _ =>
    obtain ⟨r, during, closing, rfl, hduring, hclosing⟩ := hrest.bind_done
    obtain ⟨rfl, hafter, -⟩ := of_counted hclosing
    refine Handled.after_others (Handled.before_others ?_ hafter) hbefore
    unfold outcome at hduring
    split at hduring
    · obtain ⟨rfl, heq⟩ := hduring.of_done
      cases heq
      exact .refused fun x hx => by cases hx
    · rename_i request hline
      exact handled_process (Request.parse_eq_ok_iff.mp hline) hduring

/-- Nothing is counted as a failure before there is a result. -/
theorem along_outcome (intake : Intake) (line client : String) :
    (outcome intake line client).Along (fun op : Action => ∀ kind, op ≠ .countError kind) fun _ =>
      True := by
  unfold outcome
  split
  · trivial
  · rename_i r _
    have hmade : Work.Made (fun op : Action => ∀ kind, op ≠ .countError kind)
        (Errand.Locked fun _ => True) (fun _ => True) (process intake.auth r client) :=
      Worker.made_process (by rintro _ hop kind rfl; cases hop) (fun _ _ => trivial) intake.auth r
    refine hmade.along (fun _ h => h) fun u hu => ?_
    obtain ⟨e, -⟩ := hu
    refine Errand.along_locked (fun _ => Action.noConfusion) (fun _ => Action.noConfusion) ?_
    rintro _ hop kind rfl
    cases hop

/-- **A failure is counted once, by its kind**, and nothing else is. -/
theorem failures_eq {limited : Bool} {intake : Intake}
    (h : Stretch (handling limited intake line client) es (Program.done result)) :
    failures es = kinds result := by
  obtain ⟨allowed, before, after, rfl, hallowed, hrest⟩ := h.bind_done
  have hbefore : failures before = [] := by
    cases limited with
    | false =>
      obtain ⟨rfl, -⟩ := hallowed.of_done
      rfl
    | true =>
      obtain ⟨_, fs, rfl, hdone⟩ := Stretch.ask_done hallowed rfl
      obtain ⟨rfl, -⟩ := Stretch.of_done hdone
      rfl
  rw [failures_append, hbefore, List.nil_append]
  cases allowed with
  | error e =>
    obtain ⟨rfl, -, hkinds⟩ := of_counted hrest
    exact hkinds
  | ok _ =>
    obtain ⟨r, during, closing, rfl, hduring, hclosing⟩ := hrest.bind_done
    obtain ⟨rfl, -, hkinds⟩ := of_counted hclosing
    have hnone := (hduring.along (along_outcome intake line client) fun _ _ => Action.noConfusion).1
    rw [failures_append, hkinds, failures_eq_nil hnone, List.nil_append]

end Gateway

/-! ## Lines in a run -/

namespace World

/-- In a run, a worker was about to handle a line, and with what it was answered from then on it has
come to `q`; from then on `C` has held of the gateway. -/
def Handling (C : World → Prop) (v : World) (es : List Event) (w : World) (line client : String)
    (asked : List Answered) (q : Work (Except Error Json)) : Prop :=
  ∃ before after u, es = before ++ after ∧ Run v before u ∧ RunBy (fun u _ _ => C u) u after w ∧
    ∃ t ∈ u.tasks, ∃ limited k,
      t.program = (Gateway.handling limited v.intake line client).bind k ∧
      asked <+: own t.id after ∧
      Work.Stretch (Gateway.handling limited v.intake line client) asked q

variable {C : World → Prop} {u v w : World} {before after : List Event}

/-- A failure of a line that was handled is counted once, by its kind. -/
theorem Handling.failures_eq {es : List Event} {line client : String} {asked : List Answered}
    {result : Except Error Json} (h : Handling C v es w line client asked (Program.done result)) :
    failures asked = Gateway.kinds result := by
  obtain ⟨_, _, _, -, -, -, _, -, _, _, -, -, hstretch⟩ := h
  exact Gateway.failures_eq hstretch

/-- A worker that is about to handle a line does so, up to the result if it comes to one. -/
theorem handling_of_run (hv : Numbered v) (hbefore : Run v before u)
    (hafter : RunBy (fun u _ _ => C u) u after w) {t : Task} (ht : t ∈ u.tasks) {limited : Bool}
    {line client : String} {k : Except Error Json → Work RoundEnd}
    (hp : t.program = (Gateway.handling limited v.intake line client).bind k) :
    ∃ asked q, Handling C v (before ++ after) w line client asked q ∧
      ((∃ result rest p, q = Program.done result ∧ own t.id after = asked ++ rest ∧
        Course v.intake (k result) rest p) ∨
      own t.id after = asked ∧ ∃ t' ∈ w.tasks, t'.id = t.id ∧ t'.program = q.bind k) := by
  have hcases : ∀ {p}, Course v.intake t.program (own t.id after) p →
      (∃ q, Work.Stretch (Gateway.handling limited v.intake line client) (own t.id after) q ∧
        p = q.bind k) ∨
      ∃ asked q, Handling C v (before ++ after) w line client asked q ∧ ∃ result rest p,
        q = Program.done result ∧ own t.id after = asked ++ rest ∧
        Course v.intake (k result) rest p := by
    intro p hcourse
    rw [hp] at hcourse
    refine (Work.course_cases hcourse).imp id ?_
    rintro ⟨result, asked, rest, hown, hstretch, hrest⟩
    refine ⟨asked, _, ⟨before, after, u, rfl, hbefore, hafter, t, ht, limited, k, hp, ?_, hstretch⟩,
      result, rest, p, rfl, hown, hrest⟩
    exact hown ▸ List.prefix_append asked rest
  have hfollows := hafter.run.follows (hbefore.numbered hv) ht
  rw [hbefore.intake] at hfollows
  rcases hfollows with ⟨p, hmem, hcourse⟩ | ⟨reply, hcourse, -⟩
  · rcases hcases hcourse with ⟨q, hq, rfl⟩ | ⟨asked, q, hhandling, hdone⟩
    · exact ⟨_, q, ⟨before, after, u, rfl, hbefore, hafter, t, ht, limited, k, hp,
        List.prefix_refl _, hq⟩, .inr ⟨rfl, _, hmem, rfl, rfl⟩⟩
    · exact ⟨asked, q, hhandling, .inl hdone⟩
  · rcases hcases hcourse with ⟨q, hq, heq⟩ | ⟨asked, q, hhandling, hdone⟩
    · cases q with
      | done result =>
        exact ⟨_, _, ⟨before, after, u, rfl, hbefore, hafter, t, ht, limited, k, hp,
          List.prefix_refl _, hq⟩, .inl ⟨result, [], _, rfl, (List.append_nil _).symm, .start⟩⟩
      | ask => cases heq
    · exact ⟨asked, q, hhandling, .inl hdone⟩

/-- A single request that has ended handled its line. -/
theorem handling_of_request (hv : Numbered v) (hbefore : Run v before u)
    (hafter : RunBy (fun u _ _ => C u) u after w) {t : Task} (ht : t ∈ u.tasks)
    {line client : String} (hp : t.program = (Worker.request line client).round v.intake)
    (hend : ∀ t' ∈ w.tasks, t'.id ≠ t.id) :
    ∃ result, Handling C v (before ++ after) w line client (own t.id after)
      (Program.done result) := by
  rw [Gateway.round_request] at hp
  obtain ⟨asked, q, hhandling, ⟨result, rest, p, rfl, hown, hrest⟩ | ⟨-, t', ht', hid, -⟩⟩ :=
    handling_of_run hv hbefore hafter ht hp
  · obtain ⟨rfl, -⟩ := hrest.ended
    rw [hown, List.append_nil]
    exact ⟨result, hhandling⟩
  · exact absurd hid (hend t' ht')

/-- A gateway with one request on its way. -/
def requested (w : World) (line client : String) : World :=
  (w.startRequest line client).2.turn
    ⟨w.nextTask, .request, Program.done (.again (.request line client))⟩

theorem run_requested (w : World) (line client : String) : Run w [] (w.requested line client) := by
  have hstart : Run w [] (w.startRequest line client).2 :=
    Run.start.step (.control (.startRequest line client))
  have hmem : (⟨w.nextTask, .request, Program.done (.again (.request line client))⟩ : Task) ∈
      (w.startRequest line client).2.tasks := List.mem_append_right _ (List.mem_singleton_self _)
  have hready : w.nextTask ∈ (w.startRequest line client).2.ready :=
    List.mem_append_right _ (List.mem_singleton_self _)
  exact hstart.step (.turn hmem hready)

theorem mem_requested (w : World) (line client : String) :
    (⟨w.nextTask, .request, (Worker.request line client).round w.intake⟩ : Task) ∈
      (w.requested line client).tasks := by
  refine List.mem_map.mpr ⟨⟨w.nextTask, .request, Program.done (.again (.request line client))⟩,
    List.mem_append_right _ (List.mem_singleton_self _), ?_⟩
  exact if_pos rfl

end World

end ChillerGateway
