import ChillerGateway.Proofs.Gateway.Changes

/-!
# The requests of a worker

The history of a connection is one request after the other, with what the connection itself asks in
between.  Tickers and watchdogs process no requests, and put nothing into the audit trail.

* `Did` — a history as a sequence of requests, the last of which may be under way.
* `Did.audits` — what a worker put into the trail is what its requests put there.
* `Course.did` — the history of every worker is such a sequence.
-/

namespace ChillerGateway

namespace Worker

/-- What a worker asks outside its requests. -/
def Aside : Worker → Action → Prop
  | connection _, op | request .., op => op.isClerical = true
  | ticker _, op | watchdog _, op => op.isAudit = false

theorem Aside.isAudit {worker : Worker} {op : Action} (h : worker.Aside op) :
    op.isAudit = false := by
  cases worker with
  | ticker | watchdog => exact h
  | connection | request =>
    cases op with
    | audit => cases h
    | _ => rfl

/-- A worker that was delayed within a driver asks for the clock only. -/
theorem Aside.delayed {worker : Worker} {op : Action} (h : worker.Aside op)
    (hop : op.exchanges = true) (time : Nat) : worker.Aside (.pauseUntil time none) := by
  cases worker with
  | ticker | watchdog => rfl
  | connection | request =>
    cases op with
    | exchange => cases h
    | _ => cases hop

/-- A round of a worker leaves one with the same requests in its place. -/
def Passes (worker : Worker) : RoundEnd → Prop
  | .again next => next.Aside = worker.Aside ∧ next.Takes = worker.Takes
  | .ended _ => True

/-- A program that is made of a worker's requests and of what it asks outside them. -/
abbrev Serving (worker : Worker) (intake : Intake) : Work RoundEnd → Prop :=
  Work.Made worker.Aside (worker.Processes intake) worker.Passes

theorem Leaves.passes {worker : Worker} {e : RoundEnd} (h : worker.Leaves e) :
    worker.Passes e := by
  cases e with
  | ended => trivial
  | again next =>
    cases worker with
    | ticker =>
      cases next with
      | ticker => exact ⟨rfl, rfl⟩
      | _ => exact h.elim
    | watchdog =>
      cases next with
      | watchdog => exact ⟨rfl, rfl⟩
      | _ => exact h.elim
    | connection c =>
      cases next with
      | connection c' =>
        obtain ⟨-, hclient⟩ := h
        refine ⟨rfl, ?_⟩
        funext client r
        show (client = c'.client ∧ _) = (client = c.client ∧ _)
        rw [hclient]
      | _ => exact h.elim
    | request => exact h.elim

variable {worker next : Worker} {intake : Intake}

/-- A worker that runs no client's command puts nothing into the trail. -/
theorem along_background (h : ∀ e, worker.Runs e → e.isCommand = false) (intake : Intake) :
    (worker.round intake).Along (fun op : Action => op.isAudit = false) worker.Leaves := by
  refine (worker.made intake).along (fun op hop => ?_) fun u hu => ?_
  · cases op with
    | audit => exact hop.elim
    | _ => rfl
  · cases hu with
    | mk e he =>
      refine Errand.along_locked rfl rfl fun op hop => ?_
      cases op with
      | audit => cases (h e he).symm.trans hop
      | _ => rfl

/-- **Every round is made of requests and of what the worker asks outside them.** -/
theorem serving (worker : Worker) (intake : Intake) :
    worker.Serving intake (worker.round intake) := by
  cases worker with
  | ticker t =>
    refine Work.Made.of_along ((along_background (fun e he => ?_) intake).mono (fun _ h => h) ?_)
    · cases e with
      | target => rfl
      | _ => exact he.elim
    · exact fun _ => Leaves.passes
  | watchdog w =>
    refine Work.Made.of_along ((along_background (fun e he => ?_) intake).mono (fun _ h => h) ?_)
    · cases e with
      | check | disconnect | reconnect => rfl
      | _ => exact he.elim
    · exact fun _ => Leaves.passes
  | connection c =>
    have hround : (connection c).Attends intake _ (c.round intake) := attends_connection
    refine Work.Made.bind hround fun next h => .done ?_
    exact (leaves_following h).passes
  | request line client =>
    have hline : (request line client).Attends intake (fun _ => True)
        (Gateway.handleLine intake line client) := attends_handleLine fun _ hr => ⟨rfl, hr⟩
    exact Work.Made.bind hline fun _ _ => .done trivial

/-- What is left of a worker serves as it did. -/
theorem Passes.serving (h : worker.Passes (.again next)) (intake : Intake) :
    worker.Serving intake (next.round intake) := by
  obtain ⟨haside, htakes⟩ := h
  have hround :
      Work.Made worker.Aside (worker.Processes intake) next.Passes (next.round intake) := by
    refine (next.serving intake).refine (fun op hop => haside ▸ hop) fun u hu => ?_
    cases hu with
    | mk h => exact .single (.mk (htakes ▸ h))
  refine hround.mono (fun _ h => h) fun e he => ?_
  cases e with
  | ended => trivial
  | again later => exact ⟨he.1.trans haside, he.2.trans htakes⟩

end Worker

/-! ## One request after the other -/

open Work (Stretch)

/-- The history of a worker as the requests that it has had processed, with their results, and the
request that is under way.  A request that is refused before anything is asked leaves no trace in a
history, and none here. -/
inductive Did (intake : Intake) (worker : Worker) :
    List Answered → List (Call × Except Error Json) → Option Call → Prop where
  | start : Did intake worker [] [] none
  | aside {es calls} (x : Answered) : Did intake worker es calls none → worker.Aside x.op →
      Did intake worker (es ++ [x]) calls none
  | called {es calls client r} : Did intake worker es calls none → worker.Takes client r →
      Did intake worker es calls (some ⟨client, r, []⟩)
  | within {es calls call op next} (a : Action.Answer op) : Did intake worker es calls (some call) →
      Stretch (Gateway.process intake.auth call.request call.client) call.asked
        (Program.ask op next) →
      Did intake worker (es ++ [⟨op, a⟩]) calls
        (some { call with asked := call.asked ++ [⟨op, a⟩] })
  | returned {es calls call result} : Did intake worker es calls (some call) →
      Stretch (Gateway.process intake.auth call.request call.client) call.asked
        (Program.done result) →
      Did intake worker es (calls ++ [(call, result)]) none

namespace Did

variable {intake : Intake} {worker : Worker} {es : List Answered}
  {calls : List (Call × Except Error Json)} {current : Option Call}

/-- What a worker put into the audit trail, its requests put there. -/
theorem audits_eq (h : Did intake worker es calls current) :
    audits es = calls.flatMap (fun call => audits call.1.asked) ++
      current.toList.flatMap fun call => audits call.asked := by
  induction h with
  | start => rfl
  | aside x _ hx ih =>
    rw [audits_append, audits_cons hx.isAudit, ih]
    exact List.append_nil _
  | called _ _ ih => exact ih
  | within a _ _ ih =>
    rw [audits_append, ih]
    simp [audits_append]
  | returned _ _ ih =>
    rw [ih]
    simp

/-- What was answered during the request under way ends the history. -/
theorem of_current {call : Call} (h : Did intake worker es calls (some call)) :
    call.asked <:+ es := by
  generalize hcurrent : some call = current at h
  induction h generalizing call with
  | start | aside | returned => cases hcurrent
  | called =>
    cases hcurrent
    exact List.nil_suffix
  | within a _ _ ih =>
    cases hcurrent
    obtain ⟨before, rfl⟩ := ih rfl
    exact ⟨before, (List.append_assoc _ _ _).symm⟩

/-- A request that is over was processed to its end, and is a part of the history. -/
theorem of_mem (h : Did intake worker es calls current) : ∀ call ∈ calls,
    Stretch (Gateway.process intake.auth call.1.request call.1.client) call.1.asked
      (Program.done call.2) ∧ call.1.asked <:+: es := by
  induction h with
  | start => exact fun call hc => by cases hc
  | called _ _ ih => exact ih
  | aside _ _ _ ih | within _ _ _ ih =>
    intro call hc
    obtain ⟨hs, hes⟩ := ih call hc
    exact ⟨hs, hes.trans (List.prefix_append _ _).isInfix⟩
  | @returned es calls call result h hs ih =>
    intro c hc
    rcases List.mem_append.mp hc with hold | hnew
    · exact ih c hold
    · cases List.mem_singleton.mp hnew
      exact ⟨hs, h.of_current.isInfix⟩

end Did

/-! ## Courses -/

variable {intake : Intake} {worker : Worker} {es : List Answered}
  {calls : List (Call × Except Error Json)} {current : Option Call} {p : Work RoundEnd}

/-- Where a worker stands: between its requests, or at a question in one of them. -/
inductive Attending (intake : Intake) (worker : Worker) :
    Option Call → Work RoundEnd → Prop where
  | free {q} : worker.Serving intake q → Attending intake worker none q
  | busy {call op next k} :
      Stretch (Gateway.process intake.auth call.request call.client) call.asked
        (Program.ask op next) →
      (∀ r, worker.Serving intake (k r)) →
      Attending intake worker (some call) (Program.ask op fun a => (next a).bind k)

/-- A worker that is answered in a request goes on with it, or is done with it. -/
theorem Did.answered {call : Call} (h : Did intake worker es calls (some call)) {op : Action}
    {next : op.Answer → Work (Except Error Json)} {k : Except Error Json → Work RoundEnd}
    (hs : Stretch (Gateway.process intake.auth call.request call.client) call.asked
      (Program.ask op next)) (hk : ∀ r, worker.Serving intake (k r)) (a : op.Answer)
    (hr : Resumes op ((next a).bind k) p) :
    ∃ calls' current', Did intake worker (es ++ [⟨op, a⟩]) calls' current' ∧
      Attending intake worker current' p := by
  have hwithin := h.within a hs
  have hanswered := hs.answered a
  cases hr with
  | now =>
    -- The answer may have been the last one that the request was waiting for.
    generalize next a = q at hanswered
    cases q with
    | done r => exact ⟨_, none, hwithin.returned hanswered, .free (hk r)⟩
    | ask op' next' => exact ⟨calls, _, hwithin, .busy hanswered hk⟩
  | later time hop =>
    have hdelayed := hs.delayed a time hop
    exact ⟨calls, _, hwithin, .busy hdelayed hk⟩

/-- A worker that asks stands where the answer leads. -/
theorem Attending.answered {op : Action} {next : op.Answer → Work RoundEnd}
    (h : Attending intake worker current (Program.ask op next))
    (hd : Did intake worker es calls current) (a : op.Answer) (hr : Resumes op (next a) p) :
    ∃ calls' current', Did intake worker (es ++ [⟨op, a⟩]) calls' current' ∧
      Attending intake worker current' p := by
  generalize hq : (Program.ask op next : Work RoundEnd) = q at h
  cases h with
  | @free q hserving =>
    subst hq
    rcases hserving.asked with ⟨hop, hnext⟩ | ⟨β, first, k, hunit, rfl, hk⟩
    · refine ⟨calls, none, hd.aside ⟨op, a⟩ hop, .free ?_⟩
      cases hr with
      | now => exact hnext a
      | later time hex => exact .ask (hop.delayed hex time) fun _ => hnext a
    · -- The question is the first one of a request.
      generalize hu : (Program.ask op first : Work β) = u at hunit
      cases hunit with
      | mk htakes => exact (hd.called htakes).answered (hu ▸ .start) hk a hr
  | busy hs hk =>
    cases hq
    exact hd.answered hs hk a hr

/-- **The history of a worker is one request after the other.** -/
theorem Course.did (h : Course intake (Program.done (.again worker)) es p) :
    ∃ calls current, Did intake worker es calls current ∧ Attending intake worker current p := by
  induction h with
  | start => exact ⟨[], none, .start, .free (.done ⟨rfl, rfl⟩)⟩
  | answered a _ hr ih =>
    obtain ⟨calls, current, hd, hstands⟩ := ih
    exact hstands.answered hd a hr
  | @again es next _ ih =>
    obtain ⟨calls, current, hd, hstands⟩ := ih
    generalize hq : (Program.done (RoundEnd.again next) : Work RoundEnd) = q at hstands
    cases hstands with
    | free hserving =>
      subst hq
      exact ⟨calls, none, hd, .free (hserving.of_done.serving intake)⟩
    | busy => cases hq

end ChillerGateway
