import ChillerGateway.Proofs.Gateway.Handling

/-!
# What is counted of a line

A line that comes to a result is counted once: by the name of its command if it succeeds, which is one
that the gateway knows, and else by the kind of its failure.  Before it comes to a result it is
counted once at most.

* `successes` — the names of the commands that were counted, as `failures` are the kinds of failures.
* `Gateway.knownNames` — the commands that there are.
* `Gateway.tallied_handling` — what is counted of a line.
* `Gateway.counted_once` — the same of a line that is still being handled.
-/

namespace ChillerGateway

open Work (Stretch)

/-- Whether a question counts a command or a failure, or sends a reply. -/
def Action.accounts : Action → Bool
  | .countCommand .. | .countError _ | .reply .. => true
  | _ => false

/-- The command that a question counts. -/
def Answered.success? : Answered → Option String
  | ⟨.countCommand name _ _, _⟩ => some name
  | _ => none

/-- The names of the commands that were counted. -/
def successes (es : List Answered) : List String := es.filterMap Answered.success?

theorem successes_append (es fs : List Answered) :
    successes (es ++ fs) = successes es ++ successes fs := List.filterMap_append

theorem successes_eq_nil {es : List Answered} (h : ∀ x ∈ es, x.op.accounts = false) :
    successes es = [] := by
  refine List.filterMap_eq_nil_iff.mpr fun x hx => ?_
  obtain ⟨op, a⟩ := x
  cases op with
  | countCommand => cases h _ hx
  | _ => rfl

/-- An errand is not accounted for by itself. -/
theorem Errand.along_accounts (e : Errand) :
    (Work.locked e.device.ref e.program).Along (fun op : Action => op.accounts = false)
      fun _ => True := by
  refine Errand.along_locked rfl rfl fun op hop => ?_
  cases op with
  | countCommand | countError | reply => cases hop
  | _ => rfl

/-- Every way down a program leads to its end, if it is only answered. -/
theorem Work.Stretch.finished {α : Type} {p q : Work α} {es : List Answered} (h : Stretch p es q) :
    ∃ fs a, Stretch p (es ++ fs) (Program.done a) := by
  induction q generalizing es with
  | done a => exact ⟨[], a, by rwa [List.append_nil]⟩
  | ask op next ih =>
    obtain ⟨fs, a, hs⟩ := ih op.somehow (h.answered op.somehow)
    exact ⟨_, a, by rwa [← List.append_cons] at hs⟩

namespace Gateway

/-- The commands that a gateway knows. -/
def knownNames : List String :=
  ["identify", "status", "get_setpoint", "set_setpoint", "temperature", "is_running", "start", "stop",
    "set_running", "status_all", "ping", "load_schedule", "stop_schedule", "schedule_status"]

theorem name_mem_knownNames (c : Command) : c.name ∈ knownNames := by
  cases c <;> simp [Command.name, knownNames]

/-- The names that a result is counted under. -/
inductive Tallied : Except Error Json → List String → Prop where
  | ok {json name} : name ∈ knownNames → Tallied (.ok json) [name]
  | error {e} : Tallied (.error e) []

variable {intake : Intake} {line client name : String} {device : Handle} {r : Request}
  {es : List Answered} {result : Except Error Json}

theorem along_dispatch_accounts : (dispatch device name r client).Along
    (fun op : Action => op.accounts = false) fun _ => True := by
  unfold dispatch
  split
  · unfold loadSchedule
    split
    · trivial
    · split
      · trivial
      · exact ⟨rfl, fun _ => trivial⟩
  · exact ⟨rfl, fun _ => trivial⟩
  · exact ⟨rfl, fun _ => trivial⟩
  · split
    · trivial
    · exact Errand.along_accounts (.command device _ client)

/-- Only a command that there is can succeed. -/
theorem known_of_dispatch {json : Json}
    (h : Stretch (dispatch device name r client) es (Program.done (.ok json))) :
    name ∈ knownNames := by
  unfold dispatch at h
  split at h
  · decide
  · decide
  · decide
  · split at h
    · obtain ⟨-, heq⟩ := h.of_done
      cases heq
    · rename_i command hparse
      exact Command.name_of_parse hparse ▸ name_mem_knownNames command

theorem tallied_serveCommand {began : Nat}
    (h : Stretch (serveCommand name r client began) es (Program.done result)) :
    Tallied result (successes es) := by
  unfold serveCommand at h
  obtain ⟨found, fs, rfl, hfound⟩ := Stretch.ask_done h rfl
  cases found with
  | none =>
    obtain ⟨rfl, heq⟩ := Stretch.of_done hfound
    cases heq
    exact .error
  | some device =>
    obtain ⟨online, gs, rfl, honline⟩ := Stretch.ask_done hfound rfl
    cases online with
    | false =>
      obtain ⟨rfl, heq⟩ := Stretch.of_done honline
      cases heq
      exact .error
    | true =>
      have hpast : Stretch ((dispatch device name r client).bind _) gs
          (Program.done result) := honline
      obtain ⟨outcome, before, after, rfl, hdispatch, hrest⟩ := hpast.bind_done
      have hnone : successes before = [] :=
        successes_eq_nil (hdispatch.along along_dispatch_accounts fun _ => rfl).1
      show Tallied result (successes (before ++ after))
      rw [successes_append, hnone, List.nil_append]
      cases outcome with
      | error e =>
        obtain ⟨rfl, heq⟩ := Stretch.of_done hrest
        cases heq
        exact .error
      | ok json =>
        obtain ⟨_, fs, rfl, hend⟩ := Stretch.ask_done hrest rfl
        obtain ⟨rfl, heq⟩ := Stretch.of_done hend
        cases heq
        exact .ok (known_of_dispatch hdispatch)

theorem tallied_process (h : Stretch (process intake.auth r client) es (Program.done result)) :
    Tallied result (successes es) := by
  have hrefused : ∀ {e}, Stretch (Program.done (.error e)) es (Program.done result) →
      Tallied result (successes es) := by
    intro e hdone
    obtain ⟨rfl, heq⟩ := hdone.of_done
    cases heq
    exact .error
  unfold process at h
  split at h
  · exact hrefused h
  split at h
  · exact hrefused h
  rename_i name _
  obtain ⟨outset, fs, rfl, hfs⟩ := Stretch.ask_done h rfl
  simp only [Program.bind] at hfs
  split at hfs
  · obtain ⟨rfl, heq⟩ := Stretch.of_done hfs
    cases heq
    exact .error
  split at hfs
  · rename_i hping
    obtain ⟨_, gs, rfl, hdone⟩ := Stretch.ask_done hfs rfl
    obtain ⟨rfl, heq⟩ := Stretch.of_done hdone
    cases heq
    subst hping
    exact .ok (by decide)
  · have hserved : Tallied result (successes fs) := tallied_serveCommand hfs
    exact hserved

/-- A failure is counted as such, and not as a command. -/
theorem successes_counted {r : Except Error Json} (h : Stretch (counted r) es (Program.done result)) :
    successes es = [] := by
  cases r with
  | error e =>
    obtain ⟨_, fs, rfl, hdone⟩ := Stretch.ask_done h rfl
    obtain ⟨rfl, -⟩ := Stretch.of_done hdone
    rfl
  | ok json =>
    obtain ⟨rfl, -⟩ := h.of_done
    rfl

/-- **A line is counted under the name of its command if it succeeds**, and under no name if it
fails. -/
theorem tallied_handling {limited : Bool}
    (h : Stretch (handling limited intake line client) es (Program.done result)) :
    Tallied result (successes es) := by
  obtain ⟨allowed, before, after, rfl, hallowed, hrest⟩ := h.bind_done
  have hbefore : successes before = [] := by
    cases limited with
    | false =>
      obtain ⟨rfl, -⟩ := hallowed.of_done
      rfl
    | true =>
      obtain ⟨_, fs, rfl, hdone⟩ := Stretch.ask_done hallowed rfl
      obtain ⟨rfl, -⟩ := Stretch.of_done hdone
      rfl
  rw [successes_append, hbefore, List.nil_append]
  cases allowed with
  | error e =>
    obtain ⟨rfl, -⟩ := of_counted hrest
    rw [successes_counted hrest]
    exact .error
  | ok _ =>
    obtain ⟨r, during, closing, rfl, hduring, hclosing⟩ := hrest.bind_done
    obtain ⟨rfl, -⟩ := of_counted hclosing
    rw [successes_append, successes_counted hclosing, List.append_nil]
    unfold outcome at hduring
    split at hduring
    · obtain ⟨rfl, heq⟩ := hduring.of_done
      cases heq
      exact .error
    · exact tallied_process hduring

/-- A line is counted once, by its command or by its failure. -/
theorem Tallied.length {names : List String} (h : Tallied result names) :
    names.length + (kinds result).length = 1 := by
  cases h <;> rfl

theorem Tallied.known {names : List String} (h : Tallied result names) :
    ∀ name ∈ names, name ∈ knownNames := by
  cases h with
  | ok hname => exact List.forall_mem_singleton.mpr hname
  | error => exact fun name hname => by cases hname

/-- A line that is being handled was counted once at most, and under a name that is known. -/
theorem counted_once {limited : Bool} {q : Work (Except Error Json)}
    (h : Stretch (handling limited intake line client) es q) :
    (successes es).length + (failures es).length ≤ 1 ∧
      ∀ name ∈ successes es, name ∈ knownNames := by
  obtain ⟨fs, result, hs⟩ := h.finished
  have htallied := tallied_handling hs
  have hlength := htallied.length
  rw [← failures_eq hs, successes_append, failures_append, List.length_append,
    List.length_append] at hlength
  refine ⟨by omega, fun name hname => htallied.known name ?_⟩
  rw [successes_append]
  exact List.mem_append_left _ hname

end Gateway

end ChillerGateway
