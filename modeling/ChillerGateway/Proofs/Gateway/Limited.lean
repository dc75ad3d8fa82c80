import ChillerGateway.Proofs.Device.Civil
import ChillerGateway.Proofs.Gateway.ReadOnly
import ChillerGateway.Proofs.Reply

/-!
# Lines of a client with a limit

A connection counts each of its lines first of all.  A client over its limit is told so, and nothing
else is; a client within it is never told so, since no other failure reads like that one.

* `Answered.Civil` — answers of devices, none of which is about a limit.
* `Gateway.serious_outcome` — so no request fails in that way.
* `Gateway.Limited` — what comes of a line, by what its count came to.
-/

namespace ChillerGateway

open Work (Stretch)

/-- Whether a question counts a request. -/
def Action.limits : Action → Bool
  | .countRequest _ => true
  | _ => false

namespace Answered

/-- Whether an answer is none of a device that a limit was reached. -/
def Civil : Answered → Prop
  | ⟨.exchange _ op, a⟩ => op.Civil a
  | _ => True

/-- Whether a request of a client was counted. -/
def asks (client : String) : Answered → Bool
  | ⟨.countRequest other, _⟩ => other == client
  | _ => false

/-- Whether a request of a client was counted and is within the limit. -/
def isAdmitted (client : String) : Answered → Bool
  | ⟨.countRequest other, allowed⟩ => other == client && allowed
  | _ => false

variable {client : String} {x : Answered}

theorem asks_of_not_limits (h : x.op.limits = false) : asks client x = false := by
  obtain ⟨op, a⟩ := x
  cases op with
  | countRequest => cases h
  | _ => rfl

theorem isAdmitted_of_not_limits (h : x.op.limits = false) : isAdmitted client x = false := by
  obtain ⟨op, a⟩ := x
  cases op with
  | countRequest => cases h
  | _ => rfl

theorem op_of_asks (h : asks client x = true) : x.op = .countRequest client := by
  obtain ⟨op, a⟩ := x
  cases op with
  | countRequest other => exact congrArg _ (beq_iff_eq.mp h)
  | _ => cases h

theorem asks_of_isAdmitted (h : isAdmitted client x = true) : asks client x = true := by
  obtain ⟨op, a⟩ := x
  cases op with
  | countRequest other => exact (Bool.and_eq_true_iff.mp h).1
  | _ => cases h

end Answered

/-! ## Values and files -/

theorem Unlimited.error {α : Type} {e : Error} (h : e ≠ .rateLimited) :
    Unlimited (.error e : Except Error α) := by
  rintro ⟨⟩
  exact h rfl

theorem Unlimited.bind {α β : Type} {r : Except Error α} {f : α → Except Error β}
    (h : Unlimited r) (hf : ∀ a, Unlimited (f a)) : Unlimited (r >>= f) := by
  cases r with
  | error e => exact h.map_error
  | ok a => exact hf a

theorem Command.unlimited_parse (name : String) (value : Option Json) :
    Unlimited (Command.parse name value) := by
  have hrequired : ∀ kind, Unlimited (required name kind value) := by
    intro kind
    unfold required
    split
    · exact .error Error.noConfusion
    · exact .error Error.noConfusion
    · exact unlimited_ok _
  unfold Command.parse
  split
  case h_4 =>
    refine (hrequired _).bind fun v => Unlimited.bind ?_ fun _ => unlimited_ok _
    unfold number
    split
    · exact unlimited_ok _
    · exact .error Error.noConfusion
  case h_9 =>
    refine (hrequired _).bind fun v => Unlimited.bind ?_ fun _ => unlimited_ok _
    unfold switch
    split
    · exact unlimited_ok _
    · exact .error Error.noConfusion
  case h_12 => exact .error Error.noConfusion
  all_goals exact unlimited_ok _

namespace Schedule

theorem unlimited_stepsFrom (index : Nat) (read : List (Step Binary64))
    (records : List (List Csv.Bytes)) : Unlimited (stepsFrom index read records) := by
  induction records generalizing index read with
  | nil => exact unlimited_ok _
  | cons fields rest ih =>
    unfold stepsFrom
    repeat' split
    all_goals first
      | exact ih _ _
      | exact .error Error.noConfusion

theorem unlimited_make (steps : List (Step Binary64)) : Unlimited (make steps) := by
  have hchecked : Unlimited (steps.forM checkStep) := by
    induction steps with
    | nil => exact unlimited_ok _
    | cons step steps ih =>
      show Unlimited (checkStep step >>= fun _ => steps.forM checkStep)
      refine Unlimited.bind ?_ fun _ => ih
      unfold checkStep Setpoint.validate
      split
      · split
        · exact unlimited_ok _
        · exact .error Error.noConfusion
      · exact .error Error.noConfusion
  unfold make
  split
  · exact .error Error.noConfusion
  · refine hchecked.bind fun _ => ?_
    split
    · exact unlimited_ok _
    · exact .error Error.noConfusion

/-- A text that is no schedule fails as such. -/
theorem unlimited_ofCsv (text : String) : Unlimited (ofCsv text) :=
  (unlimited_stepsFrom 0 [] _).bind unlimited_make

end Schedule

namespace Gateway

variable {intake : Intake} {line client name : String} {device : Handle} {r : Request}
  {es : List Answered} {result : Except Error Json}

/-! ## Requests do not fail because of a limit -/

/-- A program whose result is not the refusal of a client over its limit. -/
abbrev Serious (p : Work (Except Error Json)) : Prop :=
  Program.AlongIf (I := Action.interface) (fun op a => Answered.Civil ⟨op, a⟩) (fun _ _ => True)
    Unlimited p

theorem Serious.question {op : Action} {k : op.Answer → Work (Except Error Json)}
    (h : ∀ a, Serious (k a)) : Serious ((Work.ask op).bind k) := fun a _ => ⟨trivial, h a⟩

theorem Serious.ok (json : Json) : Serious (Program.done (.ok json)) := unlimited_ok json

theorem Serious.error {e : Error} (h : e ≠ .rateLimited) : Serious (Program.done (.error e)) := by
  rintro ⟨⟩
  exact h rfl

/-- Whatever is read before a command, it fails in its own way. -/
theorem serious_drive {α : Type} {p : Attempt α} {Q : Except Error α → Prop}
    {f : Except Error α → Work (Except Error Json)}
    (h : Attempt.AlongIf p Exchange.Civil (fun _ _ => True) Q) (hf : ∀ r, Q r → Serious (f r)) :
    Serious ((Work.drive device.ref p).bind f) :=
  Program.AlongIf.bind (Work.alongIf_drive h (fun _ _ ha => ha) fun _ _ _ => trivial) hf

theorem recovering_ne {e : Error} (h : e ≠ .rateLimited) : recovering e ≠ .rateLimited := by
  cases e with
  | notConnected => exact Error.noConfusion
  | _ => exact h

theorem serious_run (command : Command) : Serious (run device command client) := by
  have hexecute := Command.unlimited_execute device.backend command
  have hfailure : ∀ {e : Error}, Unlimited (.error e : Except Error Json) →
      Serious (Program.done (.error (recovering e))) := fun he =>
    .error (recovering_ne fun heq => he (congrArg _ heq))
  unfold run
  split
  · have hprior : Attempt.AlongIf (command.priorValue device.backend) Exchange.Civil
        (fun _ _ => True) fun _ => True :=
      (command.spared_priorValue device.backend).mono (fun _ _ h => h) (fun _ _ _ => trivial)
        fun _ h => h
    refine serious_drive hprior fun prior _ => serious_drive hexecute fun result hresult => ?_
    cases result with
    | error e => exact hfailure hresult
    | ok json => exact Serious.question fun _ => .ok json
  · refine serious_drive hexecute fun result hresult => ?_
    cases result with
    | error e => exact hfailure hresult
    | ok json => exact .ok json

theorem serious_execute (command : Command) : Serious (execute device command client) := by
  unfold execute
  rw [Work.locked_eq]
  refine fun _ _ => ⟨trivial, Program.AlongIf.bind (Q := Unlimited) ?_ fun result hresult => ?_⟩
  · refine Serious.question fun online => ?_
    cases online with
    | false => exact .error Error.noConfusion
    | true => exact serious_run command
  · exact fun _ _ => ⟨trivial, hresult⟩

theorem serious_dispatch : Serious (dispatch device name r client) := by
  unfold dispatch
  split
  · unfold loadSchedule
    split
    · exact .error Error.noConfusion
    · split
      · rename_i e hcsv
        refine .error ?_
        rintro rfl
        exact Schedule.unlimited_ofCsv _ hcsv
      · exact Serious.question fun _ => .ok _
  · exact Serious.question fun _ => .ok _
  · exact Serious.question fun status => .ok status
  · split
    · rename_i e hparse
      refine .error ?_
      rintro rfl
      exact Command.unlimited_parse _ _ hparse
    · exact serious_execute _

theorem serious_process (auth : Option String) : Serious (process auth r client) := by
  unfold process
  split
  · exact .error Error.noConfusion
  split
  · exact .error Error.noConfusion
  refine Serious.question fun settings => ?_
  split
  · exact .error Error.noConfusion
  split
  · exact Serious.question fun _ => .ok _
  unfold serveCommand
  refine Serious.question fun found => ?_
  cases found with
  | none => exact .error Error.noConfusion
  | some device =>
    refine Serious.question fun online => ?_
    cases online with
    | false => exact .error Error.noConfusion
    | true =>
      refine Program.AlongIf.bind serious_dispatch fun result hresult => ?_
      cases result with
      | error e => exact hresult
      | ok json => exact Serious.question fun _ => .ok json

/-- **No request fails because of a limit.** -/
theorem serious_outcome (intake : Intake) (line client : String) :
    Serious (outcome intake line client) := by
  unfold outcome
  split
  · rename_i e hline
    refine .error ?_
    rintro rfl
    unfold Request.parse at hline
    split at hline
    · cases hline
    · cases hline
  · exact serious_process intake.auth

/-! ## Each line is counted once -/

/-- A request is not counted again while it is processed. -/
theorem along_outcome_limits (intake : Intake) (line client : String) :
    (outcome intake line client).Along (fun op : Action => op.limits = false) fun _ => True := by
  unfold outcome
  split
  · trivial
  · rename_i r _
    have hnot : ∀ {op : Action}, op.isProcessing = true → op.limits = false := by
      intro op hop
      cases op with
      | countRequest => cases hop
      | _ => rfl
    have hmade : Work.Made (fun op : Action => op.limits = false)
        (Errand.Locked fun _ => True) (fun _ => True) (process intake.auth r client) :=
      Worker.made_process (fun _ hop => hnot hop) (fun _ _ => trivial) intake.auth r
    refine hmade.along (fun _ h => h) fun u hu => ?_
    obtain ⟨e, -⟩ := hu
    refine Errand.along_locked rfl rfl fun op hop => ?_
    cases op with
    | countRequest => cases hop
    | _ => rfl

/-- What comes of a line, by what its count came to. -/
structure Limited (client : String) (es : List Answered) (result : Except Error Json)
    (allowed : Bool) (rest : List Answered) : Prop where
  counted : es = ⟨.countRequest client, allowed⟩ :: rest
  once : ∀ x ∈ rest, x.op.limits = false
  refused : allowed = false → result = .error .rateLimited
  served : allowed = true → (∀ x ∈ es, x.Civil) → Unlimited result

theorem along_counted (result : Except Error Json) :
    (counted result).Along (fun op : Action => op.limits = false) (· = result) := by
  cases result with
  | error e => exact ⟨rfl, fun _ => rfl⟩
  | ok json => exact rfl

/-- **A line is counted first of all**, and fails because of the limit only if its count says so. -/
theorem limited_handling (h : Stretch (handling true intake line client) es (Program.done result)) :
    ∃ allowed rest, Limited client es result allowed rest := by
  have hpause : ∀ time, (Action.pauseUntil time none).limits = false := fun _ => rfl
  obtain ⟨allowed, rest, rfl, hrest⟩ := Stretch.ask_done h rfl
  refine ⟨allowed, rest, ?_⟩
  cases allowed with
  | false =>
    obtain ⟨hquiet, heq⟩ := Stretch.along hrest (along_counted (.error .rateLimited)) hpause
    exact ⟨rfl, hquiet, fun _ => heq, fun hnot => by cases hnot⟩
  | true =>
    have hafter : Stretch ((outcome intake line client).bind counted) rest (Program.done result) :=
      hrest
    obtain ⟨r, during, closing, rfl, hduring, hclosing⟩ := hafter.bind_done
    obtain ⟨hclosed, heq⟩ := hclosing.along (along_counted r) hpause
    obtain rfl : result = r := heq
    have hquiet := (hduring.along (along_outcome_limits intake line client) hpause).1
    refine ⟨rfl, List.forall_mem_append.mpr ⟨hquiet, hclosed⟩, fun hnot => (by cases hnot), ?_⟩
    intro _ hcivil
    refine (hduring.alongIf (serious_outcome intake line client) (fun x hx => ?_) ?_).2
    · exact hcivil x (List.mem_cons_of_mem _ (List.mem_append_left _ hx))
    · exact fun _ _ _ _ _ _ => trivial

end Gateway

end ChillerGateway
