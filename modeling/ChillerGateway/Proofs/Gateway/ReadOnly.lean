import ChillerGateway.Proofs.Device.Refusals
import ChillerGateway.Proofs.Gateway.Untouched

/-!
# Read-only mode

The gate of a read-only gateway goes by names, and what a request does goes by commands.  The two
agree: whatever the gate lets through asks for readings only, and what it stops is stopped before
anything is asked of a device.

* `Gateway.spared_handling` — a line spares everything while the settings are read-only.
* `Gateway.stopped_handling` — a request that writes by its name gets no further than the gate.
* `World.readOnly_sound` — the lines that a gateway handles while it is read-only.
-/

namespace ChillerGateway

/-! ## Programs of workers -/

/-- What holds of a driver program holds of a worker that carries it out. -/
theorem Work.alongIf_drive {α : Type} {ref : Nat} {p : Attempt α}
    {H' P' : (op : Exchange) → op.Answer → Prop} {H P : (op : Action) → op.Answer → Prop}
    {Q : Except Error α → Prop} (h : Attempt.AlongIf p H' P' Q)
    (hH : ∀ op a, H (.exchange ref op) a → H' op a)
    (hP : ∀ op a, P' op a → P (.exchange ref op) a) :
    Program.AlongIf (I := Action.interface) H P Q (Work.drive ref p) := by
  unfold Work.drive
  revert h
  show Program.AlongIf (I := Exchange.interface) H' P' Q p.run → _
  generalize p.run = q
  intro h
  induction q with
  | done r => exact h
  | ask op next ih =>
    intro a ha
    obtain ⟨hop, hnext⟩ := h a (hH op a ha)
    exact ⟨hP op a hop, ih a hnext⟩

namespace Gateway

/-- The answers of a read-only gateway. -/
def ReadOnlyAnswer : (op : Action) → op.Answer → Prop
  | .beginCommand => fun outset => outset.settings.readOnly = true
  | _ => fun _ => True

/-- What leaves the devices, the schedules and the trail alone. -/
def SparesAll (op : Action) (a : op.Answer) : Prop := Answered.spares ⟨op, a⟩ = true

/-- A program that leaves everything alone, as long as the gateway is read-only. -/
abbrev Spares {α : Type} (p : Work α) : Prop :=
  Program.AlongIf (I := Action.interface) ReadOnlyAnswer SparesAll (fun _ => True) p

variable {α β : Type} {device : Handle} {client name line : String} {r : Request}

theorem Spares.done (a : α) : Spares (Program.done a) := trivial

theorem Spares.ask {op : Action} {next : op.Answer → Work α} (hop : op.isHarmless = true)
    (h : ∀ a, ReadOnlyAnswer op a → Spares (next a)) : Spares (Program.ask op next) :=
  fun a ha => ⟨Answered.spares_of_isHarmless hop, h a ha⟩

theorem Spares.question {op : Action} {k : op.Answer → Work α} (hop : op.isHarmless = true)
    (h : ∀ a, ReadOnlyAnswer op a → Spares (k a)) : Spares ((Work.ask op).bind k) := .ask hop h

theorem Spares.bind {p : Work α} {f : α → Work β} (h : Spares p) (hf : ∀ a, Spares (f a)) :
    Spares (p.bind f) := Program.AlongIf.bind h fun a _ => hf a

/-- The names that a read-only gateway stops. -/
theorem isWrite_iff : isWrite name = true ↔ name ∈ ["set_setpoint", "start", "stop", "set_running",
    "load_schedule", "stop_schedule"] := by
  unfold isWrite Command.isMutatingName
  simp [Command.mutatingNames, scheduleWriteCommands, or_assoc]

/-! ## What the gate lets through -/

/-- A command that changes nothing. -/
theorem spared_execute {command : Command} (h : command.isMutating = false) :
    Spares (execute device command client) := by
  unfold execute
  rw [Work.locked_eq]
  refine Spares.ask rfl fun _ _ => Spares.bind ?_ fun _ => Spares.ask rfl fun _ _ => Spares.done _
  refine Spares.question rfl fun online _ => ?_
  cases online with
  | false => exact Spares.done _
  | true =>
    unfold run
    simp only [h, Bool.false_eq_true, if_false]
    refine Spares.bind ?_ fun _ => Spares.done _
    have hspared : Attempt.AlongIf (command.execute device.backend) (fun _ _ => True) Spared
        fun _ => True := Command.spared_execute device.backend h
    exact Work.alongIf_drive hspared (fun _ _ _ => trivial) fun _ _ h => h

/-- A command of a name that is not stopped. -/
theorem spared_dispatch (h : isWrite name = false) : Spares (dispatch device name r client) := by
  unfold dispatch
  split
  · exact absurd h (by decide)
  · exact absurd h (by decide)
  · exact Spares.question rfl fun _ _ => Spares.done _
  · split
    · exact Spares.done _
    · rename_i command hparse
      refine spared_execute ?_
      rw [← Command.name_of_parse hparse] at h
      exact (Bool.or_eq_false_iff.mp h).1

theorem spared_process (auth : Option String) : Spares (process auth r client) := by
  unfold process
  split
  · exact Spares.done _
  split
  · exact Spares.done _
  rename_i name _
  refine Spares.question rfl fun outset houtset => ?_
  have hreadOnly : outset.settings.readOnly = true := houtset
  simp only [hreadOnly, Bool.true_and]
  cases hwrite : isWrite name with
  | true => exact Spares.done _
  | false =>
    simp only [Bool.false_eq_true, if_false]
    split
    · exact Spares.question rfl fun _ _ => Spares.done _
    unfold serveCommand
    refine Spares.question rfl fun found _ => ?_
    cases found with
    | none => exact Spares.done _
    | some device =>
      refine Spares.question rfl fun online _ => ?_
      cases online with
      | false => exact Spares.done _
      | true =>
        refine Spares.bind (spared_dispatch hwrite) fun result => ?_
        cases result with
        | error e => exact Spares.done _
        | ok json => exact Spares.question rfl fun _ _ => Spares.done _

theorem spared_counted (result : Except Error Json) : Spares (counted result) := by
  cases result with
  | error e => exact Spares.question rfl fun _ _ => Spares.done _
  | ok json => exact Spares.done _

/-- **A line spares everything while the settings are read-only**, whatever is in it. -/
theorem spared_handling (limited : Bool) (intake : Intake) (line client : String) :
    Spares (handling limited intake line client) := by
  unfold handling
  refine Spares.bind ?_ fun allowed => ?_
  · cases limited with
    | false => exact Spares.done _
    | true => exact Spares.question rfl fun _ _ => Spares.done _
  · cases allowed with
    | error e => exact spared_counted _
    | ok _ =>
      refine Spares.bind ?_ spared_counted
      unfold outcome
      split
      · exact Spares.done _
      · exact spared_process intake.auth

/-! ## What the gate stops -/

/-- The answers of a read-only gateway to a client that is within its limit. -/
def GateAnswer (client : String) : (op : Action) → op.Answer → Prop
  | .beginCommand => fun outset => outset.settings.readOnly = true
  | .countRequest other => fun allowed => other = client → allowed = true
  | _ => fun _ => True

theorem nonEmpty_of_isWrite (hname : r.command = some name) (h : isWrite name = true) :
    nonEmpty r.command = some name := by
  rw [hname]
  unfold nonEmpty
  have hne : (!name.isEmpty) = true := by
    by_contra hempty
    have hnil : name = "" := by simpa using hempty
    rw [hnil] at h
    exact absurd h (by decide)
  exact Option.filter_some_pos hne

/-- **A request that writes by its name gets no further than the gate.** -/
theorem stopped_handling {intake : Intake} (limited : Bool) (hline : Request.ofLine? line = some r)
    (hauth : isAuthorized intake.auth r = true) (hname : r.command = some name)
    (h : isWrite name = true) :
    Program.AlongIf (I := Action.interface) (GateAnswer client)
      (fun op _ => op = .beginCommand ∨ op = .countRequest client ∨ op = .countError "read_only")
      (· = .error .readOnly) (handling limited intake line client) := by
  unfold handling
  refine Program.AlongIf.bind (Q := (· = .ok ())) ?_ ?_
  · cases limited with
    | false => exact rfl
    | true =>
      intro allowed hallowed
      refine ⟨.inr (.inl rfl), ?_⟩
      rw [hallowed rfl]
      exact rfl
  rintro _ rfl
  refine Program.AlongIf.bind (Q := (· = .error .readOnly)) ?_ ?_
  · unfold outcome process
    simp only [Request.parse_eq_ok_iff.mpr hline, hauth, Bool.not_true, Bool.false_eq_true,
      if_false, nonEmpty_of_isWrite hname h]
    intro outset houtset
    have hstopped : (outset.settings.readOnly && isWrite name) = true := by
      rw [h, Bool.and_true]
      exact houtset
    refine ⟨.inl rfl, ?_⟩
    simp only [Program.bind, hstopped, if_true]
    exact rfl
  · rintro _ rfl
    exact fun _ _ => ⟨.inr (.inr rfl), rfl⟩

end Gateway

/-! ## Runs -/

namespace World

variable {v w w' : World} {es : List Event} {C : World → Prop}

/-- What somebody is told in such a run is the answer of a gateway of which `C` holds. -/
theorem RunBy.answered {u : World} (h : RunBy (fun u _ _ => C u) u es w) :
    ∀ x ∈ es, ∃ u₁, C u₁ ∧ (u₁.act x.task x.asked.op).answer? = some x.asked.answer := by
  induction h with
  | start => exact fun x hx => by cases hx
  | step _ hs hc ih =>
    intro x hx
    rcases List.mem_append.mp hx with hold | hnew
    · exact ih x hold
    · rw [Option.mem_toList.mp hnew] at hs
      exact ⟨_, hc, hs.told.1.answer⟩

/-- A worker that handles a line was answered by such a gateway. -/
theorem Handling.answered {line client : String} {asked : List Answered}
    {q : Work (Except Error Json)} (h : Handling C v es w line client asked q) :
    ∀ x ∈ asked, ∃ u me, C u ∧ (u.act me x.op).answer? = some x.answer := by
  obtain ⟨before, after, u, -, -, hafter, t, -, limited, k, -, hown, -⟩ := h
  intro x hx
  obtain ⟨event, hevent, rfl⟩ := List.mem_map.mp (hown.subset hx)
  obtain ⟨u₁, hC, hact⟩ := hafter.answered event (List.mem_filter.mp hevent).1
  exact ⟨u₁, event.task, hC, hact⟩

/-- A gateway that is read-only answers like one. -/
theorem readOnlyAnswer_of_act {u : World} {me : Nat} {op : Action} {a : op.Answer}
    (hu : u.settings.readOnly = true) (h : (u.act me op).answer? = some a) :
    Gateway.ReadOnlyAnswer op a := by
  cases op with
  | beginCommand =>
    cases h
    exact hu
  | _ => trivial

/-- **Read-only mode is sound.**  Whatever line a worker handles while the gateway is read-only, it
changes nothing, as far as it has come.  A request that carries the token and writes by its name
fails because of the mode, if its client is within its limit; and all that is asked on the way there
is answered at once. -/
theorem readOnly_sound {line client : String} {asked : List Answered}
    {q : Work (Except Error Json)}
    (h : Handling (fun u => u.settings.readOnly = true) v es w line client asked q) :
    ChangesNothing asked ∧
    ∀ r name, Request.ofLine? line = some r → Gateway.isAuthorized v.intake.auth r = true →
      r.command = some name →
      name ∈ ["set_setpoint", "start", "stop", "set_running", "load_schedule", "stop_schedule"] →
      ⟨.countRequest client, false⟩ ∉ asked →
      (∀ result, q = Program.done result → result = .error .readOnly) ∧
      ∀ op next, q = Program.ask op next → ∀ (u : World) me, ∃ a u', u.act me op = .answered a u' := by
  have hanswers : ∀ x ∈ asked, Gateway.ReadOnlyAnswer x.op x.answer := by
    intro x hx
    obtain ⟨u, me, hu, hact⟩ := h.answered x hx
    exact readOnlyAnswer_of_act hu hact
  obtain ⟨before, after, u, -, -, hafter, t, -, limited, k, -, hown, hstretch⟩ := h
  refine ⟨changesNothing_of_spares ?_, ?_⟩
  · exact (hstretch.alongIf (Gateway.spared_handling limited v.intake line client) hanswers
      fun _ _ _ _ _ _ => rfl).1
  · intro r name hline hauth hname hwrite hlimit
    have hgate : ∀ x ∈ asked, Gateway.GateAnswer client x.op x.answer := by
      intro x hx
      have hanswer := hanswers x hx
      obtain ⟨op, a⟩ := x
      cases op with
      | beginCommand => exact hanswer
      | countRequest other =>
        rintro rfl
        by_contra hnot
        obtain rfl : a = false := Bool.eq_false_of_not_eq_true hnot
        exact hlimit hx
      | _ => trivial
    obtain ⟨-, hrest⟩ := hstretch.alongIf
      (Gateway.stopped_handling limited hline hauth hname (Gateway.isWrite_iff.mpr hwrite)) hgate
      (fun op _ hexchanges hop => by rcases hop with rfl | rfl | rfl <;> cases hexchanges)
    refine ⟨fun result hq => ?_, fun op next hq u me => ?_⟩
    · subst hq
      exact hrest
    · subst hq
      obtain ⟨a, ha⟩ : ∃ a, Gateway.GateAnswer client op a := by
        cases op with
        | beginCommand => exact ⟨⟨{ readOnly := true }, 0⟩, rfl⟩
        | countRequest other => exact ⟨true, fun _ => rfl⟩
        | _ => exact ⟨Action.somehow _, trivial⟩
      rcases (hrest a ha).1 with rfl | rfl | rfl
      · exact ⟨_, _, rfl⟩
      · exact ⟨_, _, rfl⟩
      · exact ⟨_, _, rfl⟩

/-! ## An example -/

/-- Only the operator reloads the settings. -/
theorem act_settings (w : World) (me : Nat) (op : Action) :
    (w.act me op).world.settings = w.settings := by
  cases op with
  | pauseUntil | awaitTickers | awaitReply | exchange | lock | unlock | countRequest =>
    simp only [World.act, World.exchange, World.lockFor, World.unlock, World.countRequest]
    repeat' split
    all_goals rfl
  | read index deadline =>
    simp only [World.act]
    split
    · rename_i heq
      obtain ⟨clients, rfl⟩ := incoming_eq heq
      rfl
    · rfl
  | _ => rfl

theorem turn_settings (w : World) (t : Task) : (w.turn t).settings = w.settings := by
  unfold World.turn
  split
  · simp only [World.finish]
    cases t.role with
    | ticker | watchdog | connection | request => rfl
  · rfl
  · rename_i op next _
    have hact := w.act_settings t.id op
    cases hw : w.act t.id op with
    | answered a w' | later time a w' | wait cause deadline w' =>
      rw [hw] at hact
      exact hact

/-- A read-only gateway with a simulated bath, which a client asks to start. -/
def startRefused : World :=
  (start none { readOnly := true } none (.simulated { bath := {}, connected := true })).requested
    "\x7b\"command\":\"start\"\x7d" "a"

/-- The request fails, and nothing has changed. -/
theorem readOnly_sound_start : ∃ v es w asked,
    Handling (fun u => u.settings.readOnly = true) v es w "\x7b\"command\":\"start\"\x7d" "a" asked
      (Program.done (.error .readOnly)) ∧ ChangesNothing asked := by
  have hrun : RunBy (fun u _ _ => u.settings.readOnly = true) startRefused
      (played 60 startRefused).1 (played 60 startRefused).2 :=
    played_runBy (fun u t hu => (congrArg Settings.readOnly (u.turn_settings t)).trans hu)
      (fun _ _ hu => hu) (fun _ _ hu => hu) 60 rfl
  have hend : ∀ t ∈ (played 60 startRefused).2.tasks, t.id ≠ 1 := by decide +kernel
  have hasked : ∀ x ∈ own 1 (played 60 startRefused).1,
      x.op.isProcessing = true ∨ x.failure?.isSome = true := by decide +kernel
  have hparse : (Request.ofLine? "\x7b\"command\":\"start\"\x7d").any
      (fun r => r.command = some "start") = true := by decide +kernel
  obtain ⟨r, hline, hname⟩ := (Option.any_eq_true _ _).mp hparse
  have hfresh := fresh_start none { readOnly := true } none
    (.simulated { bath := {}, connected := true }) fun _ => ""
  obtain ⟨result, hhandling⟩ := handling_of_request hfresh.numbered (run_requested _ _ _) hrun
    (mem_requested _ _ _) rfl hend
  obtain ⟨hnothing, hstopped⟩ := readOnly_sound hhandling
  have hlimit : ⟨.countRequest "a", false⟩ ∉ own 1 (played 60 startRefused).1 := by
    intro hmem
    rcases hasked _ hmem with hcount | hcount
    · cases hcount
    · cases hcount
  obtain ⟨hresult, -⟩ := hstopped r "start" hline rfl (of_decide_eq_true hname) (by decide) hlimit
  exact ⟨_, _, _, _, hresult result rfl ▸ hhandling, hnothing⟩

end World

end ChillerGateway
