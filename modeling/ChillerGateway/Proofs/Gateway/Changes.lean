import ChillerGateway.Proofs.Gateway.Errands

/-!
# Changes of devices

A request that changes a device reads the state that it is about to change, writes, and leaves one
record of it, all under the device's lock; no other request leaves a record.

* `Change` — a reading, a write and what is recorded of them.
* `Call.Recorded` — what a request leaves in the audit trail.
* `Call.recorded` — every request leaves that.
-/

namespace ChillerGateway

/-! ## Audit entries among answers -/

/-- Whether a question puts an entry into the audit trail. -/
def Action.isAudit : Action → Bool
  | .audit _ => true
  | _ => false

def Answered.audit? : Answered → Option AuditEntry
  | ⟨.audit entry, _⟩ => some entry
  | _ => none

/-- The entries that were put into the audit trail. -/
def audits (es : List Answered) : List AuditEntry := es.filterMap Answered.audit?

theorem audits_append (es fs : List Answered) : audits (es ++ fs) = audits es ++ audits fs :=
  List.filterMap_append

theorem audits_snoc (es : List Answered) (x : Answered) :
    audits (es ++ [x]) = audits es ++ x.audit?.toList := filterMap_snoc _ es x

theorem Answered.audit?_eq_none {x : Answered} (h : x.op.isAudit = false) : x.audit? = none := by
  obtain ⟨op, a⟩ := x
  cases op with
  | audit => cases h
  | _ => rfl

theorem audits_cons {x : Answered} (h : x.op.isAudit = false) (es : List Answered) :
    audits (x :: es) = audits es := List.filterMap_cons_none (Answered.audit?_eq_none h)

/-- On a path without audit questions nothing is put into the trail. -/
theorem Work.Stretch.audits_eq_nil {α : Type} {p q : Work α} {es : List Answered} {Q : α → Prop}
    (h : Work.Stretch p es q) (hp : p.Along (fun op : Action => op.isAudit = false) Q) :
    audits es = [] := by
  have hes := (h.along hp fun _ => rfl).1
  exact List.filterMap_eq_nil_iff.mpr fun x hx => Answered.audit?_eq_none (hes x hx)

theorem Work.Stretch.audits_drive {α : Type} {ref : Nat} {p : Attempt α}
    {q : Work (Except Error α)} {es : List Answered} (h : Work.Stretch (Work.drive ref p) es q) :
    audits es = [] :=
  h.audits_eq_nil (Work.along_drive (P := fun op : Action => op.isAudit = false) (fun _ => rfl) p)

/-! ## Changes -/

/-- The state that a command changes: the operation that reads it, and the text of a reading. -/
def Command.state : Command → Σ op : Operation, op.Result → String
  | setSetpoint _ => ⟨.setpoint, fun value => Binary64.write .plain value⟩
  | _ => ⟨.isRunning, fun running => if running then "true" else "false"⟩

/-- A change of a device. -/
structure Change where
  device : Handle
  command : Command
  /-- What came of reading the state before the write. -/
  prior : Except Error command.state.1.Result
  result : Json
  /-- What was answered during the reading, and during the write. -/
  reading : List Answered
  writing : List Answered

namespace Change

/-- The text of the state before the write. -/
def priorText (c : Change) : String :=
  match c.prior with
  | .ok x => c.command.state.2 x
  | .error _ => "unknown"

/-- What is recorded of a change. -/
def entry (c : Change) (client : String) : AuditEntry :=
  ⟨client, c.device.id, c.command.name, c.prior.toOption.map c.command.state.2, c.result.render⟩

/-- What the holder of the lock was answered. -/
def asked (c : Change) (client : String) : List Answered :=
  ⟨.isOnline c.device.ref, true⟩ :: (c.reading ++ c.writing ++ [⟨.audit (c.entry client), ()⟩])

/-- The driver took the reading, and then made the write with success. -/
structure Made (c : Change) : Prop where
  mutating : c.command.isMutating = true
  read : Work.Stretch (Work.drive c.device.ref (c.device.backend.perform c.command.state.1))
    c.reading (Program.done c.prior)
  wrote : Work.Stretch (Work.drive c.device.ref (c.command.execute c.device.backend))
    c.writing (Program.done (.ok c.result))

theorem oldText_entry (c : Change) (client : String) : (c.entry client).oldText = c.priorText := by
  unfold entry priorText AuditEntry.oldText
  cases c.prior with
  | ok x => rfl
  | error e => rfl

theorem Made.audits_asked {c : Change} (h : c.Made) (client : String) :
    audits (c.asked client) = [c.entry client] := by
  unfold asked
  rw [audits_cons rfl, audits_append, audits_append, h.read.audits_drive, h.wrote.audits_drive]
  rfl

end Change

theorem Work.drive_outcome_map {α β : Type} (ref : Nat) (p : Attempt α) (f : Except Error α → β) :
    Work.drive ref (Attempt.outcome p >>= fun x => pure (f x)) =
      (Work.drive ref p).bind fun x => Program.done (.ok (f x)) := by
  have hrun : (Attempt.outcome p >>= fun x => pure (f x)).run =
      p.run.bind fun x => Program.done (.ok (f x)) := Program.bind_assoc _ _ _
  have hwithin := congrArg
    (Program.within (I := Exchange.interface) fun op => Work.ask (.exchange ref op)) hrun
  exact hwithin.trans (Program.within_bind _ _ _)

/-- What a command that changes a device does before its write. -/
theorem Command.drive_priorValue {c : Command} (hc : c.isMutating = true) (ref : Nat)
    (b : Backend) : Work.drive ref (c.priorValue b) =
      (Work.drive ref (b.perform c.state.1)).bind fun prior =>
        Program.done (.ok (prior.toOption.map c.state.2)) := by
  cases c with
  | setSetpoint | start | stop | setRunning => exact Work.drive_outcome_map ref _ _
  | identify | status | getSetpoint | temperature | isRunning | statusAll | ping =>
    exact absurd hc (by decide)

/-! ## Requests -/

/-- A request of a client, with what was answered while it was processed. -/
structure Call where
  client : String
  request : Request
  asked : List Answered

namespace Call

/-- Whether a request for a change succeeded. -/
def succeeded (call : Call) (result : Except Error Json) : Bool :=
  result.toOption.isSome && call.request.command.any Command.isMutatingName

/-- A request that made a change: it named the command and the device, and got the result. -/
structure Changed (call : Call) (result : Except Error Json) (c : Change) : Prop where
  made : c.Made
  result : result = .ok c.result
  command : call.request.command = some c.command.name
  value : Command.parse c.command.name call.request.value = .ok c.command
  device : ⟨.resolve call.request.chillerId, some c.device⟩ ∈ call.asked
  /-- The change was made under the lock. -/
  locked : ∃ before after, call.asked = before ++
    ⟨.lock c.device.ref, ()⟩ :: (c.asked call.client ++ ⟨.unlock c.device.ref, ()⟩ :: after)

/-- What a request leaves in the audit trail: one entry for the change that it made, or nothing. -/
structure Recorded (call : Call) (result : Except Error Json) : Prop where
  changed : call.succeeded result = true → ∃ c, call.Changed result c ∧
    audits call.asked = [c.entry call.client] ∧ (c.entry call.client).oldText = c.priorText
  unchanged : call.succeeded result = false → audits call.asked = []

end Call

/-! ### From the device to the request -/

/-- A command with a value has it from two checks. -/
theorem Command.of_checked {α β : Type} {checked : Except Error α} {read : α → Except Error β}
    {make : β → Command} {c : Command} (h : (do return make (← read (← checked))) = .ok c) :
    ∃ b, c = make b := by
  cases checked with
  | error e => cases h
  | ok a =>
    replace h : (do return make (← read a)) = Except.ok c := h
    cases hread : read a with
    | error e =>
      rw [hread] at h
      cases h
    | ok b =>
      rw [hread] at h
      cases h
      exact ⟨b, rfl⟩

theorem Command.name_of_parse {name : String} {value : Option Json} {c : Command}
    (h : Command.parse name value = .ok c) : c.name = name := by
  unfold Command.parse at h
  split at h
  case h_4 | h_9 =>
    obtain ⟨b, rfl⟩ := Command.of_checked h
    rfl
  case h_12 => cases h
  all_goals
    cases h
    rfl

/-- What a program on a device leaves in the audit trail, by the command that it is for. -/
inductive Traced (device : Handle) (client name : String) (value : Option Json) :
    List Answered → Except Error Json → Prop where
  | changed (c : Change) {before after} : c.Made → c.device = device →
      Command.parse name value = .ok c.command → audits before = [] → audits after = [] →
      Traced device client name value (before ++ ⟨.lock device.ref, ()⟩ ::
        (c.asked client ++ ⟨.unlock device.ref, ()⟩ :: after)) (.ok c.result)
  | unchanged {es r} : audits es = [] →
      (Command.isMutatingName name = true → ∃ e, r = .error e) →
      Traced device client name value es r

namespace Traced

variable {device : Handle} {client name : String} {value : Option Json} {es fs : List Answered}
  {r : Except Error Json}

/-- Something else was answered before. -/
theorem after_others (hfs : audits fs = []) (h : Traced device client name value es r) :
    Traced device client name value (fs ++ es) r := by
  cases h with
  | changed c hmade hdevice hparse hbefore hafter =>
    rw [← List.append_assoc]
    refine .changed c hmade hdevice hparse ?_ hafter
    rw [audits_append, hfs, hbefore]
    rfl
  | unchanged hes hr =>
    refine .unchanged ?_ hr
    rw [audits_append, hfs, hes]
    rfl

/-- Something else was answered afterwards. -/
theorem before_others (hfs : audits fs = []) (h : Traced device client name value es r) :
    Traced device client name value (es ++ fs) r := by
  cases h with
  | changed c hmade hdevice hparse hbefore hafter =>
    rw [List.append_assoc, List.cons_append, List.append_assoc, List.cons_append]
    refine .changed c hmade hdevice hparse hbefore ?_
    rw [audits_append, hafter, hfs]
    rfl
  | unchanged hes hr =>
    refine .unchanged ?_ hr
    rw [audits_append, hes, hfs]
    rfl

end Traced

section

open Work (Stretch)

variable {device : Handle} {command : Command} {client : String} {es : List Answered}
  {r : Except Error Json}

/-- A command on a device that is online: a change with its record, or no record. -/
theorem Gateway.traced_run (h : Stretch (Gateway.run device command client) es (Program.done r)) :
    (∃ c : Change, c.Made ∧ c.device = device ∧ c.command = command ∧ r = .ok c.result ∧
      ⟨.isOnline device.ref, true⟩ :: es = c.asked client) ∨
    audits es = [] ∧ (command.isMutating = true → ∃ e, r = .error e) := by
  rcases Errand.run_cases h with ⟨hc, taken, outcome, reading, writing, rest, rfl, hprior, hwrote,
    hend⟩ | ⟨hc, outcome, hrun, -⟩
  · rw [Command.drive_priorValue hc] at hprior
    obtain ⟨prior, reading, after, rfl, hread, hdone⟩ := hprior.bind_done
    obtain ⟨rfl, heq⟩ := hdone.of_done
    cases heq
    rw [List.append_nil]
    rcases hend with ⟨e, rfl, rfl, rfl⟩ | ⟨result, rfl, rfl, rfl⟩
    · refine .inr ⟨?_, fun _ => ⟨_, rfl⟩⟩
      rw [audits_append, audits_append, hread.audits_drive, hwrote.audits_drive]
      rfl
    · refine .inl ⟨⟨device, command, prior, result, reading, writing⟩, ⟨hc, hread, hwrote⟩, rfl, rfl,
        rfl, ?_⟩
      exact congrArg (List.cons _) (List.append_assoc _ _ _).symm
  · exact .inr ⟨hrun.audits_drive, fun hmutating => by cases hc.symm.trans hmutating⟩

/-- A command under the lock. -/
theorem Gateway.traced_execute {name : String} {value : Option Json}
    (hparse : Command.parse name value = .ok command)
    (h : Stretch (Gateway.execute device command client) es (Program.done r)) :
    Traced device client name value es r := by
  unfold Gateway.execute at h
  rw [Work.locked_eq] at h
  obtain ⟨_, es, rfl, hlocked⟩ := h.ask_done rfl
  obtain ⟨outcome, inside, rest, rfl, hinside, hrest⟩ := hlocked.bind_done
  obtain ⟨_, fs, rfl, hdone⟩ := hrest.ask_done rfl
  obtain ⟨rfl, heq⟩ := hdone.of_done
  cases heq
  obtain ⟨online, fs, rfl, hfs⟩ := Stretch.ask_done hinside rfl
  -- The device may have gone down meanwhile, and then nothing happens under the lock.
  have hnothing : audits fs = [] → (Command.isMutatingName name = true → ∃ e, r = .error e) →
      Traced device client name value (⟨.lock device.ref, ()⟩ ::
        (⟨.isOnline device.ref, online⟩ :: fs ++ [⟨.unlock device.ref, ()⟩])) r := by
    intro hfs hr
    refine .unchanged ?_ hr
    rw [audits_cons rfl, audits_append, audits_cons rfl, hfs]
    rfl
  cases online with
  | true =>
    rcases Gateway.traced_run hfs with ⟨c, hmade, hdevice, hcommand, rfl, hasked⟩ | ⟨hnone, hr⟩
    · rw [hasked]
      show Traced device client name value ([] ++ ⟨.lock device.ref, ()⟩ :: _) _
      exact .changed c hmade hdevice (hcommand ▸ hparse) rfl rfl
    · refine hnothing hnone fun hname => hr ?_
      unfold Command.isMutating
      rwa [Command.name_of_parse hparse]
  | false =>
    obtain ⟨rfl, heq⟩ := hfs.of_done
    cases heq
    exact hnothing rfl fun _ => ⟨_, rfl⟩

/-- A named command on a device that was found. -/
theorem Gateway.traced_dispatch {name : String} {request : Request}
    (h : Stretch (Gateway.dispatch device name request client) es (Program.done r)) :
    Traced device client name request.value es r := by
  -- The commands about schedules change no device themselves.
  have hquiet : ∀ {p : Work (Except Error Json)}, Stretch p es (Program.done r) →
      p.Along (fun op : Action => op.isAudit = false) (fun _ => True) →
      Command.isMutatingName name = false →
      Traced device client name request.value es r := fun h hp hname =>
    .unchanged (h.audits_eq_nil hp) fun hmutating => by cases hname.symm.trans hmutating
  unfold Gateway.dispatch at h
  split at h
  · refine hquiet h ?_ (by decide)
    unfold Gateway.loadSchedule
    split
    · trivial
    · split
      · trivial
      · exact ⟨rfl, fun _ => trivial⟩
  · exact hquiet h ⟨rfl, fun _ => trivial⟩ (by decide)
  · exact hquiet h ⟨rfl, fun _ => trivial⟩ (by decide)
  · split at h
    · obtain ⟨rfl, heq⟩ := h.of_done
      cases heq
      exact .unchanged rfl fun _ => ⟨_, rfl⟩
    · rename_i command hparse
      exact Gateway.traced_execute hparse h

/-- A named command, past the read-only gate. -/
theorem Gateway.traced_serveCommand {name : String} {request : Request} {began : Nat}
    (h : Stretch (Gateway.serveCommand name request client began) es (Program.done r)) :
    (∃ device, ⟨.resolve request.chillerId, some device⟩ ∈ es ∧
      Traced device client name request.value es r) ∨
    audits es = [] ∧ ∃ e, r = .error e := by
  unfold Gateway.serveCommand at h
  obtain ⟨found, fs, rfl, hfound⟩ := Stretch.ask_done h rfl
  cases found with
  | none =>
    obtain ⟨rfl, heq⟩ := Stretch.of_done hfound
    cases heq
    exact .inr ⟨rfl, _, rfl⟩
  | some device =>
    obtain ⟨online, gs, rfl, honline⟩ := Stretch.ask_done hfound rfl
    cases online with
    | false =>
      obtain ⟨rfl, heq⟩ := Stretch.of_done honline
      cases heq
      exact .inr ⟨rfl, _, rfl⟩
    | true =>
      have hpast : Stretch ((Gateway.dispatch device name request client).bind _) gs
          (Program.done r) := honline
      obtain ⟨outcome, before, after, rfl, hdispatch, hrest⟩ := hpast.bind_done
      refine .inl ⟨device, List.mem_cons_self, ?_⟩
      have hend : audits after = [] ∧ r = outcome := by
        cases outcome with
        | error e =>
          obtain ⟨rfl, heq⟩ := Stretch.of_done hrest
          cases heq
          exact ⟨rfl, rfl⟩
        | ok result =>
          obtain ⟨_, fs, rfl, hdone⟩ := Stretch.ask_done hrest rfl
          obtain ⟨rfl, heq⟩ := Stretch.of_done hdone
          cases heq
          exact ⟨rfl, rfl⟩
      obtain ⟨hafter, rfl⟩ := hend
      have hpassed : Traced device client name request.value (before ++ after) r :=
        (Gateway.traced_dispatch hdispatch).before_others hafter
      have hasked : audits [⟨.resolve request.chillerId, some device⟩,
          ⟨.isOnline device.ref, true⟩] = [] := rfl
      exact hpassed.after_others hasked

end

namespace Call

open Work (Stretch)

variable {call : Call} {result : Except Error Json}

theorem recorded_of_failure (h : audits call.asked = []) (hr : ∃ e, result = .error e) :
    call.Recorded result := by
  obtain ⟨e, rfl⟩ := hr
  exact ⟨fun hok => (by cases hok), fun _ => h⟩

theorem recorded_of_traced {name : String} {device : Handle}
    (hname : call.request.command = some name)
    (hdevice : ⟨.resolve call.request.chillerId, some device⟩ ∈ call.asked)
    (h : Traced device call.client name call.request.value call.asked result) :
    call.Recorded result := by
  have hsucceeded : call.succeeded result =
      (result.toOption.isSome && Command.isMutatingName name) := by
    unfold succeeded
    rw [hname]
    rfl
  generalize hasked : call.asked = asked at h
  cases h with
  | changed c hmade hof hparse hbefore hafter =>
    subst hof
    have hcommand : call.request.command = some c.command.name := by
      rw [hname, Command.name_of_parse hparse]
    refine ⟨fun _ => ⟨c, ⟨hmade, rfl, hcommand, ?_, hdevice, _, _, hasked⟩, ?_, c.oldText_entry _⟩,
      fun hnot => ?_⟩
    · rwa [Command.name_of_parse hparse]
    · rw [hasked, audits_append, hbefore, audits_cons rfl, audits_append,
        hmade.audits_asked, audits_cons rfl, hafter]
      rfl
    · have hmutating : Command.isMutatingName c.command.name = true := hmade.mutating
      rw [Command.name_of_parse hparse] at hmutating
      rw [hsucceeded, hmutating] at hnot
      cases hnot
  | unchanged hes hr =>
    refine ⟨fun hok => ?_, fun _ => hasked ▸ hes⟩
    rw [hsucceeded, Bool.and_eq_true] at hok
    obtain ⟨e, rfl⟩ := hr hok.2
    cases hok.1

/-- **A request that succeeds in changing a device leaves one record, which tells of the change;
every other request leaves none.** -/
theorem recorded {auth : Option String}
    (h : Stretch (Gateway.process auth call.request call.client) call.asked
      (Program.done result)) : call.Recorded result := by
  have hfailed : ∀ {e}, Stretch (Program.done (.error e)) call.asked (Program.done result) →
      call.Recorded result := by
    intro e h
    obtain ⟨hnil, heq⟩ := h.of_done
    cases heq
    exact recorded_of_failure (hnil ▸ rfl) ⟨e, rfl⟩
  unfold Gateway.process at h
  split at h
  · exact hfailed h
  split at h
  · exact hfailed h
  rename_i name hname
  have hcommand : call.request.command = some name := by
    unfold Gateway.nonEmpty at hname
    exact (Option.filter_eq_some_iff.mp hname).1
  obtain ⟨outset, es, hasked, hes⟩ := Stretch.ask_done h rfl
  have haudits : audits call.asked = audits es := by rw [hasked, audits_cons rfl]
  simp only [Program.bind] at hes
  split at hes
  · obtain ⟨rfl, heq⟩ := Stretch.of_done hes
    cases heq
    exact recorded_of_failure haudits ⟨_, rfl⟩
  split at hes
  · rename_i hping
    obtain ⟨_, fs, rfl, hdone⟩ := Stretch.ask_done hes rfl
    obtain ⟨rfl, -⟩ := Stretch.of_done hdone
    refine ⟨fun hok => ?_, fun _ => haudits⟩
    unfold succeeded at hok
    rw [hcommand, hping, Bool.and_eq_true] at hok
    exact absurd hok.2 (by decide)
  · rcases Gateway.traced_serveCommand hes with ⟨device, hdevice, htraced⟩ | ⟨hnone, hr⟩
    · refine recorded_of_traced hcommand (hasked ▸ List.mem_cons_of_mem _ hdevice) ?_
      rw [hasked]
      have hfirst : audits [⟨.beginCommand, outset⟩] = [] := rfl
      exact htraced.after_others hfirst
    · exact recorded_of_failure (haudits.trans hnone) hr

end Call

end ChillerGateway
