import ChillerGateway.Proofs.Gateway.Books
import ChillerGateway.Proofs.Gateway.ReadOnly
import ChillerGateway.Proofs.Gateway.ScheduleTable

/-!
# Devices apart from each other

A request has to do with one device at most: the one that is registered under the id which its line
names.  All that is asked on the way is asked of that device, so whatever the request comes to, every
other device keeps its state, its flag, its lock, its schedule and its ticker.

* `Gateway.alongIf_handling` — whom a line's questions are about.
* `World.Registered` — devices are registered under their own ids.
* `World.Apart` — a device that a line has nothing to do with.
* `World.devices_isolated` — all devices are but the one that the line names.
-/

namespace ChillerGateway

/-! ## Questions about a device -/

namespace Action

/-- Questions of a request that are about no device. -/
def isGeneral : Action → Bool
  | .beginCommand | .countRequest _ | .countCommand .. | .countError _ | .audit _ => true
  | _ => false

/-- Questions of a request about a device. -/
def regards (device : Handle) : Action → Prop
  | .isOnline ref | .lock ref | .unlock ref | .exchange ref _ => ref = device.ref
  | .loadSchedule d _ => d = device
  | .stopSchedule id | .scheduleStatus id => id = device.id
  | _ => False

/-- Whether a question leaves a device alone, and the schedule of an id. -/
def avoids (ref : Nat) (id : String) : Action → Bool
  | .lock r | .unlock r | .exchange r _ => r ≠ ref
  | .setOnline .. | .retire .. => false
  | .loadSchedule device _ => device.id ≠ id
  | .stopSchedule other => other ≠ id
  | _ => true

theorem avoids_of_regards {device : Handle} {op : Action} {ref : Nat} {id : String}
    (h : op.regards device) (href : device.ref ≠ ref) (hid : device.id ≠ id) :
    op.avoids ref id = true := by
  cases op with
  | lock | unlock | exchange | loadSchedule | stopSchedule =>
    cases h
    exact decide_eq_true (by assumption)
  | setOnline | retire => cases h
  | _ => rfl

end Action

/-! ## What a line asks -/

namespace Gateway

/-- A line names an id when it holds a request for the device of that id. -/
def Names (line id : String) : Prop :=
  ∃ r, Request.ofLine? line = some r ∧ r.chillerId.getD World.defaultId = id

section

variable {H : (op : Action) → op.Answer → Prop} {P : Action → Prop} {device : Handle}
  {line client name : String} {r : Request}

/-- A program whose questions all satisfy `P`, as long as its answers satisfy `H`. -/
abbrev Keeps (H : (op : Action) → op.Answer → Prop) (P : Action → Prop) {α : Type} (p : Work α) :
    Prop := Program.AlongIf (I := Action.interface) H (fun op _ => P op) (fun _ => True) p

theorem Keeps.done {α : Type} (a : α) : Keeps H P (Program.done a) := trivial

theorem Keeps.question {α : Type} {op : Action} {k : op.Answer → Work α} (hop : P op)
    (hk : ∀ a, H op a → Keeps H P (k a)) : Keeps H P ((Work.ask op).bind k) :=
  fun a ha => ⟨hop, hk a ha⟩

theorem Keeps.bind {α β : Type} {p : Work α} {f : α → Work β} (h : Keeps H P p)
    (hf : ∀ a, Keeps H P (f a)) : Keeps H P (p.bind f) := Program.AlongIf.bind h fun a _ => hf a

variable (hgeneral : ∀ op : Action, op.isGeneral = true → P op)

include hgeneral

/-- A command asks its own device. -/
theorem keeps_execute (hdevice : ∀ op : Action, op.regards device → P op) (command : Command) :
    Keeps H P (execute device command client) := by
  have hlocked : (execute device command client).Along P fun _ => True :=
    Errand.along_locked (e := .command device command client) (hdevice _ rfl) (hdevice _ rfl)
      fun op hop => by
        cases op with
        | isOnline | exchange => exact hdevice _ hop
        | audit => exact hgeneral _ rfl
        | _ => cases hop
  exact Program.AlongIf.of_along hlocked

theorem keeps_dispatch (hdevice : ∀ op : Action, op.regards device → P op) :
    Keeps H P (dispatch device name r client) := by
  unfold dispatch
  split
  · unfold loadSchedule
    split
    · exact Keeps.done _
    · split
      · exact Keeps.done _
      · exact Keeps.question (hdevice _ rfl) fun _ _ => Keeps.done _
  · exact Keeps.question (hdevice _ rfl) fun _ _ => Keeps.done _
  · exact Keeps.question (hdevice _ rfl) fun _ _ => Keeps.done _
  · split
    · exact Keeps.done _
    · exact keeps_execute hgeneral hdevice _

theorem keeps_process (hresolve : P (.resolve r.chillerId))
    (hdevice : ∀ device, H (.resolve r.chillerId) (some device) →
      ∀ op : Action, op.regards device → P op) (auth : Option String) :
    Keeps H P (process auth r client) := by
  unfold process
  split
  · exact Keeps.done _
  split
  · exact Keeps.done _
  refine Keeps.question (hgeneral _ rfl) fun settings _ => ?_
  split
  · exact Keeps.done _
  split
  · exact Keeps.question (hgeneral _ rfl) fun _ _ => Keeps.done _
  unfold serveCommand
  refine Keeps.question hresolve fun found hfound => ?_
  cases found with
  | none => exact Keeps.done _
  | some device =>
    refine Keeps.question (hdevice device hfound _ rfl) fun online _ => ?_
    cases online with
    | false => exact Keeps.done _
    | true =>
      refine Keeps.bind (keeps_dispatch hgeneral (hdevice device hfound)) fun result => ?_
      cases result with
      | error e => exact Keeps.done _
      | ok json => exact Keeps.question (hgeneral _ rfl) fun _ _ => Keeps.done _

theorem keeps_counted (result : Except Error Json) : Keeps H P (counted result) := by
  cases result with
  | error e => exact Keeps.question (hgeneral _ rfl) fun _ _ => Keeps.done _
  | ok json => exact Keeps.done _

/-- **A line looks up the device that it names, and asks that device or none.** -/
theorem keeps_handling (hresolve : ∀ r, Request.ofLine? line = some r → P (.resolve r.chillerId))
    (hdevice : ∀ id device, H (.resolve id) (some device) → ∀ op : Action, op.regards device → P op)
    (limited : Bool) (intake : Intake) : Keeps H P (handling limited intake line client) := by
  unfold handling
  refine Keeps.bind ?_ fun allowed => ?_
  · cases limited with
    | false => exact Keeps.done _
    | true => exact Keeps.question (hgeneral _ rfl) fun _ _ => Keeps.done _
  · cases allowed with
    | error e => exact keeps_counted hgeneral _
    | ok _ =>
      refine Keeps.bind ?_ (keeps_counted hgeneral)
      unfold outcome
      split
      · exact Keeps.done _
      · rename_i r hr
        have hline := Request.parse_eq_ok_iff.mp hr
        exact keeps_process hgeneral (hresolve r hline) (fun device h => hdevice _ device h) _

end

end Gateway

/-! ## The schedules of a device -/

namespace Schedules

variable {s : Schedules} {ref : Nat} {id : String} {op : Action}

theorem get?_release_ne {id' : String} (h : id ≠ id') : (s.release id').get? id = s.get? id := by
  unfold get? release
  rw [lookup_without, if_neg h]

/-- The entry of an id is changed only by questions about it. -/
theorem get?_after (h : op.avoids ref id = true) (now : Nat) :
    (s.after now op).get? id = s.get? id := by
  cases op with
  | loadSchedule device schedule =>
    have hid : id ≠ device.id := (of_decide_eq_true h).symm
    have hne : (id == device.id) = false := beq_eq_false_iff_ne.mpr hid
    unfold after get? load
    simp only [List.lookup_cons, hne]
    exact get?_release_ne hid
  | stopSchedule other => exact get?_release_ne (of_decide_eq_true h).symm
  | retire => cases h
  | _ => rfl

/-- A schedule that leaves the table is cancelled, and no other one. -/
theorem isCancelled_release_ne {g : Nat} {id' : String} (h : s.inForce id' ≠ some g) :
    (s.release id').isCancelled g = s.isCancelled g := by
  unfold isCancelled release
  unfold inForce at h
  cases hget : s.get? id' with
  | none => rfl
  | some a =>
    rw [hget] at h
    have hne : a.generation ≠ g := fun heq => h (congrArg some heq)
    simp [Ne.symm hne]

/-- A generation that is in force elsewhere, if at all, is not cancelled by other questions. -/
theorem isCancelled_after {g : Nat} (h : op.avoids ref id = true)
    (hg : ∀ id', s.inForce id' = some g → id' = id) (now : Nat) :
    (s.after now op).isCancelled g = s.isCancelled g := by
  cases op with
  | loadSchedule device schedule =>
    exact isCancelled_release_ne fun hin => (of_decide_eq_true h) (hg _ hin)
  | stopSchedule other => exact isCancelled_release_ne fun hin => (of_decide_eq_true h) (hg _ hin)
  | retire => cases h
  | _ => rfl

end Schedules

namespace World

variable {w w' : World} {ref : Nat} {slot : DeviceSlot}

/-! ## Registered devices -/

/-- The device that is registered under an id is of that id. -/
def Registered (w : World) : Prop :=
  ∀ id ref, w.registry.lookup id = some ref →
    ∃ slot, w.devices[ref]? = some slot ∧ slot.id = id

theorem registered_register (id : String) (device : Device) (h : Registered w) :
    Registered (w.register id device) := by
  intro id' ref hlookup
  have hlookup : ((id, w.devices.size) :: w.registry.filter (·.1 ≠ id)).lookup id' = some ref :=
    hlookup
  rw [List.lookup_cons] at hlookup
  by_cases hid : id' = id
  · subst hid
    rw [beq_self_eq_true] at hlookup
    cases hlookup
    exact ⟨{ id := id', device }, Array.getElem?_push_size, rfl⟩
  · rw [beq_eq_false_iff_ne.mpr hid] at hlookup
    obtain ⟨slot, hs, rfl⟩ := h id' ref ((Table.lookup_filter_ne _ hid).symm.trans hlookup)
    refine ⟨slot, ?_, rfl⟩
    have href : ref < w.devices.size := (Array.getElem?_eq_some_iff.mp hs).1
    show (w.devices.push _)[ref]? = _
    rw [Array.getElem?_push_lt href, ← hs, Array.getElem?_eq_getElem href]

theorem registered_start (auth : Option String) (settings : Settings) (metrics : Option Metrics)
    (device : Device) (remark : String → String) :
    Registered (start auth settings metrics device remark) :=
  registered_register _ _ fun _ _ h => by cases h

/-- A device keeps its id, whatever happens. -/
theorem Step.slot_id {e : Option Event} (h : Step w e w') (hs : w.devices[ref]? = some slot) :
    ∃ slot', w'.devices[ref]? = some slot' ∧ slot'.id = slot.id := by
  obtain ⟨slot', hs', hchange⟩ := h.change hs
  refine ⟨slot', hs', ?_⟩
  cases hchange with
  | same | flagged | joined | drifted | taken | released | driven => rfl

theorem Run.slot_id {es : List Event} (h : Run w es w') (hs : w.devices[ref]? = some slot) :
    ∃ slot', w'.devices[ref]? = some slot' ∧ slot'.id = slot.id := by
  induction h with
  | start => exact ⟨slot, hs, rfl⟩
  | step _ hstep ih =>
    obtain ⟨slot', hs', hid⟩ := ih
    obtain ⟨slot'', hs'', hid'⟩ := hstep.slot_id hs'
    exact ⟨slot'', hs'', hid'.trans hid⟩

/-- Only a registration changes who is registered. -/
theorem Step.registry {e : Option Event} (h : Step w e w') :
    w'.registry = w.registry ∨ ∃ id device, w' = w.register id device := by
  cases e with
  | some x =>
    left
    refine (congrArg Books.registry h.books).trans ?_
    cases x.asked.op <;> rfl
  | none =>
    cases h.revised with
    | same hbooks => exact .inl (congrArg Books.registry hbooks)
    | registered id device heq => exact .inr ⟨id, device, heq⟩
    | reloaded settings heq => exact .inl (by rw [heq]; rfl)
    | clocked time heq => exact .inl (by rw [heq])

theorem Step.registered {e : Option Event} (h : Step w e w') (hw : Registered w) :
    Registered w' := by
  rcases h.registry with hregistry | ⟨id, device, rfl⟩
  · intro id ref hlookup
    rw [hregistry] at hlookup
    obtain ⟨slot, hs, rfl⟩ := hw id ref hlookup
    exact h.slot_id hs
  · exact registered_register id device hw

theorem Run.registered {es : List Event} (h : Run w es w') (hw : Registered w) : Registered w' := by
  induction h with
  | start => exact hw
  | step _ hs ih => exact hs.registered ih

/-- Looking an id up finds the device that is registered under it. -/
theorem Registered.resolve {id : Option String} {device : Handle} (hw : Registered w)
    (h : w.resolve id = some device) :
    device.id = id.getD defaultId ∧
      ∃ slot, w.devices[device.ref]? = some slot ∧ slot.id = device.id := by
  obtain ⟨ref, hlookup, hhandle⟩ := Option.bind_eq_some_iff.mp h
  obtain ⟨slot, hs, hid⟩ := hw _ _ hlookup
  unfold handleAt at hhandle
  rw [hs] at hhandle
  cases hhandle
  exact ⟨hid, slot, hs, rfl⟩

/-! ## Turns that leave a device alone -/

section

variable {me : Nat} {op : Action} {id : String}

theorem modifyDevice_ne {r : Nat} (h : r ≠ ref) (f : DeviceSlot → DeviceSlot) :
    (w.modifyDevice r f).devices[ref]? = w.devices[ref]? := by
  unfold modifyDevice
  rw [Array.getElem?_modify, if_neg h]

/-- A device is changed only by questions about it. -/
theorem act_avoids (h : op.avoids ref id = true) :
    (w.act me op).world.devices[ref]? = w.devices[ref]? := by
  cases op with
  | lock r | exchange r op =>
    have hr : r ≠ ref := of_decide_eq_true h
    simp only [act, lockFor, World.exchange]
    repeat' split
    all_goals first
      | rfl
      | exact modifyDevice_ne hr _
  | unlock r =>
    have hr : r ≠ ref := of_decide_eq_true h
    show (w.unlock r).devices[ref]? = _
    unfold World.unlock
    split
    · exact modifyDevice_ne hr _
    · exact modifyDevice_ne hr _
  | setOnline | retire => cases h
  | pauseUntil | awaitTickers | awaitReply | countRequest =>
    simp only [act, World.countRequest]
    repeat' split
    all_goals rfl
  | read index deadline =>
    simp only [act]
    split
    · rename_i heq
      obtain ⟨clients, rfl⟩ := incoming_eq heq
      rfl
    · rfl
  | _ => rfl

/-- Whoever waits for a lock asked for it. -/
theorem cause_of_wait {cause : Cause} {deadline : Option Nat}
    (h : w.act me op = .wait cause deadline w') (hop : op.avoids ref id = true) :
    cause ≠ .lock ref := by
  cases op with
  | lock r =>
    have hr : r ≠ ref := of_decide_eq_true hop
    simp only [act, lockFor] at h
    repeat' split at h
    all_goals cases h
    all_goals exact fun heq => hr (Cause.lock.inj heq)
  | pauseUntil time token =>
    simp only [act] at h
    repeat' split at h
    all_goals cases h
    cases token <;> exact Cause.noConfusion
  | awaitTickers | awaitReply | read | exchange =>
    simp only [act, World.exchange] at h
    repeat' split at h
    all_goals cases h
    all_goals exact Cause.noConfusion
  | _ => cases h

/-- The turn of a worker that asks leaves the gateway as the answer does, but for the worker. -/
theorem turn_ask {t : Task} {next : op.Answer → Work RoundEnd} (hp : t.program = Program.ask op next) :
    ∃ tasks ready waiting, w.turn t = { (w.act t.id op).world with tasks, ready, waiting } ∧
      ∀ u ∈ (w.act t.id op).world.tasks, u.id ≠ t.id → u ∈ tasks := by
  unfold World.turn
  rw [hp]
  cases hact : w.act t.id op with
  | answered a v =>
    exact ⟨_, _, _, by simp only [hact, Outcome.world]; rfl, fun u hu hid => (mem_tasksWith hid).mpr hu⟩
  | later time a v =>
    exact ⟨_, _, _, by simp only [hact, Outcome.world]; rfl, fun u hu hid => (mem_tasksWith hid).mpr hu⟩
  | wait cause deadline v =>
    exact ⟨_, _, _, by simp only [hact, Outcome.world]; rfl, fun u hu hid => hu⟩

end

/-- A turn of the worker `me` that leaves a device as it was, with its schedule and its tickers. -/
structure Passes (me : Nat) (ref : Nat) (slot : DeviceSlot) (w w' : World) : Prop where
  device : w'.devices[ref]? = some slot
  schedule : w'.schedules.get? slot.id = w.schedules.get? slot.id
  /-- A ticker of the device goes on, and is cancelled no sooner. -/
  tickers : ∀ u ∈ w.tasks, u.id ≠ me → ∀ g, u.Drives slot.id g →
    u ∈ w'.tasks ∧ w'.schedules.isCancelled g = w.schedules.isCancelled g

/-- A question that leaves a device alone has such a turn. -/
theorem passes_turn (hw : Driven w) {t : Task} {op : Action} {next : op.Answer → Work RoundEnd}
    (hp : t.program = Program.ask op next) (hs : w.devices[ref]? = some slot)
    (hop : op.avoids ref slot.id = true) : Passes t.id ref slot w (w.turn t) := by
  obtain ⟨tasks, ready, waiting, hturn, htasks⟩ := w.turn_ask hp
  rw [hturn]
  refine ⟨(act_avoids hop).trans hs, ?_, fun u hu hid g hdrives => ⟨htasks u ?_ hid, ?_⟩⟩
  · show (w.act t.id op).world.schedules.get? slot.id = _
    rw [act_schedules]
    exact Schedules.get?_after hop w.now
  · rcases act_tasks w t.id op with heq | ⟨device, schedule, rfl⟩
    · rwa [heq]
    · exact List.mem_append_left _ hu
  · show (w.act t.id op).world.schedules.isCancelled g = _
    rw [act_schedules]
    refine Schedules.isCancelled_after hop (fun id' hin => ?_) w.now
    -- Whoever drives the generation there is this ticker, so it is that of this device.
    obtain ⟨u', hu', hdrives'⟩ := hw.driven id' g hin
    obtain rfl := hw.distinct u hu u' hu' g hdrives.1 hdrives'.1
    exact hdrives'.2.eq hdrives.2

/-! ## Lines in a run -/

/-- A device that the handling of a line has nothing to do with, as far as it has come. -/
structure Apart (w : World) (asked : List Answered) (q : Work (Except Error Json)) (ref : Nat)
    (slot : DeviceSlot) : Prop where
  /-- Nothing was asked of the device, and nothing about its schedule. -/
  asked : ∀ x ∈ asked, x.op.avoids ref slot.id = true
  /-- The worker does not wait for its lock. -/
  waits : ∀ op next, q = Program.ask op next → ∀ me cause deadline u,
    w.act me op = .wait cause deadline u → cause ≠ .lock ref
  /-- The worker's turn leaves it as it was. -/
  turn : ∀ op next, q = Program.ask op next → ∀ t k, t.program = q.bind k →
    Passes t.id ref slot w (w.turn t)

variable {C : World → Prop} {v : World} {es : List Event} {line client : String}
  {asked : List Answered} {q : Work (Except Error Json)}

/-- Somebody was told what a worker was answered that handles a line. -/
theorem Handling.cut (h : Handling C v es w line client asked q) : ∀ x ∈ asked,
    ∃ before after u u' me, Run v before u ∧ Step u (some ⟨me, x⟩) u' ∧ Run u' after w := by
  obtain ⟨earlier, later, u, -, hearlier, hlater, t, -, _, _, -, hown, -⟩ := h
  intro x hx
  obtain ⟨event, hevent, rfl⟩ := List.mem_map.mp (hown.subset hx)
  obtain ⟨before, after, hes⟩ := List.append_of_mem (List.mem_filter.mp hevent).1
  obtain ⟨u₁, u₂, hbefore, hstep, hafter⟩ := hlater.cut hes
  exact ⟨_, after, u₁, u₂, event.task, hearlier.trans hbefore.run, hstep, hafter.run⟩

/-- What holds of the questions of a line, by what its look-ups came to. -/
theorem Handling.keeps {H : (op : Action) → op.Answer → Prop} {P : Action → Prop}
    (h : Handling C v es w line client asked q)
    (hgeneral : ∀ op : Action, op.isGeneral = true → P op)
    (hresolve : ∀ r, Request.ofLine? line = some r → P (.resolve r.chillerId))
    (hdevice : ∀ id device, H (.resolve id) (some device) → ∀ op : Action, op.regards device → P op)
    (hrest : ∀ time, P (.pauseUntil time none)) (hasked : ∀ x ∈ asked, H x.op x.answer) :
    (∀ x ∈ asked, P x.op) ∧ Gateway.Keeps H P q := by
  obtain ⟨_, _, _, -, -, -, _, -, limited, _, -, -, hstretch⟩ := h
  exact hstretch.alongIf (Gateway.keeps_handling hgeneral hresolve hdevice limited v.intake) hasked
    fun _ _ _ _ time _ => hrest time

/-- A line looks up the id that it names. -/
theorem Handling.names (h : Handling C v es w line client asked q) {id : Option String}
    {found : Option Handle} (hx : ⟨.resolve id, found⟩ ∈ asked) :
    Gateway.Names line (id.getD defaultId) := by
  refine (h.keeps (H := fun _ _ => True)
    (P := fun op => ∀ id, op = .resolve id → Gateway.Names line (id.getD defaultId))
    ?_ ?_ ?_ ?_ fun _ _ => trivial).1 _ hx id rfl
  · rintro _ hop id rfl
    cases hop
  · rintro r hr _ ⟨⟩
    exact ⟨r, hr, rfl⟩
  · rintro _ _ _ _ hop id rfl
    exact hop.elim
  · rintro _ _ ⟨⟩

/-- What a line comes to is the device that it names. -/
theorem Handling.resolved (hv : Registered v) (h : Handling C v es w line client asked q)
    {id : Option String} {device : Handle} (hx : ⟨.resolve id, some device⟩ ∈ asked) :
    Gateway.Names line device.id ∧
      ∃ slot, w.devices[device.ref]? = some slot ∧ slot.id = device.id := by
  obtain ⟨before, after, u, u', me, hbefore, hstep, hafter⟩ := h.cut _ hx
  have hfound : u.resolve id = some device := Option.some.inj hstep.told.1.answer
  obtain ⟨hid, slot, hs, hslot⟩ := (hbefore.registered hv).resolve hfound
  obtain ⟨slot', hs', hslot'⟩ := hstep.slot_id hs
  obtain ⟨slot'', hs'', hslot''⟩ := hafter.slot_id hs'
  exact ⟨hid ▸ h.names hx, slot'', hs'', (hslot''.trans hslot').trans hslot⟩

/-- A device that no look-up of the line came to is left alone. -/
theorem Handling.apart (hw : Driven w) (h : Handling C v es w line client asked q)
    (hs : w.devices[ref]? = some slot) (hothers : ∀ id device,
      ⟨.resolve id, some device⟩ ∈ asked → device.ref ≠ ref ∧ device.id ≠ slot.id) :
    Apart w asked q ref slot := by
  let H : (op : Action) → op.Answer → Prop
    | .resolve _ => fun found => ∀ device, found = some device →
        device.ref ≠ ref ∧ device.id ≠ slot.id
    | _ => fun _ => True
  have hasked : ∀ x ∈ asked, H x.op x.answer := by
    rintro ⟨op, a⟩ hx
    cases op with
    | resolve id =>
      rintro device rfl
      exact hothers id device hx
    | _ => trivial
  obtain ⟨hes, hrest⟩ := h.keeps (H := H) (P := fun op => op.avoids ref slot.id = true)
    (fun op hop => by
      cases op with
      | beginCommand | countRequest | countCommand | countError | audit => rfl
      | _ => cases hop)
    (fun _ _ => rfl)
    (fun id device hdevice op hop =>
      Action.avoids_of_regards hop (hdevice device rfl).1 (hdevice device rfl).2)
    (fun _ => rfl) hasked
  have hnext : ∀ op next, q = Program.ask op next → op.avoids ref slot.id = true := by
    rintro op next rfl
    obtain ⟨a, ha⟩ : ∃ a, H op a := by
      cases op with
      | resolve id => exact ⟨none, fun _ h => by cases h⟩
      | _ => exact ⟨Action.somehow _, trivial⟩
    exact (hrest a ha).1
  refine ⟨hes, fun op next hq me cause deadline u hwait => cause_of_wait hwait (hnext op next hq), ?_⟩
  rintro op next rfl t k hp
  exact passes_turn hw hp hs (hnext op next rfl)

/-- **Devices are isolated.**  However the handling of a line ends and whatever happens meanwhile,
the only device that has a part in it is the one that is registered under the id which the line
names.  All others are left as they are, with their schedules and tickers; and so are all devices
when there is none of that id. -/
theorem devices_isolated {auth : Option String} {settings : Settings} {metrics : Option Metrics}
    {device : Device} {remark : String → String}
    (h : Handling C (start auth settings metrics device remark) es w line client asked q)
    (hop : ∀ x ∈ es, x.task = operator → x.asked.op.retires = false) :
    (∀ id device, ⟨.resolve id, some device⟩ ∈ asked → Gateway.Names line device.id ∧
      ∃ slot, w.devices[device.ref]? = some slot ∧ slot.id = device.id) ∧
    ((∀ u, C u → ∀ id, Gateway.Names line id → u.registry.lookup id = none) →
      ∀ id device, ⟨.resolve id, some device⟩ ∉ asked) ∧
    ∀ ref slot, w.devices[ref]? = some slot →
      (¬ Gateway.Names line slot.id ∨ ∀ id device, ⟨.resolve id, some device⟩ ∉ asked) →
      Apart w asked q ref slot := by
  have hw : Driven w := by
    obtain ⟨before, after, u, rfl, hbefore, hafter, -⟩ := h
    exact (hbefore.trans hafter.run).driven (.start auth settings metrics device remark) hop
  have hresolved : ∀ id device, ⟨.resolve id, some device⟩ ∈ asked →
      Gateway.Names line device.id ∧
        ∃ slot, w.devices[device.ref]? = some slot ∧ slot.id = device.id :=
    fun id device hx => h.resolved (registered_start auth settings metrics _ remark) hx
  refine ⟨hresolved, fun hnone id device hx => ?_, fun ref slot hs hcase => ?_⟩
  · obtain ⟨u, me, hu, hact⟩ := h.answered _ hx
    have hfound : u.resolve id = some device := Option.some.inj hact
    obtain ⟨ref, hlookup, -⟩ := Option.bind_eq_some_iff.mp hfound
    cases (hnone u hu _ (h.names hx)).symm.trans hlookup
  · refine h.apart hw hs fun id device hx => ?_
    rcases hcase with hnames | hnone
    · obtain ⟨hnamed, slot', hs', hid⟩ := hresolved id device hx
      have hne : device.id ≠ slot.id := fun heq => hnames (heq ▸ hnamed)
      refine ⟨fun href => ?_, hne⟩
      rw [href, hs] at hs'
      cases hs'
      exact hne hid.symm
    · exact absurd hx (hnone id device)

/-! ## An example -/

/-- A gateway with two baths. -/
def twoBaths : World :=
  (start none {} none (.simulated { bath := {}, connected := true })).register "second"
    (.simulated { bath := {}, connected := true })

/-- A request for the default device. -/
def startDefault : String := "\x7b\"command\":\"start\"\x7d"

/-- The bath that the line does not name is left alone. -/
theorem devices_isolated_second : ∃ es w asked result slot,
    Handling (fun _ => True) (start none {} none (.simulated { bath := {}, connected := true })) es w
      startDefault "a" asked (Program.done result) ∧
    w.devices[1]? = some slot ∧ slot.id = "second" ∧
    Apart w asked (Program.done result) 1 slot := by
  have hregister : Run (start none {} none (.simulated { bath := {}, connected := true })) []
      (twoBaths.requested startDefault "a") :=
    (Run.start.controlled (.register "second" _)).trans (run_requested twoBaths startDefault "a")
  have hrun : RunBy (fun _ _ _ => True) (twoBaths.requested startDefault "a")
      (played 60 (twoBaths.requested startDefault "a")).1
      (played 60 (twoBaths.requested startDefault "a")).2 := (played_run 60 _).runBy
  have hend : ∀ t ∈ (played 60 (twoBaths.requested startDefault "a")).2.tasks, t.id ≠ 1 := by
    decide +kernel
  obtain ⟨result, h⟩ := handling_of_request (numbered_start _ _ _ _ _) hregister hrun
    (mem_requested _ _ _) rfl hend
  have hparse : (Request.ofLine? startDefault).any (fun r => r.chillerId = none) = true := by
    decide +kernel
  obtain ⟨r, hline, hdefault⟩ := (Option.any_eq_true _ _).mp hparse
  have hnames : ¬ Gateway.Names startDefault "second" := by
    rintro ⟨r', hline', hid⟩
    cases hline.symm.trans hline'
    rw [of_decide_eq_true hdefault] at hid
    exact absurd hid (by decide)
  have hid : (played 60 (twoBaths.requested startDefault "a")).2.devices[1]?.map (·.id) =
      some "second" := by decide +kernel
  obtain ⟨slot, hs, hslot⟩ := Option.map_eq_some_iff.mp hid
  obtain ⟨-, -, hapart⟩ := devices_isolated h (by decide +kernel)
  exact ⟨_, _, _, result, slot, h, hs, hslot, hapart 1 slot hs (.inl (hslot ▸ hnames))⟩

end World

end ChillerGateway
