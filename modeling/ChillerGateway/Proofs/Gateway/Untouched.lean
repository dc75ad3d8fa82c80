import ChillerGateway.Proofs.Device.Settings
import ChillerGateway.Proofs.Gateway.Handling
import ChillerGateway.Proofs.Gateway.ScheduleTable

/-!
# What leaves a gateway as it was

Most questions of workers change nothing that matters to anybody else: neither the settings of a
device nor the table of schedules nor the audit trail, and no other worker.

* `Answered.spares` — questions with answers of which nothing comes.
* `World.LeftAlone` — a gateway before and after a turn of a worker of which nothing came.
* `World.leftAlone_turn` — a turn in which a worker is told such an answer is one.
* `World.ChangesNothing` — what a worker was answered that changed nothing.
-/

namespace ChillerGateway

/-- Whether a question with its answer leaves the devices, the schedules and the trail alone. -/
def Answered.spares : Answered → Bool
  | ⟨.exchange _ op, a⟩ => op.spares a
  | ⟨op, _⟩ => op.isHarmless

theorem Answered.spares_of_isHarmless {x : Answered} (h : x.op.isHarmless = true) :
    x.spares = true := by
  obtain ⟨op, a⟩ := x
  cases op with
  | exchange => cases h
  | _ => exact h

theorem Answered.isHarmless_or_exchanges {x : Answered} (h : x.spares = true) :
    x.op.isHarmless = true ∨ x.op.exchanges = true := by
  obtain ⟨op, a⟩ := x
  cases op with
  | exchange => exact .inr rfl
  | _ => exact .inl h

theorem audits_of_spares {es : List Answered} (h : ∀ x ∈ es, x.spares = true) : audits es = [] := by
  refine List.filterMap_eq_nil_iff.mpr fun x hx => Answered.audit?_eq_none ?_
  have hspares := h x hx
  obtain ⟨op, a⟩ := x
  cases op with
  | audit => cases hspares
  | _ => rfl

/-- What asks for something does not begin like what writes. -/
theorem Link.startsWith_of_query {line : String} (h : Link.queries.contains line = true) :
    line.startsWith Responder.writeMark = false := by
  have hall : Link.queries.all fun line => !line.startsWith Responder.writeMark := by
    decide +kernel
  simpa using List.all_eq_true.mp hall line (List.contains_iff_mem.mp h)

namespace World

variable {w w' w'' : World} {me : Nat} {op : Action}

/-- Nothing but the worker `me` is different. -/
structure LeftAlone (me : Nat) (w w' : World) : Prop where
  devices : ∀ (ref : Nat) (slot : DeviceSlot), w.devices[ref]? = some slot →
    ∃ slot', w'.devices[ref]? = some slot' ∧ slot.device.LeftAlone slot'.device
  schedules : w'.schedules = w.schedules
  trail : w'.trail = w.trail
  /-- Whoever else is at work goes on. -/
  workers : ∀ t ∈ w.tasks, t.id ≠ me → t ∈ w'.tasks

/-- Only what is about tasks is different. -/
theorem LeftAlone.of_tasks (h : LeftAlone me w w') (hdevices : w''.devices = w'.devices)
    (hschedules : w''.schedules = w'.schedules) (htrail : w''.trail = w'.trail)
    (htasks : ∀ t ∈ w'.tasks, t.id ≠ me → t ∈ w''.tasks) : LeftAlone me w w'' where
  devices := hdevices ▸ h.devices
  schedules := hschedules.trans h.schedules
  trail := htrail.trans h.trail
  workers := fun t ht hid => htasks t (h.workers t ht hid) hid

theorem LeftAlone.refl (me : Nat) (w : World) : LeftAlone me w w where
  devices := fun _ slot hs => ⟨slot, hs, .refl slot.device⟩
  schedules := rfl
  trail := rfl
  workers := fun _ ht _ => ht

theorem LeftAlone.setProgram (h : LeftAlone me w w') (p : Work RoundEnd) :
    LeftAlone me w (w'.setProgram me p) :=
  h.of_tasks rfl rfl rfl fun _ ht hid => (mem_tasksWith hid).mpr ht

/-- What a question cannot change of a device: everything but its flag, if it turns none, and what is
behind it, if it is no step of a driver. -/
theorem act_slot {β : Type} {ref : Nat} {slot : DeviceSlot} (g : DeviceSlot → β)
    (hlock : ∀ s owner waiting, g { s with owner, waiting } = g s)
    (hflag : op.flags = false ∨ ∀ s online, g { s with online } = g s)
    (hdriver : op.exchanges = false ∨ ∀ s device, g { s with device } = g s)
    (hs : w.devices[ref]? = some slot) :
    ∃ slot', (w.act me op).world.devices[ref]? = some slot' ∧ g slot' = g slot := by
  have hmodify : ∀ (r : Nat) (f : DeviceSlot → DeviceSlot), (∀ s, g (f s) = g s) →
      ∃ slot', (w.modifyDevice r f).devices[ref]? = some slot' ∧ g slot' = g slot := by
    intro r f hf
    refine ⟨_, getElem?_modifyDevice hs r f, ?_⟩
    split
    · exact hf slot
    · rfl
  cases op with
  | exchange r op =>
    have hdevice := hdriver.resolve_left Bool.noConfusion
    simp only [act, World.exchange]
    repeat' split
    all_goals first
      | exact ⟨slot, hs, rfl⟩
      | exact hmodify r _ fun s => hdevice s _
  | setOnline r online =>
    have honline := hflag.resolve_left Bool.noConfusion
    exact hmodify r _ fun s => honline s _
  | lock r =>
    simp only [act, lockFor]
    repeat' split
    all_goals first
      | exact ⟨slot, hs, rfl⟩
      | exact hmodify r _ fun s => hlock s _ _
  | unlock r =>
    show ∃ slot', (w.unlock r).devices[ref]? = _ ∧ _
    unfold World.unlock
    split
    · exact hmodify r _ fun s => hlock s _ _
    · exact hmodify r _ fun s => hlock s _ _
  | pauseUntil | awaitTickers | awaitReply | countRequest =>
    refine ⟨slot, ?_, rfl⟩
    simp only [act, World.countRequest]
    repeat' split
    all_goals exact hs
  | read index deadline =>
    refine ⟨slot, ?_, rfl⟩
    simp only [act]
    split
    · rename_i heq
      obtain ⟨clients, rfl⟩ := incoming_eq heq
      exact hs
    · exact hs
  | _ => exact ⟨slot, hs, rfl⟩

/-- Only steps of drivers have to do with what is behind a device. -/
theorem act_device {ref : Nat} {slot : DeviceSlot} (hs : w.devices[ref]? = some slot)
    (h : op.exchanges = false) :
    ∃ slot', (w.act me op).world.devices[ref]? = some slot' ∧ slot'.device = slot.device :=
  act_slot DeviceSlot.device (fun _ _ _ => rfl) (.inr fun _ _ => rfl) (.inl h) hs

/-- Whoever has to wait asked for nothing that changes something. -/
theorem isHarmless_of_wait {cause : Cause} {deadline : Option Nat}
    (h : w.act me op = .wait cause deadline w') : op.isHarmless = true ∨ op.exchanges = true := by
  cases op with
  | setOnline | loadSchedule | stopSchedule | retire | audit => cases h
  | exchange => exact .inr rfl
  | _ => exact .inl rfl

/-- A step of a driver that spares its device. -/
theorem leftAlone_exchange {ref : Nat} {op : Exchange}
    (h : ∀ a, (w.exchange ref op).answer? = some a → op.spares a = true) :
    LeftAlone me w (w.exchange ref op).world := by
  unfold World.exchange at h ⊢
  cases hs : w.devices[ref]? with
  | none => exact .refl me w
  | some slot =>
    simp only [hs] at h ⊢
    have hspares : op.spares (slot.device.exchange w.now op).2.1 = true := by
      refine h _ ?_
      split <;> rfl
    have hleft : LeftAlone me w
        (w.modifyDevice ref ({ · with device := (slot.device.exchange w.now op).2.2 })) := by
      refine ⟨fun r other hother => ⟨_, getElem?_modifyDevice hother ref _, ?_⟩, rfl, rfl,
        fun _ ht _ => ht⟩
      split
      · rename_i hr
        subst hr
        cases hs.symm.trans hother
        exact slot.device.leftAlone_exchange w.now hspares
      · exact .refl _
    split
    · exact hleft
    · exact hleft

/-- A question that spares everything, if it is answered. -/
theorem leftAlone_act (h : ∀ a, (w.act me op).answer? = some a → Answered.spares ⟨op, a⟩ = true) :
    LeftAlone me w (w.act me op).world := by
  have hop : op.isHarmless = true ∨ op.exchanges = true := by
    cases hact : w.act me op with
    | answered a w' =>
      rw [hact] at h
      exact Answered.isHarmless_or_exchanges (h a rfl)
    | later time a w' =>
      rw [hact] at h
      exact Answered.isHarmless_or_exchanges (h a rfl)
    | wait cause deadline w' => exact isHarmless_of_wait hact
  rcases hop with hop | hop
  · refine ⟨fun ref slot hs => ?_, ?_, ?_, ?_⟩
    · obtain ⟨slot', hs', heq⟩ : ∃ slot', (w.act me op).world.devices[ref]? = some slot' ∧
          slot'.device = slot.device := act_device hs (Action.not_exchanges_of_isHarmless hop)
      exact ⟨slot', hs', heq ▸ .refl slot.device⟩
    · rw [act_schedules]
      cases op with
      | loadSchedule | stopSchedule | retire => cases hop
      | _ => rfl
    · rw [act_trail w me op op.somehow, Answered.audit?_eq_none]
      · rfl
      · cases op with
        | audit => cases hop
        | _ => rfl
    · intro t ht _
      rcases act_tasks w me op with htasks | ⟨device, schedule, rfl⟩
      · rwa [htasks]
      · cases hop
  · cases op with
    | exchange ref op => exact leftAlone_exchange h
    | _ => cases hop

/-- **Nothing comes of a turn in which a worker is told nothing else.** -/
theorem leftAlone_turn {t : Task} (h : ∀ x ∈ w.tells t, x.asked.spares = true) :
    LeftAlone t.id w (w.turn t) := by
  unfold tells at h
  unfold World.turn
  cases hp : t.program with
  | done r =>
    cases r with
    | again worker => exact (LeftAlone.refl t.id w).setProgram _
    | ended reply =>
      have htasks : ∀ u ∈ w.tasks, u.id ≠ t.id → u ∈ w.tasks.filter (·.id ≠ t.id) :=
        fun u hu hid => List.mem_filter.mpr ⟨hu, by simpa using hid⟩
      refine (LeftAlone.refl t.id w).of_tasks ?_ ?_ ?_ ?_
      all_goals
        simp only [World.finish]
        cases t.role with
        | ticker | watchdog | connection | request => first | rfl | exact htasks
  | ask op next =>
    rw [hp] at h
    have hact : LeftAlone t.id w (w.act t.id op).world :=
      leftAlone_act fun a ha => h ⟨t.id, op, a⟩ (Option.map_eq_some_iff.mpr ⟨a, ha, rfl⟩)
    simp only
    cases hw : w.act t.id op with
    | answered a w' =>
      rw [hw] at hact
      exact hact.setProgram _
    | later time a w' =>
      rw [hw] at hact
      exact (hact.setProgram _).of_tasks rfl rfl rfl fun _ ht _ => ht
    | wait cause deadline w' =>
      rw [hw] at hact
      exact hact.of_tasks rfl rfl rfl fun _ ht _ => ht

/-- What a worker was answered that changed nothing. -/
structure ChangesNothing (asked : List Answered) : Prop where
  /-- No line that writes went out. -/
  lines : ∀ ref line a, ⟨.exchange ref (.send line), a⟩ ∈ asked →
    line.startsWith Responder.writeMark = false
  /-- Nothing was recorded. -/
  records : audits asked = []
  /-- No turn with one of these answers, or without any, changes a device, the schedules, the trail
  or another worker. -/
  turns : ∀ (w : World) (t : Task), (∀ x ∈ w.tells t, x.asked ∈ asked) →
    LeftAlone t.id w (w.turn t)

theorem changesNothing_of_spares {asked : List Answered} (h : ∀ x ∈ asked, x.spares = true) :
    ChangesNothing asked where
  lines := fun _ _ _ hx => Link.startsWith_of_query (h _ hx)
  records := audits_of_spares h
  turns := fun _ _ ht => leftAlone_turn fun x hx => h _ (ht x hx)

end World

end ChillerGateway
