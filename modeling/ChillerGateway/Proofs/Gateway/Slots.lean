import ChillerGateway.Proofs.Gateway.Turns

/-!
# A device in one step

All that a step of a gateway can do to one of its devices: its lock is taken or released, its driver
takes a step, or somebody else turns its flag, joins the line for its lock, or lets time pass at the
far end.

* `DeviceSlot.Change` — what can become of a device.
* `World.Step.change` — that a step does no more.
-/

namespace ChillerGateway

namespace Action

/-- Whether a question is about a lock. -/
def locks : Action → Bool
  | .lock _ | .unlock _ => true
  | _ => false

/-- Whether a question is about the lock of a device or what is behind it. -/
def concerns (ref : Nat) : Action → Bool
  | .lock r | .unlock r | .exchange r _ => decide (r = ref)
  | _ => false

end Action

/-- What becomes of a device without its driver. -/
inductive Device.Drifts (d : Device) : Device → Prop where
  | settled (now : Nat) : Drifts d (d.settle now)
  | switched (offline : Bool) : Drifts d (d.setFault offline)
  | heard (now : Nat) : Drifts d (d.takeHeard now).2

/-- What a step does to a device, by what somebody is told in it. -/
inductive DeviceSlot.Change (ref : Nat) (slot : DeviceSlot) : Option Event → DeviceSlot → Prop where
  | same {e} : (∀ x ∈ e, x.asked.op.concerns ref = false) → Change ref slot e slot
  | flagged {e} (online : Bool) : (∀ x ∈ e, x.asked.op.concerns ref = false) →
      Change ref slot e { slot with online }
  /-- A worker joins the line for the lock. -/
  | joined (waiting : List Nat) : Change ref slot none { slot with waiting }
  | drifted {device} : slot.device.Drifts device → Change ref slot none { slot with device }
  | taken {task : Nat} : slot.owner = none ∨ slot.owner = some task →
      Change ref slot (some ⟨task, .lock ref, ()⟩) { slot with owner := some task }
  | released {task : Nat} :
      Change ref slot (some ⟨task, .unlock ref, ()⟩)
        { slot with owner := slot.waiting.head?, waiting := slot.waiting.tail }
  | driven {task : Nat} (now : Nat) (op : Exchange) :
      Change ref slot (some ⟨task, .exchange ref op, (slot.device.exchange now op).2.1⟩)
        { slot with device := (slot.device.exchange now op).2.2 }

namespace World

variable {w w' : World} {ref : Nat} {slot : DeviceSlot}

/-- A device after a change of one device. -/
theorem getElem?_modifyDevice (hs : w.devices[ref]? = some slot) (r : Nat)
    (f : DeviceSlot → DeviceSlot) :
    (w.modifyDevice r f).devices[ref]? = some (if r = ref then f slot else slot) := by
  unfold modifyDevice
  simp only [Array.getElem?_modify, hs]
  split <;> rfl

/-- Answers that have to do with another device, or with none, leave a device as it is, but for its
flag. -/
theorem change_elsewhere (hs : w.devices[ref]? = some slot) {me : Nat} {op : Action}
    (h : op.concerns ref = false) (a : op.Answer) :
    ∃ slot', (w.act me op).world.devices[ref]? = some slot' ∧
      slot.Change ref (some ⟨me, op, a⟩) slot' := by
  have hfree : ∀ x ∈ some (⟨me, op, a⟩ : Event), x.asked.op.concerns ref = false := by
    rintro x ⟨⟩
    exact h
  have hsame : (w.act me op).world.devices[ref]? = some slot →
      ∃ slot', (w.act me op).world.devices[ref]? = some slot' ∧
        slot.Change ref (some ⟨me, op, a⟩) slot' := fun hs' => ⟨slot, hs', .same hfree⟩
  cases op with
  | setOnline r online =>
    refine ⟨_, getElem?_modifyDevice hs r _, ?_⟩
    split
    · exact .flagged online hfree
    · exact .same hfree
  | lock r =>
    have hr : r ≠ ref := of_decide_eq_false h
    refine hsame ?_
    simp only [act, lockFor]
    repeat' split
    all_goals first
      | exact hs
      | exact (getElem?_modifyDevice hs r _).trans (by rw [if_neg hr])
  | unlock r =>
    have hr : r ≠ ref := of_decide_eq_false h
    refine hsame ?_
    show (w.unlock r).devices[ref]? = some slot
    unfold World.unlock
    split
    · exact (getElem?_modifyDevice hs r _).trans (by rw [if_neg hr])
    · exact (getElem?_modifyDevice hs r _).trans (by rw [if_neg hr])
  | exchange r op =>
    have hr : r ≠ ref := of_decide_eq_false h
    refine hsame ?_
    simp only [act, World.exchange]
    repeat' split
    all_goals first
      | exact hs
      | exact (getElem?_modifyDevice hs r _).trans (by rw [if_neg hr])
  | pauseUntil | awaitTickers | awaitReply | countRequest =>
    refine hsame ?_
    simp only [act, World.countRequest]
    repeat' split
    all_goals exact hs
  | read index deadline =>
    refine hsame ?_
    simp only [act]
    split
    · rename_i heq
      obtain ⟨clients, rfl⟩ := incoming_eq heq
      exact hs
    · exact hs
  | _ => exact hsame hs

/-- An answer that has to do with a device. -/
theorem change_here (hs : w.devices[ref]? = some slot) {me : Nat} {op : Action}
    (h : op.concerns ref = true) {a : op.Answer} (ha : (w.act me op).answer? = some a) :
    ∃ slot', (w.act me op).world.devices[ref]? = some slot' ∧
      slot.Change ref (some ⟨me, op, a⟩) slot' := by
  cases op with
  | lock r =>
    obtain rfl : r = ref := of_decide_eq_true h
    simp only [act, lockFor, hs] at ha ⊢
    split
    · rename_i hmine
      have hsame : slot = { slot with owner := some me } := by rw [← hmine]
      exact ⟨_, hs.trans (congrArg some hsame), .taken (.inr hmine)⟩
    · split
      · rename_i hfree
        refine ⟨_, getElem?_modifyDevice hs r _, ?_⟩
        rw [if_pos rfl]
        exact .taken (.inl (Option.isNone_iff_eq_none.mp hfree))
      · rename_i hmine hfree
        rw [if_neg hmine, if_neg hfree] at ha
        split at ha
        · cases ha
        · cases ha
  | unlock r =>
    obtain rfl : r = ref := of_decide_eq_true h
    refine ⟨_, ?_, .released⟩
    show (w.unlock r).devices[r]? = _
    unfold World.unlock
    rw [hs]
    cases hw : slot.waiting with
    | nil =>
      simp only [Option.bind_some, hw, List.head?_nil]
      rw [getElem?_modifyDevice hs, if_pos rfl]
      simp [hw]
    | cons heir rest =>
      simp only [Option.bind_some, hw, List.head?_cons]
      show (w.modifyDevice r _).devices[r]? = _
      rw [getElem?_modifyDevice hs, if_pos rfl]
      simp [hw]
  | exchange r op =>
    obtain rfl : r = ref := of_decide_eq_true h
    simp only [act, World.exchange, hs] at ha ⊢
    split at ha
    · rename_i hlater
      rw [if_pos hlater]
      cases ha
      refine ⟨_, getElem?_modifyDevice hs r _, ?_⟩
      rw [if_pos rfl]
      exact .driven w.now op
    · rename_i hnow
      rw [if_neg hnow]
      cases ha
      refine ⟨_, getElem?_modifyDevice hs r _, ?_⟩
      rw [if_pos rfl]
      exact .driven w.now op
  | _ => cases h

/-- A question that is not answered: at most its asker joins the line for the lock. -/
theorem change_wait (hs : w.devices[ref]? = some slot) {me : Nat} {op : Action} {cause : Cause}
    {deadline : Option Nat} (h : w.act me op = .wait cause deadline w') :
    ∃ slot', w'.devices[ref]? = some slot' ∧ slot.Change ref none slot' := by
  have hsame : w' = w → ∃ slot', w'.devices[ref]? = some slot' ∧ slot.Change ref none slot' := by
    rintro rfl
    exact ⟨slot, hs, .same fun x hx => by cases hx⟩
  cases op with
  | pauseUntil | awaitTickers | read | awaitReply | exchange =>
    refine hsame ?_
    simp only [act, World.exchange] at h
    repeat' split at h
    all_goals cases h
    all_goals rfl
  | lock r =>
    simp only [act, lockFor] at h
    repeat' split at h
    all_goals cases h
    · exact hsame rfl
    · rename_i other hother _ _ _
      refine ⟨_, getElem?_modifyDevice hs r _, ?_⟩
      split
      · exact .joined _
      · exact .same fun x hx => by cases hx
  | _ => cases h

theorem change_control (hs : w.devices[ref]? = some slot) (h : Control w w') :
    ∃ slot', w'.devices[ref]? = some slot' ∧ slot.Change ref none slot' := by
  have hnone : ∀ x ∈ (none : Option Event), x.asked.op.concerns ref = false :=
    fun x hx => by cases hx
  have hsame : w'.devices = w.devices →
      ∃ slot', w'.devices[ref]? = some slot' ∧ slot.Change ref none slot' := fun hd =>
    ⟨slot, by rw [hd, hs], .same hnone⟩
  cases h with
  | register id device =>
    have href : ref < w.devices.size := (Array.getElem?_eq_some_iff.mp hs).1
    refine ⟨slot, ?_, .same hnone⟩
    show (w.devices.push _)[ref]? = _
    rw [Array.getElem?_push_lt href, ← hs, Array.getElem?_eq_getElem href]
  | settleDevices =>
    refine ⟨_, ?_, .drifted (.settled w.now)⟩
    simp only [Array.getElem?_map, hs]
    rfl
  | setOnline r online =>
    refine ⟨_, getElem?_modifyDevice hs r _, ?_⟩
    split
    · exact .flagged online hnone
    · exact .same hnone
  | setFault r fault =>
    refine ⟨_, getElem?_modifyDevice hs r _, ?_⟩
    split
    · exact .drifted (.switched fault)
    · exact .same hnone
  | takeHeard r =>
    cases hother : w.devices[r]? with
    | none => exact hsame (by simp only [World.takeHeard, hother])
    | some other =>
      have hheard : (w.takeHeard r).2 =
          w.modifyDevice r ({ · with device := (other.device.takeHeard w.now).2 }) := by
        simp only [World.takeHeard, hother]
      rw [hheard]
      refine ⟨_, getElem?_modifyDevice hs r _, ?_⟩
      split
      · rename_i hr
        obtain rfl : slot = other := Option.some.inj (hs.symm.trans (hr ▸ hother))
        exact .drifted (.heard w.now)
      · exact .same hnone
  | enter h =>
    unfold enter? at h
    split at h
    · cases h
    · cases h
      exact hsame rfl
  | openConnection h =>
    unfold openConnection? at h
    obtain ⟨v, hv, heq⟩ := Option.map_eq_some_iff.mp h
    unfold enter? at hv
    split at hv
    · cases hv
    · cases hv
      cases heq
      exact hsame rfl
  | _ => exact hsame rfl

/-- **All that a step can do to a device.** -/
theorem Step.change {e : Option Event} (h : Step w e w') (hs : w.devices[ref]? = some slot) :
    ∃ slot', w'.devices[ref]? = some slot' ∧ slot.Change ref e slot' := by
  cases e with
  | some x =>
    have htold := h.told.1
    rw [htold.devices]
    cases hx : x.asked.op.concerns ref with
    | false => exact change_elsewhere hs hx x.asked.answer
    | true => exact change_here hs hx htold.answer
  | none =>
    cases h.quiet with
    | control h => exact change_control hs h
    | wait hact hdevices =>
      rw [hdevices]
      exact change_wait hs hact
    | still hdevices =>
      rw [hdevices]
      exact ⟨slot, hs, .same fun x hx => by cases hx⟩

end World

end ChillerGateway
