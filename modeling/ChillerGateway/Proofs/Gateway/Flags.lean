import ChillerGateway.Proofs.Gateway.Openers
import ChillerGateway.Proofs.Gateway.Rejected

/-!
# The flag and the connection of a device

In a run in which one worker alone turns the flag of a device, what that worker was answered tells
how the flag stands, and whether the device can be open.

* `World.Minds` — the steps of such a run.
* `World.RunBy.minded` — the flag and the connection, by the history of the worker.
* `World.played_minds` — a gateway that is left alone does such steps.
-/

namespace ChillerGateway

namespace Action

/-- Whether a question turns the flag of that device. -/
def flagsAt (ref : Nat) : Action → Bool
  | .setOnline r _ => decide (r = ref)
  | _ => false

/-- Whether a question can open that device. -/
def opensAt (ref : Nat) : Action → Bool
  | .exchange r op => decide (r = ref) && op.opens
  | _ => false

end Action

section

variable {ref : Nat} {online before : Bool} {b : Backend} {es : List Answered}

theorem flag_of_not_flagsAt (h : ∀ x ∈ es, x.op.flagsAt ref = false) :
    flag ref online es = online := by
  refine foldl_fixed_of_mem fun x hx => ?_
  have hx := h x hx
  obtain ⟨op, a⟩ := x
  cases op with
  | setOnline r value => exact if_neg (of_decide_eq_false hx)
  | _ => rfl

theorem closed_of_not_concerns (h : ∀ x ∈ es, x.op.concerns ref = false) :
    closed ref b before es = before := by
  refine foldl_fixed_of_mem fun x hx => ?_
  have hx := h x hx
  obtain ⟨op, a⟩ := x
  cases op with
  | exchange r op => exact if_neg (of_decide_eq_false hx)
  | _ => rfl

theorem closed_exchange (op : Exchange) (a : op.Answer) :
    closed ref b before [⟨.exchange ref op, a⟩] = (op.closes b || (before && !op.opens)) :=
  if_pos rfl

end

theorem Device.isLink_backend (d : Device) : d.backend.isLink = d.isLink := by
  cases d <;> rfl

theorem Exchange.closes_congr {b b' : Backend} (h : b.isLink = b'.isLink) (op : Exchange) :
    op.closes b = op.closes b' := by
  unfold Exchange.closes
  rw [h]

namespace World

variable {u v w w' : World} {task ref me : Nat} {op : Action} {slot : DeviceSlot}
  {es : List Event}

/-- Whether a device is connected. -/
def isConnected (w : World) (ref : Nat) : Bool := w.devices[ref]?.any (·.device.isConnected)

theorem isOnline_eq (hs : w.devices[ref]? = some slot) : w.isOnline ref = slot.online := by
  unfold isOnline
  rw [hs]
  rfl

theorem isConnected_eq (hs : w.devices[ref]? = some slot) :
    w.isConnected ref = slot.device.isConnected := by
  unfold isConnected
  rw [hs]
  rfl

/-- The flag of a device is turned by a question for that only. -/
theorem act_online (hs : w.devices[ref]? = some slot) (me : Nat) (op : Action) (a : op.Answer) :
    ∃ slot', (w.act me op).world.devices[ref]? = some slot' ∧
      slot'.online = flag ref slot.online [⟨op, a⟩] := by
  cases hop : op.flags with
  | false =>
    obtain ⟨slot', hs', heq⟩ : ∃ slot', (w.act me op).world.devices[ref]? = some slot' ∧
        slot'.online = slot.online :=
      act_slot DeviceSlot.online (fun _ _ _ => rfl) (.inl hop) (.inr fun _ _ => rfl) hs
    refine ⟨slot', hs', heq.trans (flag_of_not_flags ?_).symm⟩
    exact List.forall_mem_singleton.mpr hop
  | true =>
    cases op with
    | setOnline r online =>
      refine ⟨_, getElem?_modifyDevice hs r _, ?_⟩
      show _ = if r = ref then online else slot.online
      split
      · rfl
      · rfl
    | _ => cases hop

/-! ## Steps that leave a device to a worker -/

/-- A step in which the flag of a device is left to one worker, and the operator does not open it. -/
structure Minds (task ref : Nat) (w : World) (e : Option Event) (w' : World) : Prop where
  outside : e = none → w'.isOnline ref = w.isOnline ref
  flag : ∀ x ∈ e, x.asked.op.flagsAt ref = true → x.task = task
  operator : ∀ x ∈ e, x.task = operator → x.asked.op.opensAt ref = false

/-- How a device stands that was online and is left to one worker, which was answered `asked`. -/
structure Minded (ref : Nat) (b : Backend) (asked : List Answered) (slot : DeviceSlot) : Prop where
  kind : b.isLink = slot.device.isLink
  online : slot.online = ChillerGateway.flag ref true asked
  truthful : Truthful ref true asked
  closed : ChillerGateway.closed ref b false asked = true → slot.device.isConnected = false

variable {b : Backend} {asked : List Answered} {slot' : DeviceSlot} {x : Event}

/-- Nothing of what others do to a device opens it. -/
theorem isConnected_of_change {e : Option Event} (h : slot.Change ref e slot')
    (he : ∀ x ∈ e, x.asked.op.opensAt ref = false) (hs : slot.device.isConnected = false) :
    slot'.device.isConnected = false := by
  cases h with
  | same | flagged | joined | taken | released => exact hs
  | drifted hd => exact hd.isConnected.trans hs
  | @driven task now op =>
    have hopens : op.opens = false := by simpa [Action.opensAt] using he _ rfl
    exact slot.device.isConnected_of_not_opens now hopens hs

/-- What the worker does that has a device to itself. -/
theorem closed_of_change (h : slot.Change ref (some x) slot') {before : Bool}
    (hkind : b.isLink = slot.device.isLink)
    (hbefore : before = true → slot.device.isConnected = false)
    (hclosed : ChillerGateway.closed ref b before [x.asked] = true) :
    slot'.device.isConnected = false := by
  have haside : x.asked.op.concerns ref = false → slot.device.isConnected = false := by
    intro hx
    apply hbefore
    rwa [closed_of_not_concerns (List.forall_mem_singleton.mpr hx)] at hclosed
  cases h with
  | same hfree => exact haside (hfree x rfl)
  | flagged _ hfree => exact haside (hfree x rfl)
  | taken | released => exact hbefore hclosed
  | @driven task now op =>
    rw [closed_exchange, Bool.or_eq_true, Bool.and_eq_true] at hclosed
    rcases hclosed with hcloses | ⟨hshut, hopens⟩
    · apply slot.device.isConnected_of_closes now
      rwa [← Exchange.closes_congr (hkind.trans slot.device.isLink_backend.symm)]
    · apply slot.device.isConnected_of_not_opens now _ (hbefore hshut)
      simpa using hopens

/-- A step that tells nothing leaves a device as the worker has it. -/
theorem Minded.quiet (h : Minded ref b asked slot) (hc : slot.Change ref none slot')
    (honline : slot'.online = slot.online) : Minded ref b asked slot' where
  kind := h.kind.trans hc.isLink.symm
  online := honline.trans h.online
  truthful := h.truthful
  closed := fun hclosed => isConnected_of_change hc (fun _ hx => by cases hx) (h.closed hclosed)

/-- What others are told changes nothing of what the worker knows. -/
theorem Minded.other (h : Minded ref b asked slot) (hc : slot.Change ref (some x) slot')
    (honline : slot'.online = flag ref slot.online [x.asked])
    (hflags : x.asked.op.flagsAt ref = false) (hopens : x.asked.op.opensAt ref = false) :
    Minded ref b asked slot' where
  kind := h.kind.trans hc.isLink.symm
  online := by
    rw [honline, flag_of_not_flagsAt (List.forall_mem_singleton.mpr hflags), h.online]
  truthful := h.truthful
  closed := fun hclosed =>
    isConnected_of_change hc (fun _ hx => by cases hx; exact hopens) (h.closed hclosed)

/-- The worker itself knows what it has done. -/
theorem Minded.mine (h : Minded ref b asked slot) (hc : slot.Change ref (some x) slot')
    (honline : slot'.online = flag ref slot.online [x.asked])
    (htold : ∀ a, x.asked = ⟨.isOnline ref, a⟩ → a = slot.online) :
    Minded ref b (asked ++ [x.asked]) slot' where
  kind := h.kind.trans hc.isLink.symm
  online := by rw [honline, h.online, flag_append]
  truthful := by
    rw [h.online] at htold
    exact truthful_append.mpr ⟨h.truthful, htold, trivial⟩
  closed := by
    intro hclosed
    rw [closed_append] at hclosed
    exact closed_of_change hc h.kind h.closed hclosed

/-- What a worker is told of a flag is how it stands. -/
theorem Told.online (h : Told w x w') (hs : w.devices[ref]? = some slot) :
    ∀ a, x.asked = ⟨.isOnline ref, a⟩ → a = slot.online := by
  obtain ⟨task, op, a⟩ := x
  rintro _ ⟨⟩
  have ha := h.answer
  rw [← isOnline_eq hs]
  exact (Option.some.inj ha).symm

/-- **The flag and the connection of a device that is left to one worker** are as that worker has
them, by what it was answered. -/
theorem RunBy.minded (h : RunBy (Minds task ref) u es w) (hs : u.devices[ref]? = some slot)
    (honline : slot.online = true)
    (hothers : ∀ x ∈ es, x.task ≠ task → x.asked.op.opensAt ref = false) :
    ∃ slot', w.devices[ref]? = some slot' ∧ Minded ref slot.device.backend (own task es) slot' := by
  induction h with
  | start =>
    refine ⟨slot, hs, slot.device.isLink_backend, honline, trivial, fun hclosed => ?_⟩
    cases hclosed
  | @step es e w w' _ hstep hminds ih =>
    rw [List.forall_mem_append] at hothers
    obtain ⟨slot₁, hslot, hminded⟩ := ih hothers.1
    obtain ⟨slot₂, hslot', hchange⟩ := hstep.change hslot
    refine ⟨slot₂, hslot', ?_⟩
    cases e with
    | none =>
      have hsame := hminds.outside rfl
      rw [isOnline_eq hslot, isOnline_eq hslot'] at hsame
      rw [Option.toList_none, List.append_nil]
      exact hminded.quiet hchange hsame
    | some x =>
      have htold := hstep.told.1
      obtain ⟨slot₃, hslot₃, hflag⟩ := act_online hslot x.task x.asked.op x.asked.answer
      rw [← htold.devices, hslot'] at hslot₃
      obtain rfl := Option.some.inj hslot₃
      rw [Option.toList_some, own_concat]
      split
      · exact hminded.mine hchange hflag (htold.online hslot)
      · rename_i hother
        have hflags : x.asked.op.flagsAt ref = false := by
          rw [← Bool.not_eq_true]
          exact fun hx => hother (hminds.flag x rfl hx)
        exact hminded.other hchange hflag hflags (hothers.2 x (List.mem_singleton_self x) hother)

/-! ## A gateway that is left alone -/

theorem isOnline_modifyDevice (w : World) (r : Nat) {f : DeviceSlot → DeviceSlot}
    (hf : ∀ slot, (f slot).online = slot.online) (ref : Nat) :
    (w.modifyDevice r f).isOnline ref = w.isOnline ref := by
  cases hs : w.devices[ref]? with
  | some slot =>
    rw [isOnline_eq hs, isOnline_eq (getElem?_modifyDevice hs r f)]
    split
    · exact hf slot
    · rfl
  | none =>
    unfold isOnline modifyDevice
    simp only [Array.getElem?_modify, hs]
    split <;> rfl

/-- Waiting turns no flag. -/
theorem isOnline_wait {cause : Cause} {deadline : Option Nat}
    (h : w.act me op = .wait cause deadline w') (ref : Nat) : w'.isOnline ref = w.isOnline ref := by
  cases op with
  | pauseUntil | awaitTickers | read | awaitReply | exchange =>
    simp only [World.act, World.exchange] at h
    repeat' split at h
    all_goals cases h
    all_goals rfl
  | lock r =>
    simp only [World.act, World.lockFor] at h
    repeat' split at h
    all_goals cases h
    all_goals first
      | rfl
      | exact isOnline_modifyDevice w r (by intro; rfl) ref
  | _ => cases h

/-- A turn that tells nothing turns no flag. -/
theorem isOnline_turn {t : Task} (h : w.tells t = none) (ref : Nat) :
    (w.turn t).isOnline ref = w.isOnline ref := by
  unfold tells World.told at h
  unfold World.turn
  cases hp : t.program with
  | ask op next =>
    rw [hp] at h
    simp only at h ⊢
    cases hact : w.act t.id op with
    | answered | later =>
      rw [hact] at h
      cases h
    | wait cause deadline v => exact isOnline_wait hact ref
  | done r =>
    cases r with
    | again worker => rfl
    | ended reply =>
      simp only [World.finish]
      cases t.role with
      | ticker | watchdog | connection | request => rfl

/-- In a gateway that is left alone flags are turned by answers only. -/
theorem played_isOnline (n : Nat) (w : World) (ref : Nat) :
    RunBy (fun u e u' => e = none → u'.isOnline ref = u.isOnline ref) w
      (played n w).1 (played n w).2 :=
  played_runBy_of (P := fun _ => True) (fun _ _ _ => ⟨fun h => isOnline_turn h ref, trivial⟩)
    (fun _ _ _ => ⟨fun _ => rfl, trivial⟩) (fun _ _ _ => ⟨fun _ => rfl, trivial⟩) n trivial

/-- **A gateway that is left alone leaves a device to one worker,** if nobody else turns its flag and
the operator does not open it. -/
theorem played_minds (n : Nat) (hall : ∀ x ∈ (played n w).1,
    (x.asked.op.flagsAt ref = true → x.task = task) ∧
      (x.task = operator → x.asked.op.opensAt ref = false)) :
    RunBy (Minds task ref) w (played n w).1 (played n w).2 := by
  apply ((played_isOnline n w ref).of_mem hall).mono
  intro u e u' ⟨houtside, hevents⟩
  exact ⟨houtside, fun x hx => (hevents x hx).1, fun x hx => (hevents x hx).2⟩

end World

end ChillerGateway
