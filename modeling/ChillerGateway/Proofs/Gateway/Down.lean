import ChillerGateway.Proofs.Gateway.Flags
import ChillerGateway.Proofs.Gateway.OnlineChecks

/-!
# Devices that are down

From the moment at which the flag of a device is cleared until it is set again, nobody but its
watchdog begins anything on the device, except for whoever had its lock at that moment and had found
it online; and whoever looks at the flag is turned away.

* `World.KeepsDown` — the steps of such a time.
* `World.RunBy.down` — all the time the device is offline, and nobody finds it online.
* `World.nothing_begins_down` — what clients and schedules can do meanwhile.
-/

namespace ChillerGateway

/-- What comes after an element that is not in the second part comes after it in the first. -/
theorem exists_of_append_eq {α : Type} {as bs before after : List α} {x : α}
    (h : as ++ bs = before ++ x :: after) (hx : x ∉ bs) :
    ∃ inner, as = before ++ x :: inner ∧ after = inner ++ bs := by
  rcases List.append_eq_append_iff.mp h with ⟨inner, -, rfl⟩ | ⟨inner, rfl, hrest⟩
  · exact absurd (List.mem_append_right inner List.mem_cons_self) hx
  · cases inner with
    | nil =>
      rw [List.nil_append] at hrest
      exact absurd (hrest ▸ List.mem_cons_self) hx
    | cons y inner =>
      cases hrest
      exact ⟨inner, rfl, rfl⟩

/-- Where a question leaves the flag of that device, if it turns it. -/
def Action.turns? (ref : Nat) : Action → Option Bool
  | .setOnline r online => if r = ref then some online else none
  | _ => none

theorem Action.turns?_eq_some {ref : Nat} {op : Action} {online : Bool} :
    op.turns? ref = some online ↔ op = .setOnline ref online := by
  cases op with
  | setOnline r b => simp [turns?]
  | _ => simp [turns?]

/-- Whether a program begins with a look at the flag of that device. -/
def looksAt (ref : Nat) {α : Type} : Work α → Bool
  | Program.ask (.isOnline r) _ => decide (r = ref)
  | _ => false

theorem eq_ask_of_looksAt {ref : Nat} {α : Type} {p : Work α} (h : looksAt ref p = true) :
    ∃ next, p = Program.ask (I := Action.interface) (.isOnline ref) next := by
  unfold looksAt at h
  split at h
  · rename_i r next
    obtain rfl := of_decide_eq_true h
    exact ⟨next, rfl⟩
  · cases h

namespace World

variable {u u₁ v w w' : World} {ref dog : Nat} {slot : DeviceSlot} {before during : List Event}

/-! ## While the flag stays cleared -/

/-- Devices stay. -/
theorem Run.device {es : List Event} (h : Run v es w) (hs : v.devices[ref]? = some slot) :
    ∃ slot', w.devices[ref]? = some slot' := by
  induction h with
  | start => exact ⟨slot, hs⟩
  | step _ hstep ih =>
    obtain ⟨slot₁, hslot⟩ := ih
    obtain ⟨slot₂, hslot', -⟩ := hstep.change hslot
    exact ⟨slot₂, hslot'⟩

/-- A step in which nobody sets the flag of a device. -/
structure KeepsDown (ref : Nat) (w : World) (e : Option Event) (w' : World) : Prop where
  told : ∀ x ∈ e, x.asked.op ≠ .setOnline ref true
  outside : e = none → w'.isOnline ref = w.isOnline ref

/-- The flag of a device after an answer. -/
theorem Step.online {x : Event} (h : Step w (some x) w') (hs : w.devices[ref]? = some slot) :
    ∃ slot', w'.devices[ref]? = some slot' ∧
      slot'.online = flag ref slot.online [x.asked] := by
  rw [h.told.1.devices]
  exact act_online hs x.task x.asked.op x.asked.answer

theorem flag_false_of_ne {x : Answered} (h : x.op ≠ .setOnline ref true) :
    flag ref false [x] = false := by
  obtain ⟨op, a⟩ := x
  cases op with
  | setOnline r online =>
    show (if r = ref then online else false) = false
    split
    · rename_i hr
      subst hr
      cases online with
      | false => rfl
      | true => exact absurd rfl h
    · rfl
  | _ => rfl

/-- **As long as nobody sets its flag a device is offline, and nobody finds it online.** -/
theorem RunBy.down {es : List Event} (h : RunBy (KeepsDown ref) u es w)
    (hs : u.devices[ref]? = some slot) (hdown : slot.online = false) :
    (∃ slot', w.devices[ref]? = some slot' ∧ slot'.online = false) ∧
      ∀ x ∈ es, x.asked ≠ ⟨.isOnline ref, true⟩ := by
  induction h with
  | start => exact ⟨⟨slot, hs, hdown⟩, fun x hx => by cases hx⟩
  | @step es e w w' _ hstep hkeeps ih =>
    obtain ⟨⟨slot₁, hslot, hoff⟩, hes⟩ := ih
    cases e with
    | none =>
      obtain ⟨slot₂, hslot', -⟩ := hstep.change hslot
      have hsame := hkeeps.outside rfl
      rw [isOnline_eq hslot, isOnline_eq hslot', hoff] at hsame
      rw [Option.toList_none, List.append_nil]
      exact ⟨⟨slot₂, hslot', hsame⟩, hes⟩
    | some x =>
      obtain ⟨slot₂, hslot', hflag⟩ := hstep.online hslot
      rw [hoff, flag_false_of_ne (hkeeps.told x rfl)] at hflag
      refine ⟨⟨slot₂, hslot', hflag⟩, List.forall_mem_append.mpr ⟨hes, ?_⟩⟩
      refine List.forall_mem_singleton.mpr fun hfound => ?_
      cases (hstep.told.1.online hslot true hfound).trans hoff

/-! ## Clients and schedules meanwhile -/

/-- **Nothing is begun on a device that is down.**  Since its flag was cleared, a worker other than
a watchdog takes a step of a driver on it only if it had the lock at that moment, with the device
found online, and has kept it; and whenever it looks at the flag it is told that the device is
offline, which ends what it was about as reconnecting. -/
theorem nothing_begins_down (hv : Fresh v) (hbefore : Run v before u)
    (hs : u.devices[ref]? = some slot)
    (hclears : Step u (some ⟨dog, .setOnline ref false, ()⟩) u₁)
    (hdown : RunBy (KeepsDown ref) u₁ during w) {t : Task} (ht : t ∈ w.tasks)
    (hrole : ∀ index, t.role ≠ .watchdog index) :
    (∀ op next, t.program = Program.ask (I := Action.interface) (.exchange ref op) next →
      (∃ asked, holding (own t.id before) = some (ref, ⟨.isOnline ref, true⟩ :: asked)) ∧
        ∀ x ∈ own t.id during, x.op.locks = false) ∧
    ∀ next, t.program = Program.ask (I := Action.interface) (.isOnline ref) next →
      w.act t.id (.isOnline ref) = .answered false w ∧ Refused v.intake ref t.role next := by
  obtain ⟨slot₁, hs₁, hflag⟩ := hclears.online hs
  have hoff : slot₁.online = false := by
    rw [hflag]
    exact if_pos rfl
  obtain ⟨⟨slot₂, hs₂, hdark⟩, hnever⟩ := hdown.down hs₁ hoff
  have hrun : Run v (before ++ ([⟨dog, .setOnline ref false, ()⟩] ++ during)) w := by
    rw [← List.append_assoc]
    exact (hbefore.step hclears).trans hdown.run
  rcases hrun.origin hv.numbered ht with ⟨old, hold, -⟩ | ⟨worker, -, hsame, hcourse⟩
  · rw [hv.tasks] at hold
    cases hold
  rw [← hsame] at hrole
  constructor
  · intro op next hp
    rw [hp, own_append] at hcourse
    obtain ⟨earlier, more, hown, hmore⟩ := hcourse.begins hrole
    -- Since the flag was cleared nobody has found the device online, so this one had before.
    have hnot : (⟨.isOnline ref, true⟩ : Answered) ∉
        own t.id ([⟨dog, .setOnline ref false, ()⟩] ++ during) := by
      intro hfound
      obtain ⟨e, he, heq⟩ := mem_of_mem_own hfound
      rcases List.mem_append.mp he with hfirst | hlater
      · cases List.mem_singleton.mp hfirst
        cases heq
      · exact hnever e hlater heq
    have hsplit : own t.id before ++ own t.id ([⟨dog, .setOnline ref false, ()⟩] ++ during) =
        (earlier ++ [⟨.lock ref, ()⟩]) ++ ⟨.isOnline ref, true⟩ :: more := by
      rw [hown, List.append_assoc, List.singleton_append]
    obtain ⟨asked, hheld, rfl⟩ := exists_of_append_eq hsplit hnot
    rw [List.forall_mem_append] at hmore
    refine ⟨⟨asked, ?_⟩, fun x hx => hmore.2 x ?_⟩
    · rw [hheld, List.append_assoc, List.singleton_append]
      exact holding_since earlier ref (List.forall_mem_cons.mpr ⟨rfl, hmore.1⟩)
    · rw [own_append]
      exact List.mem_append_right _ hx
  · intro next hp
    rw [hp] at hcourse
    refine ⟨?_, hsame ▸ hcourse.refused hrole⟩
    show Outcome.answered (w.isOnline ref) w = _
    rw [isOnline_eq hs₂, hdark]

/-- A bath that answers nothing. -/
def muteBath : World :=
  let device : LinkDevice := { timeout := 500, farEnd := { responder := .script [] false } }
  start none {} none (.link (device.openStream 0).2)

/-- Its watchdog has the lock, and waits for the answer to a check. -/
def checked : World := (played 9 (muteBath.startWatchdog ⟨0, "default", .link 500⟩ {}).2).2

/-- A request comes in meanwhile. -/
def queued : World := (checked.startRequest "\x7b\"command\":\"status\"\x7d" "a").2

/-- The request finds the bath online and queues for its lock, the watchdog takes the bath down, and
then the request finds it offline. -/
theorem nothing_begins_down_queued : ∃ t ∈ (played 17 queued).2.tasks,
    (own t.id (played 17 queued).1).any Answered.foundOnline = true ∧
    ∃ next, t.program = Program.ask (I := Action.interface) (.isOnline 0) next ∧
      (played 17 queued).2.act t.id (.isOnline 0) = .answered false (played 17 queued).2 ∧
      Refused {} 0 .request next := by
  have hchecked : Run muteBath (played 9 (muteBath.startWatchdog ⟨0, "default", .link 500⟩ {}).2).1
      checked := (Run.start.controlled (.startWatchdog _ _)).trans (played_run 9 _)
  have hqueued : Run muteBath _ queued := hchecked.controlled (.startRequest _ _)
  have hclears : ∃ x ∈ (played 17 queued).1, x.task = 1 ∧ x.asked.op.turns? 0 = some false := by
    decide +kernel
  obtain ⟨⟨dog, op, a⟩, hx, -, hop⟩ := hclears
  obtain rfl := Action.turns?_eq_some.mp hop
  obtain ⟨before, during, hevents⟩ := List.append_of_mem hx
  obtain ⟨u, u₁, hbefore, hstep, hduring⟩ := (played_isOnline 17 queued 0).cut hevents
  have hnever : ∀ x ∈ (played 17 queued).1, x.asked.op.turns? 0 ≠ some true := by decide +kernel
  have hdown : RunBy (KeepsDown 0) u₁ during (played 17 queued).2 := by
    refine (hduring.of_mem fun x hx => hnever x ?_).mono ?_
    · rw [hevents]
      exact List.mem_append_right _ (List.mem_cons_of_mem _ hx)
    · intro v e v' ⟨houtside, htold⟩
      exact ⟨fun x hx => fun heq => htold x hx (Action.turns?_eq_some.mpr heq), houtside⟩
  have hrequest : ∃ t ∈ (played 17 queued).2.tasks, t.role = .request ∧
      (own t.id (played 17 queued).1).any Answered.foundOnline = true ∧
      looksAt 0 t.program = true := by decide +kernel
  obtain ⟨t, ht, hrole, hfound, hlooks⟩ := hrequest
  obtain ⟨next, hp⟩ := eq_ask_of_looksAt hlooks
  obtain ⟨slot, hs⟩ : ∃ slot, u.devices[0]? = some slot :=
    (hqueued.trans hbefore.run).device rfl
  obtain ⟨hanswer, hrefused⟩ := (nothing_begins_down (fresh_start none {} none _ _)
    (hqueued.trans hbefore.run) hs hstep hdown ht (by simp [hrole])).2 next hp
  exact ⟨t, ht, hfound, next, hp, hanswer, hrole ▸ hrefused⟩

end World

end ChillerGateway
