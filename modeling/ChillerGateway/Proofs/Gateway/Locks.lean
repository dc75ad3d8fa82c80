import ChillerGateway.Proofs.Gateway.Dialogue
import ChillerGateway.Proofs.Gateway.Errands
import Mathlib.Data.List.Induction

/-!
# The locks of devices

A lock has one owner at a time, so the history of a gateway, as far as one device goes, is a
sequence of holds: one worker takes the lock, runs an errand, and releases it, and meanwhile nobody
else has anything to do with the device.

* `holding` — the lock that a worker holds, by its own history.
* `Held` — a history as a sequence of holds of one device.
* `World.Introduced.guarded` — every history is one, and each hold is an errand in a dialogue with the
  device.
-/

namespace ChillerGateway

namespace Action

/-- Whether a question is asked under a lock only. -/
def isGuarded : Action → Bool
  | .lock _ | .unlock _ | .exchange .. | .audit _ => true
  | _ => false

end Action

/-! ## The own history of a worker -/

/-- The lock that a worker holds after one more answer, with what it was answered since it has
it. -/
def holdingAfter (held : Option (Nat × List Answered)) (x : Answered) :
    Option (Nat × List Answered) :=
  match x.op with
  | .lock ref => some (ref, [])
  | .unlock _ => none
  | _ => held.map fun (ref, asked) => (ref, asked ++ [x])

/-- The lock that a worker holds. -/
def holding (es : List Answered) : Option (Nat × List Answered) := es.foldl holdingAfter none

theorem holding_snoc (es : List Answered) (x : Answered) :
    holding (es ++ [x]) = holdingAfter (holding es) x := by
  unfold holding
  rw [List.foldl_append]
  rfl

theorem holdingAfter_of_locks {x : Answered} (h : x.op.locks = false)
    (held : Option (Nat × List Answered)) :
    holdingAfter held x = held.map fun (ref, asked) => (ref, asked ++ [x]) := by
  obtain ⟨op, a⟩ := x
  cases op with
  | lock | unlock => cases h
  | _ => rfl

/-- A lock that a worker holds it had before, or has just taken. -/
theorem of_holdingAfter {held : Option (Nat × List Answered)} {x : Answered} {ref : Nat}
    {asked : List Answered} (h : holdingAfter held x = some (ref, asked)) :
    x.op.concerns ref = true ∨ ∃ before, held = some (ref, before) := by
  obtain ⟨op, a⟩ := x
  cases op with
  | lock r =>
    cases h
    exact .inl (decide_eq_true rfl)
  | unlock r => cases h
  | _ =>
    obtain ⟨⟨r, before⟩, hheld, heq⟩ := Option.map_eq_some_iff.mp h
    cases heq
    exact .inr ⟨before, hheld⟩

/-- Where a worker stands that holds a lock or none: outside its errands, or in one. -/
inductive Standing : Option (Nat × List Answered) → Work RoundEnd → Prop where
  | outside {worker : Worker} {p} : worker.Made (fun _ => True) p → Standing none p
  | inside {worker : Worker} {e : Errand} {asked q} {k : e.Result → Work RoundEnd} :
      Work.Stretch e.program asked q → (∀ r, worker.Made (fun _ => True) (k r)) →
      Standing (some (e.device.ref, asked))
        (q.bind fun r => Program.ask (I := Action.interface) (.unlock e.device.ref) fun _ => k r)

/-- What is asked under a lock, with the rest after a step of a driver. -/
def Errand.AsksOrRests (e : Errand) (op : Action) : Prop :=
  e.Asks op ∨ ∃ time, op = .pauseUntil time none

theorem Errand.asks_of_stretch {e : Errand} {asked : List Answered} {op : Action}
    {next : op.Answer → Work e.Result} (h : Work.Stretch e.program asked (Program.ask op next)) :
    e.AsksOrRests op := by
  have hp : e.program.Along e.AsksOrRests fun _ => True :=
    e.along_program.mono (fun _ => Or.inl) fun _ h => h
  exact (h.along hp fun time => .inr ⟨time, rfl⟩).2.1

theorem Errand.AsksOrRests.locks {e : Errand} {op : Action} (h : e.AsksOrRests op) :
    op.locks = false := by
  rcases h with h | ⟨time, rfl⟩
  · cases op with
    | lock | unlock => cases h
    | _ => rfl
  · rfl

theorem Errand.AsksOrRests.concerns {e : Errand} {op : Action} (h : e.AsksOrRests op) {ref : Nat}
    (hne : e.device.ref ≠ ref) : op.concerns ref = false := by
  rcases h with h | ⟨time, rfl⟩
  · cases op with
    | exchange r op =>
      obtain rfl : r = e.device.ref := h
      exact decide_eq_false hne
    | lock | unlock => cases h
    | _ => rfl
  · rfl

/-- What a worker asks, by the lock that it holds. -/
inductive Standing.Asks (held : Option (Nat × List Answered)) (op : Action) : Prop where
  | free : held = none → op.isGuarded = false → Asks held op
  | lock {e : Errand} : held = none → op = .lock e.device.ref → Asks held op
  | within {e : Errand} {asked} {next : op.Answer → Work e.Result} :
      held = some (e.device.ref, asked) →
      Work.Stretch e.program asked (Program.ask op next) → Asks held op
  | unlock {e : Errand} {asked r} : held = some (e.device.ref, asked) →
      op = .unlock e.device.ref → Work.Stretch e.program asked (Program.done r) → Asks held op

theorem Worker.Asks.isGuarded {worker : Worker} {op : Action} (h : worker.Asks op) :
    op.isGuarded = false := by
  cases op with
  | lock | unlock | exchange | audit => cases h
  | _ => rfl

theorem Action.not_exchanges_of_isGuarded {op : Action} (h : op.isGuarded = false) :
    op.exchanges = false := by
  cases op with
  | exchange => cases h
  | _ => rfl

/-- A worker that asks stands where the answer leads. -/
theorem Standing.answered {held : Option (Nat × List Answered)} {op : Action}
    {next : op.Answer → Work RoundEnd} (h : Standing held (Program.ask op next)) :
    Standing.Asks held op ∧
      ∀ a p, Resumes op (next a) p → Standing (holdingAfter held ⟨op, a⟩) p := by
  generalize hp : (Program.ask op next : Work RoundEnd) = p at h
  cases h with
  | @outside worker p hmade =>
    subst hp
    rcases hmade.asked with ⟨hop, hnext⟩ | ⟨β, first, k, hunit, rfl, hk⟩
    · have hfree := hop.isGuarded
      refine ⟨.free rfl hfree, ?_⟩
      intro a p hr
      rw [hr.eq (Action.not_exchanges_of_isGuarded hfree), holdingAfter_of_locks]
      · exact .outside (hnext a)
      · cases op with
        | lock | unlock => cases hfree
        | _ => rfl
    · generalize hu : (Program.ask op first : Work β) = u at hunit
      cases hunit with
      | mk e he =>
        rw [Work.locked_eq] at hu
        cases hu
        refine ⟨.lock rfl rfl, ?_⟩
        intro a p hr
        rw [hr.eq rfl]
        show Standing _ ((Program.bind e.program fun r =>
          Program.ask (I := Action.interface) (.unlock e.device.ref) fun _ => Program.done r).bind k)
        rw [Program.bind_assoc]
        exact .inside .start hk
  | @inside worker e asked q k hq hk =>
    cases q with
    | done r =>
      cases hp
      refine ⟨.unlock rfl rfl hq, ?_⟩
      intro a p hr
      rw [hr.eq rfl]
      exact .outside (hk r)
    | ask op' first =>
      cases hp
      refine ⟨.within rfl hq, ?_⟩
      intro a p hr
      rw [holdingAfter_of_locks (Errand.asks_of_stretch hq).locks]
      cases hr with
      | now => exact .inside (hq.answered a) hk
      | later time hop => exact .inside (hq.delayed a time hop) hk

/-- A worker at the end of a round holds no lock. -/
theorem Standing.done {held : Option (Nat × List Answered)} {r : RoundEnd}
    (h : Standing held (Program.done r)) : held = none := by
  generalize hp : (Program.done r : Work RoundEnd) = p at h
  cases h with
  | outside => rfl
  | @inside _ _ _ q =>
    cases q with
    | done => cases hp
    | ask => cases hp

/-- In its course a worker stands where its history puts it. -/
theorem Course.stands {intake : Intake} {worker : Worker} {es : List Answered}
    {p : Work RoundEnd} (h : Course intake (Program.done (.again worker)) es p) :
    Standing (holding es) p := by
  induction h with
  | start =>
    have hmade : worker.Made (fun _ => True) (Program.done (RoundEnd.again worker)) :=
      .done trivial
    exact .outside hmade
  | answered a _ hr ih =>
    rw [holding_snoc]
    exact ih.answered.2 a _ hr
  | @again es next _ ih =>
    rw [ih.done]
    exact .outside ((next.made intake).mono (fun _ h => h) fun _ _ => trivial)

/-! ## The history of a device -/

/-- A time for which a worker had the lock of a device, with what it was answered meanwhile. -/
structure Hold where
  task : Nat
  asked : List Answered

/-- A history is, as far as a device goes, a sequence of holds, of which the last may go on. -/
inductive Held (ref : Nat) : List Event → List Hold → Option Hold → Prop where
  | start : Held ref [] [] none
  /-- A worker takes the lock, which nobody holds. -/
  | taken {es holds} (task : Nat) : Held ref es holds none →
      Held ref (es ++ [⟨task, .lock ref, ()⟩]) holds (some ⟨task, []⟩)
  /-- Who holds the lock goes on. -/
  | within {es holds hold} (x : Answered) : Held ref es holds (some hold) → x.op.locks = false →
      Held ref (es ++ [⟨hold.task, x⟩]) holds (some ⟨hold.task, hold.asked ++ [x]⟩)
  | released {es holds hold} : Held ref es holds (some hold) →
      Held ref (es ++ [⟨hold.task, .unlock ref, ()⟩]) (holds ++ [hold]) none
  /-- Others have nothing to do with the device. -/
  | elsewhere {es holds current} (x : Event) : Held ref es holds current →
      x.asked.op.concerns ref = false → (∀ hold ∈ current, x.task ≠ hold.task) →
      Held ref (es ++ [x]) holds current

theorem own_concat (task : Nat) (es : List Event) (x : Event) :
    own task (es ++ [x]) = if x.task = task then own task es ++ [x.asked] else own task es := by
  rw [own_append]
  split
  · rename_i h
    subst h
    exact congrArg _ (World.own_self x.task x.asked)
  · rename_i h
    have hother : own task [x] = [] := own_eq_nil (by simpa using h)
    rw [hother, List.append_nil]

/-- The hold of a device is what its holder's own history says. -/
theorem Held.holding_iff {ref : Nat} {es : List Event} {holds : List Hold}
    {current : Option Hold} (h : Held ref es holds current) (task : Nat) (asked : List Answered) :
    holding (own task es) = some (ref, asked) ↔ current = some ⟨task, asked⟩ := by
  induction h generalizing asked with
  | start =>
    constructor
    · intro h
      cases h
    · intro h
      cases h
  | taken t h ih =>
    rw [own_concat]
    split
    · rename_i ht
      obtain rfl : t = task := ht
      rw [holding_snoc]
      simp [holdingAfter, eq_comm]
    · rename_i ht
      have hne : t ≠ task := ht
      simp [ih, hne]
  | @within es holds hold x h hx ih =>
    rw [own_concat]
    split
    · rename_i ht
      obtain rfl : hold.task = task := ht
      rw [holding_snoc, holdingAfter_of_locks hx, (ih hold.asked).mpr rfl]
      simp
    · rename_i ht
      have hne : hold.task ≠ task := ht
      have hother : hold ≠ ⟨task, asked⟩ := fun hx => hne (congrArg Hold.task hx)
      simp [ih, hne, hother]
  | @released es holds hold h ih =>
    rw [own_concat]
    split
    · rw [holding_snoc]
      simp [holdingAfter]
    · rename_i ht
      have hother : hold ≠ ⟨task, asked⟩ := fun hx => ht (congrArg Hold.task hx)
      simp [ih, hother]
  | @elsewhere es holds current x h hx hother ih =>
    rw [own_concat]
    split
    · rename_i ht
      subst ht
      have hnot : ∀ asked, current ≠ some ⟨x.task, asked⟩ := fun asked hc => hother _ hc rfl
      rw [holding_snoc]
      refine iff_of_false (fun hh => ?_) (hnot asked)
      rcases of_holdingAfter hh with htakes | ⟨before, hbefore⟩
      · exact Bool.false_ne_true (hx.symm.trans htakes)
      · exact hnot before ((ih before).mp hbefore)
    · exact ih asked

/-! ## The lock of a device -/

open Device (Dialogue)

/-- A hold is an errand from its beginning to its end; `link` tells what kind of device it is. -/
def Hold.Finished (ref : Nat) (link : Bool) (hold : Hold) : Prop :=
  ∃ e : Errand, e.device.ref = ref ∧ (∃ r, Work.Stretch e.program hold.asked (Program.done r)) ∧
    ∃ d d', d.isLink = link ∧ Dialogue ref d hold.asked d'

/-- A hold is an errand that is under way at a device. -/
def Hold.UnderWay (ref : Nat) (device : Device) (hold : Hold) : Prop :=
  ∃ e : Errand, e.device.ref = ref ∧ (∃ q, Work.Stretch e.program hold.asked q) ∧
    ∃ d, d.isLink = device.isLink ∧ Dialogue ref d hold.asked device

/-- What holds of a device after a history. -/
structure Guarded (ref : Nat) (slot : DeviceSlot) (es : List Event) (holds : List Hold)
    (current : Option Hold) : Prop where
  held : Held ref es holds current
  /-- Who holds the lock owns it, and is a worker. -/
  owned : ∀ hold ∈ current, slot.owner = some hold.task ∧ hold.task ≠ World.operator
  finished : ∀ hold ∈ holds, hold.Finished ref slot.device.isLink
  underWay : ∀ hold ∈ current, hold.UnderWay ref slot.device

/-- A change that has nothing to do with the lock or the driver. -/
theorem DeviceSlot.Change.aside {ref : Nat} {slot slot' : DeviceSlot} {e : Option Event}
    (h : slot.Change ref e slot') (he : ∀ x ∈ e, x.asked.op.concerns ref = false) :
    slot'.owner = slot.owner ∧
      (slot'.device = slot.device ∨ slot.device.Drifts slot'.device) := by
  cases h with
  | same | flagged | joined => exact ⟨rfl, .inl rfl⟩
  | drifted h => exact ⟨rfl, .inr h⟩
  | taken | released | driven => exact absurd (he _ rfl) (by simp [Action.concerns])

/-- A device stays a link, or none. -/
theorem DeviceSlot.Change.isLink {ref : Nat} {slot slot' : DeviceSlot} {e : Option Event}
    (h : slot.Change ref e slot') : slot'.device.isLink = slot.device.isLink := by
  cases h with
  | same | flagged | joined | taken | released => rfl
  | drifted h => exact Device.Drifts.isLink h
  | driven now op => exact Device.isLink_exchange _ now op

namespace Guarded

variable {ref : Nat} {slot slot' : DeviceSlot} {es : List Event} {holds : List Hold}
  {current : Option Hold} {x : Event}

/-- Nobody has had anything to do with the device. -/
theorem untouched (slot : DeviceSlot) (h : ∀ x ∈ es, x.asked.op.concerns ref = false) :
    Guarded ref slot es [] none where
  held := by
    induction es using List.reverseRecOn with
    | nil => exact .start
    | append_singleton es x ih =>
      rw [List.forall_mem_append] at h
      exact (ih h.1).elsewhere x (h.2 x (List.mem_singleton_self x)) fun hold hc => by cases hc
  owned := fun hold hc => by cases hc
  finished := fun hold hc => by cases hc
  underWay := fun hold hc => by cases hc

/-- The device went on by itself, or was not concerned. -/
theorem aside (h : Guarded ref slot es holds current) (howner : slot'.owner = slot.owner)
    (hdevice : slot'.device = slot.device ∨ slot.device.Drifts slot'.device) :
    Guarded ref slot' es holds current := by
  have hlink : slot'.device.isLink = slot.device.isLink := by
    rcases hdevice with heq | hd
    · rw [heq]
    · exact hd.isLink
  refine ⟨h.held, fun hold hc => howner ▸ h.owned hold hc, fun hold hc => hlink ▸ h.finished hold hc,
    fun hold hc => ?_⟩
  obtain ⟨e, href, hq, d, hd, hdialogue⟩ := h.underWay hold hc
  refine ⟨e, href, hq, d, hd.trans hlink.symm, ?_⟩
  rcases hdevice with heq | hdrift
  · exact heq ▸ hdialogue
  · exact hdialogue.drifts hdrift

/-- Somebody else was told something, which has nothing to do with the device. -/
theorem elsewhere (h : Guarded ref slot es holds current) (hx : x.asked.op.concerns ref = false)
    (hother : ∀ hold ∈ current, x.task ≠ hold.task) :
    Guarded ref slot (es ++ [x]) holds current :=
  ⟨h.held.elsewhere x hx hother, h.owned, h.finished, h.underWay⟩

/-- Who holds the lock was told something. -/
theorem within {hold : Hold} (h : Guarded ref slot es holds (some hold)) {e : Errand}
    (href : e.device.ref = ref) {op : Action} {next : op.Answer → Work e.Result}
    (hs : Work.Stretch e.program hold.asked (Program.ask op next)) (a : op.Answer)
    (hc : slot.Change ref (some ⟨hold.task, op, a⟩) slot') :
    Guarded ref slot' (es ++ [⟨hold.task, op, a⟩]) holds
      (some ⟨hold.task, hold.asked ++ [⟨op, a⟩]⟩) := by
  have hlocks := (Errand.asks_of_stretch hs).locks
  have hlink := hc.isLink
  have hdevice : slot'.owner = slot.owner ∧
      Device.Answers ref ⟨op, a⟩ slot.device slot'.device := by
    cases hc with
    | same hother | flagged _ hother =>
      have hfree : op.concerns ref = false := hother _ rfl
      refine ⟨rfl, .aside _ ?_⟩
      rintro x rfl
      exact absurd hfree (by simp [Action.concerns])
    | taken | released => cases hlocks
    | driven now op => exact ⟨rfl, .driven now op _⟩
  obtain ⟨howner, hanswer⟩ := hdevice
  obtain ⟨-, -, -, d, hd, hdialogue⟩ := h.underWay hold rfl
  refine ⟨h.held.within ⟨op, a⟩ hlocks, ?_, fun hold hc => hlink ▸ h.finished hold hc, ?_⟩
  · rintro _ ⟨⟩
    exact howner ▸ h.owned hold rfl
  · rintro _ ⟨⟩
    exact ⟨e, href, ⟨_, hs.answered a⟩, d, hd.trans hlink.symm, hdialogue.answered hanswer⟩

/-- **What a worker is told keeps the account of the device.** -/
theorem told (h : Guarded ref slot es holds current) (hc : slot.Change ref (some x) slot')
    (hx : x.task ≠ World.operator) (hasks : Standing.Asks (holding (own x.task es)) x.asked.op) :
    ∃ holds' current', Guarded ref slot' (es ++ [x]) holds' current' := by
  obtain ⟨task, op, a⟩ := x
  have hmine := h.held.holding_iff task
  have hother : (∀ asked, holding (own task es) ≠ some (ref, asked)) →
      ∀ hold ∈ current, task ≠ hold.task := by
    rintro hnone hold hcurrent rfl
    exact hnone hold.asked ((hmine hold.asked).mpr hcurrent)
  have helsewhere : op.concerns ref = false →
      (∀ asked, holding (own task es) ≠ some (ref, asked)) →
      ∃ holds' current', Guarded ref slot' (es ++ [⟨task, op, a⟩]) holds' current' := by
    intro hfree hnone
    obtain ⟨howner, hdevice⟩ := hc.aside (by simpa using hfree)
    exact ⟨holds, current, (h.aside howner hdevice).elsewhere hfree (hother hnone)⟩
  cases hasks with
  | free hfree hop =>
    refine helsewhere ?_ (by simp [hfree])
    cases op with
    | lock | unlock | exchange => cases hop
    | _ => rfl
  | @lock e hfree hop =>
    obtain rfl : op = _ := hop
    by_cases hr : e.device.ref = ref
    · subst hr
      cases hc with
      | same hnot | flagged _ hnot => exact absurd (hnot _ rfl) (by simp [Action.concerns])
      | taken hbefore =>
        obtain rfl : current = none := by
          refine Option.eq_none_iff_forall_not_mem.mpr fun hold hc => ?_
          have howner := (h.owned hold hc).1
          rcases hbefore with hnone | hown
          · cases hnone.symm.trans howner
          · exact hother (by simp [hfree]) hold hc (Option.some.inj (hown.symm.trans howner))
        refine ⟨holds, some ⟨task, []⟩, h.held.taken task, ?_, h.finished, ?_⟩
        · rintro hold ⟨⟩
          exact ⟨rfl, hx⟩
        · rintro hold ⟨⟩
          exact ⟨e, rfl, ⟨_, .start⟩, slot.device, rfl, .start _ _⟩
    · exact helsewhere (decide_eq_false hr) (by simp [hfree])
  | @within e asked next hheld hstretch =>
    by_cases hr : e.device.ref = ref
    · subst hr
      obtain rfl := (hmine asked).mp hheld
      exact ⟨_, _, h.within rfl hstretch a hc⟩
    · refine helsewhere ((Errand.asks_of_stretch hstretch).concerns hr) fun asked' heq => hr ?_
      exact congrArg Prod.fst (Option.some.inj (hheld.symm.trans heq))
  | @unlock e asked r hheld hop hstretch =>
    obtain rfl : op = _ := hop
    by_cases hr : e.device.ref = ref
    · subst hr
      obtain rfl := (hmine asked).mp hheld
      cases hc with
      | same hnot | flagged _ hnot => exact absurd (hnot _ rfl) (by simp [Action.concerns])
      | released =>
        obtain ⟨-, -, -, d, hd, hdialogue⟩ := h.underWay _ rfl
        refine ⟨holds ++ [⟨task, asked⟩], none, h.held.released, ?_, ?_, ?_⟩
        · rintro hold ⟨⟩
        · intro hold hmem
          rcases List.mem_append.mp hmem with hold' | hnew
          · exact h.finished hold hold'
          · rw [List.mem_singleton.mp hnew]
            exact ⟨e, rfl, ⟨r, hstretch⟩, d, _, hd, hdialogue⟩
        · rintro hold ⟨⟩
    · refine helsewhere (decide_eq_false hr) fun asked' heq => hr ?_
      exact congrArg Prod.fst (Option.some.inj (hheld.symm.trans heq))

end Guarded

/-! ## Runs -/

namespace World

variable {v w : World} {ref : Nat} {slot : DeviceSlot} {es : List Event}

/-- A gateway whose workers have yet to be started. -/
structure Fresh (w : World) : Prop where
  tasks : w.tasks = []
  next : operator < w.nextTask

theorem Fresh.numbered (h : Fresh w) : Numbered w where
  distinct := by
    rw [h.tasks]
    exact List.nodup_nil
  known := by
    rw [h.tasks]
    intro t ht
    cases ht
  next := h.next

theorem fresh_start (auth : Option String) (settings : Settings) (metrics : Option Metrics)
    (device : Device) (remark : String → String) :
    Fresh (start auth settings metrics device remark) := ⟨rfl, Nat.zero_lt_one⟩

/-- In a run each worker stands where its own history puts it. -/
theorem Run.stands (h : Run v es w) (hv : Fresh v) {t : Task} (ht : t ∈ w.tasks) :
    Standing (holding (own t.id es)) t.program := by
  rcases h.origin hv.numbered ht with ⟨u, hu, -⟩ | ⟨worker, -, -, hc⟩
  · rw [hv.tasks] at hu
    cases hu
  · exact hc.stands

/-- A run, for a device that is there before anybody has to do with it. -/
def Introduced (v : World) (es : List Event) (w : World) (ref : Nat) : Prop :=
  ∃ before after u slot, es = before ++ after ∧ Run v before u ∧
    (∀ x ∈ before, x.asked.op.concerns ref = false) ∧ u.devices[ref]? = some slot ∧ Run u after w

/-- A device that was there from the beginning. -/
theorem introduced_of_start (hs : v.devices[ref]? = some slot) (h : Run v es w) :
    Introduced v es w ref :=
  ⟨[], es, v, slot, rfl, .start, (fun x hx => by cases hx), hs, h⟩

theorem Introduced.run (h : Introduced v es w ref) : Run v es w := by
  obtain ⟨before, after, u, slot, rfl, hbefore, -, -, hafter⟩ := h
  exact hbefore.trans hafter

/-- **As far as a device goes, every history is a sequence of holds, and each hold is an errand.** -/
theorem Introduced.guarded (h : Introduced v es w ref) (hv : Fresh v)
    (hop : ∀ x ∈ es, x.task = operator → x.asked.op.concerns ref = false) :
    ∃ slot holds current, w.devices[ref]? = some slot ∧ Guarded ref slot es holds current := by
  obtain ⟨before, after, u, slot, rfl, hbefore, hnew, hs, hafter⟩ := h
  rw [List.forall_mem_append] at hop
  replace hop := hop.2
  induction hafter with
  | start =>
    rw [List.append_nil]
    exact ⟨slot, [], none, hs, .untouched slot hnew⟩
  | @step es e w w' hr hstep ih =>
    rw [List.forall_mem_append] at hop
    obtain ⟨slot₁, holds, current, hslot, hguarded⟩ := ih hop.1
    obtain ⟨slot₂, hslot', hchange⟩ := hstep.change hslot
    refine ⟨slot₂, ?_⟩
    cases e with
    | none =>
      obtain ⟨howner, hdevice⟩ := hchange.aside fun x hx => by cases hx
      rw [Option.toList_none, List.append_nil]
      exact ⟨holds, current, hslot', hguarded.aside howner hdevice⟩
    | some x =>
      rw [← List.append_assoc]
      rcases hstep.told.2 with hoperator | ⟨t, ht, hid, next, hp⟩
      · have hfree := hop.2 x (List.mem_singleton_self x) hoperator
        obtain ⟨howner, hdevice⟩ := hchange.aside (by simpa using hfree)
        refine ⟨holds, current, hslot', (hguarded.aside howner hdevice).elsewhere hfree ?_⟩
        intro hold hc
        rw [hoperator]
        exact (hguarded.owned hold hc).2.symm
      · have hrun := hbefore.trans hr
        have hstands := hrun.stands hv ht
        rw [hp] at hstands
        have hworker : x.task ≠ operator :=
          hid ▸ Nat.ne_of_gt ((hrun.numbered hv.numbered).known t ht).1
        obtain ⟨holds', current', hguarded'⟩ :=
          hguarded.told hchange hworker (hid ▸ hstands.answered.1)
        exact ⟨holds', current', hslot', hguarded'⟩

end World

end ChillerGateway
