import ChillerGateway.Proofs.Device.Refusals
import ChillerGateway.Proofs.Gateway.Untouched

/-!
# Rejected requests

A request is rejected before its first effect: before a device is asked for anything, or by a driver
that finds its device closed or the value out of range.  A driver that has begun to write never
rejects: it is alone with its device, so the device that was open stays open.

* `Device.isLive_exchange` — whoever is alone with a device finds it open, or closed, all the time.
* `Work.Stretch.given` — so a driver program goes as the answers of such a device let it go.
* `Gateway.spares_of_rejected` — a command that is rejected under the lock spared its device.
* `World.rejected_changesNothing` — a rejected request changes nothing.
-/

namespace ChillerGateway

open Relation (ReflTransGen)

namespace Device

variable {b : Backend} {d d' : Device}

theorem isLive_eq (b : Backend) (d : Device) :
    d.isLive b = (d.isConnected && !(d.isLink && b == .simulated)) := by
  cases d with
  | simulated d => exact (Bool.and_true _).symm
  | link l =>
    unfold isLive isConnected isLink
    cases b with
    | simulated => simp
    | link => simp [bne, Bool.and_comm]

/-- Nothing opens or closes a device but its driver. -/
theorem Drifts.isConnected (h : Drifts d d') : d'.isConnected = d.isConnected := by
  cases d with
  | simulated => cases h <;> rfl
  | link l =>
    cases h with
    | settled now => exact l.isSome_stream_advance _ _
    | switched offline => rfl
    | heard now =>
      simp only [takeHeard]
      split <;> rfl

theorem Drifts.isLive (h : Drifts d d') : d'.isLive b = d.isLive b := by
  rw [isLive_eq, isLive_eq, h.isConnected, h.isLink]

theorem isLive_of_drifts (h : ReflTransGen Drifts d d') : d'.isLive b = d.isLive b := by
  induction h with
  | refl => rfl
  | tail _ h ih => exact h.isLive.trans ih

/-- **A device stays open, or closed, while its driver does not open or close it.** -/
theorem isLive_exchange (d : Device) (now : Nat) {op : Exchange} (h : op.isSteady = true) :
    (d.exchange now op).2.2.isLive b = d.isLive b := by
  rw [isLive_eq, isLive_eq, d.isConnected_exchange now h, isLink_exchange]

end Device

/-- What a driver was answered, with the rests between its steps, satisfies `P`. -/
def Driven (ref : Nat) (P : (op : Exchange) → op.Answer → Prop) (x : Answered) : Prop :=
  (∃ time, x.op = .pauseUntil time none) ∨ ∃ op a, x = ⟨.exchange ref op, a⟩ ∧ P op a

theorem Driven.spares {ref : Nat} {x : Answered} (h : Driven ref Spared x) : x.spares = true := by
  rcases h with ⟨time, hx⟩ | ⟨op, a, rfl, hspared⟩
  · exact Answered.spares_of_isHarmless (by rw [hx]; rfl)
  · exact hspared

namespace Work.Stretch

open Device (Dialogue Answers)

variable {ref : Nat} {α : Type} {es : List Answered} {b : Backend} {d d' : Device}
  {P : (op : Exchange) → op.Answer → Prop}

/-- **A driver program that is alone with a device** goes as the answers of a device let it go that
is open all the time, or closed all the time. -/
theorem given {p : Program Exchange.interface α} {Q : α → Prop} {a : α}
    (h : Stretch (Program.within (I := Exchange.interface) (fun op => ask (.exchange ref op)) p) es
      (Program.done a)) (hd : Dialogue ref d es d')
    (hp : p.AlongIf (Exchange.Given b (d.isLive b)) P Q)
    (hP : ∀ op a, P op a → op.isSteady = true) :
    (∀ x ∈ es, Driven ref P x) ∧ Q a ∧ d'.isLive b = d.isLive b := by
  induction p generalizing es d with
  | done x =>
    obtain ⟨rfl, heq⟩ := h.of_done
    cases heq
    exact ⟨fun x hx => (by cases hx), hp, Device.isLive_of_drifts hd⟩
  | ask op next ih =>
    have hasked : Stretch (Program.ask (I := Action.interface) (.exchange ref op) fun answer =>
        (next answer).within fun op => ask (.exchange ref op)) es (Program.done a) := h
    rcases hasked.asked with ⟨-, hnot⟩ | ⟨answer, p', fs, rfl, hs, hp'⟩
    · cases hnot
    obtain ⟨d₁, d₂, hdrift, hx, hd⟩ := hd
    have hlive := Device.isLive_of_drifts (b := b) hdrift
    cases hx with
    | aside _ hnot => exact absurd rfl (hnot op)
    | driven now op _ =>
      obtain ⟨hop, hnext⟩ := hp _ (hlive ▸ d₁.given_exchange b now op)
      have hlive' : (d₁.exchange now op).2.2.isLive b = d.isLive b :=
        (d₁.isLive_exchange now (hP op _ hop)).trans hlive
      rcases hp' with rfl | ⟨-, time, rfl⟩
      · obtain ⟨hrest, ha, hend⟩ := ih _ hs hd (hlive'.symm ▸ hnext)
        exact ⟨List.forall_mem_cons.mpr ⟨.inr ⟨op, _, rfl, hop⟩, hrest⟩, ha, hend.trans hlive'⟩
      · -- The step is over only at a later time.
        obtain ⟨_, gs, rfl, hgs⟩ := hs.ask_done rfl
        obtain ⟨d₃, d₄, hdrift', hpause, hd⟩ := hd
        cases hpause with
        | aside =>
          have hlive₃ := (Device.isLive_of_drifts (b := b) hdrift').trans hlive'
          obtain ⟨hrest, ha, hend⟩ := ih _ hgs hd (hlive₃.symm ▸ hnext)
          refine ⟨List.forall_mem_cons.mpr ⟨.inr ⟨op, _, rfl, hop⟩, ?_⟩, ha, hend.trans hlive₃⟩
          exact List.forall_mem_cons.mpr ⟨.inl ⟨time, rfl⟩, hrest⟩

theorem given_attempt {p : Attempt α} {Q : Except Error α → Prop} {r : Except Error α}
    (h : Stretch (drive ref p) es (Program.done r)) (hd : Dialogue ref d es d')
    (hp : Attempt.AlongIf p (Exchange.Given b (d.isLive b)) P Q)
    (hP : ∀ op a, P op a → op.isSteady = true) :
    (∀ x ∈ es, Driven ref P x) ∧ Q r ∧ d'.isLive b = d.isLive b := given h hd hp hP

/-- A driver program that writes nothing. -/
theorem spared {p : Attempt α} {Q : Except Error α → Prop} {r : Except Error α}
    (h : Stretch (drive ref p) es (Program.done r)) (hd : Dialogue ref d es d')
    (hp : Attempt.AlongIf p (Exchange.Given b (d.isLive b)) Spared Q) :
    (∀ x ∈ es, x.spares = true) ∧ d'.isLive b = d.isLive b := by
  obtain ⟨hes, -, hlive⟩ := given_attempt h hd hp fun _ _ => Exchange.isSteady_of_spares
  exact ⟨fun x hx => (hes x hx).spares, hlive⟩

end Work.Stretch

namespace Gateway

open Device (Dialogue)
open Work (Stretch)

/-- A closed link is reported as a device that waits to be recovered, which is a rejection. -/
theorem refuses_of_rejects {e : Error} (h : (recovering e).rejects = true) : e.refuses = true := by
  cases e with
  | notConnected => rfl
  | _ => exact Bool.or_eq_true_iff.mpr (.inl h)

/-- **A command that is rejected spared its device.** -/
theorem spares_of_rejected {device : Handle} {command : Command} {client : String}
    {es : List Answered} {e : Error} {d d' : Device}
    (h : Stretch (run device command client) es (Program.done (.error e)))
    (hd : Dialogue device.ref d es d') (he : e.rejects = true) : ∀ x ∈ es, x.spares = true := by
  rcases Errand.run_cases h with ⟨hc, prior, outcome, reading, writing, rest, rfl, hread, hwrote,
    hend⟩ | ⟨hc, outcome, hrun, -⟩
  · obtain ⟨d₁, hd₁, hd⟩ := Dialogue.append_iff.mp hd
    obtain ⟨hreading, hlive⟩ :=
      hread.spared (b := device.backend) hd₁ (command.spared_priorValue device.backend)
    rcases hend with ⟨e', rfl, rfl, heq⟩ | ⟨result, -, hok, -⟩
    · cases heq
      rw [List.append_nil] at hd ⊢
      refine List.forall_mem_append.mpr ⟨hreading, ?_⟩
      by_cases hvalue : command.isRefused = true
      · exact (hwrote.spared hd (command.refused_execute device.backend hvalue)).1
      cases hopen : d₁.isLive device.backend with
      | false =>
        have hclosed := command.closed_execute device.backend
        rw [← hopen] at hclosed
        exact (hwrote.spared hd hclosed).1
      | true =>
        -- A device that is open throughout takes the command, or fails in another way.
        have htaken := command.open_execute device.backend hc (Bool.eq_false_of_not_eq_true hvalue)
        rw [← hopen] at htaken
        obtain ⟨-, haccepted, -⟩ := hwrote.given_attempt hd htaken fun _ _ h => h
        cases (haccepted e' rfl).symm.trans (refuses_of_rejects he)
    · cases hok
  · exact (hrun.spared (b := device.backend) hd (command.spared_execute device.backend hc)).1

theorem locks_of_run {device : Handle} {command : Command} {client : String} {es : List Answered}
    {q : Work (Except Error Json)} (h : Stretch (run device command client) es q) :
    ∀ x ∈ es, x.op.locks = false := by
  have halong : (run device command client).Along (fun op : Action => op.locks = false)
      fun _ => True := Errand.along_run (fun _ => rfl) (fun _ => rfl) command client
  exact (h.along halong fun _ => rfl).1

/-- **A line that is rejected spared everything**, if the lock left its device to it alone. -/
theorem spares_of_handled {line client : String} {es : List Answered} {e : Error}
    (h : Handled line client es (.error e)) (he : e.rejects = true)
    (halone : ∀ id device inside, ⟨.resolve id, some device⟩ ∈ es →
      tenure device.ref inside <:+: es → (∀ x ∈ inside, x.op.locks = false) →
      ∃ d d', Dialogue device.ref d inside d') : ∀ x ∈ es, x.spares = true := by
  cases h with
  | refused hes => exact fun x hx => Answered.spares_of_isHarmless (hes x hx)
  | @executed r device command before inside after _ _ _ _ hdevice hothers hrun =>
    obtain ⟨d, d', hd⟩ := halone _ device _
      (List.mem_append_left _ (List.mem_append_left _ hdevice)) ⟨before, after, rfl⟩
      (List.forall_mem_cons.mpr ⟨rfl, locks_of_run hrun⟩)
    obtain ⟨d₁, d₂, hdrift, hx, hd⟩ := hd
    have hinside : ∀ x ∈ inside, x.spares = true := by
      cases hx with
      | aside => exact spares_of_rejected hrun hd he
    rw [List.forall_mem_append] at hothers
    have hharmless : ∀ {xs : List Answered}, (∀ x ∈ xs, x.op.isHarmless = true) →
        ∀ x ∈ xs, x.spares = true := fun hxs x hx => Answered.spares_of_isHarmless (hxs x hx)
    refine List.forall_mem_append.mpr ⟨List.forall_mem_append.mpr ⟨hharmless hothers.1, ?_⟩,
      hharmless hothers.2⟩
    refine List.forall_mem_cons.mpr ⟨rfl, List.forall_mem_append.mpr ⟨?_, ?_⟩⟩
    · exact List.forall_mem_cons.mpr ⟨rfl, hinside⟩
    · exact List.forall_mem_singleton.mpr rfl

end Gateway

/-- The device that was found for a request. -/
def Answered.resolved? : Answered → Option Handle
  | ⟨.resolve _, found⟩ => found
  | _ => none

namespace World

open Device (Dialogue)

variable {v w : World} {es : List Event}

/-- Whoever holds a lock is alone with the device. -/
theorem Introduced.dialogue {ref task : Nat} {inside : List Answered} (h : Introduced v es w ref)
    (hv : Fresh v) (hop : ∀ x ∈ es, x.task = operator → x.asked.op.concerns ref = false)
    (hown : tenure ref inside <:+: own task es) (hlocks : ∀ x ∈ inside, x.op.locks = false) :
    ∃ d d', Dialogue ref d inside d' := by
  obtain ⟨slot, holds, current, -, hguarded⟩ := h.guarded hv hop
  obtain ⟨_, -, -, d, d', -, hd⟩ :=
    hguarded.finished _ (hguarded.held.mem_of_own hlocks hown)
  exact ⟨d, d', hd⟩

/-- **A rejected request changes nothing.**  Whatever was done with a gateway before, and whatever
else goes on meanwhile: if a worker comes to a rejection with a line, then nothing that it was
answered on the way changed anything.  The operator must not use the devices past their locks, and
the device of the request must have been registered before anybody had to do with it. -/
theorem rejected_changesNothing (hv : Fresh v)
    (hop : ∀ x ∈ es, x.task = operator → x.asked.op.isGuarded = false)
    {line client : String} {asked : List Answered} {e : Error}
    (h : Handling (fun _ => True) v es w line client asked (Program.done (.error e)))
    (hdevice : ∀ id device, ⟨.resolve id, some device⟩ ∈ asked → Introduced v es w device.ref)
    (he : e.rejects = true) : ChangesNothing asked := by
  obtain ⟨before, after, u, rfl, -, -, t, -, limited, k, -, hown, hstretch⟩ := h
  refine changesNothing_of_spares (Gateway.spares_of_handled (Gateway.handled hstretch) he ?_)
  intro id device inside hresolve htenure hlocks
  have hall : tenure device.ref inside <:+: own t.id (before ++ after) := by
    rw [own_append]
    exact (htenure.trans hown.isInfix).trans (List.suffix_append _ _).isInfix
  refine (hdevice id device hresolve).dialogue hv (fun x hx hoperator => ?_) hall hlocks
  exact Action.concerns_of_isGuarded (hop x hx hoperator) device.ref

/-- A client asks for a setpoint that no device takes. -/
def tooHot : World :=
  poolside.requested "\x7b\"command\":\"set_setpoint\",\"value\":999\x7d" "a"

/-- The driver rejects the setpoint, after the state before it was read under the lock. -/
theorem rejected_changesNothing_tooHot : ∃ asked e,
    Handling (fun _ => True) poolside (played 60 tooHot).1 (played 60 tooHot).2
      "\x7b\"command\":\"set_setpoint\",\"value\":999\x7d" "a" asked (Program.done (.error e)) ∧
    e.kind = "validation" ∧ ChangesNothing asked := by
  have hrun := played_run 60 tooHot
  have hbefore : Run poolside [] tooHot := run_requested _ _ _
  have hquiet : ∀ x ∈ (played 60 tooHot).1, x.task = operator →
      x.asked.op.isGuarded = false := by decide +kernel
  have hend : ∀ t ∈ (played 60 tooHot).2.tasks, t.id ≠ 1 := by decide +kernel
  have hcounted : failures (own 1 (played 60 tooHot).1) = ["validation"] := by decide +kernel
  have hrefs : ∀ x ∈ own 1 (played 60 tooHot).1, ∀ device ∈ x.resolved?, device.ref = 0 := by
    decide +kernel
  obtain ⟨result, hhandling⟩ := handling_of_request (fresh_start none {} none _ _).numbered hbefore
    hrun.runBy (mem_requested poolside _ _) rfl hend
  have hresult : Gateway.kinds result = ["validation"] :=
    hhandling.failures_eq.symm.trans hcounted
  cases result with
  | ok json => cases hresult
  | error e =>
    have hkind : e.kind = "validation" := List.singleton_inj.mp hresult
    have hrejects : e.rejects = true := by
      unfold Error.rejects
      rw [hkind]
      decide
    refine ⟨_, e, hhandling, hkind, ?_⟩
    refine rejected_changesNothing (fresh_start none {} none _ _) hquiet hhandling ?_ hrejects
    intro id device hresolve
    rw [hrefs _ hresolve device rfl]
    exact introduced_of_start rfl (hbefore.trans hrun)

end World

end ChillerGateway
