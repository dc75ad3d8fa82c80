import ChillerGateway.Proofs.Device.Sending
import ChillerGateway.Proofs.Gateway.Paths
import ChillerGateway.Proofs.Gateway.Slots
import Mathlib.Logic.Relation

/-!
# A worker and a device

What a worker is answered while it is alone with a device is what the device says, step by step; in
between the device goes on by itself.

* `Device.Dialogue` — the answers of a device, from one state of it to another.
* `Device.Dialogue.append_iff` — a dialogue can be cut anywhere.
* `Work.Stretch.talks` — a driver program of a worker is carried out on the link.
* `Work.Stretch.completed` — a path that a worker is on has an end.
-/

namespace ChillerGateway

open LinkDevice (Talks Falls)
open Relation (ReflTransGen)

/-- The line that an answer brought to the far end of a device. -/
def Answered.line? (ref : Nat) : Answered → Option String
  | ⟨.exchange r op, a⟩ => if r = ref then op.line? a else none
  | _ => none

/-- The lines that answers brought to the far end of a device. -/
def lines (ref : Nat) (es : List Answered) : List String := es.filterMap (Answered.line? ref)

theorem lines_append (ref : Nat) (es fs : List Answered) :
    lines ref (es ++ fs) = lines ref es ++ lines ref fs := List.filterMap_append

theorem Answered.line?_exchange (ref : Nat) (op : Exchange) (a : op.Answer) :
    Answered.line? ref ⟨.exchange ref op, a⟩ = op.line? a := if_pos rfl

theorem lines_exchange (ref : Nat) (op : Exchange) (a : op.Answer) (es : List Answered) :
    lines ref (⟨.exchange ref op, a⟩ :: es) = (op.line? a).toList ++ lines ref es := by
  unfold lines
  rw [List.filterMap_cons, Answered.line?_exchange]
  cases op.line? a <;> rfl

namespace Device

/-- An answer that a worker gets, with the device before and after it. -/
inductive Answers (ref : Nat) : Answered → Device → Device → Prop where
  | driven (now : Nat) (op : Exchange) (d : Device) :
      Answers ref ⟨.exchange ref op, (d.exchange now op).2.1⟩ d (d.exchange now op).2.2
  /-- The question was not one for the device. -/
  | aside {x : Answered} (d : Device) : (∀ op, x.op ≠ .exchange ref op) → Answers ref x d d

/-- The answers that a worker gets, from one state of the device to another. -/
def Dialogue (ref : Nat) : Device → List Answered → Device → Prop
  | d, [], d' => ReflTransGen Drifts d d'
  | d, x :: es, d' => ∃ d₁ d₂, ReflTransGen Drifts d d₁ ∧ Answers ref x d₁ d₂ ∧ Dialogue ref d₂ es d'

variable {ref : Nat} {d d' d'' : Device} {es fs : List Answered}

/-- What is behind a link falls, if it changes by itself, and nothing arrives there. -/
theorem Drifts.link {l : LinkDevice} (h : Drifts (.link l) d') :
    ∃ l', d' = .link l' ∧ Falls l l' ∧ l.farEnd.NothingNew l'.farEnd := by
  cases h with
  | settled now => exact ⟨_, rfl, l.falls_advance _ _, l.nothingNew_advance _ _⟩
  | switched offline => exact ⟨l, rfl, .refl l, .refl _⟩
  | heard now =>
    simp only [takeHeard]
    split
    · exact ⟨_, rfl, ⟨id, id⟩, .refl _⟩
    · exact ⟨l, rfl, .refl l, .refl _⟩

theorem drifts_link {l : LinkDevice} (h : ReflTransGen Drifts (.link l) d') :
    ∃ l', d' = .link l' ∧ Falls l l' := by
  induction h with
  | refl => exact ⟨l, rfl, .refl l⟩
  | tail _ h ih =>
    obtain ⟨l₁, rfl, hf⟩ := ih
    obtain ⟨l₂, rfl, hf', -⟩ := h.link
    exact ⟨l₂, rfl, hf.trans hf'⟩

/-- Whether a device is behind a link. -/
def isLink : Device → Bool
  | link _ => true
  | simulated _ => false

theorem exists_link (h : d.isLink = true) : ∃ l, d = .link l := by
  cases d with
  | link l => exact ⟨l, rfl⟩
  | simulated => cases h

theorem Drifts.isLink (h : Drifts d d') : d'.isLink = d.isLink := by
  cases d with
  | link l =>
    obtain ⟨l', rfl, -, -⟩ := h.link
    rfl
  | simulated => cases h <;> rfl

theorem isLink_exchange (d : Device) (now : Nat) (op : Exchange) :
    (d.exchange now op).2.2.isLink = d.isLink := by
  cases d with
  | link => rfl
  | simulated => cases op <;> rfl

namespace Dialogue

theorem start (ref : Nat) (d : Device) : Dialogue ref d [] d := .refl

/-- The device may have gone on by itself before the first answer. -/
theorem drifted (hd : ReflTransGen Drifts d d') (h : Dialogue ref d' es d'') :
    Dialogue ref d es d'' := by
  cases es with
  | nil => exact hd.trans h
  | cons x es =>
    obtain ⟨d₁, d₂, hd', hx, h⟩ := h
    exact ⟨d₁, d₂, hd.trans hd', hx, h⟩

theorem append_iff : Dialogue ref d (es ++ fs) d'' ↔
    ∃ d', Dialogue ref d es d' ∧ Dialogue ref d' fs d'' := by
  constructor
  · intro h
    induction es generalizing d with
    | nil => exact ⟨d, .refl, h⟩
    | cons x es ih =>
      obtain ⟨d₁, d₂, hd, hx, h⟩ := h
      obtain ⟨d', hleft, hright⟩ := ih h
      exact ⟨d', ⟨d₁, d₂, hd, hx, hleft⟩, hright⟩
  · rintro ⟨d', hleft, hright⟩
    induction es generalizing d with
    | nil => exact hright.drifted hleft
    | cons x es ih =>
      obtain ⟨d₁, d₂, hd, hx, h⟩ := hleft
      exact ⟨d₁, d₂, hd, hx, ih h⟩

/-- One answer more. -/
theorem answered (h : Dialogue ref d es d') {x : Answered} (hx : Answers ref x d' d'') :
    Dialogue ref d (es ++ [x]) d'' := append_iff.mpr ⟨d', h, d', d'', .refl, hx, .refl⟩

/-- Other questions than for the device. -/
theorem aside (d : Device) (h : ∀ x ∈ es, x.op.exchanges = false) : Dialogue ref d es d := by
  induction es with
  | nil => exact .start ref d
  | cons x es ih =>
    refine ⟨d, d, .refl, .aside d fun op hop => ?_, ih fun y hy => h y (List.mem_cons_of_mem _ hy)⟩
    have hx := h x List.mem_cons_self
    rw [hop] at hx
    cases hx

/-- The device goes on by itself. -/
theorem drifts (h : Dialogue ref d es d') (hd : Drifts d' d'') : Dialogue ref d es d'' := by
  have hlast : Dialogue ref d' [] d'' := ReflTransGen.single hd
  have hall := append_iff.mpr ⟨d', h, hlast⟩
  rwa [List.append_nil] at hall

end Dialogue

end Device

namespace Work.Stretch

open Device (Dialogue Drifts)

variable {ref : Nat} {α : Type} {es : List Answered}

/-- **A driver program that a worker carries out** talks to the link. -/
theorem talks {p : Program Exchange.interface α} {a : α} {l : LinkDevice} {d : Device}
    (h : Stretch (Program.within (I := Exchange.interface) (fun op => ask (.exchange ref op)) p) es
      (Program.done a)) (hd : Dialogue ref (.link l) es d) :
    ∃ l', d = .link l' ∧ Talks l p (lines ref es) a l' := by
  induction p generalizing es l with
  | done b =>
    obtain ⟨rfl, heq⟩ := h.of_done
    cases heq
    obtain ⟨l', rfl, hf⟩ := Device.drifts_link hd
    exact ⟨l', rfl, .done hf⟩
  | ask op next ih =>
    have hasked : Stretch (Program.ask (I := Action.interface) (.exchange ref op) fun answer =>
        (next answer).within fun op => ask (.exchange ref op)) es (Program.done a) := h
    rcases hasked.asked with ⟨-, hnot⟩ | ⟨answer, p', fs, rfl, hs, hp'⟩
    · cases hnot
    obtain ⟨d₁, d₂, hdrift, hx, hd⟩ := hd
    obtain ⟨l₁, rfl, hf⟩ := Device.drifts_link hdrift
    cases hx with
    | aside _ hnot => exact absurd rfl (hnot op)
    | driven now op _ =>
      have hrest : ∃ gs, lines ref fs = lines ref gs ∧
          Stretch ((next (l₁.exchange now op).2.1).within fun op => ask (.exchange ref op)) gs
            (Program.done a) ∧ Dialogue ref (.link (l₁.exchange now op).2.2) gs d := by
        rcases hp' with rfl | ⟨-, time, rfl⟩
        · exact ⟨fs, rfl, hs, hd⟩
        · obtain ⟨_, gs, rfl, hgs⟩ := hs.ask_done rfl
          obtain ⟨d₃, d₄, hdrift', hpause, hd⟩ := hd
          cases hpause with
          | aside => exact ⟨gs, rfl, hgs, hd.drifted hdrift'⟩
      obtain ⟨gs, hlines, hgs, hd⟩ := hrest
      obtain ⟨l', rfl, htalks⟩ := ih _ hgs hd
      refine ⟨l', rfl, ?_⟩
      rw [← hlines] at htalks
      exact (lines_exchange ref op _ fs).symm ▸ Talks.ask now hf htalks

/-- A path that a worker is on has an end, whatever the device says. -/
theorem completed {p q : Work α} (h : Stretch p es q) {d d' : Device}
    (hd : Dialogue ref d es d') :
    ∃ fs a d'', Stretch p (es ++ fs) (Program.done a) ∧ Dialogue ref d (es ++ fs) d'' := by
  induction q generalizing es d' with
  | done a => exact ⟨[], a, d', by rwa [List.append_nil], by rwa [List.append_nil]⟩
  | ask op next ih =>
    have hanswer : ∃ a d'', Device.Answers ref ⟨op, a⟩ d' d'' := by
      by_cases hop : ∃ e, op = .exchange ref e
      · obtain ⟨e, rfl⟩ := hop
        exact ⟨_, _, .driven 0 e d'⟩
      · exact ⟨op.somehow, d', .aside d' fun e he => hop ⟨e, he⟩⟩
    obtain ⟨a, d'', ha⟩ := hanswer
    obtain ⟨fs, b, d₃, hs, hd'⟩ := ih a (h.answered a) (hd.answered ha)
    rw [List.append_assoc] at hs hd'
    exact ⟨_, b, d₃, hs, hd'⟩

end Work.Stretch

end ChillerGateway
