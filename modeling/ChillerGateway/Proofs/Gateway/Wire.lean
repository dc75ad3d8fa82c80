import ChillerGateway.Proofs.Device.Blocks
import ChillerGateway.Proofs.Gateway.Locks

/-!
# The wire of a device

The far end of a link receives the lines of one errand after the other: each hold of the device's
lock sends a block of lines, or the beginning of one where an error cut it short, and no line of
another worker comes in between.

* `wire` — the lines that a far end received, with who sent them.
* `Errand.blocks` — the lines of an errand that succeeds.
* `World.Receives` — a line is on the wire when it arrives at the far end.
* `World.wire_blocks` — the wire is the blocks of the holds.
-/

namespace ChillerGateway

open Device (Dialogue)
open LinkDevice (Talks Falls)

/-! ## The lines of an errand -/

namespace Errand

/-- The lines of an errand that succeeds, in each form that they can have. -/
def blocks : Errand → List (List String)
  | command _ c _ => c.blocks
  | target _ value => (Operation.setSetpoint value).blocks
  | check _ => Operation.status.blocks
  | disconnect _ => Operation.close.blocks
  | reconnect _ => Operation.identify.blocks

/-- Whether an errand succeeded. -/
def succeeded : (e : Errand) → e.Result → Bool
  | command .. => fun r => r.toOption.isSome
  | target .. => fun r => r.toOption.isSome
  | check _ => id
  | disconnect _ => fun _ => true
  | reconnect _ => id

/-- Lines that are a whole block of an errand, or the beginning of one if it failed. -/
def Sends (e : Errand) (r : e.Result) (lines : List String) : Prop :=
  (e.succeeded r = true → lines ∈ e.blocks) ∧ ∃ block ∈ e.blocks, lines <+: block

end Errand

/-! ### Paths at a link -/

namespace Work.Stretch

variable {α β : Type} {ref : Nat} {es : List Answered} {l : LinkDevice} {d : Device}

/-- A driver program, and what a worker does with its outcome. -/
theorem drive_bind {p : Attempt α} {k : Except Error α → Work β} {b : β}
    (h : Stretch ((drive ref p).bind k) es (Program.done b)) (hd : Dialogue ref (.link l) es d) :
    ∃ r l' before after, lines ref es = lines ref before ++ lines ref after ∧
      Talks l p.run (lines ref before) r l' ∧ Stretch (k r) after (Program.done b) ∧
      Dialogue ref (.link l') after d := by
  obtain ⟨r, before, after, rfl, hs, hk⟩ := h.bind_done
  obtain ⟨d', hfirst, hrest⟩ := Dialogue.append_iff.mp hd
  obtain ⟨l', rfl, ht⟩ := hs.talks hfirst
  exact ⟨r, l', before, after, lines_append ref before after, ht, hk, hrest⟩

/-- A question that is no step of a driver. -/
theorem aside {op : Action} {next : op.Answer → Work β} {b : β} (hop : op.exchanges = false)
    (h : Stretch (Program.ask op next) es (Program.done b)) (hd : Dialogue ref (.link l) es d) :
    ∃ a fs l', lines ref es = lines ref fs ∧ Stretch (next a) fs (Program.done b) ∧
      Dialogue ref (.link l') fs d := by
  obtain ⟨a, fs, rfl, hs⟩ := h.ask_done hop
  obtain ⟨d₁, d₂, hdrift, hx, hd⟩ := hd
  obtain ⟨l', rfl, -⟩ := Device.drifts_link hdrift
  cases hx with
  | driven => cases hop
  | aside =>
    refine ⟨a, fs, l', ?_, hs, hd⟩
    unfold lines
    rw [List.filterMap_cons_none]
    cases op with
    | exchange => cases hop
    | _ => rfl

end Work.Stretch

/-! ### All errands -/

namespace Errand

variable {e : Errand} {es : List Answered} {l : LinkDevice} {d : Device}

theorem blocks_ne_nil (e : Errand) : e.blocks ≠ [] := by
  cases e with
  | command _ c _ => cases c <;> exact List.cons_ne_nil _ _
  | target _ value => exact Operation.blocks_ne_nil (.setSetpoint value)
  | check | disconnect | reconnect => exact List.cons_ne_nil _ _

/-- Opening a device and identifying it sends what the latter sends. -/
theorem says_introduce (b : Backend) : Says b.introduce Operation.identify.blocks :=
  (says_perform b .connect).bind (fun _ => says_perform b .identify) (Operation.blocks_ne_nil _)

/-- What a worker says with a driver program. -/
theorem sends_of_says {α : Type} {p : Attempt α} {blocks : List (List String)}
    (hp : Says p blocks) {said : List String} {r : Except Error α} {l' : LinkDevice}
    (ht : Talks l p.run said r l') :
    (r.toOption.isSome = true → said ∈ blocks) ∧ ∃ block ∈ blocks, said <+: block := by
  refine ⟨fun hok => ?_, hp.prefix_block ht⟩
  cases r with
  | error e => cases hok
  | ok a => exact hp.whole ht

/-- A command on a device, with the reading before it. -/
theorem sends_run {device : Handle} {c : Command} {client : String} {r : Except Error Json}
    (h : Work.Stretch (Gateway.run device c client) es (Program.done r))
    (hd : Dialogue device.ref (.link l) es d) :
    (command device c client).Sends r (lines device.ref es) := by
  rcases run_cases h with ⟨hmutating, prior, outcome, reading, writing, rest, rfl, hprior, hwrote,
    hend⟩ | ⟨hreads, outcome, hrun, rfl⟩
  · obtain ⟨_, hd₁, hd₂⟩ := Dialogue.append_iff.mp hd
    obtain ⟨l₁, rfl, hread⟩ := hprior.talks hd₁
    obtain ⟨_, hd₂, -⟩ := Dialogue.append_iff.mp hd₂
    obtain ⟨l₂, rfl, hwrite⟩ := hwrote.talks hd₂
    have hrest : lines device.ref rest = [] ∧ r.toOption.isSome = outcome.toOption.isSome := by
      rcases hend with ⟨e, rfl, rfl, rfl⟩ | ⟨result, rfl, rfl, rfl⟩
      · exact ⟨rfl, rfl⟩
      · exact ⟨rfl, rfl⟩
    rw [lines_append, lines_append, hrest.1, List.append_nil]
    obtain ⟨hwhole, block, hb, hcut⟩ := sends_of_says (Command.says_execute _ c) hwrite
    have hmem : ∀ {block}, block ∈ c.saying → c.reading ++ block ∈ c.blocks := fun hb =>
      List.mem_flatMap.mpr ⟨_, List.mem_singleton_self _, List.mem_map_of_mem hb⟩
    rcases Command.talks_priorValue hread with hsaid | ⟨hnil, hoff⟩
    · rw [hsaid]
      refine ⟨fun hok => hmem (hwhole (hrest.2 ▸ hok)), _, hmem hb, ?_⟩
      exact (List.prefix_append_right_inj _).mpr hcut
    · obtain ⟨hmute, e, rfl⟩ := Command.mute_execute hmutating hoff hwrite
      rw [hnil, hmute]
      refine ⟨fun hok => ?_, _, hmem hb, List.nil_prefix⟩
      cases hrest.2.symm.trans hok
  · obtain ⟨l₁, -, ht⟩ := hrun.talks hd
    have hblocks : c.blocks = c.saying := by
      cases c with
      | setSetpoint | start | stop | setRunning => cases hreads
      | _ => exact List.append_nil _
    have hsays := sends_of_says (Command.says_execute _ c) ht
    rw [← hblocks] at hsays
    cases outcome with
    | error e => exact hsays
    | ok a => exact hsays

/-- An errand that does not begin sends nothing. -/
theorem sends_nothing {r : e.Result} (hr : e.succeeded r = false) : e.Sends r [] := by
  obtain ⟨block, hb⟩ := List.exists_mem_of_ne_nil _ e.blocks_ne_nil
  exact ⟨fun hok => (by cases hr.symm.trans hok), block, hb, List.nil_prefix⟩

/-- **Each errand sends one of its blocks**, or the beginning of one when it fails. -/
theorem sends {r : e.Result} (h : Work.Stretch e.program es (Program.done r))
    (hd : Dialogue e.device.ref (.link l) es d) : e.Sends r (lines e.device.ref es) := by
  cases e with
  | command device c client =>
    obtain ⟨online, fs, l', hlines, hs, hd'⟩ := Work.Stretch.aside rfl h hd
    rw [show lines (command device c client).device.ref es = _ from hlines]
    cases online with
    | true => exact sends_run hs hd'
    | false =>
      obtain ⟨rfl, heq⟩ := hs.of_done
      cases heq
      exact sends_nothing rfl
  | target device value =>
    obtain ⟨online, fs, l', hlines, hs, hd'⟩ := Work.Stretch.aside rfl h hd
    rw [show lines (target device value).device.ref es = _ from hlines]
    cases online with
    | true =>
      obtain ⟨l'', -, ht⟩ := hs.talks hd'
      exact sends_of_says (says_perform _ _) ht
    | false =>
      obtain ⟨rfl, heq⟩ := hs.of_done
      cases heq
      exact sends_nothing rfl
  | check device =>
    obtain ⟨a, l', before, after, hlines, ht, hk, -⟩ := h.drive_bind hd
    obtain ⟨rfl, heq⟩ := hk.of_done
    cases heq
    have hall : lines device.ref es = lines device.ref before := hlines.trans (List.append_nil _)
    exact hall ▸ sends_of_says (says_perform _ .status) ht
  | disconnect device =>
    obtain ⟨a, l', before, after, hlines, ht, hk, -⟩ := h.drive_bind hd
    obtain ⟨rfl, heq⟩ := hk.of_done
    cases heq
    obtain ⟨block, hb, hcut⟩ := (says_perform _ .close).prefix_block ht
    obtain rfl : block = [] := List.mem_singleton.mp hb
    have hnil : lines device.ref es = [] := by
      rw [hlines, List.prefix_nil.mp hcut]
      rfl
    exact hnil ▸ ⟨fun _ => hb, [], hb, List.prefix_refl _⟩
  | reconnect device =>
    obtain ⟨a, l', before, after, hlines, ht, hk, hd'⟩ := h.drive_bind hd
    have hclosed : lines device.ref after = [] ∧ r = a.toOption.isSome := by
      cases a with
      | ok text =>
        obtain ⟨rfl, heq⟩ := hk.of_done
        cases heq
        exact ⟨rfl, rfl⟩
      | error e =>
        obtain ⟨_, _, closing, rest, hlines', hclose, hdone, -⟩ := hk.drive_bind hd'
        obtain ⟨rfl, heq⟩ := hdone.of_done
        cases heq
        obtain ⟨block, hb, hcut⟩ := (says_perform _ .close).prefix_block hclose
        obtain rfl : block = [] := List.mem_singleton.mp hb
        rw [hlines', List.prefix_nil.mp hcut]
        exact ⟨rfl, rfl⟩
    obtain ⟨hnil, rfl⟩ := hclosed
    have hall : lines device.ref es = lines device.ref before := by
      rw [hlines, hnil, List.append_nil]
    exact hall ▸ sends_of_says (says_introduce _) ht

/-- An errand under way has sent the beginning of one of its blocks. -/
theorem sends_so_far {q : Work e.Result} (h : Work.Stretch e.program es q)
    (hd : Dialogue e.device.ref (.link l) es d) :
    ∃ block ∈ e.blocks, lines e.device.ref es <+: block := by
  obtain ⟨fs, r, d', hdone, hd'⟩ := h.completed hd
  obtain ⟨-, block, hb, hcut⟩ := sends hdone hd'
  rw [lines_append] at hcut
  exact ⟨block, hb, (List.prefix_append _ _).trans hcut⟩

end Errand

/-! ## The wire -/

/-- The lines that the far end of a device received, with who sent them. -/
def wire (ref : Nat) (es : List Event) : List (Nat × String) :=
  es.filterMap fun x => (x.asked.line? ref).map (x.task, ·)

/-- What a hold brought to the far end. -/
def Hold.wire (ref : Nat) (hold : Hold) : List (Nat × String) :=
  (lines ref hold.asked).map (hold.task, ·)

/-- Only steps of a driver bring a line to the far end. -/
theorem Answered.line?_eq_none {ref : Nat} {x : Answered} (h : x.op.concerns ref = false) :
    x.line? ref = none := by
  obtain ⟨op, a⟩ := x
  cases op with
  | exchange r op => exact if_neg (of_decide_eq_false h)
  | _ => rfl

theorem wire_snoc (ref : Nat) (es : List Event) (x : Event) :
    wire ref (es ++ [x]) = wire ref es ++ ((x.asked.line? ref).map (x.task, ·)).toList :=
  filterMap_snoc _ es x

theorem Hold.wire_snoc (ref task : Nat) (asked : List Answered) (x : Answered) :
    Hold.wire ref ⟨task, asked ++ [x]⟩ =
      Hold.wire ref ⟨task, asked⟩ ++ ((x.line? ref).map (task, ·)).toList := by
  unfold Hold.wire lines
  rw [filterMap_snoc, List.map_append]
  cases x.line? ref <;> rfl

/-- **The wire is what the holds brought to it**, one after the other. -/
theorem Held.wire {ref : Nat} {es : List Event} {holds : List Hold} {current : Option Hold}
    (h : Held ref es holds current) :
    wire ref es = (holds ++ current.toList).flatMap (Hold.wire ref) := by
  induction h with
  | start => rfl
  | @taken es holds task _ ih =>
    have hnone : ((⟨.lock ref, ()⟩ : Answered).line? ref).map (task, ·) = none := rfl
    rw [wire_snoc, ih, hnone, Option.toList_none, Option.toList_none, List.append_nil,
      List.append_nil, Option.toList_some, List.flatMap_append, List.flatMap_singleton]
    exact (List.append_nil _).symm
  | @within es holds hold x _ _ ih =>
    rw [wire_snoc, ih, Option.toList_some, Option.toList_some, List.flatMap_append,
      List.flatMap_append, List.flatMap_singleton, List.flatMap_singleton, Hold.wire_snoc,
      List.append_assoc]
  | @released es holds hold _ ih =>
    have hnone : ((⟨.unlock ref, ()⟩ : Answered).line? ref).map (hold.task, ·) = none := rfl
    rw [wire_snoc, ih, hnone, Option.toList_none, Option.toList_none, List.append_nil,
      List.append_nil, Option.toList_some]
  | elsewhere x _ hx _ ih =>
    rw [wire_snoc, ih, Answered.line?_eq_none hx]
    exact List.append_nil _

namespace World

variable {v w w' : World} {ref : Nat} {slot : DeviceSlot} {es : List Event}

/-- What arrives at the far end of a link in a step: the line by which the step makes the wire
longer, and nothing else. -/
def Receives (ref : Nat) (w : World) (e : Option Event) (w' : World) : Prop :=
  ∀ slot l, w.devices[ref]? = some slot → slot.device = .link l →
    ∃ slot' l', w'.devices[ref]? = some slot' ∧ slot'.device = .link l' ∧
      match e.bind fun x => x.asked.line? ref with
      | some line => ∃ now, l.farEnd.own ≠ [] ∧
          l' = { l with farEnd := l.farEnd.arrive now line }
      | none => l.farEnd.NothingNew l'.farEnd

theorem Step.receives {e : Option Event} (h : Step w e w') : Receives ref w e w' := by
  intro slot l hs hl
  obtain ⟨slot', hs', hc⟩ := h.change hs
  have hquiet : slot'.device = .link l → (e.bind fun x => x.asked.line? ref) = none →
      ∃ slot' l', w'.devices[ref]? = some slot' ∧ slot'.device = .link l' ∧
        match e.bind fun x => x.asked.line? ref with
        | some line => ∃ now, l.farEnd.own ≠ [] ∧
            l' = { l with farEnd := l.farEnd.arrive now line }
        | none => l.farEnd.NothingNew l'.farEnd := by
    intro hl' hnone
    rw [hnone]
    exact ⟨slot', l, hs', hl', .refl _⟩
  have hother : (∀ x ∈ e, x.asked.op.concerns ref = false) →
      (e.bind fun x => x.asked.line? ref) = none := by
    intro he
    cases e with
    | none => rfl
    | some x => exact Answered.line?_eq_none (he x rfl)
  cases hc with
  | same he | flagged _ he => exact hquiet hl (hother he)
  | joined | taken | released => exact hquiet hl rfl
  | drifted hd =>
    rw [hl] at hd
    obtain ⟨l', rfl, -, hnew⟩ := hd.link
    exact ⟨_, l', hs', rfl, hnew⟩
  | driven now op =>
    rw [hl] at hs' ⊢
    have harrives := l.exchange_arrives now op
    refine ⟨_, _, hs', rfl, ?_⟩
    show match Answered.line? ref ⟨.exchange ref op, (l.exchange now op).2.1⟩ with
      | some line => _
      | none => _
    rw [Answered.line?_exchange]
    cases hline : op.line? (l.exchange now op).2.1 with
    | none =>
      rw [hline] at harrives
      exact harrives
    | some line =>
      rw [hline] at harrives
      exact ⟨now, harrives⟩

/-- **The far end of a link receives one block after the other**, each from one holder of the
device's lock: the errand that the holder runs sends a whole block of its lines, or the beginning of
one where it fails, and the errand under way the beginning of one.  The wire gets what arrives at
the far end, step by step. -/
theorem wire_blocks (hv : Fresh v) (h : Introduced v es w ref)
    (hop : ∀ x ∈ es, x.task = operator → x.asked.op.concerns ref = false)
    (hs : w.devices[ref]? = some slot) (hlink : slot.device.isLink = true) :
    RunBy (Receives ref) v es w ∧ ∃ holds current, Held ref es holds current ∧
      wire ref es = (holds ++ current.toList).flatMap (Hold.wire ref) ∧
      (∀ hold ∈ holds, ∃ e : Errand, e.device.ref = ref ∧
        ∃ r, Work.Stretch e.program hold.asked (Program.done r) ∧
          e.Sends r (lines ref hold.asked)) ∧
      ∀ hold ∈ current, ∃ e : Errand, e.device.ref = ref ∧
        (∃ q, Work.Stretch e.program hold.asked q) ∧
        ∃ block ∈ e.blocks, lines ref hold.asked <+: block := by
  obtain ⟨slot', holds, current, hs', hguarded⟩ := h.guarded hv hop
  obtain rfl : slot' = slot := Option.some.inj (hs'.symm.trans hs)
  refine ⟨h.run.runBy_of fun _ _ _ hs => hs.receives, holds, current, hguarded.held,
    hguarded.held.wire, ?_, ?_⟩
  · intro hold hmem
    obtain ⟨e, rfl, ⟨r, hstretch⟩, d, d', hd, hdialogue⟩ := hguarded.finished hold hmem
    obtain ⟨l, rfl⟩ := Device.exists_link (hd.trans hlink)
    exact ⟨e, rfl, r, hstretch, Errand.sends hstretch hdialogue⟩
  · intro hold hmem
    obtain ⟨e, rfl, ⟨q, hstretch⟩, d, hd, hdialogue⟩ := hguarded.underWay hold hmem
    obtain ⟨l, rfl⟩ := Device.exists_link (hd.trans hlink)
    exact ⟨e, rfl, ⟨q, hstretch⟩, Errand.sends_so_far hstretch hdialogue⟩

/-- A gateway with an open link, whose far end answers the first line. -/
def linkside : World :=
  let device : LinkDevice :=
    { timeout := 500
      farEnd := { responder := .script [some (Responder.answerText "ok")] false } }
  start none {} none (.link (device.openStream 0).2)

/-- Two requests come in at once. -/
def twoRequests : World :=
  let w := (linkside.startRequest "\x7b\"command\":\"status\"\x7d" "a").2
  (w.startRequest "\x7b\"command\":\"identify\"\x7d" "b").2

/-- Two requests share a link: the second one waits for the lock, then for the interval between two
commands, and gets no answer. -/
theorem wire_blocks_two_requests :
    ∃ holds current, Held 0 (played 60 twoRequests).1 holds current ∧
      (holds ++ current.toList).flatMap (Hold.wire 0) = [(1, "status"), (2, "version")] := by
  have hone : Control linkside _ := .startRequest "\x7b\"command\":\"status\"\x7d" "a"
  have htwo : Control _ twoRequests := .startRequest "\x7b\"command\":\"identify\"\x7d" "b"
  have hrun : Run linkside (played 60 twoRequests).1 (played 60 twoRequests).2 :=
    ((Run.start.step (.control hone)).step (.control htwo)).trans (played_run 60 twoRequests)
  have hquiet : ∀ x ∈ (played 60 twoRequests).1, x.task = operator →
      x.asked.op.concerns 0 = false := by decide +kernel
  have hlink : (played 60 twoRequests).2.devices[0]?.map (·.device.isLink) = some true := by
    decide +kernel
  obtain ⟨slot, hs, hslot⟩ := Option.map_eq_some_iff.mp hlink
  obtain ⟨-, holds, current, hheld, hwire, -, -⟩ := wire_blocks (fresh_start none {} none _ _)
    (introduced_of_start rfl hrun) hquiet hs hslot
  have hlines : wire 0 (played 60 twoRequests).1 = [(1, "status"), (2, "version")] := by
    decide +kernel
  exact ⟨holds, current, hheld, hwire.symm.trans hlines⟩

end World

end ChillerGateway
