import ChillerGateway.Proofs.Gateway.Locks
import ChillerGateway.Proofs.Gateway.Requests

/-!
# The audit trail

The audit log receives one record for each request that succeeded in changing a device, and no other:
for each worker in the order of its requests, for each device in the order in which its lock was
held.

* `records` — what the log receives in a history.
* `Alone` — that a worker had a device to itself from taking its lock to releasing it.
* `World.audit_trail` — the records of a run are those of the requests in it.
-/

namespace ChillerGateway

/-! ## The records of a history -/

/-- A record of the audit log: which lock was held, and by whom. -/
structure Record where
  ref : Option Nat
  task : Nat
  entry : AuditEntry
  deriving DecidableEq

/-- The record that the log receives with an answer, after a history. -/
def Event.record? (x : Event) (before : List Event) : Option Record :=
  x.asked.audit?.map fun entry =>
    { ref := (holding (own x.task before)).map Prod.fst, task := x.task, entry }

/-- The records that the log receives after a history. -/
def recordsAfter (before : List Event) : List Event → List Record
  | [] => []
  | x :: es => (x.record? before).toList ++ recordsAfter (before ++ [x]) es

/-- The records that the log receives, in their order. -/
def records (es : List Event) : List Record := recordsAfter [] es

theorem recordsAfter_snoc (before es : List Event) (x : Event) :
    recordsAfter before (es ++ [x]) =
      recordsAfter before es ++ (x.record? (before ++ es)).toList := by
  induction es generalizing before with
  | nil =>
    rw [List.append_nil]
    exact List.append_nil _
  | cons y es ih =>
    show _ ++ recordsAfter _ (es ++ [x]) = _ ++ recordsAfter _ es ++ _
    rw [ih, ← List.append_assoc, List.append_assoc before]
    rfl

theorem records_snoc (es : List Event) (x : Event) :
    records (es ++ [x]) = records es ++ (x.record? es).toList := recordsAfter_snoc [] es x

/-- The records of a worker are what it put into the trail. -/
theorem entries_own (task : Nat) (es : List Event) :
    ((records es).filter (·.task = task)).map Record.entry = audits (own task es) := by
  induction es using List.reverseRecOn with
  | nil => rfl
  | append_singleton es x ih =>
    rw [records_snoc, own_concat, List.filter_append, List.map_append, ih]
    unfold Event.record?
    split
    · rename_i hx
      rw [audits_snoc]
      cases x.asked.audit? with
      | none => simp
      | some entry => simp [hx]
    · rename_i hx
      cases x.asked.audit? with
      | none => simp
      | some entry => simp [hx]

/-! ## The records of a device -/

/-- The records that were made under the lock of a device, with who made them. -/
def recordsOf (ref : Nat) (es : List Event) : List (Nat × AuditEntry) :=
  ((records es).filter (·.ref = some ref)).map fun r => (r.task, r.entry)

/-- What a hold put into the trail. -/
def Hold.records (hold : Hold) : List (Nat × AuditEntry) :=
  (audits hold.asked).map (hold.task, ·)

theorem recordsOf_snoc (ref : Nat) (es : List Event) (x : Event) :
    recordsOf ref (es ++ [x]) = recordsOf ref es ++
      if (holding (own x.task es)).map Prod.fst = some ref then
        (x.asked.audit?.map (x.task, ·)).toList else [] := by
  unfold recordsOf
  rw [records_snoc, List.filter_append, List.map_append]
  unfold Event.record?
  cases x.asked.audit? with
  | none => simp
  | some entry =>
    simp only [Option.map_some, Option.toList_some]
    split
    · rename_i h
      simp [h]
    · rename_i h
      simp [h]

/-- A worker that holds the lock of a device adds its records to it. -/
theorem recordsOf_snoc_held {ref : Nat} {es : List Event} {x : Event} {asked : List Answered}
    (h : holding (own x.task es) = some (ref, asked)) :
    recordsOf ref (es ++ [x]) = recordsOf ref es ++ (x.asked.audit?.map (x.task, ·)).toList := by
  rw [recordsOf_snoc, h, if_pos (by rfl)]

/-- A worker that does not hold the lock of a device adds no record to it. -/
theorem recordsOf_snoc_other {ref : Nat} {es : List Event} {x : Event}
    (h : x.asked.op.isAudit = false ∨ ∀ asked, holding (own x.task es) ≠ some (ref, asked)) :
    recordsOf ref (es ++ [x]) = recordsOf ref es := by
  rw [recordsOf_snoc]
  rcases h with hx | hnone
  · rw [Answered.audit?_eq_none hx]
    simp
  · rw [if_neg, List.append_nil]
    intro hheld
    obtain ⟨⟨r, asked⟩, hholding, rfl⟩ := Option.map_eq_some_iff.mp hheld
    exact hnone asked hholding

/-- **The records of a device are those of its holds**, one after the other. -/
theorem Held.records {ref : Nat} {es : List Event} {holds : List Hold} {current : Option Hold}
    (h : Held ref es holds current) :
    recordsOf ref es = (holds ++ current.toList).flatMap Hold.records := by
  induction h with
  | start => rfl
  | @taken es holds task _ ih =>
    rw [recordsOf_snoc_other (.inl rfl), ih, Option.toList_none, Option.toList_some,
      List.flatMap_append, List.flatMap_append, List.flatMap_singleton]
    rfl
  | @within es holds hold x h _ ih =>
    have hheld := (h.holding_iff hold.task hold.asked).mpr rfl
    rw [recordsOf_snoc_held (x := ⟨hold.task, x⟩) hheld, ih, Option.toList_some,
      Option.toList_some, List.flatMap_append, List.flatMap_append, List.flatMap_singleton,
      List.flatMap_singleton, List.append_assoc]
    unfold Hold.records
    rw [audits_snoc, List.map_append]
    cases x.audit? <;> rfl
  | @released es holds hold _ ih =>
    rw [recordsOf_snoc_other (.inl rfl), ih, Option.toList_none, Option.toList_some,
      List.append_nil]
  | elsewhere x h _ hother ih =>
    rw [recordsOf_snoc_other (.inr fun asked hheld => ?_), ih]
    exact hother _ ((h.holding_iff x.task asked).mp hheld) rfl

/-! ## Alone with a device -/

/-- From taking the lock of a device to releasing it a worker is answered this, and nobody else has
anything to do with the device. -/
def Alone (ref : Nat) (es : List Event) (hold : Hold) : Prop :=
  ∃ before during after, es = before ++ ⟨hold.task, .lock ref, ()⟩ ::
      (during ++ ⟨hold.task, .unlock ref, ()⟩ :: after) ∧
    own hold.task during = hold.asked ∧
    ∀ x ∈ during, x.task ≠ hold.task → x.asked.op.concerns ref = false

/-- Since taking the lock of a device a worker was answered this, and nobody else had anything to do
with the device. -/
def AloneSince (ref : Nat) (es : List Event) (hold : Hold) : Prop :=
  ∃ before during, es = before ++ ⟨hold.task, .lock ref, ()⟩ :: during ∧
    own hold.task during = hold.asked ∧
    ∀ x ∈ during, x.task ≠ hold.task → x.asked.op.concerns ref = false

theorem Alone.append {ref : Nat} {es : List Event} {hold : Hold} (h : Alone ref es hold)
    (fs : List Event) : Alone ref (es ++ fs) hold := by
  obtain ⟨before, during, after, rfl, hown, hother⟩ := h
  refine ⟨before, during, after ++ fs, ?_, hown, hother⟩
  simp

/-- Who holds a lock is alone with the device. -/
theorem Held.alone {ref : Nat} {es : List Event} {holds : List Hold} {current : Option Hold}
    (h : Held ref es holds current) :
    (∀ hold ∈ holds, Alone ref es hold) ∧ ∀ hold ∈ current, AloneSince ref es hold := by
  induction h with
  | start => exact ⟨fun hold hc => (by cases hc), fun hold hc => (by cases hc)⟩
  | taken task _ ih =>
    refine ⟨fun hold hmem => (ih.1 hold hmem).append _, ?_⟩
    rintro hold ⟨⟩
    exact ⟨_, [], rfl, rfl, fun x hx => by cases hx⟩
  | @within es holds hold x _ _ ih =>
    refine ⟨fun hold hmem => (ih.1 hold hmem).append _, ?_⟩
    rintro _ ⟨⟩
    obtain ⟨before, during, rfl, hown, hother⟩ := ih.2 hold rfl
    refine ⟨before, during ++ [⟨hold.task, x⟩], by simp, ?_, ?_⟩
    · rw [own_concat, if_pos rfl, hown]
    · refine List.forall_mem_append.mpr ⟨hother, List.forall_mem_singleton.mpr ?_⟩
      exact fun hne => absurd rfl hne
  | @released es holds hold _ ih =>
    refine ⟨List.forall_mem_append.mpr ⟨fun hold hmem => (ih.1 hold hmem).append _,
      List.forall_mem_singleton.mpr ?_⟩, fun hold hc => by cases hc⟩
    obtain ⟨before, during, rfl, hown, hother⟩ := ih.2 hold rfl
    exact ⟨before, during, [], by simp, hown, hother⟩
  | @elsewhere es holds current x _ hx hne ih =>
    refine ⟨fun hold hmem => (ih.1 hold hmem).append _, fun hold hc => ?_⟩
    obtain ⟨before, during, rfl, hown, hother⟩ := ih.2 hold hc
    refine ⟨before, during ++ [x], by simp, ?_, ?_⟩
    · rw [own_concat, if_neg (hne hold hc), hown]
    · exact List.forall_mem_append.mpr ⟨hother, List.forall_mem_singleton.mpr fun _ => hx⟩

/-- Since a worker took a lock it has the lock. -/
theorem holding_since (before : List Answered) (ref : Nat) {asked : List Answered}
    (h : ∀ x ∈ asked, x.op.locks = false) :
    holding (before ++ ⟨.lock ref, ()⟩ :: asked) = some (ref, asked) := by
  induction asked using List.reverseRecOn with
  | nil => exact holding_snoc before _
  | append_singleton asked x ih =>
    rw [List.forall_mem_append] at h
    rw [← List.cons_append, ← List.append_assoc, holding_snoc, ih h.1,
      holdingAfter_of_locks (h.2 x (List.mem_singleton_self x))]
    rfl

/-- With one event more a worker may just have released the lock. -/
theorem of_own_concat {ref task : Nat} {es : List Event} {x : Event} {asked : List Answered}
    (hasked : ∀ x ∈ asked, x.op.locks = false)
    (h : tenure ref asked <:+: own task (es ++ [x])) :
    tenure ref asked <:+: own task es ∨
      x = ⟨task, .unlock ref, ()⟩ ∧ holding (own task es) = some (ref, asked) := by
  rw [own_concat] at h
  split at h
  · rename_i hx
    rcases List.infix_concat_iff.mp h with ⟨before, hlast⟩ | hold
    · rw [tenure, ← List.cons_append, ← List.append_assoc] at hlast
      obtain ⟨hown, hlast⟩ := List.append_inj' hlast rfl
      refine .inr ⟨?_, hown ▸ holding_since before ref hasked⟩
      obtain ⟨t, y⟩ := x
      cases List.cons.inj hlast |>.1
      cases hx
      rfl
    · exact .inl hold
  · exact .inl h

/-- What a worker does from taking a lock to releasing it is a hold. -/
theorem Held.mem_of_own {ref task : Nat} {es : List Event} {holds : List Hold}
    {current : Option Hold} (h : Held ref es holds current) {asked : List Answered}
    (hasked : ∀ x ∈ asked, x.op.locks = false)
    (hown : tenure ref asked <:+: own task es) : ⟨task, asked⟩ ∈ holds := by
  induction h with
  | start => cases List.infix_nil.mp hown
  | taken t _ ih =>
    rcases of_own_concat hasked hown with hold | ⟨hx, -⟩
    · exact ih hold
    · cases hx
  | within x _ hx ih =>
    rcases of_own_concat hasked hown with hold | ⟨heq, -⟩
    · exact ih hold
    · cases heq
      cases hx
  | released h ih =>
    rcases of_own_concat hasked hown with hold | ⟨-, hheld⟩
    · exact List.mem_append_left _ (ih hold)
    · cases (h.holding_iff task asked).mp hheld
      exact List.mem_append_right _ (List.mem_singleton_self _)
  | elsewhere x _ hx _ ih =>
    rcases of_own_concat hasked hown with hold | ⟨rfl, -⟩
    · exact ih hold
    · exact absurd hx (by simp [Action.concerns])

/-- A request that made a change made it in one tenure. -/
theorem Call.Changed.tenure {call : Call} {result : Except Error Json} {c : Change}
    (h : call.Changed result c) : tenure c.device.ref (c.asked call.client) <:+: call.asked := by
  obtain ⟨before, after, hasked⟩ := h.locked
  refine ⟨before, after, ?_⟩
  rw [hasked, ChillerGateway.tenure]
  simp

/-- While a change is made no lock is asked for. -/
theorem Change.Made.locks_asked {c : Change} (h : c.Made) (client : String) :
    ∀ x ∈ c.asked client, x.op.locks = false := by
  have hdrive : ∀ {α : Type} {p : Attempt α} {q : Work (Except Error α)} {es : List Answered},
      Work.Stretch (Work.drive c.device.ref p) es q → ∀ x ∈ es, x.op.locks = false := fun hs =>
    (hs.along (Work.along_drive (P := fun op : Action => op.locks = false) (fun _ => rfl) _)
      fun _ => rfl).1
  unfold Change.asked
  refine List.forall_mem_cons.mpr ⟨rfl, List.forall_mem_append.mpr ⟨?_, ?_⟩⟩
  · exact List.forall_mem_append.mpr ⟨hdrive h.read, hdrive h.wrote⟩
  · exact List.forall_mem_singleton.mpr rfl

/-! ## Runs -/

theorem Action.isAudit_of_isGuarded {op : Action} (h : op.isGuarded = false) :
    op.isAudit = false := by
  cases op with
  | audit => cases h
  | _ => rfl

theorem Action.concerns_of_isGuarded {op : Action} (h : op.isGuarded = false) (ref : Nat) :
    op.concerns ref = false := by
  cases op with
  | lock | unlock | exchange => cases h
  | _ => rfl

/-- Who puts an entry into the trail holds a lock. -/
theorem Standing.Asks.held_of_audit {held : Option (Nat × List Answered)} {op : Action}
    (h : Standing.Asks held op) (hop : op.isAudit = true) : held.isSome = true := by
  cases h with
  | free _ hfree => cases (Action.isAudit_of_isGuarded hfree).symm.trans hop
  | lock _ hlock =>
    rw [hlock] at hop
    cases hop
  | within hheld => rw [hheld]; rfl
  | unlock hheld => rw [hheld]; rfl

namespace World

variable {v w w' : World} {es : List Event} {task : Nat} {worker : Worker}

/-! ### The trail -/

/-- Only an audit question adds to the trail. -/
theorem act_trail (w : World) (me : Nat) (op : Action) (a : op.Answer) :
    (w.act me op).world.trail = (Answered.audit? ⟨op, a⟩).toList ++ w.trail := by
  cases op with
  | pauseUntil | awaitTickers | awaitReply | exchange | lock | unlock | countRequest =>
    simp only [World.act, World.exchange, World.lockFor, World.unlock, World.countRequest]
    repeat' split
    all_goals rfl
  | read index deadline =>
    simp only [World.act]
    split
    · rename_i heq
      obtain ⟨clients, rfl⟩ := incoming_eq heq
      rfl
    · rfl
  | _ => rfl

/-- The trail gets what is put into it, until it is taken. -/
theorem Step.trail {e : Option Event} (h : Step w e w') :
    w'.trail = (e.bind fun x => x.asked.audit?).toList ++ w.trail ∨ e = none ∧ w'.trail = [] := by
  cases e with
  | some x => exact .inl (h.told.1.trail.trans (act_trail w x.task x.asked.op x.asked.answer))
  | none => exact h.silent.trail.imp id fun hnil => ⟨rfl, hnil⟩

/-- What a history puts into the trail, the latest first. -/
def entries (es : List Event) : List AuditEntry := ((records es).map Record.entry).reverse

theorem entries_step (es : List Event) (e : Option Event) :
    entries (es ++ e.toList) = (e.bind fun x => x.asked.audit?).toList ++ entries es := by
  unfold entries
  cases e with
  | none => simp
  | some x =>
    rw [Option.toList_some, records_snoc, List.map_append, List.reverse_append]
    unfold Event.record?
    cases h : x.asked.audit? <;> simp [h]

theorem Run.trail (h : Run v es w) : w.trail <+: entries es ++ v.trail := by
  induction h with
  | start => exact List.prefix_refl _
  | @step es e w w' _ hs ih =>
    rcases hs.trail with htrail | ⟨-, hnil⟩
    · rw [htrail, entries_step, List.append_assoc]
      exact (List.prefix_append_right_inj _).mpr ih
    · rw [hnil]
      exact List.nil_prefix

/-- A step that takes nothing from the trail. -/
def KeepsTrail (w : World) (_ : Option Event) (w' : World) : Prop := w.trail <:+ w'.trail

theorem RunBy.trail (h : RunBy KeepsTrail v es w) : w.trail = entries es ++ v.trail := by
  induction h with
  | start => rfl
  | @step es e w w' _ hs hkeeps ih =>
    rcases hs.trail with htrail | ⟨rfl, hnil⟩
    · rw [htrail, entries_step, List.append_assoc, ih]
    · -- Nothing was taken, so there was nothing to take.
      unfold KeepsTrail at hkeeps
      rw [hnil, List.suffix_nil] at hkeeps
      rw [Option.toList_none, List.append_nil, ← ih, hkeeps, hnil]

/-- A turn takes nothing from the trail. -/
theorem trail_suffix_turn (w : World) (t : Task) : w.trail <:+ (w.turn t).trail := by
  unfold World.turn
  cases t.program with
  | done r =>
    cases r with
    | again worker => exact List.suffix_rfl
    | ended reply =>
      unfold World.finish
      cases t.role with
      | ticker | watchdog | connection | request => exact List.suffix_rfl
  | ask op next =>
    have hact : w.trail <:+ (w.act t.id op).world.trail := by
      rw [act_trail w t.id op op.somehow]
      exact List.suffix_append _ _
    simp only
    cases h : w.act t.id op with
    | answered | later | wait =>
      rw [h] at hact
      exact hact

/-- A gateway that is left alone takes nothing from the trail. -/
theorem played_keepsTrail (n : Nat) (w : World) :
    RunBy KeepsTrail w (played n w).1 (played n w).2 :=
  played_runBy_of (P := fun _ => True) (fun u t _ => ⟨trail_suffix_turn u t, trivial⟩)
    (fun _ _ _ => ⟨List.suffix_rfl, trivial⟩) (fun _ _ _ => ⟨List.suffix_rfl, trivial⟩) n trivial

/-! ### The workers of a run -/

/-- A worker that a run has started, with its number. -/
def Started (v : World) (es : List Event) (w : World) (task : Nat) (worker : Worker) : Prop :=
  ∃ before after u, es = before ++ after ∧ Run v before u ∧ own task before = [] ∧
    (⟨task, worker.role, Program.done (.again worker)⟩ : Task) ∈ u.tasks ∧ Run u after w

theorem Started.step {e : Option Event} (h : Started v es w task worker) (hs : Step w e w') :
    Started v (es ++ e.toList) w' task worker := by
  obtain ⟨before, after, u, rfl, hbefore, hown, ht, hafter⟩ := h
  exact ⟨before, after ++ e.toList, u, List.append_assoc _ _ _, hbefore, hown, ht,
    hafter.step hs⟩

/-- A worker takes a course from its beginning. -/
theorem Started.course (h : Started v es w task worker) (hv : Numbered v) :
    ∃ p, Course v.intake (Program.done (.again worker)) (own task es) p := by
  obtain ⟨before, after, u, rfl, hbefore, hown, ht, hafter⟩ := h
  rw [own_append, hown, List.nil_append, ← hbefore.intake]
  rcases hafter.follows (hbefore.numbered hv) ht with ⟨p, -, hc⟩ | ⟨reply, hc, -⟩
  · exact ⟨p, hc⟩
  · exact ⟨_, hc⟩

theorem Run.started (h : Run v es w) (hv : Fresh v) : ∀ t ∈ w.tasks,
    ∃ worker : Worker, worker.isNew = true ∧ Started v es w t.id worker := by
  induction h with
  | start =>
    rw [hv.tasks]
    exact fun t ht => by cases ht
  | @step es e u u' hr hs ih =>
    intro t ht
    have hn := hr.numbered hv.numbered
    rcases hs.effect.origin hn ht with ⟨old, hold, hid, -⟩ | ⟨worker, hnew, rfl⟩
    · obtain ⟨worker, hnew, hstarted⟩ := ih old hold
      exact ⟨worker, hnew, hid ▸ hstarted.step hs⟩
    · have hbefore : own u.nextTask es = [] :=
        own_eq_nil fun x hx => Nat.ne_of_lt (hr.known hv.numbered x hx)
      have hown : own u.nextTask e.toList = [] :=
        hs.effect.own_of_absent hn.next fun t ht => Nat.ne_of_lt (hn.known t ht).2
      refine ⟨worker, hnew, _, [], u', (List.append_nil _).symm, hr.step hs, ?_, ht, .start⟩
      rw [own_append, hbefore, hown]
      rfl

/-- Every record is from a worker that held a lock. -/
theorem Run.of_mem_records (h : Run v es w) (hv : Fresh v)
    (hop : ∀ x ∈ es, x.task = operator → x.asked.op.isGuarded = false) :
    ∀ r ∈ records es, r.ref.isSome = true ∧ ∃ worker, Started v es w r.task worker := by
  induction h with
  | start => exact fun r hr => by cases hr
  | @step es e u u' hr hs ih =>
    rw [List.forall_mem_append] at hop
    intro r hmem
    have hold : r ∈ records es →
        r.ref.isSome = true ∧ ∃ worker, Started v (es ++ e.toList) u' r.task worker := by
      intro hmem
      obtain ⟨hheld, worker, hstarted⟩ := ih hop.1 r hmem
      exact ⟨hheld, worker, hstarted.step hs⟩
    cases e with
    | none => exact hold (by rwa [Option.toList_none, List.append_nil] at hmem)
    | some x =>
      rw [Option.toList_some, records_snoc] at hmem
      rcases List.mem_append.mp hmem with hmem | hnew
      · exact hold hmem
      · obtain ⟨entry, hentry, rfl⟩ := Option.map_eq_some_iff.mp (Option.mem_toList.mp hnew)
        have haudit : x.asked.op.isAudit = true := by
          by_contra hnot
          rw [Answered.audit?_eq_none (Bool.eq_false_of_not_eq_true hnot)] at hentry
          cases hentry
        rcases hs.told.2 with hoperator | ⟨t, ht, hid, next, hp⟩
        · have hfree := hop.2 x (List.mem_singleton_self x) hoperator
          cases (Action.isAudit_of_isGuarded hfree).symm.trans haudit
        · have hstands := hr.stands hv ht
          rw [hp, hid] at hstands
          obtain ⟨worker, -, hstarted⟩ := hr.started hv t ht
          refine ⟨?_, worker, hid ▸ hstarted.step hs⟩
          simpa using hstands.answered.1.held_of_audit haudit

/-- The hold of a device in which a request changed it. -/
theorem mem_holds_of_changed {ref : Nat} {holds : List Hold} {current : Option Hold}
    (h : Held ref es holds current) {intake : Intake}
    {calls : List (Call × Except Error Json)} {doing : Option Call}
    (hd : Did intake worker (own task es) calls doing) {call : Call × Except Error Json}
    (hcall : call ∈ calls) {c : Change} (hc : call.1.Changed call.2 c) (href : c.device.ref = ref) :
    ⟨task, c.asked call.1.client⟩ ∈ holds := by
  subst href
  exact h.mem_of_own (hc.made.locks_asked _) (hc.tenure.trans (hd.of_mem call hcall).2)

/-- **The audit log receives one record for each request that succeeded in changing a device, and no
other.**  The records of a worker are those of its requests, in their order, and what a request
leaves is what `Call.Recorded` says; the records of a device are those of the holds of its lock, in
their order, and who holds the lock is alone with the device. -/
theorem audit_trail (hv : Fresh v) (h : Run v es w)
    (hop : ∀ x ∈ es, x.task = operator → x.asked.op.isGuarded = false) :
    -- The trail holds what the log received since it was last taken, and all of it if it was not.
    w.trail <+: entries es ++ v.trail ∧
    (RunBy KeepsTrail v es w → w.trail = entries es ++ v.trail) ∧
    -- Every record is from a worker that held a lock.
    (∀ r ∈ records es, r.ref.isSome = true ∧ ∃ worker, Started v es w r.task worker) ∧
    -- The records of a worker are those of its requests, one for each that made a change.
    (∀ task worker, Started v es w task worker → ∃ calls current,
      Did v.intake worker (own task es) calls current ∧
      ((records es).filter (·.task = task)).map Record.entry =
        calls.flatMap (fun call => audits call.1.asked) ++
          current.toList.flatMap (fun call => audits call.asked) ∧
      (∀ call ∈ calls, call.1.Recorded call.2) ∧
      ∀ call ∈ current, ∀ rest result,
        Work.Stretch (Gateway.process v.intake.auth call.request call.client) (call.asked ++ rest)
          (Program.done result) →
        Call.Recorded { call with asked := call.asked ++ rest } result) ∧
    -- The records of a device are those of the holds of its lock, each alone with the device, and
    -- each request that made a change did so in one of them.
    ∀ ref, Introduced v es w ref → ∃ holds current, Held ref es holds current ∧
      recordsOf ref es = (holds ++ current.toList).flatMap Hold.records ∧
      (∀ hold ∈ holds, Alone ref es hold) ∧ (∀ hold ∈ current, AloneSince ref es hold) ∧
      ∀ task worker calls doing, Did v.intake worker (own task es) calls doing →
        ∀ call ∈ calls, ∀ c, call.1.Changed call.2 c → c.device.ref = ref →
          ⟨task, c.asked call.1.client⟩ ∈ holds := by
  refine ⟨h.trail, RunBy.trail, h.of_mem_records hv hop, ?_, ?_⟩
  · intro task worker hstarted
    obtain ⟨p, hcourse⟩ := hstarted.course hv.numbered
    obtain ⟨calls, current, hdid, -⟩ := hcourse.did
    refine ⟨calls, current, hdid, (entries_own task es).trans hdid.audits_eq, ?_, ?_⟩
    · exact fun call hcall => Call.recorded (hdid.of_mem call hcall).1
    · exact fun call _ rest result hdone => Call.recorded hdone
  · intro ref hintroduced
    have hfree : ∀ x ∈ es, x.task = operator → x.asked.op.concerns ref = false :=
      fun x hx hoperator => Action.concerns_of_isGuarded (hop x hx hoperator) ref
    obtain ⟨slot, holds, current, -, hguarded⟩ := hintroduced.guarded hv hfree
    have hheld := hguarded.held
    refine ⟨holds, current, hheld, hheld.records, hheld.alone.1, hheld.alone.2, ?_⟩
    exact fun task worker calls doing hdid call hcall c hc href =>
      mem_holds_of_changed hheld hdid hcall hc href

/-- A gateway with a simulated bath. -/
def poolside : World := start none {} none (.simulated { bath := {}, connected := true })

/-- Two clients ask for changes at once. -/
def twoChanges : World :=
  let w := (poolside.startRequest "\x7b\"command\":\"start\"\x7d" "a").2
  (w.startRequest "\x7b\"command\":\"stop\"\x7d" "b").2

/-- The log of two clients, of whom one starts the bath and the other one stops it. -/
theorem audit_trail_two_changes :
    (played 60 twoChanges).2.trail =
      [⟨"b", "default", "stop", some "true", "false"⟩,
        ⟨"a", "default", "start", some "false", "true"⟩] ∧
    (∃ calls current, Did {} (.request "\x7b\"command\":\"stop\"\x7d" "b")
        (own 2 (played 60 twoChanges).1) calls current ∧
      (∀ call ∈ calls, call.1.Recorded call.2) ∧
      calls.flatMap (fun call => audits call.1.asked) ++
        current.toList.flatMap (fun call => audits call.asked) =
          [⟨"b", "default", "stop", some "true", "false"⟩]) ∧
    ∃ holds current, Held 0 (played 60 twoChanges).1 holds current ∧
      (holds ++ current.toList).flatMap Hold.records =
        [(1, ⟨"a", "default", "start", some "false", "true"⟩),
          (2, ⟨"b", "default", "stop", some "true", "false"⟩)] := by
  have hone : Control poolside _ := .startRequest "\x7b\"command\":\"start\"\x7d" "a"
  have htwo : Control _ twoChanges := .startRequest "\x7b\"command\":\"stop\"\x7d" "b"
  have hbefore : Run poolside [] twoChanges :=
    (Run.start.step (.control hone)).step (.control htwo)
  have hkept : RunBy KeepsTrail poolside [] twoChanges :=
    (RunBy.start.step (.control hone) List.suffix_rfl).step (.control htwo) List.suffix_rfl
  have hplayed := played_run 60 twoChanges
  have hrun : Run poolside (played 60 twoChanges).1 (played 60 twoChanges).2 :=
    hbefore.trans hplayed
  have hquiet : ∀ x ∈ (played 60 twoChanges).1, x.task = operator →
      x.asked.op.isGuarded = false := by decide +kernel
  obtain ⟨-, htrail, -, hworkers, hdevices⟩ :=
    audit_trail (fresh_start none {} none _ _) hrun hquiet
  have hstarted : Started poolside (played 60 twoChanges).1 (played 60 twoChanges).2 2
      (.request "\x7b\"command\":\"stop\"\x7d" "b") :=
    ⟨[], _, twoChanges, rfl, hbefore, rfl, List.mem_cons_of_mem _ List.mem_cons_self, hplayed⟩
  obtain ⟨calls, current, hdid, hentries, hrecorded, -⟩ := hworkers _ _ hstarted
  obtain ⟨holds, hold, hheld, hrecords, -⟩ := hdevices 0 (introduced_of_start rfl hrun)
  have hsecond : ((records (played 60 twoChanges).1).filter (·.task = 2)).map Record.entry =
      [⟨"b", "default", "stop", some "true", "false"⟩] := by decide +kernel
  have hboth : recordsOf 0 (played 60 twoChanges).1 =
      [(1, ⟨"a", "default", "start", some "false", "true"⟩),
        (2, ⟨"b", "default", "stop", some "true", "false"⟩)] := by decide +kernel
  have hall : entries (played 60 twoChanges).1 ++ poolside.trail =
      [⟨"b", "default", "stop", some "true", "false"⟩,
        ⟨"a", "default", "start", some "false", "true"⟩] := by decide +kernel
  exact ⟨(htrail (hkept.trans (played_keepsTrail 60 twoChanges))).trans hall,
    ⟨calls, current, hdid, hrecorded, hentries.symm.trans hsecond⟩, holds, hold, hheld,
    hrecords.symm.trans hboth⟩

end World

end ChillerGateway
