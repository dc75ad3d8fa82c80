import ChillerGateway.Proofs.Gateway.Step
import Mathlib.Data.List.Nodup

/-!
# Runs of a gateway

* `World.Numbered` — the invariant that keeps workers apart.
* `World.Run.follows`, `World.Run.origin` — in a run, each worker takes a course of its own program,
  and each worker that was not there before began as one.
* `World.RunBy` — a run of which every step is one of some kind.
* `World.Run.cancelled`, `World.Run.heeds` — a generation that was cancelled stays so, and a worker
  that asks is told so.
* `World.played_run` — what the gateway does by itself is a run.
-/

namespace ChillerGateway

namespace World

variable {w w' : World}

/-! ## Numbers of workers -/

/-- Workers have numbers of their own, which are not the operator's. -/
structure Numbered (w : World) : Prop where
  distinct : (w.tasks.map Task.id).Nodup
  known : ∀ t ∈ w.tasks, operator < t.id ∧ t.id < w.nextTask
  next : operator < w.nextTask

theorem Numbered.eq_of_id (h : Numbered w) {t u : Task} (ht : t ∈ w.tasks) (hu : u ∈ w.tasks)
    (hid : t.id = u.id) : t = u := List.inj_on_of_nodup_map h.distinct ht hu hid

theorem numbered_start (auth : Option String) (settings : Settings) (metrics : Option Metrics)
    (device : Device) (remark : String → String) :
    Numbered (start auth settings metrics device remark) where
  distinct := List.nodup_nil
  known := fun t ht => by cases ht
  next := Nat.zero_lt_one

theorem Grows.next_le (h : Grows w w') : w.nextTask ≤ w'.nextTask := by
  obtain ⟨-, hnext⟩ | ⟨worker, -, -, hnext⟩ := h.tasks <;> omega

theorem Grows.mem {t : Task} (h : Grows w w') (ht : t ∈ w.tasks) : t ∈ w'.tasks := by
  obtain ⟨htasks, -⟩ | ⟨worker, -, htasks, -⟩ := h.tasks
  · rwa [htasks]
  · rw [htasks]
    exact List.mem_append_left _ ht

/-- A worker that was not there before is at its beginning. -/
theorem Grows.origin {t : Task} (h : Grows w w') (ht : t ∈ w'.tasks) :
    t ∈ w.tasks ∨
      ∃ worker : Worker, worker.isNew = true ∧
        t = ⟨w.nextTask, worker.role, Program.done (.again worker)⟩ := by
  obtain ⟨htasks, -⟩ | ⟨worker, hw, htasks, -⟩ := h.tasks
  · exact .inl (htasks ▸ ht)
  · rw [htasks] at ht
    refine (List.mem_append.mp ht).imp_right fun hnew => ⟨worker, hw, ?_⟩
    exact List.mem_singleton.mp hnew

theorem Numbered.grows (hn : Numbered w) (h : Grows w w') : Numbered w' := by
  obtain ⟨htasks, hnext⟩ | ⟨worker, -, htasks, hnext⟩ := h.tasks
  · exact ⟨htasks ▸ hn.distinct, fun t ht => hnext ▸ hn.known t (htasks ▸ ht), hnext ▸ hn.next⟩
  · have hbelow : ∀ t ∈ w.tasks, t.id ≠ w.nextTask := fun t ht => Nat.ne_of_lt (hn.known t ht).2
    refine ⟨?_, ?_, by rw [hnext]; exact Nat.lt_succ_of_lt hn.next⟩
    · rw [htasks, List.map_append, List.map_singleton]
      refine List.Nodup.append hn.distinct (List.nodup_singleton _) ?_
      intro id hid hnew
      obtain ⟨t, ht, rfl⟩ := List.mem_map.mp hid
      exact hbelow t ht (List.mem_singleton.mp hnew)
    · intro t ht
      rw [hnext]
      rcases h.origin ht with hold | ⟨worker, -, rfl⟩
      · exact ⟨(hn.known t hold).1, Nat.lt_succ_of_lt (hn.known t hold).2⟩
      · exact ⟨hn.next, Nat.lt_succ_self _⟩

/-- A worker that goes on keeps its number. -/
theorem map_id_went (tasks : List Task) (me : Nat) (p : Work RoundEnd) :
    (tasks.map fun u => if u.id = me then { u with program := p } else u).map Task.id =
      tasks.map Task.id := by
  rw [List.map_map]
  refine List.map_congr_left ?_
  intro u _
  simp only [Function.comp_apply]
  split <;> rfl

theorem Effect.numbered {e : Option Event} (h : Effect w e w') (hn : Numbered w) :
    Numbered w' := by
  cases h with
  | outside hg => exact hn.grows hg
  | @went t p grown ht _ _ hg htasks =>
    have hgrown := hn.grows hg
    refine ⟨?_, ?_, hgrown.next⟩
    · rw [htasks, map_id_went]
      exact hgrown.distinct
    · intro u hu
      have hid : u.id ∈ grown.map Task.id := by
        rw [← map_id_went grown t.id p, ← htasks]
        exact List.mem_map_of_mem hu
      obtain ⟨v, hv, hvu⟩ := List.mem_map.mp hid
      rw [← hvu]
      exact hgrown.known v hv
  | ended _ _ _ hg htasks =>
    have hgrown := hn.grows hg
    refine ⟨?_, ?_, hgrown.next⟩
    · rw [htasks]
      exact hn.distinct.sublist (List.Sublist.map _ List.filter_sublist)
    · intro u hu
      rw [htasks] at hu
      exact hgrown.known u (List.mem_of_mem_filter hu)

theorem Effect.next_le {e : Option Event} (h : Effect w e w') : w.nextTask ≤ w'.nextTask := by
  cases h with
  | outside hg => exact hg.next_le
  | went _ _ _ hg => exact hg.next_le
  | ended _ _ _ hg => exact hg.next_le

theorem Effect.intake {e : Option Event} (h : Effect w e w') : w'.intake = w.intake := by
  cases h with
  | outside hg => exact hg.intake
  | went _ _ _ hg => exact hg.intake
  | ended _ _ _ hg => exact hg.intake

theorem Effect.cancelled {e : Option Event} {g : Nat} (h : Effect w e w')
    (hc : w.schedules.isCancelled g = true) : w'.schedules.isCancelled g = true := by
  cases h with
  | outside hg => exact hg.cancelled g hc
  | went _ _ _ hg => exact hg.cancelled g hc
  | ended _ _ _ hg => exact hg.cancelled g hc

/-- Only workers that are there, and the operator, are told something. -/
theorem Effect.known {e : Option Event} (h : Effect w e w') :
    ∀ x ∈ e, x.task = operator ∨ ∃ t ∈ w.tasks, x.task = t.id := by
  intro x hx
  cases h with
  | outside _ hop => exact .inl (hop x hx)
  | @went t _ _ ht _ hmine => exact .inr ⟨t, ht, hmine x hx⟩
  | ended _ _ he =>
    rw [he] at hx
    cases hx

/-- Who is not there is told nothing. -/
theorem Effect.own_of_absent {e : Option Event} {task : Nat} (h : Effect w e w')
    (hop : operator < task) (habsent : ∀ u ∈ w.tasks, u.id ≠ task) : own task e.toList = [] := by
  refine own_eq_nil fun x hx => ?_
  rcases h.known x (Option.mem_toList.mp hx) with hx | ⟨u, hu, hx⟩
  · rw [hx]
    exact Nat.ne_of_lt hop
  · rw [hx]
    exact habsent u hu

/-! ## One worker in one step -/

/-- A worker goes on with its own program, if it goes on at all; it ends only where its program
does. -/
theorem Effect.follows {e : Option Event} {t : Task} (h : Effect w e w') (hn : Numbered w)
    (ht : t ∈ w.tasks) :
    (∃ p, { t with program := p } ∈ w'.tasks ∧ Course w.intake t.program (own t.id e.toList) p) ∨
    (∃ reply, t.program = Program.done (.ended reply) ∧ own t.id e.toList = [] ∧
      ∀ u ∈ w'.tasks, u.id ≠ t.id) := by
  cases h with
  | outside hg hop =>
    have hown : own t.id e.toList = [] := by
      refine own_eq_nil fun x hx => ?_
      rw [hop x (Option.mem_toList.mp hx)]
      exact Nat.ne_of_lt (hn.known t ht).1
    exact .inl ⟨t.program, hg.mem ht, hown ▸ .start⟩
  | @went u p grown hu hcourse hmine hg htasks =>
    have hmem : t ∈ grown := hg.mem ht
    rw [htasks]
    by_cases hid : t.id = u.id
    · cases hn.eq_of_id ht hu hid
      refine .inl ⟨p, ?_, hcourse⟩
      exact List.mem_map.mpr ⟨t, hmem, if_pos rfl⟩
    · have hown : own t.id e.toList = [] := by
        refine own_eq_nil fun x hx => ?_
        rw [hmine x (Option.mem_toList.mp hx)]
        exact Ne.symm hid
      refine .inl ⟨t.program, ?_, hown ▸ .start⟩
      exact List.mem_map.mpr ⟨t, hmem, if_neg hid⟩
  | @ended u reply hu hp he hg htasks =>
    rw [htasks, he]
    by_cases hid : t.id = u.id
    · cases hn.eq_of_id ht hu hid
      refine .inr ⟨reply, hp, rfl, ?_⟩
      intro v hv
      simpa using (List.mem_filter.mp hv).2
    · refine .inl ⟨t.program, ?_, .start⟩
      exact List.mem_filter.mpr ⟨ht, by simpa using hid⟩

/-- A worker after a step was there before, or is at its beginning. -/
theorem Effect.origin {e : Option Event} {t : Task} (h : Effect w e w') (hn : Numbered w)
    (ht : t ∈ w'.tasks) :
    (∃ u ∈ w.tasks, u.id = t.id ∧ u.role = t.role) ∨
      ∃ worker : Worker, worker.isNew = true ∧
        t = ⟨w.nextTask, worker.role, Program.done (.again worker)⟩ := by
  cases h with
  | outside hg => exact (hg.origin ht).imp_left fun hold => ⟨t, hold, rfl, rfl⟩
  | @went u p grown hu _ _ hg htasks =>
    rw [htasks] at ht
    obtain ⟨v, hv, rfl⟩ := List.mem_map.mp ht
    rcases hg.origin hv with hold | ⟨worker, hw, rfl⟩
    · refine .inl ⟨v, hold, ?_⟩
      split
      · exact ⟨rfl, rfl⟩
      · exact ⟨rfl, rfl⟩
    · rw [if_neg (Nat.ne_of_lt (hn.known u hu).2).symm]
      exact .inr ⟨worker, hw, rfl⟩
  | ended _ _ _ _ htasks =>
    rw [htasks] at ht
    exact .inl ⟨t, List.mem_of_mem_filter ht, rfl, rfl⟩

/-- Who is gone is told nothing, and never comes back: its number is below the next one. -/
theorem Effect.absent {e : Option Event} {task : Nat} (h : Effect w e w') (hn : Numbered w)
    (hop : operator < task) (hid : task < w.nextTask) (hgone : ∀ u ∈ w.tasks, u.id ≠ task) :
    own task e.toList = [] ∧ ∀ u ∈ w'.tasks, u.id ≠ task := by
  refine ⟨h.own_of_absent hop hgone, fun u hu => ?_⟩
  rcases h.origin hn hu with ⟨x, hx, hxu, -⟩ | ⟨worker, -, rfl⟩
  · rw [← hxu]
    exact hgone x hx
  · exact (Nat.ne_of_lt hid).symm

/-! ## Runs -/

namespace Run

variable {es : List Event} {t : Task}

theorem numbered (h : Run w es w') (hn : Numbered w) : Numbered w' := by
  induction h with
  | start => exact hn
  | step _ hs ih => exact hs.effect.numbered ih

theorem intake (h : Run w es w') : w'.intake = w.intake := by
  induction h with
  | start => rfl
  | step _ hs ih => exact hs.effect.intake.trans ih

theorem next_le (h : Run w es w') : w.nextTask ≤ w'.nextTask := by
  induction h with
  | start => exact Nat.le_refl _
  | step _ hs ih => exact Nat.le_trans ih hs.effect.next_le

/-- Nobody is told something before it is there. -/
theorem known (h : Run w es w') (hn : Numbered w) : ∀ x ∈ es, x.task < w'.nextTask := by
  induction h with
  | start =>
    intro x hx
    cases hx
  | @step es e v v' hr hs ih =>
    intro x hx
    refine Nat.lt_of_lt_of_le ?_ hs.effect.next_le
    rcases List.mem_append.mp hx with hold | hnew
    · exact ih x hold
    · rcases hs.effect.known x (Option.mem_toList.mp hnew) with hop | ⟨u, hu, hxu⟩
      · rw [hop]
        exact (hr.numbered hn).next
      · rw [hxu]
        exact ((hr.numbered hn).known u hu).2

/-- **In a run each worker takes a course of its own program.** -/
theorem follows (h : Run w es w') (hn : Numbered w) (ht : t ∈ w.tasks) :
    (∃ p, { t with program := p } ∈ w'.tasks ∧ Course w.intake t.program (own t.id es) p) ∨
    (∃ reply, Course w.intake t.program (own t.id es) (Program.done (.ended reply)) ∧
      ∀ u ∈ w'.tasks, u.id ≠ t.id) := by
  induction h with
  | start => exact .inl ⟨t.program, ht, .start⟩
  | @step es e v v' hr hs ih =>
    have hv := hr.numbered hn
    rw [own_append]
    rcases ih with ⟨p, hp, hcourse⟩ | ⟨reply, hcourse, hgone⟩
    · rcases hs.effect.follows hv hp with ⟨q, hq, hmore⟩ | ⟨reply, hend, hown, hgone⟩
      · rw [hr.intake] at hmore
        exact .inl ⟨q, hq, hcourse.trans hmore⟩
      · refine .inr ⟨reply, ?_, hgone⟩
        rw [hown, List.append_nil]
        exact hend ▸ hcourse
    · have hid : t.id < v.nextTask := Nat.lt_of_lt_of_le (hn.known t ht).2 hr.next_le
      obtain ⟨hown, hgone'⟩ := hs.effect.absent hv (hn.known t ht).1 hid hgone
      exact .inr ⟨reply, by rwa [hown, List.append_nil], hgone'⟩

/-- Whatever happens, a worker that is gone stays so. -/
theorem absent {task : Nat} (h : Run w es w') (hn : Numbered w) (hop : operator < task)
    (hid : task < w.nextTask) (hgone : ∀ u ∈ w.tasks, u.id ≠ task) :
    own task es = [] ∧ ∀ u ∈ w'.tasks, u.id ≠ task := by
  induction h with
  | start => exact ⟨rfl, hgone⟩
  | step hr hs ih =>
    obtain ⟨hown, hgone'⟩ :=
      hs.effect.absent (hr.numbered hn) hop (Nat.lt_of_lt_of_le hid hr.next_le) ih.2
    rw [own_append, ih.1, hown]
    exact ⟨rfl, hgone'⟩

/-- What a worker is at in the end is where its course has led it, and it is gone only when that is
an end. -/
theorem course (h : Run w es w') (hn : Numbered w) (ht : t ∈ w.tasks) :
    ∃ p, Course w.intake t.program (own t.id es) p ∧
      (∀ u ∈ w'.tasks, u.id = t.id → u.program = p) ∧
      ((∀ u ∈ w'.tasks, u.id ≠ t.id) → ∃ reply, p = Program.done (.ended reply)) := by
  rcases h.follows hn ht with ⟨p, hp, hcourse⟩ | ⟨reply, hcourse, hgone⟩
  · refine ⟨p, hcourse, fun u hu hid => ?_, fun hgone => ?_⟩
    · rw [(h.numbered hn).eq_of_id hu hp hid]
    · exact absurd rfl (hgone { t with program := p } hp)
  · exact ⟨_, hcourse, fun u hu hid => absurd hid (hgone u hu), fun _ => ⟨reply, rfl⟩⟩

/-- A worker that a run ends with was there before, or has taken a course from its beginning. -/
theorem origin (h : Run w es w') (hn : Numbered w) (ht : t ∈ w'.tasks) :
    (∃ u ∈ w.tasks, u.id = t.id ∧ u.role = t.role) ∨
      ∃ worker : Worker, worker.isNew = true ∧ worker.role = t.role ∧
        Course w.intake (Program.done (.again worker)) (own t.id es) t.program := by
  induction h generalizing t with
  | start => exact .inl ⟨t, ht, rfl, rfl⟩
  | @step es e v v' hr hs ih =>
    have hv := hr.numbered hn
    rcases hs.effect.origin hv ht with ⟨u, hu, hid, hrole⟩ | ⟨worker, hnew, rfl⟩
    · rcases ih hu with ⟨x, hx, hxid, hxrole⟩ | ⟨worker, hnew, hworker, hcourse⟩
      · exact .inl ⟨x, hx, hxid.trans hid, hxrole.trans hrole⟩
      · rcases hs.effect.follows hv hu with ⟨p, hp, hmore⟩ | ⟨-, -, -, hgone⟩
        · have hsame := (hs.effect.numbered hv).eq_of_id hp ht hid
          rw [hr.intake] at hmore
          rw [own_append, ← hid]
          exact .inr ⟨worker, hnew, hworker.trans hrole, hsame ▸ hcourse.trans hmore⟩
        · exact absurd hid.symm (hgone t ht)
    · have hbefore : own v.nextTask es = [] :=
        own_eq_nil fun x hx => Nat.ne_of_lt (hr.known hn x hx)
      have hown : own v.nextTask e.toList = [] :=
        hs.effect.own_of_absent hv.next fun u hu => Nat.ne_of_lt (hv.known u hu).2
      refine .inr ⟨worker, hnew, rfl, ?_⟩
      rw [own_append, hbefore, hown]
      exact .start

end Run

/-- A run of which every step is one of some kind. -/
inductive RunBy (C : World → Option Event → World → Prop) (w : World) :
    List Event → World → Prop where
  | start : RunBy C w [] w
  | step {es e v v'} : RunBy C w es v → Step v e v' → C v e v' → RunBy C w (es ++ e.toList) v'

theorem RunBy.run {C : World → Option Event → World → Prop} {es : List Event}
    (h : RunBy C w es w') : Run w es w' := by
  induction h with
  | start => exact .start
  | step _ hs _ ih => exact ih.step hs

theorem RunBy.trans {C : World → Option Event → World → Prop} {u : World} {es fs : List Event}
    (h : RunBy C u es w) (h' : RunBy C w fs w') : RunBy C u (es ++ fs) w' := by
  induction h' with
  | start => rwa [List.append_nil]
  | step _ hs hc ih =>
    rw [← List.append_assoc]
    exact ih.step hs hc

theorem RunBy.single {C : World → Option Event → World → Prop} {e : Option Event}
    (h : Step w e w') (hc : C w e w') : RunBy C w e.toList w' := by
  have := RunBy.start.step h hc
  rwa [List.nil_append] at this

/-- A run can be cut at whatever is told in it. -/
theorem RunBy.cut {C : World → Option Event → World → Prop} {es before after : List Event}
    {x : Event} (h : RunBy C w es w') (hes : es = before ++ x :: after) :
    ∃ u u', RunBy C w before u ∧ Step u (some x) u' ∧ RunBy C u' after w' := by
  induction h generalizing after with
  | start =>
    exact absurd hes (List.append_ne_nil_of_right_ne_nil before (List.cons_ne_nil _ _)).symm
  | @step es e v v' hr hs hc ih =>
    cases e with
    | none =>
      rw [Option.toList_none, List.append_nil] at hes
      obtain ⟨u, u', hbefore, hx, hafter⟩ := ih hes
      have hmore := hafter.step hs hc
      rw [Option.toList_none, List.append_nil] at hmore
      exact ⟨u, u', hbefore, hx, hmore⟩
    | some y =>
      rw [Option.toList_some] at hes
      rcases List.eq_nil_or_concat after with rfl | ⟨earlier, z, rfl⟩
      · obtain ⟨rfl, hlast⟩ := List.append_inj' hes rfl
        cases hlast
        exact ⟨v, v', hr, hs, .start⟩
      · rw [List.concat_eq_append, ← List.cons_append, ← List.append_assoc] at hes
        obtain ⟨hfirst, hlast⟩ := List.append_inj' hes rfl
        cases hlast
        obtain ⟨u, u', hbefore, hx, hafter⟩ := ih hfirst
        exact ⟨u, u', hbefore, hx, List.concat_eq_append ▸ hafter.step hs hc⟩

/-- What holds of all that is told in a run holds of each of its steps. -/
theorem RunBy.of_mem {C : World → Option Event → World → Prop} {Q : Event → Prop}
    {es : List Event} (h : RunBy C w es w') (hQ : ∀ x ∈ es, Q x) :
    RunBy (fun u e u' => C u e u' ∧ ∀ x ∈ e, Q x) w es w' := by
  induction h with
  | start => exact .start
  | step _ hs hc ih =>
    rw [List.forall_mem_append] at hQ
    exact (ih hQ.1).step hs ⟨hc, fun x hx => hQ.2 x (Option.mem_toList.mpr hx)⟩

/-- What holds of all that a step of some kind tells holds of all that is told in a run. -/
theorem RunBy.forall_mem {C : World → Option Event → World → Prop} {Q : Event → Prop}
    {es : List Event} (h : RunBy C w es w') (hC : ∀ u e u', C u e u' → ∀ x ∈ e, Q x) :
    ∀ x ∈ es, Q x := by
  induction h with
  | start => exact fun x hx => by cases hx
  | step _ _ hc ih =>
    rw [List.forall_mem_append]
    exact ⟨ih, fun x hx => hC _ _ _ hc x (Option.mem_toList.mp hx)⟩

theorem RunBy.mono {C C' : World → Option Event → World → Prop} {es : List Event}
    (h : RunBy C w es w') (hC : ∀ u e u', C u e u' → C' u e u') : RunBy C' w es w' := by
  induction h with
  | start => exact .start
  | step _ hs hc ih => exact ih.step hs (hC _ _ _ hc)

/-- What holds of every step holds of the steps of a run. -/
theorem Run.runBy_of {C : World → Option Event → World → Prop} {es : List Event}
    (h : Run w es w') (hC : ∀ u e u', Step u e u' → C u e u') : RunBy C w es w' := by
  induction h with
  | start => exact .start
  | step _ hs ih => exact ih.step hs (hC _ _ _ hs)

theorem Run.runBy {es : List Event} (h : Run w es w') : RunBy (fun _ _ _ => True) w es w' :=
  h.runBy_of fun _ _ _ _ => trivial

/-! ## Cancelled schedules -/

namespace Run

variable {es : List Event} {g : Nat}

theorem cancelled (h : Run w es w') (hc : w.schedules.isCancelled g = true) :
    w'.schedules.isCancelled g = true := by
  induction h with
  | start => exact hc
  | step _ hs ih => exact hs.effect.cancelled ih

end Run

end World

/-- Whether an answer tells that a generation is cancelled, if it was asked for. -/
def Answered.Heeds (g : Nat) : Answered → Prop
  | ⟨.isCancelled token, a⟩ => token = .schedule g → a = true
  | _ => True

namespace World

variable {w w' : World} {g : Nat}

theorem heeds_of_mem_told {me : Nat} {op : Action} {x : Event}
    (hc : w.schedules.isCancelled g = true) (h : x ∈ w.told me op) : x.asked.Heeds g := by
  obtain ⟨a, ha, rfl⟩ := Option.map_eq_some_iff.mp h
  cases op with
  | isCancelled token =>
    intro htoken
    cases htoken
    cases ha
    exact hc
  | _ => trivial

theorem Step.heeds {e : Option Event} (h : Step w e w')
    (hc : w.schedules.isCancelled g = true) : ∀ x ∈ e, x.asked.Heeds g := by
  intro x hx
  cases h with
  | @turn t _ _ =>
    unfold tells at hx
    split at hx
    · exact heeds_of_mem_told hc hx
    · cases hx
  | operate op => exact heeds_of_mem_told hc hx
  | skip | advance | control => cases hx

/-- Once a generation is cancelled, every worker that asks is told so. -/
theorem Run.heeds {es : List Event} (h : Run w es w') (hc : w.schedules.isCancelled g = true) :
    ∀ x ∈ es, x.asked.Heeds g := by
  induction h with
  | start =>
    intro x hx
    cases hx
  | step hr hs ih =>
    intro x hx
    rcases List.mem_append.mp hx with hold | hnew
    · exact ih x hold
    · exact hs.heeds (hr.cancelled hc) x (Option.mem_toList.mp hnew)

theorem Run.own_heeds {es : List Event} (h : Run w es w')
    (hc : w.schedules.isCancelled g = true) (task : Nat) : ∀ x ∈ own task es, x.Heeds g := by
  intro x hx
  obtain ⟨e, he, rfl⟩ := mem_of_mem_own hx
  exact h.heeds hc e he

/-! ## What the gateway does by itself -/

/-- The turn of the worker that is first in line. -/
theorem Step.first {me : Nat} {rest : List Nat} {t : Task} (hready : w.ready = me :: rest)
    (hfind : w.tasks.find? (·.id = me) = some t) : Step w (w.tells t) (w.turn t) := by
  obtain rfl : t.id = me := by simpa using List.find?_some hfind
  refine .turn (List.mem_of_find?_eq_some hfind) ?_
  rw [hready]
  exact List.mem_cons_self

/-- Turns of the workers in their order, and the clock when all of them wait, with what is told. -/
def played : (n : Nat) → World → List Event × World
  | 0, w => ([], w)
  | n + 1, w =>
    match w.ready with
    | me :: rest =>
      match w.tasks.find? (·.id = me) with
      | some t => ((w.tells t).toList ++ (played n (w.turn t)).1, (played n (w.turn t)).2)
      | none => played n { w with ready := rest }
    | [] =>
      match w.nextDeadline? with
      | some time => played n (w.advance time)
      | none => ([], w)

/-- A gateway that is left alone takes only steps of a kind, if turns and the clock are of that kind
and keep what they need for it. -/
theorem played_runBy_of {P : World → Prop} {C : World → Option Event → World → Prop}
    (hturn : ∀ u t, P u → C u (u.tells t) (u.turn t) ∧ P (u.turn t))
    (hskip : ∀ (u : World) ready, P u → C u none { u with ready } ∧ P { u with ready })
    (hadvance : ∀ u time, P u → C u none (u.advance time) ∧ P (u.advance time)) (n : Nat)
    (hw : P w) : RunBy C w (played n w).1 (played n w).2 := by
  induction n generalizing w with
  | zero => exact .start
  | succ n ih =>
    unfold played
    split
    · rename_i me rest hready
      split
      · rename_i t hfind
        obtain ⟨hc, hp⟩ := hturn w t hw
        exact (RunBy.single (.first hready hfind) hc).trans (ih hp)
      · obtain ⟨hc, hp⟩ := hskip w rest hw
        exact (RunBy.single (.skip hready) hc).trans (ih hp)
    · split
      · obtain ⟨hc, hp⟩ := hadvance w _ hw
        exact (RunBy.single (.advance _) hc).trans (ih hp)
      · exact .start

/-- What turns and the clock keep holds all the time. -/
theorem played_runBy {P : World → Prop} (hturn : ∀ u t, P u → P (u.turn t))
    (hskip : ∀ (u : World) ready, P u → P { u with ready })
    (hadvance : ∀ u time, P u → P (u.advance time)) (n : Nat) (hw : P w) :
    RunBy (fun u _ _ => P u) w (played n w).1 (played n w).2 :=
  played_runBy_of (fun u t hu => ⟨hu, hturn u t hu⟩) (fun u ready hu => ⟨hu, hskip u ready hu⟩)
    (fun u time hu => ⟨hu, hadvance u time hu⟩) n hw

theorem played_run (n : Nat) (w : World) : Run w (played n w).1 (played n w).2 :=
  (played_runBy (P := fun _ => True) (fun _ _ _ => trivial) (fun _ _ _ => trivial)
    (fun _ _ _ => trivial) n trivial).run

end World

end ChillerGateway
