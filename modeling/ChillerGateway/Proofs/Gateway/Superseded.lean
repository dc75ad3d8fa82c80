import ChillerGateway.Proofs.Gateway.TickerCalls
import ChillerGateway.Proofs.Gateway.Turns

/-!
# Schedules that were stopped or replaced

Stopping a schedule, or loading another one in its place, cancels its generation at once.  Its
ticker ends when it next asks; but it does not ask between its tick and the call of the device that
the tick leads to, so a ticker that waits there for the device's lock still makes that call.

* `World.Step.supersedes` — the generation that was superseded is cancelled.
* `World.superseded_calls` — its ticker makes no further call unless it is on its way to one, never
  more than one, and that one exactly if it does not find the device offline.
-/

namespace ChillerGateway

namespace World

variable {w w' : World} {g : Nat} {e : Event}

/-- A question that was answered ends the schedule of a generation: it is stopped, or another one
takes its place. -/
def Supersedes (w : World) (g : Nat) : Answered → Prop
  | ⟨.stopSchedule id, stopped⟩ =>
    stopped = true ∧ (w.schedules.get? id).map (·.generation) = some g
  | ⟨.loadSchedule device _, _⟩ =>
    (w.schedules.get? device.id).map (·.generation) = some g
  | _ => False

/-- A generation that is superseded is cancelled at once. -/
theorem Step.supersedes (h : Step w (some e) w') (hg : Supersedes w g e.asked) :
    w'.schedules.isCancelled g = true := by
  rw [h.told.1.schedules]
  obtain ⟨task, op, a⟩ := e
  cases op with
  | stopSchedule id => exact Schedules.isCancelled_release_of_generation hg.2
  | loadSchedule device schedule => exact Schedules.isCancelled_release_of_generation hg
  | _ => cases hg

open Ticker in
/-- **The ticker of a schedule that was stopped or replaced makes at most one more call of the
device: none if it is calm at that moment, and one exactly if one is due and the device is not found
offline.** -/
theorem superseded_calls {auth : Option String} {settings : Settings} {metrics : Option Metrics}
    {device : Device} {remark : String → String} {before after : List Event} {w w₁ w₂ : World}
    {t : Task}
    (h : Run (start auth settings metrics device remark) before w) (hs : Step w (some e) w₁)
    (hg : Supersedes w g e.asked) (hafter : Run w₁ after w₂) (ht : t ∈ w₁.tasks)
    (hrole : t.role = .ticker g) :
    let history := own t.id (before ++ [e])
    let rest := own t.id after
    calls (history ++ rest) ≤ calls history + 1 ∧
    (Calm g (justOnline history) t.program → calls (history ++ rest) = calls history) ∧
    ((∀ u ∈ w₂.tasks, u.id ≠ t.id) →
      (calls (history ++ rest) = calls history + 1 ↔
        Due g (justOnline history) rest t.program ∧ ∀ x ∈ rest, x.foundOffline = false)) := by
  have hn := numbered_start auth settings metrics device remark
  have hrun : Run _ (before ++ [e]) w₁ := h.step hs
  have hheeds : ∀ x ∈ own t.id after, x.Heeds g := by
    intro x hx
    obtain ⟨y, hy, rfl⟩ := List.mem_map.mp hx
    exact hafter.heeds (hs.supersedes hg) y (List.mem_of_mem_filter hy)
  have hstands : Stands g (justOnline (own t.id (before ++ [e]))) t.program := by
    rcases hrun.origin hn ht with ⟨u, hu, -⟩ | ⟨worker, -, hworker, hc⟩
    · cases hu
    · cases worker with
      | ticker ticker => exact stands (Role.ticker.inj (hworker.trans hrole)) hc
      | watchdog | connection | request => cases hworker.trans hrole
  have hgoes : ∃ p, Course w₁.intake t.program (own t.id after) p ∧
      ((∀ u ∈ w₂.tasks, u.id ≠ t.id) → ∃ reply, p = Program.done (.ended reply)) := by
    rcases hafter.follows (hrun.numbered hn) ht with ⟨p, hp, hc⟩ | ⟨reply, hc, -⟩
    · exact ⟨p, hc, fun hgone => absurd rfl (hgone { t with program := p } hp)⟩
    · exact ⟨_, hc, fun _ => ⟨reply, rfl⟩⟩
  obtain ⟨p, hc, hend⟩ := hgoes
  refine ⟨?_, ?_, ?_⟩
  · rcases hstands.course hc hheeds with ⟨hcalls, -⟩ | ⟨hcalls, -⟩
    · rw [hcalls]
      exact Nat.le_succ _
    · exact Nat.le_of_eq hcalls
  · intro hcalm
    exact (hcalm.course hc hheeds).1
  · intro hgone
    obtain ⟨reply, rfl⟩ := hend hgone
    exact hstands.finished hc hheeds

/-! ## Two runs -/

/-- Turns of one worker as long as it has any, with what it is told. -/
def turns (me : Nat) : (n : Nat) → World → List Event × World
  | 0, w => ([], w)
  | n + 1, w =>
    match w.tasks.find? (·.id = me) with
    | none => ([], w)
    | some t =>
      if t.id ∈ w.ready then
        let (es, v) := turns me n (w.turn t)
        ((w.tells t).toList ++ es, v)
      else ([], w)

theorem turns_run (me n : Nat) (w : World) : Run w (turns me n w).1 (turns me n w).2 := by
  induction n generalizing w with
  | zero => exact .start
  | succ n ih =>
    unfold turns
    cases hfind : w.tasks.find? (·.id = me) with
    | none => exact .start
    | some t =>
      simp only
      split
      · rename_i hready
        exact (Run.single (.turn (List.mem_of_find?_eq_some hfind) hready)).trans (ih _)
      · exact .start

/-- The operator stops a schedule that runs. -/
theorem Step.stop {id : String} (h : (w.schedules.get? id).isSome = true) :
    Step w (some ⟨operator, .stopSchedule id, true⟩) (w.act operator (.stopSchedule id)).world := by
  have htold : w.told operator (.stopSchedule id) =
      some ⟨operator, .stopSchedule id, (w.schedules.get? id).isSome⟩ := rfl
  rw [← h, ← htold]
  exact .operate _

/-- A gateway whose only device is a simulated bath. -/
def bathside : World := start none {} none (.simulated { bath := {}, connected := true })

/-- A schedule for the bath. -/
def hold : Action :=
  .loadSchedule ⟨0, defaultId, .simulated⟩ ⟨#[⟨0, 30⟩, ⟨10, 30⟩], Nat.zero_lt_succ 1⟩

/-- The schedule is loaded. -/
def loaded (w : World) : World := (w.act operator hold).world

/-- The schedule is stopped. -/
def stopped (w : World) : World := (w.act operator (.stopSchedule defaultId)).world

/-- The ticker waits for the lock of the bath, which the operator has. -/
def inLine : World := (turns 1 6 (loaded (bathside.act operator (.lock 0)).world)).2

/-- The operator releases the lock, and the ticker goes on. -/
def released : World := ((stopped inLine).act operator (.unlock 0)).world

/-- A schedule that is stopped before its first tick: its ticker ends, without a call. -/
theorem superseded_calls_before_tick :
    let es := (turns 1 9 (stopped (loaded bathside))).1
    calls (own 1 es) = 0 ∧ (∀ u ∈ (turns 1 9 (stopped (loaded bathside))).2.tasks, u.id ≠ 1) := by
  have hload : Run bathside (bathside.told operator hold).toList (loaded bathside) :=
    .single (.operate hold)
  have hstop : Step (loaded bathside) (some ⟨operator, .stopSchedule defaultId, true⟩)
      (stopped (loaded bathside)) := .stop (by decide +kernel)
  have h := superseded_calls (g := 1) (t := ⟨1, .ticker 1, _⟩) hload hstop
    ⟨rfl, by decide +kernel⟩ (turns_run 1 9 _) (List.mem_singleton_self _) rfl
  refine ⟨?_, by decide +kernel⟩
  exact h.2.1 ⟨_, rfl, rfl⟩

/-- A ticker that waits for the device's lock when its schedule is stopped gets the lock later, and
writes its target all the same. -/
theorem superseded_calls_in_line :
    ∃ (before after : List Event) (e : Event) (w w₁ w₂ : World) (t : Task),
      Run bathside before w ∧ Step w (some e) w₁ ∧ Supersedes w 1 e.asked ∧ Run w₁ after w₂ ∧
      t ∈ w₁.tasks ∧ t.role = .ticker 1 ∧
      calls (own t.id (before ++ [e]) ++ own t.id after) =
        calls (own t.id (before ++ [e])) + 1 := by
  have hlock := Run.start.step (.operate (w := bathside) (.lock 0))
  have hwait := (hlock.step (.operate hold)).trans (turns_run 1 6 _)
  have hstop : Step inLine (some ⟨operator, .stopSchedule defaultId, true⟩) (stopped inLine) :=
    .stop (by decide +kernel)
  have hafter := (Run.single (.operate (w := stopped inLine) (.unlock 0))).trans
    (turns_run 1 9 released)
  have hticker : ∃ t ∈ (stopped inLine).tasks, t.role = .ticker 1 ∧ t.id = 1 := by decide +kernel
  obtain ⟨t, ht, hrole, hid⟩ := hticker
  refine ⟨_, _, _, _, _, _, t, hwait, hstop, ⟨rfl, by decide +kernel⟩, hafter, ht, hrole, ?_⟩
  rw [hid]
  decide +kernel

end World

end ChillerGateway
