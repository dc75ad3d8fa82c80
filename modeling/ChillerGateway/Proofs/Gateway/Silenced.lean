import ChillerGateway.Proofs.Gateway.Operated
import ChillerGateway.Proofs.Gateway.ScheduleTable
import ChillerGateway.Proofs.Gateway.Waiting

/-!
# Shutting the schedules down

A shutdown cancels every schedule, those of later loads too, and returns after a moment without
tickers.  A ticker may be on its way to a call when the shutdown begins, and makes it; one that is
started after that moment finds out that it is cancelled before it does anything else.  So from that
moment on no schedule makes a call, whoever loads one and whatever else happens.

The shutdown need not return at that moment: others may load schedules before it comes to know that
the last ticker has ended.  These leave the table like those that are loaded later.

* `Ticker.Leaving` — where a ticker can be that was cancelled before it was started.
* `World.Run.awaited` — who waits for the tickers to end is answered after a moment without tickers.
* `World.Emptied` — all schedules are cancelled, at a moment without tickers.
* `World.Silenced`, `World.Silences` — what holds from that moment on.
* `World.schedules_silenced` — every shutdown that returns silences the schedules.
-/

namespace ChillerGateway

namespace Ticker

variable {id : String} {g : Nat}

/-- A ticker that was cancelled before it was started, with the turns until its entry is gone and
with what it was answered: it asks once, is told, and clears its entry. -/
inductive Leaving (id : String) (g : Nat) : Nat → List Answered → Work RoundEnd → Prop where
  | starts {t : Ticker} (hid : t.device.id = id) (hg : t.generation = g) :
      Leaving id g 3 [] (Program.done (.again (.ticker t)))
  | asks {next : Bool → Work RoundEnd}
      (h : Leaving id g 1 [⟨.isCancelled (.schedule g), true⟩] (next true)) :
      Leaving id g 2 [] (Program.ask (.isCancelled (.schedule g)) next)
  | retires {next : Unit → Work RoundEnd}
      (h : ∀ a, ∃ reply, next a = Program.done (.ended reply)) :
      Leaving id g 1 [⟨.isCancelled (.schedule g), true⟩] (Program.ask (.retire id g) next)
  | gone {reply : Option Reply} :
      Leaving id g 0 [⟨.isCancelled (.schedule g), true⟩, ⟨.retire id g, ()⟩]
        (Program.done (.ended reply))

theorem leaving_round (intake : Intake) (t : Ticker) :
    Leaving t.device.id t.generation 2 [] ((Worker.ticker t).round intake) := by
  rw [round_eq]
  exact .asks (.retires fun _ => ⟨none, rfl⟩)

/-- Whoever is told that it is cancelled takes this way to its end. -/
theorem leaving_course {intake : Intake} {t : Ticker} {es : List Answered}
    {q : Work RoundEnd} (hc : Course intake (Program.done (.again (.ticker t))) es q)
    (hheeds : ∀ x ∈ es, x.Heeds t.generation) :
    ∃ n, Leaving t.device.id t.generation n es q := by
  induction hc with
  | start => exact ⟨3, .starts rfl rfl⟩
  | answered a _ hr ih =>
    rw [List.forall_mem_append] at hheeds
    obtain ⟨n, hn⟩ := ih hheeds.1
    cases hn with
    | asks h =>
      obtain rfl : a = true := hheeds.2 _ (List.mem_singleton_self _) rfl
      rw [hr.eq rfl]
      exact ⟨1, h⟩
    | retires h =>
      obtain ⟨reply, hreply⟩ := h a
      rw [hr.eq rfl, hreply]
      exact ⟨0, .gone⟩
  | again _ ih =>
    obtain ⟨n, hn⟩ := ih hheeds
    cases hn with
    | @starts worker hid hg =>
      rw [← hid, ← hg]
      exact ⟨2, leaving_round intake worker⟩

/-- Before its end it has been told no more than that it is cancelled. -/
theorem Leaving.told {n : Nat} {es : List Answered} {p : Work RoundEnd}
    (h : Leaving id g (n + 1) es p) : es = [] ∨ es = [⟨.isCancelled (.schedule g), true⟩] := by
  cases h with
  | starts | asks => exact .inl rfl
  | retires => exact .inr rfl

/-- A ticker that leaves does not have to wait for an answer. -/
theorem Leaving.answered {n : Nat} {es : List Answered} {op : Action}
    {next : op.Answer → Work RoundEnd} (h : Leaving id g n es (Program.ask op next)) (w : World)
    (me : Nat) : ∃ a v, w.act me op = .answered a v := by
  generalize hp : (Program.ask op next : Work RoundEnd) = p at h
  cases h with
  | asks | retires =>
    cases hp
    exact ⟨_, _, rfl⟩
  | starts | gone => cases hp

end Ticker

namespace World

variable {w w' : World}

/-! ## Moments without tickers -/

theorem act_lulls (w : World) (me : Nat) (op : Action) : (w.act me op).world.lulls = w.lulls := by
  cases op with
  | pauseUntil | awaitTickers | awaitReply | exchange | lock | unlock | countRequest =>
    simp only [World.act, World.exchange, World.lockFor, World.unlock, World.countRequest]
    repeat' split
    all_goals rfl
  | read index deadline =>
    simp only [World.act]
    split
    · rename_i heq
      obtain ⟨clients, rfl⟩ := incoming_eq heq
      rfl
    · rfl
  | _ => rfl

theorem control_lulls (h : Control w w') : w'.lulls = w.lulls := by
  cases h with
  | enter h =>
    unfold enter? at h
    split at h
    · cases h
    · cases h
      rfl
  | openConnection h =>
    unfold openConnection? at h
    obtain ⟨v, hv, heq⟩ := Option.map_eq_some_iff.mp h
    unfold enter? at hv
    split at hv
    · cases hv
    · cases hv
      cases heq
      rfl
  | takeHeard ref =>
    unfold World.takeHeard
    split
    · rfl
    · rfl
  | _ => rfl

theorem tickerEnded_lulls (w : World) :
    w.tickerEnded.lulls = w.lulls ∨ w.tickerEnded.tickers = 0 := by
  by_cases hempty : w.tickers = 0
  · exact .inr hempty
  · refine .inl ?_
    show w.lulls + (w.tickers == 0).toNat = w.lulls
    rw [beq_false_of_ne hempty]
    rfl

theorem finish_lulls (t : Task) (reply : Option Reply) :
    (w.finish t reply).lulls = w.lulls ∨ (w.finish t reply).tickers = 0 := by
  unfold World.finish
  cases t.role with
  | ticker => exact tickerEnded_lulls _
  | watchdog | connection | request => exact .inl rfl

/-- The end of the last ticker is counted when no ticker is left. -/
theorem Step.lulls {e : Option Event} (h : Step w e w') :
    w'.lulls = w.lulls ∨ w'.tickers = 0 := by
  cases h with
  | @turn t _ _ =>
    unfold World.turn
    cases hp : t.program with
    | done r =>
      cases r with
      | again worker => exact .inl rfl
      | ended reply => exact finish_lulls t reply
    | ask op next =>
      have hkept := act_lulls w t.id op
      simp only
      cases hact : w.act t.id op with
      | answered | later | wait =>
        rw [hact] at hkept
        exact .inl hkept
  | skip | advance => exact .inl rfl
  | operate op => exact .inl (act_lulls w operator op)
  | control h => exact .inl (control_lulls h)

/-- A gateway all of whose schedules are cancelled, at a moment without tickers. -/
structure Emptied (w : World) : Prop where
  driven : Driven w
  cancelled : ∀ g, w.schedules.isCancelled g = true
  known : ∀ x ∈ w.waiting, x.task < w.nextTask
  empty : w.tickers = 0

namespace Emptied

variable {g : Nat}

theorem role_ne (h : Emptied w) {t : Task} (ht : t ∈ w.tasks) : t.role ≠ .ticker g := by
  intro hrole
  refine List.countP_eq_zero.mp h.empty t ht ?_
  unfold isTicker
  rw [hrole]

section

variable {es : List Event} {t : Task} (h : Emptied w) (hr : Run w es w')

include h hr

/-- A ticker that is started later goes straight to its end. -/
theorem leaving (ht : t ∈ w'.tasks) (hrole : t.role = .ticker g) :
    ∃ id n, Ticker.Leaving id g n (own t.id es) t.program := by
  rcases hr.origin h.driven.numbered ht with ⟨u, hu, -, hsame⟩ | ⟨worker, -, hworker, hc⟩
  · exact absurd (hsame.trans hrole) (h.role_ne hu)
  · cases worker with
    | ticker ticker =>
      obtain rfl := Role.ticker.inj (hworker.trans hrole)
      exact ⟨_, Ticker.leaving_course hc (hr.own_heeds (h.cancelled _) t.id)⟩
    | watchdog | connection | request => cases hworker.trans hrole

/-- What it is told is that it is cancelled, or it clears its entry. -/
theorem told {x : Event} {v : World} (hs : Step w' (some x) v) (ht : t ∈ w'.tasks)
    (hid : t.id = x.task) (hrole : t.role = .ticker g) :
    x.asked = ⟨.isCancelled (.schedule g), true⟩ ∨
      ∃ id, x.asked = ⟨.retire id g, ()⟩ ∧ v.schedules.inForce id ≠ some g := by
  have hn := hr.numbered h.driven.numbered
  obtain ⟨htold, hop | ⟨u, hu, hux, next, hp⟩⟩ := hs.told
  · exact absurd (hid.trans hop) (Nat.ne_of_gt (hn.known t ht).1)
  · obtain rfl := hn.eq_of_id ht hu (hid.trans hux.symm)
    obtain ⟨id, n, hl⟩ := h.leaving hr ht hrole
    have hheeds := hs.heeds (hr.cancelled (h.cancelled g)) x rfl
    have hschedules := htold.schedules.trans (act_schedules w' x.task x.asked.op)
    obtain ⟨task, op, a⟩ := x
    rw [hp] at hl
    generalize own t.id es = history at hl
    generalize hq : (Program.ask op next : Work RoundEnd) = q at hl
    cases hl with
    | asks =>
      cases hq
      obtain rfl : a = true := hheeds rfl
      exact .inl rfl
    | retires =>
      cases hq
      refine .inr ⟨id, rfl, ?_⟩
      rw [hschedules, Schedules.after, Schedules.inForce_retire]
      split
      · exact (Option.some_ne_none g).symm
      · rename_i hnot
        exact fun hin => hnot ⟨rfl, hin⟩
    | starts | gone => cases hq

end

end Emptied

/-! ## The turns that a ticker needs -/

variable {id : String} {g n : Nat} {t : Task} {es : List Answered}

/-- A gateway whose schedules are silent since a moment at which it was `u`, with what was told since
then. -/
structure Silenced (u : World) (es : List Event) (w : World) : Prop where
  /-- What is in force was loaded after that moment. -/
  loaded : ∀ id g, w.schedules.inForce id = some g → u.schedules.generations < g
  /-- A ticker is told that it is cancelled, and clears its entry, and is told nothing else. -/
  told : ∀ x w', Step w (some x) w' → ∀ t ∈ w.tasks, t.id = x.task → ∀ g, t.role = .ticker g →
    x.asked = ⟨.isCancelled (.schedule g), true⟩ ∨
      ∃ id, x.asked = ⟨.retire id g, ()⟩ ∧ w'.schedules.inForce id ≠ some g
  /-- The ticker of an entry has been told no more than that it is cancelled; it waits for nothing,
  and clears the entry with its third turn at the latest. -/
  leaves : ∀ id g, w.schedules.inForce id = some g → ∃ t ∈ w.tasks, t.Drives id g ∧
    (own t.id es = [] ∨ own t.id es = [⟨.isCancelled (.schedule g), true⟩]) ∧
    (∀ x ∈ w.waiting, x.task ≠ t.id) ∧
    (t.id ∈ w.ready → ∃ n ≤ 3, (turns t.id n w).2.schedules.inForce id = none)

/-- A shutdown that began at `w` has silenced the schedules of `w'`: in what was told on the way there
was a moment at which the table was empty, and since then the schedules are silent, whatever happens.
The operator leaves the tickers' entries alone. -/
def Silences (w : World) (es : List Event) (w' : World) : Prop :=
  ∃ before u since, es = before ++ since ∧ Run w.cancelSchedules before u ∧ Run u since w' ∧
    w.schedules.generations ≤ u.schedules.generations ∧ (∀ id, u.schedules.get? id = none) ∧
    ∀ after v, Run w' after v → (∀ x ∈ after, x.task = operator → x.asked.op.retires = false) →
      Silenced u (since ++ after) v

/-- A gateway that is silent stays so. -/
theorem Silences.run {v : World} {es fs : List Event} (h : Silences w es w') (hr : Run w' fs v)
    (hop : ∀ x ∈ fs, x.task = operator → x.asked.op.retires = false) :
    Silences w (es ++ fs) v := by
  obtain ⟨before, u, since, rfl, hbefore, hsince, hle, hempty, hlater⟩ := h
  refine ⟨before, u, since ++ fs, List.append_assoc _ _ _, hbefore, hsince.trans hr, hle, hempty,
    ?_⟩
  intro after v' hafter hopAfter
  rw [List.append_assoc]
  exact hlater _ v' (hr.trans hafter) (List.forall_mem_append.mpr ⟨hop, hopAfter⟩)

theorem Silences.leaves {es : List Event} {id : String} {g : Nat} (h : Silences w es w')
    (hin : w'.schedules.inForce id = some g) (hready : ∀ t ∈ w'.tasks, t.id ∈ w'.ready) :
    ∃ t ∈ w'.tasks, t.Drives id g ∧ ∃ n ≤ 3, (turns t.id n w').2.schedules.inForce id = none := by
  obtain ⟨_, u, since, -, -, -, -, -, hlater⟩ := h
  have hsilenced : Silenced u (since ++ []) w' := hlater [] w' .start (List.forall_mem_nil _)
  obtain ⟨t, ht, hdrives, -, -, hturns⟩ := hsilenced.leaves id g hin
  exact ⟨t, ht, hdrives, hturns (hready t ht)⟩

end World

end ChillerGateway
