import ChillerGateway.Proofs.Gateway.Turns

/-!
# The books of a gateway

Apart from its devices, schedules and workers a gateway keeps books: its settings, which device is
registered under an id, how many requests its clients made, and what it measured.  A few questions are
entered in them; all other changes come from outside.

* `World.books`, `Books.after` — the books, and what a question enters in them.
* `World.Step.answered` — a step that tells something leaves the gateway as the answer does, but for
  the workers.
* `World.Step.books`, `World.Step.books_quiet` — the books after either kind of step.
-/

namespace ChillerGateway

/-- What a gateway keeps books on. -/
structure Books where
  settings : Settings
  /-- The time that requests are counted at. -/
  wallClock : Nat
  limiter : Option RateLimiter
  metrics : Option Metrics
  registry : List (String × Nat)

/-- The books after a question. -/
def Books.after (b : Books) : Action → Books
  | .countRequest client =>
    { b with limiter := b.limiter.map fun l => (l.allowAt client b.wallClock).2 }
  | .countCommand name status began =>
    { b with metrics := b.metrics.map fun m =>
        let m := m.recordCommand name (Clock.seconds (b.wallClock - began))
        status.elim m m.cacheStatus }
  | .countError kind => { b with metrics := b.metrics.map (·.recordError kind) }
  | _ => b

namespace World

variable {w w' : World}

def books (w : World) : Books := ⟨w.settings, w.wallClock, w.limiter, w.metrics, w.registry⟩

theorem act_books (w : World) (me : Nat) (op : Action) :
    (w.act me op).world.books = w.books.after op := by
  cases op with
  | pauseUntil | awaitTickers | awaitReply | exchange | lock | unlock =>
    simp only [World.act, World.exchange, World.lockFor, World.unlock]
    repeat' split
    all_goals rfl
  | countRequest client =>
    simp only [World.act, World.countRequest]
    cases hlimiter : w.limiter with
    | none => simp only [Outcome.world, books, Books.after, hlimiter, Option.map_none]
    | some limiter => simp only [Outcome.world, books, Books.after, hlimiter, Option.map_some]
  | read index deadline =>
    simp only [World.act]
    split
    · rename_i heq
      obtain ⟨clients, rfl⟩ := incoming_eq heq
      rfl
    · rfl
  | _ => rfl

/-! ## Steps that tell something -/

/-- Who is told something asked for it; but for the workers the gateway is as the answer leaves
it. -/
theorem Step.answered {x : Event} (h : Step w (some x) w') :
    ∃ tasks ready waiting,
      w' = { (w.act x.task x.asked.op).world with tasks, ready, waiting } := by
  generalize he : some x = e at h
  cases h with
  | @turn t ht _ =>
    unfold tells World.told at he
    unfold World.turn
    split at he
    · rename_i op next hp
      obtain ⟨a, ha, rfl⟩ := Option.map_eq_some_iff.mp he.symm
      rw [hp]
      cases hact : w.act t.id op with
      | answered b v => exact ⟨_, _, _, by simp only [hact, Outcome.world]; rfl⟩
      | later time b v => exact ⟨_, _, _, by simp only [hact, Outcome.world]; rfl⟩
      | wait cause deadline v =>
        rw [hact] at ha
        cases ha
    · cases he
  | operate op =>
    obtain ⟨a, ha, rfl⟩ := Option.map_eq_some_iff.mp he.symm
    exact ⟨_, _, _, rfl⟩
  | skip | advance | control => cases he

theorem Step.books {x : Event} (h : Step w (some x) w') :
    w'.books = w.books.after x.asked.op := by
  obtain ⟨tasks, ready, waiting, rfl⟩ := h.answered
  exact w.act_books x.task x.asked.op

/-! ## Steps that tell nothing -/

theorem books_finish (w : World) (t : Task) (reply : Option Reply) :
    (w.finish t reply).books = w.books := by
  unfold World.finish
  cases t.role with
  | ticker | watchdog | connection | request => rfl

/-- A question that has to wait is entered nowhere. -/
theorem books_wait {me : Nat} {op : Action} {cause : Cause} {deadline : Option Nat}
    (h : w.act me op = .wait cause deadline w') : w'.books = w.books := by
  have hbooks := w.act_books me op
  rw [h] at hbooks
  refine hbooks.trans ?_
  cases op with
  | countRequest | countCommand | countError => cases h
  | _ => rfl

/-- Only what comes from outside changes the books without a question. -/
theorem Step.books_quiet (h : Step w none w') : w'.books = w.books ∨ Control w w' := by
  generalize he : none = e at h
  cases h with
  | @turn t _ _ =>
    left
    unfold tells World.told at he
    unfold World.turn
    cases hp : t.program with
    | ask op next =>
      rw [hp] at he
      simp only at he ⊢
      cases hact : w.act t.id op with
      | answered | later =>
        rw [hact] at he
        cases he
      | wait cause deadline v =>
        show v.books = w.books
        exact books_wait hact
    | done r =>
      cases r with
      | again worker => rfl
      | ended reply => exact w.books_finish t reply
  | operate op =>
    unfold World.told at he
    cases hact : w.act operator op with
    | answered | later =>
      rw [hact] at he
      cases he
    | wait cause deadline v => exact .inl (books_wait hact)
  | skip | advance => exact .inl rfl
  | control h => exact .inr h

/-- What can become of the books from outside. -/
inductive Revised (w w' : World) : Prop where
  | same : w'.books = w.books → Revised w w'
  | registered (id : String) (device : Device) : w' = w.register id device → Revised w w'
  | reloaded (settings : Settings) : w' = w.reload settings → Revised w w'
  | clocked (time : Nat) : w' = { w with wallClock := time } → Revised w w'

theorem Revised.control (h : Control w w') : Revised w w' := by
  cases h with
  | register id device => exact .registered id device rfl
  | reload settings => exact .reloaded settings rfl
  | setWallClock time => exact .clocked time rfl
  | enter h =>
    unfold enter? at h
    split at h
    · cases h
    · cases h
      exact .same rfl
  | openConnection h =>
    unfold openConnection? at h
    obtain ⟨v, hv, heq⟩ := Option.map_eq_some_iff.mp h
    unfold enter? at hv
    split at hv
    · cases hv
    · cases hv
      cases heq
      exact .same rfl
  | takeHeard ref =>
    unfold World.takeHeard
    split
    · exact .same rfl
    · exact .same rfl
  | _ => exact .same rfl

theorem Step.revised (h : Step w none w') : Revised w w' :=
  h.books_quiet.elim .same .control

end World

end ChillerGateway
