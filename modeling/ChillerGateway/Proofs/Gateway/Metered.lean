import ChillerGateway.Proofs.Gateway.Books
import ChillerGateway.Proofs.Gateway.Limited
import ChillerGateway.Proofs.RateLimiter.OneWindow

/-!
# The limit of a client in a run

A gateway has one limiter for all of its connections.  Whoever counts a request does so at the time of
the wall clock, so within one window a client is admitted as often as its limit says, on all of its
connections together.

* `Books.Metered` — the limiter of a gateway is that of its settings.
* `World.Within` — the steps of one window.
* `World.RunBy.budgeted` — what is admitted of a client in a window.
-/

namespace ChillerGateway

/-- The limiter of a gateway is that of its settings. -/
structure Books.Metered (b : Books) : Prop where
  limit : b.limiter.map (·.maxRequests) = b.settings.rateLimit
  window : ∀ l ∈ b.limiter, l.window = World.rateWindow
  /-- Each client has one queue. -/
  unique : ∀ l ∈ b.limiter, (l.queues.map Prod.fst).Nodup

namespace Books.Metered

variable {b b' : Books}

theorem of_limiterFor (h : b.limiter = World.limiterFor b.settings) : b.Metered := by
  unfold World.limiterFor at h
  have hnew : ∀ l ∈ b.limiter, l.window = World.rateWindow ∧ l.queues = [] := by
    rw [h]
    intro l hl
    obtain ⟨n, -, rfl⟩ := Option.map_eq_some_iff.mp hl
    exact ⟨rfl, rfl⟩
  refine ⟨?_, fun l hl => (hnew l hl).1, fun l hl => ?_⟩
  · rw [h, Option.map_map]
    exact Option.map_id'
  · rw [(hnew l hl).2]
    exact List.nodup_nil

theorem congr (h : b.Metered) (hlimiter : b'.limiter = b.limiter)
    (hlimit : b'.settings.rateLimit = b.settings.rateLimit) : b'.Metered where
  limit := by rw [hlimiter, hlimit, h.limit]
  window := hlimiter ▸ h.window
  unique := hlimiter ▸ h.unique

theorem after (h : b.Metered) (op : Action) : (b.after op).Metered := by
  cases op with
  | countRequest client =>
    cases hl : b.limiter with
    | none => exact h.congr (by simp only [Books.after, hl, Option.map_none]) rfl
    | some l =>
      have hlimit := h.limit
      rw [hl] at hlimit
      refine ⟨?_, ?_, ?_⟩
      · simp only [Books.after, hl, Option.map_some, RateLimiter.allowAt_maxRequests]
        exact hlimit
      · simp only [Books.after, hl, Option.map_some, Option.mem_some_iff, forall_eq']
        rw [RateLimiter.allowAt_window]
        exact h.window l hl
      · simp only [Books.after, hl, Option.map_some, Option.mem_some_iff, forall_eq']
        exact RateLimiter.allowAt_unique (h.unique l hl) client b.wallClock
  | _ => exact h.congr rfl rfl

end Books.Metered

namespace World

variable {v w w' : World} {es : List Event} {client : String} {e : Option Event}

theorem Step.metered (h : Step w e w') (hw : w.books.Metered) : w'.books.Metered := by
  cases e with
  | some x =>
    rw [h.books]
    exact hw.after x.asked.op
  | none =>
    cases h.revised with
    | same hbooks => exact hbooks ▸ hw
    | registered id device heq =>
      subst heq
      exact hw.congr rfl rfl
    | clocked time heq =>
      subst heq
      exact hw.congr rfl rfl
    | reloaded settings heq =>
      subst heq
      by_cases hsame : settings.rateLimit = w.settings.rateLimit
      · exact hw.congr (if_pos hsame) hsame
      · exact .of_limiterFor (if_neg hsame)

theorem Run.metered (h : Run w es w') (hw : w.books.Metered) : w'.books.Metered := by
  induction h with
  | start => exact hw
  | step _ hs ih => exact hs.metered ih

/-- Unless a request is counted or the limit is changed, the limiter stays as it is. -/
theorem Step.limiter (h : Step w e w') (hlimit : w'.settings.rateLimit = w.settings.rateLimit)
    (he : ∀ x ∈ e, x.asked.op.limits = false) : w'.limiter = w.limiter := by
  cases e with
  | some x =>
    have hx := he x rfl
    refine (congrArg Books.limiter h.books).trans ?_
    cases hop : x.asked.op with
    | countRequest => cases (congrArg Action.limits hop).symm.trans hx
    | _ => rfl
  | none =>
    cases h.revised with
    | same hbooks => exact congrArg Books.limiter hbooks
    | registered id device heq | clocked time heq =>
      subst heq
      rfl
    | reloaded settings heq =>
      subst heq
      exact if_pos hlimit

/-! ## One window -/

/-- A step of which a client makes no requests but within a window: the limit stays as it is, and the
clock does not go back. -/
def Within (client : String) (since : Nat) (u : World) (e : Option Event) (u' : World) : Prop :=
  u'.settings.rateLimit = u.settings.rateLimit ∧ u.wallClock ≤ u'.wallClock ∧
    ∀ x ∈ e, x.asked.op = .countRequest client →
      since ≤ u.wallClock ∧ u.wallClock < since + rateWindow

/-- How many requests of a client were counted. -/
def counted (client : String) (es : List Event) : Nat := es.countP fun x => x.asked.asks client

/-- How many of them are within the limit. -/
def admitted (client : String) (es : List Event) : Nat :=
  es.countP fun x => x.asked.isAdmitted client

/-- What was admitted of a client since a window began, and what the limiter remembers of it. -/
structure Budgeted (client : String) (n since : Nat) (isNew : Prop) (es : List Event) (w : World) :
    Prop where
  limit : w.settings.rateLimit = some n
  kept : admitted client es ≤ n
  /-- Of a client that is new, all that the limit allows. -/
  exact : isNew → admitted client es = min n (counted client es)
  remembers : w.wallClock < since + rateWindow → ∃ l old recent, w.limiter = some l ∧
    RateLimiter.Remembers l client since old recent ∧ recent.length = admitted client es ∧
    (isNew → old = [])

variable {n since : Nat} {isNew : Prop}

theorem Budgeted.beginning (hw : w.books.Metered) (hn : w.settings.rateLimit = some n)
    (hnew : isNew → ∀ l ∈ w.limiter, l.queue client = []) :
    Budgeted client n since isNew [] w := by
  refine ⟨hn, Nat.zero_le _, fun _ => (Nat.min_zero n).symm, fun _ => ?_⟩
  obtain ⟨l, hl, -⟩ := Option.map_eq_some_iff.mp (hw.limit.trans hn)
  exact ⟨l, _, [], hl, .beginning (hw.unique l hl) client _, rfl, fun h => hnew h l hl⟩

/-- A step that counts nothing leaves the budget as it is. -/
theorem Budgeted.idle (h : Budgeted client n since isNew es w) (hs : Step w e w')
    (hC : Within client since w e w') (he : ∀ x ∈ e, x.asked.op.limits = false) :
    Budgeted client n since isNew (es ++ e.toList) w' := by
  have hquiet : ∀ {p : Answered → Bool}, (∀ x, x.op.limits = false → p x = false) →
      (es ++ e.toList).countP (fun x => p x.asked) = es.countP fun x => p x.asked := by
    intro p hp
    have hnone : e.toList.countP (fun x => p x.asked) = 0 := List.countP_eq_zero.mpr fun x hx =>
      Bool.eq_false_iff.mp (hp x.asked (he x (Option.mem_toList.mp hx)))
    rw [List.countP_append, hnone, Nat.add_zero]
  have hasked : counted client (es ++ e.toList) = counted client es :=
    hquiet fun _ => Answered.asks_of_not_limits
  have hadmitted : admitted client (es ++ e.toList) = admitted client es :=
    hquiet fun _ => Answered.isAdmitted_of_not_limits
  refine ⟨hC.1.trans h.limit, hadmitted ▸ h.kept, ?_, fun hclock => ?_⟩
  · rw [hadmitted, hasked]
    exact h.exact
  · rw [hadmitted, hs.limiter hC.1 he]
    exact h.remembers (Nat.lt_of_le_of_lt hC.2.1 hclock)

/-- A request is counted at the time of the clock. -/
theorem Step.called {task : Nat} {other : String} {allowed : Bool} {l : RateLimiter}
    (h : Step w (some ⟨task, .countRequest other, allowed⟩) w') (hl : w.limiter = some l) :
    (l.allowAt other w.wallClock).1 = allowed ∧
      w'.limiter = some (l.allowAt other w.wallClock).2 := by
  have hanswer := h.told.1.answer
  simp only [act, World.countRequest, hl] at hanswer
  refine ⟨Option.some.inj hanswer, (congrArg Books.limiter h.books).trans ?_⟩
  show w.limiter.map _ = _
  rw [hl]
  rfl

/-- What a request adds to the counts. -/
def added (client other : String) (allowed : Bool) : Nat :=
  if other = client ∧ allowed = true then 1 else 0

theorem admitted_concat (es : List Event) (task : Nat) (client other : String) (allowed : Bool) :
    admitted client (es ++ [⟨task, .countRequest other, allowed⟩]) =
      admitted client es + added client other allowed := by
  simp only [admitted, added, List.countP_append, List.countP_singleton, Answered.isAdmitted,
    Bool.and_eq_true, beq_iff_eq]

theorem counted_concat (es : List Event) (task : Nat) (client other : String) (allowed : Bool) :
    counted client (es ++ [⟨task, .countRequest other, allowed⟩]) =
      counted client es + added client other true := by
  simp only [counted, added, List.countP_append, List.countP_singleton, Answered.asks, beq_iff_eq,
    and_true]

/-- One request more is admitted exactly as long as the limit is not reached. -/
theorem min_succ_of_allowed {asked passed : Nat} {allowed : Bool} (h : passed = min n asked)
    (hallowed : allowed = true ↔ passed < n) :
    passed + (if allowed = true then 1 else 0) = min n (asked + 1) := by
  split
  · rename_i hyes
    have hbelow := hallowed.mp hyes
    omega
  · rename_i hno
    have habove : ¬ passed < n := fun hlt => hno (hallowed.mpr hlt)
    omega

/-- A request within the window is admitted as long as the client has budget left. -/
theorem Budgeted.call {task : Nat} {other : String} {allowed : Bool}
    (h : Budgeted client n since isNew es w) (hw : w.books.Metered)
    (hs : Step w (some ⟨task, .countRequest other, allowed⟩) w')
    (hC : Within client since w (some ⟨task, .countRequest other, allowed⟩) w')
    (hinside : w.wallClock < since + rateWindow) :
    Budgeted client n since isNew (es ++ [⟨task, .countRequest other, allowed⟩]) w' := by
  obtain ⟨l, old, recent, hl, hremembers, hlength, hold⟩ := h.remembers hinside
  obtain ⟨rfl, hlimiter⟩ := hs.called hl
  have hwindow : w.wallClock < since + l.window := by rwa [hw.window l hl]
  have hpos : 0 < l.window := by
    rw [hw.window l hl]
    exact Nat.succ_pos _
  have hmax : l.maxRequests = n := by
    have hlimit : w.limiter.map _ = _ := hw.limit.trans h.limit
    rw [hl] at hlimit
    exact Option.some.inj hlimit
  have hsince : other = client → since ≤ w.wallClock :=
    fun heq => (hC.2.2 _ rfl (congrArg _ heq)).1
  obtain ⟨left, hleft, hafter⟩ := hremembers.call hpos hwindow other hsince
  obtain ⟨hwithin, hfree⟩ := hremembers.allowed hpos hwindow
  generalize hnow : recent ++ _ = later at hafter
  have hlater : later.length = admitted client (es ++ [⟨task, .countRequest other,
      (l.allowAt other w.wallClock).1⟩]) := by
    rw [admitted_concat, ← hnow, List.length_append, hlength]
    unfold added
    split <;> rfl
  refine ⟨hC.1.trans h.limit, ?_, fun hnew => ?_, fun _ => ?_⟩
  · rw [← hlater, ← hmax, ← RateLimiter.allowAt_maxRequests l other w.wallClock]
    exact hafter.short
  · rw [hmax, hlength] at hwithin hfree
    rw [admitted_concat, counted_concat]
    unfold added
    by_cases hother : other = client
    · subst hother
      simp only [true_and, if_true]
      exact min_succ_of_allowed (h.exact hnew) ⟨hwithin, hfree (hold hnew)⟩
    · simp only [hother, false_and, if_false]
      exact h.exact hnew
  · exact ⟨_, left, later, hlimiter, hafter, hlater, fun hnew => List.suffix_nil.mp (hold hnew ▸ hleft)⟩

/-- When the window is over, only other clients go on to make requests. -/
theorem Budgeted.over {task : Nat} {other : String} {allowed : Bool}
    (h : Budgeted client n since isNew es w)
    (hC : Within client since w (some ⟨task, .countRequest other, allowed⟩) w')
    (hover : ¬ w.wallClock < since + rateWindow) :
    Budgeted client n since isNew (es ++ [⟨task, .countRequest other, allowed⟩]) w' := by
  have hother : other ≠ client := fun heq => hover (hC.2.2 _ rfl (congrArg _ heq)).2
  have hnone : ∀ allowed, added client other allowed = 0 := fun allowed =>
    if_neg fun hboth => hother hboth.1
  have hadmitted := admitted_concat es task client other allowed
  have hcounted := counted_concat es task client other allowed
  rw [hnone, Nat.add_zero] at hadmitted hcounted
  refine ⟨hC.1.trans h.limit, hadmitted ▸ h.kept, ?_, fun hinside => ?_⟩
  · rw [hadmitted, hcounted]
    exact h.exact
  · exact absurd (Nat.lt_of_le_of_lt hC.2.1 hinside) hover

/-- **What is admitted of a client within a window keeps to its limit**, whatever others do before,
meanwhile and after. -/
theorem RunBy.budgeted (h : RunBy (Within client since) v es w) (hv : v.books.Metered)
    (hn : v.settings.rateLimit = some n) (hnew : isNew → ∀ l ∈ v.limiter, l.queue client = []) :
    Budgeted client n since isNew es w := by
  induction h with
  | start => exact .beginning hv hn hnew
  | @step es e u u' hr hs hC ih =>
    -- Only a request that is counted matters, and its client's only within the window.
    by_cases he : ∃ x ∈ e, ∃ other, x.asked.op = .countRequest other
    · obtain ⟨⟨task, op, allowed⟩, rfl, other, rfl⟩ := he
      by_cases hinside : u.wallClock < since + rateWindow
      · exact ih.call (hr.run.metered hv) hs hC hinside
      · exact ih.over hC hinside
    · refine ih.idle hs hC fun x hx => ?_
      cases hop : x.asked.op with
      | countRequest other => exact absurd ⟨x, hx, other, hop⟩ he
      | _ => rfl

end World

end ChillerGateway
