import ChillerGateway.Proofs.Watchdog.State
import Mathlib.Algebra.Order.Group.Nat

/-!
# The pauses of a watchdog

Events may come to a watchdog in any order, also those that its state does not await.  Whatever
comes, the number of an attempt and the pause before it are tied to each other: the pause grows by
the factor of the policy with each attempt and is capped from the second attempt on.

* `Move`, `move_of_afterOn?` — all that an event can do to a state.
* `WatchdogPolicy.pause` — the pause before an attempt.
* `Paced`, `Move.paced`, `paced_run?` — attempts and pauses, over one event and over all of them.
* `Paced.exists_runFrom?` — no pause outgrows the clock if the longest one does not when it is
  multiplied.
* `backoff_and_breaker` — attempts, pauses and giving up, after any events.
-/

namespace ChillerGateway

namespace WatchdogPolicy

variable (policy : WatchdogPolicy)

/-- The pause before an attempt; the first one is not capped. -/
def pause (attempt : Nat) : Nat :=
  if attempt = 1 then policy.initialBackoff
  else min (policy.initialBackoff * policy.backoffFactor ^ (attempt - 1)) policy.maxBackoff

theorem pause_one : policy.pause 1 = policy.initialBackoff := if_pos rfl

theorem pause_later {attempt : Nat} (h : 2 ≤ attempt) : policy.pause attempt =
    min (policy.initialBackoff * policy.backoffFactor ^ (attempt - 1)) policy.maxBackoff :=
  if_neg (by omega)

/-- To cap before multiplying changes nothing when the product is capped. -/
theorem min_min_mul (span cap factor : Nat) :
    min (min span cap * factor) cap = min (span * factor) cap := by
  rcases Nat.le_total span cap with hle | hge
  · rw [Nat.min_eq_left hle]
  · rw [Nat.min_eq_right hge]
    rcases Nat.eq_zero_or_pos factor with rfl | hpos
    · rw [Nat.mul_zero, Nat.mul_zero]
    · have hcap : cap ≤ cap * factor := Nat.le_mul_of_pos_right cap hpos
      have hspan : cap * factor ≤ span * factor := Nat.mul_le_mul_right factor hge
      rw [Nat.min_eq_right hcap, Nat.min_eq_right (hcap.trans hspan)]

/-- **The next pause** is the last one, multiplied and capped. -/
theorem pause_succ {attempt : Nat} (h : 1 ≤ attempt) :
    policy.pause (attempt + 1) =
      min (policy.pause attempt * policy.backoffFactor) policy.maxBackoff := by
  rw [policy.pause_later (by omega), Nat.add_sub_cancel]
  rcases h.eq_or_lt with rfl | hlater
  · rw [pause_one, Nat.pow_one]
  · obtain ⟨k, rfl⟩ : ∃ k, attempt = k + 1 := ⟨attempt - 1, by omega⟩
    rw [policy.pause_later hlater, min_min_mul, Nat.add_sub_cancel, Nat.mul_assoc, Nat.pow_succ]

theorem pause_le (attempt : Nat) :
    policy.pause attempt ≤ max policy.initialBackoff policy.maxBackoff := by
  unfold pause
  split
  · exact Nat.le_max_left _ _
  · exact (Nat.min_le_right _ _).trans (Nat.le_max_right _ _)

end WatchdogPolicy

namespace WatchdogState

variable {rate : Nat} {policy : WatchdogPolicy} {s s' : WatchdogState} {e : WatchdogEvent}
  {events more : List WatchdogEvent} {attempt backoff : Nat}

/-! ## One event -/

/-- All that an event can do to a state. -/
inductive Move (policy : WatchdogPolicy) :
    WatchdogState → WatchdogEvent → WatchdogState → Prop where
  | ignored {s : WatchdogState} {e : WatchdogEvent} : s.awaits e = false → Move policy s e s
  | sound : Move policy healthy (.checked true) healthy
  | unsound : Move policy healthy (.checked false) unhealthy
  | closed : Move policy unhealthy .disconnected (reconnecting 1 policy.initialBackoff)
  | recovered {attempt backoff : Nat} :
      Move policy (reconnecting attempt backoff) (.reconnected true) healthy
  | retried {attempt backoff : Nat} : attempt < policy.maxRetries →
      Move policy (reconnecting attempt backoff) (.reconnected false)
        (reconnecting (attempt + 1) (min (backoff * policy.backoffFactor) policy.maxBackoff))
  | exhausted {attempt backoff : Nat} : policy.maxRetries ≤ attempt →
      Move policy (reconnecting attempt backoff) (.reconnected false) givenUp

theorem move_of_afterReconnectOn? {ok : Bool}
    (h : (reconnecting attempt backoff).afterReconnectOn? rate policy ok = some s') :
    Move policy (reconnecting attempt backoff) (.reconnected ok) s' := by
  unfold afterReconnectOn? at h
  cases ok with
  | true =>
    cases h
    exact .recovered
  | false =>
    simp only [Bool.false_eq_true, if_false] at h
    split at h
    · rename_i hlimit
      cases h
      exact .exhausted hlimit
    · rename_i hlimit
      split at h
      · cases h
        exact .retried (Nat.lt_of_not_le hlimit)
      · cases h

/-- **Every event is one of these.** -/
theorem move_of_afterOn? (h : s.afterOn? rate policy e = some s') : Move policy s e s' := by
  cases e with
  | checked ok =>
    cases s with
    | healthy =>
      cases ok with
      | true =>
        cases h
        exact .sound
      | false =>
        cases h
        exact .unsound
    | unhealthy | reconnecting | givenUp =>
      cases h
      exact .ignored rfl
  | disconnected =>
    cases s with
    | unhealthy =>
      cases h
      exact .closed
    | healthy | reconnecting | givenUp =>
      cases h
      exact .ignored rfl
  | reconnected ok =>
    cases s with
    | reconnecting attempt backoff => exact move_of_afterReconnectOn? h
    | healthy | unhealthy | givenUp =>
      cases h
      exact .ignored rfl

/-- There is a next state when the pause is expressible that a failed attempt would be followed
by. -/
theorem exists_afterOn? (h : ∀ attempt backoff, s = reconnecting attempt backoff →
    Fits rate (backoff * policy.backoffFactor)) (e : WatchdogEvent) :
    ∃ s', s.afterOn? rate policy e = some s' := by
  cases e with
  | checked | disconnected => exact ⟨_, rfl⟩
  | reconnected ok =>
    cases s with
    | healthy | unhealthy | givenUp => exact ⟨_, rfl⟩
    | reconnecting attempt backoff =>
      unfold afterOn? afterReconnectOn?
      simp only [if_pos (h attempt backoff rfl)]
      split
      · exact ⟨_, rfl⟩
      · split
        · exact ⟨_, rfl⟩
        · exact ⟨_, rfl⟩

/-! ## All events -/

/-- The state to which some events lead. -/
def runFrom? (rate : Nat) (policy : WatchdogPolicy) (s : WatchdogState)
    (events : List WatchdogEvent) : Option WatchdogState :=
  events.foldlM (afterOn? rate policy) s

/-- The state of a watchdog after some events, from its beginning on. -/
def run? (rate : Nat) (policy : WatchdogPolicy) (events : List WatchdogEvent) :
    Option WatchdogState :=
  runFrom? rate policy healthy events

theorem runFrom?_cons (rate : Nat) (policy : WatchdogPolicy) (s : WatchdogState)
    (e : WatchdogEvent) (events : List WatchdogEvent) :
    runFrom? rate policy s (e :: events) =
      (s.afterOn? rate policy e).bind (runFrom? rate policy · events) := rfl

/-- A state whose pause is that of its attempt. -/
def Paced (policy : WatchdogPolicy) : WatchdogState → Prop
  | reconnecting attempt backoff =>
    1 ≤ attempt ∧ attempt ≤ max 1 policy.maxRetries ∧ backoff = policy.pause attempt
  | _ => True

/-- No event parts the pause from its attempt. -/
theorem Move.paced (h : Move policy s e s') (hs : s.Paced policy) : s'.Paced policy := by
  cases h with
  | ignored => exact hs
  | sound | unsound | recovered | exhausted => trivial
  | closed => exact ⟨Nat.le_refl 1, Nat.le_max_left _ _, policy.pause_one.symm⟩
  | retried hlimit =>
    obtain ⟨hone, -, rfl⟩ := hs
    exact ⟨by omega, by omega, (policy.pause_succ hone).symm⟩

theorem Paced.runFrom? (hs : s.Paced policy) (h : runFrom? rate policy s events = some s') :
    s'.Paced policy := by
  induction events generalizing s with
  | nil =>
    cases h
    exact hs
  | cons e events ih =>
    rw [runFrom?_cons] at h
    obtain ⟨next, hnext, hrest⟩ := Option.bind_eq_some_iff.mp h
    exact ih ((move_of_afterOn? hnext).paced hs) hrest

/-- **The pause is that of the attempt** after any events. -/
theorem paced_run? (h : run? rate policy events = some s) : s.Paced policy :=
  Paced.runFrom? (s := healthy) trivial h

/-- **No pause outgrows the clock** if the longest one does not when it is multiplied. -/
theorem Paced.exists_runFrom? (hs : s.Paced policy)
    (hfits : Fits rate (max policy.initialBackoff policy.maxBackoff * policy.backoffFactor))
    (events : List WatchdogEvent) :
    ∃ s', WatchdogState.runFrom? rate policy s events = some s' := by
  induction events generalizing s with
  | nil => exact ⟨s, rfl⟩
  | cons e events ih =>
    have hpause : ∀ attempt backoff, s = reconnecting attempt backoff →
        Fits rate (backoff * policy.backoffFactor) := by
      rintro attempt backoff rfl
      obtain ⟨-, -, rfl⟩ := hs
      have hle := Nat.mul_le_mul_right policy.backoffFactor (policy.pause_le attempt)
      exact (Nat.div_le_div_right hle).trans_lt hfits
    obtain ⟨next, hnext⟩ := exists_afterOn? hpause e
    obtain ⟨last, hlast⟩ := ih ((move_of_afterOn? hnext).paced hs)
    refine ⟨last, ?_⟩
    rw [runFrom?_cons, hnext]
    exact hlast

theorem runFrom?_givenUp (rate : Nat) (policy : WatchdogPolicy) (events : List WatchdogEvent) :
    runFrom? rate policy givenUp events = some givenUp := by
  induction events with
  | nil => rfl
  | cons e events ih =>
    have hstays : givenUp.afterOn? rate policy e = some givenUp := by cases e <;> rfl
    rw [runFrom?_cons, hstays]
    exact ih

/-! ## Attempts, pauses and giving up -/

/-- A watchdog gives up by a failed attempt that has the greatest number of all. -/
theorem givesUp (hs : s.Paced policy) (h : Move policy s e givenUp) (hne : s ≠ givenUp) :
    e = .reconnected false ∧ ∃ backoff, s = reconnecting (max 1 policy.maxRetries) backoff := by
  cases h with
  | ignored => exact absurd rfl hne
  | @exhausted attempt backoff hlimit =>
    obtain ⟨hone, hbound, -⟩ := hs
    obtain rfl : attempt = max 1 policy.maxRetries := by omega
    exact ⟨rfl, backoff, rfl⟩

/-- A watchdog begins to reconnect when the device is closed after a failed check. -/
theorem begins (h : Move policy s e (reconnecting attempt backoff))
    (hne : ∀ attempt backoff, s ≠ reconnecting attempt backoff) :
    s = unhealthy ∧ e = .disconnected ∧ attempt = 1 ∧ backoff = policy.initialBackoff := by
  cases h with
  | ignored | retried => exact absurd rfl (hne _ _)
  | closed => exact ⟨rfl, rfl, rfl, rfl⟩

/-- **Backoff and circuit breaker.**  After any events, on a clock of any rate: the attempts are
numbered from one to the greatest number that the policy allows, at least one; the pause before the
first attempt is the initial one, and before each later attempt the initial one times a power of the
factor, but at most the cap.  A watchdog gives up by a failed attempt of the greatest number only,
and for good.  It begins to reconnect when the device is closed after a failed check only, and with
attempt one.  If the clock can express the greater one of the initial pause and the cap times the
factor, no event is without a next state; numbers of 32 bits then do for the attempts if they do for
their limit. -/
theorem backoff_and_breaker (rate : Nat) (policy : WatchdogPolicy) :
    (∀ events attempt backoff, run? rate policy events = some (reconnecting attempt backoff) →
      1 ≤ attempt ∧ attempt ≤ max 1 policy.maxRetries ∧
      (attempt = 1 → backoff = policy.initialBackoff) ∧
      (2 ≤ attempt → backoff =
        min (policy.initialBackoff * policy.backoffFactor ^ (attempt - 1)) policy.maxBackoff)) ∧
    (∀ events s e, run? rate policy events = some s → s ≠ givenUp →
      s.afterOn? rate policy e = some givenUp →
      e = .reconnected false ∧ ∃ backoff, s = reconnecting (max 1 policy.maxRetries) backoff) ∧
    (∀ events, runFrom? rate policy givenUp events = some givenUp) ∧
    (∀ s e attempt backoff, s.afterOn? rate policy e = some (reconnecting attempt backoff) →
      (∀ attempt backoff, s ≠ reconnecting attempt backoff) →
      s = unhealthy ∧ e = .disconnected ∧ attempt = 1) ∧
    (Fits rate (max policy.initialBackoff policy.maxBackoff * policy.backoffFactor) →
      ∀ events, ∃ s, run? rate policy events = some s ∧ (policy.maxRetries < 2 ^ 32 →
        ∀ attempt backoff, s = reconnecting attempt backoff → attempt < 2 ^ 32)) := by
  refine ⟨?_, ?_, runFrom?_givenUp rate policy, ?_, ?_⟩
  · intro events attempt backoff h
    obtain ⟨hone, hbound, rfl⟩ := paced_run? h
    refine ⟨hone, hbound, ?_, policy.pause_later⟩
    rintro rfl
    exact policy.pause_one
  · intro events s e hs hne hnext
    exact givesUp (paced_run? hs) (move_of_afterOn? hnext) hne
  · intro s e attempt backoff hnext hne
    obtain ⟨hs, he, hone, -⟩ := begins (move_of_afterOn? hnext) hne
    exact ⟨hs, he, hone⟩
  · intro hfits events
    obtain ⟨s, hs⟩ := Paced.exists_runFrom? (s := healthy) trivial hfits events
    refine ⟨s, hs, ?_⟩
    rintro hlimit attempt backoff rfl
    obtain ⟨-, hbound, -⟩ := paced_run? hs
    omega

/-- Three failed attempts under the default policy, and any events under it.  A policy without
retries gives up after its first attempt, and by nothing else, for good. -/
theorem backoff_and_breaker_default :
    (run? 1000 {} [.checked false, .disconnected, .reconnected false, .reconnected false,
        .reconnected false] = some (reconnecting 4 40000) ∧ 40000 = min (5000 * 2 ^ 3) 60000) ∧
    (∀ events, ∃ s, run? 1000 {} events = some s) ∧
    let once : WatchdogPolicy := { maxRetries := 0 }
    run? 1000 once [.checked false, .disconnected] = some (reconnecting 1 5000) ∧
    run? 1000 once [.checked false, .disconnected, .reconnected false] = some givenUp ∧
    (∀ e, (reconnecting 1 5000).afterOn? 1000 once e = some givenUp → e = .reconnected false) ∧
    ∀ events, runFrom? 1000 once givenUp events = some givenUp := by
  obtain ⟨hpause, -, -, -, hfits⟩ := backoff_and_breaker 1000 {}
  obtain ⟨-, hgives, hfinal, -⟩ := backoff_and_breaker 1000 { maxRetries := 0 }
  have hfourth : run? 1000 {} [.checked false, .disconnected, .reconnected false,
      .reconnected false, .reconnected false] = some (reconnecting 4 40000) := by decide
  have hfirst : run? 1000 { maxRetries := 0 } [.checked false, .disconnected] =
      some (reconnecting 1 5000) := rfl
  refine ⟨⟨hfourth, ?_⟩, fun events => ?_, hfirst, by decide, fun e he => ?_, hfinal⟩
  · exact (hpause _ 4 40000 hfourth).2.2.2 (by decide)
  · obtain ⟨s, hs, -⟩ := hfits (by decide) events
    exact ⟨s, hs⟩
  · exact (hgives _ _ e hfirst (by decide) he).1

end WatchdogState

end ChillerGateway
