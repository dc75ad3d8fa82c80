import ChillerGateway.Watchdog.State

/-!
# Watchdog states over many events

A watchdog that tries to reconnect counts its attempts, and an attempt that succeeds ends the count.

* `WatchdogState.isDown`, `WatchdogState.awaits` — what a state tells of its device, and what can
  happen next in it.
* `WatchdogState.Reached` — the states that a watchdog comes to.
* `WatchdogState.Reached.givenUp_iff` — it has given up when so many attempts have failed in a row.
-/

namespace ChillerGateway

/-- How many attempts to reconnect have failed at last, one after the other. -/
def streak (events : List WatchdogEvent) : Nat :=
  (events.reverse.takeWhile (· = .reconnected false)).length

theorem streak_failed (events : List WatchdogEvent) :
    streak (events ++ [.reconnected false]) = streak events + 1 := by
  simp [streak]

theorem streak_other (events : List WatchdogEvent) {e : WatchdogEvent}
    (h : e ≠ .reconnected false) : streak (events ++ [e]) = 0 := by
  simp [streak, h]

namespace WatchdogState

/-- Whether a watchdog that comes to the state has taken its device down. -/
def isDown : WatchdogState → Bool
  | healthy | unhealthy => false
  | reconnecting .. | givenUp => true

/-- Whether an event can be the next one in a state. -/
def awaits : WatchdogState → WatchdogEvent → Bool
  | healthy, .checked _ | unhealthy, .disconnected | reconnecting .., .reconnected _ => true
  | _, _ => false

/-- The states to which events lead, from the beginning of a watchdog on. -/
inductive Reached (policy : WatchdogPolicy) : List WatchdogEvent → WatchdogState → Prop where
  | start : Reached policy [] healthy
  | next {events s e s'} : Reached policy events s → s.awaits e = true →
      s.after? policy e = some s' → Reached policy (events ++ [e]) s'

variable {policy : WatchdogPolicy} {events : List WatchdogEvent} {s : WatchdogState}

theorem isDown_of_failed {attempt backoff : Nat} {s' : WatchdogState}
    (h : (reconnecting attempt backoff).afterReconnect? policy false = some s') :
    s'.isDown = true := by
  simp only [afterReconnect?, afterReconnectOn?, Bool.false_eq_true, if_false] at h
  split at h
  · cases h
    rfl
  · split at h
    · cases h
      rfl
    · cases h

/-- There is no next state only when a failed attempt is to be followed by a pause that outgrows the
clock. -/
theorem not_expressible_of_afterReconnect? {attempt backoff : Nat} {ok : Bool}
    (h : (reconnecting attempt backoff).afterReconnect? policy ok = none) :
    attempt < policy.maxRetries ∧ ¬ Expressible (backoff * policy.backoffFactor) := by
  unfold afterReconnect? afterReconnectOn? at h
  cases ok with
  | true => cases h
  | false =>
    simp only [Bool.false_eq_true, if_false] at h
    split at h
    · cases h
    · rename_i hlimit
      split at h
      · cases h
      · rename_i hspan
        exact ⟨Nat.lt_of_not_le hlimit, hspan⟩

/-- The failed attempts that a state stands for. -/
def Counts (policy : WatchdogPolicy) (failed : Nat) : WatchdogState → Prop
  | healthy | unhealthy => failed = 0
  | reconnecting attempt _ => failed + 1 = attempt ∧ attempt ≤ max 1 policy.maxRetries
  | givenUp => failed = max 1 policy.maxRetries

/-- One attempt more. -/
theorem Counts.reconnected {attempt backoff : Nat} {s' : WatchdogState}
    (h : Counts policy (streak events) (reconnecting attempt backoff)) {ok : Bool}
    (hs : (reconnecting attempt backoff).afterReconnect? policy ok = some s') :
    Counts policy (streak (events ++ [.reconnected ok])) s' := by
  obtain ⟨hcount, hbound⟩ := h
  unfold afterReconnect? afterReconnectOn? at hs
  cases ok with
  | true =>
    cases hs
    exact streak_other events (by decide)
  | false =>
    rw [streak_failed]
    simp only [Bool.false_eq_true, if_false] at hs
    split at hs
    · cases hs
      simp only [Counts]
      omega
    · split at hs
      · cases hs
        simp only [Counts]
        omega
      · cases hs

/-- **A state stands for as many failed attempts as there were in a row.** -/
theorem Reached.counts (h : Reached policy events s) : s.Counts policy (streak events) := by
  induction h with
  | start => rfl
  | @next events s e s' _ he hs ih =>
    cases s with
    | healthy =>
      cases e with
      | checked ok =>
        cases hs
        have hzero : streak (events ++ [.checked ok]) = 0 := streak_other events (by simp)
        cases ok with
        | true => exact hzero
        | false => exact hzero
      | disconnected | reconnected => cases he
    | unhealthy =>
      cases e with
      | disconnected =>
        cases hs
        have hzero : streak (events ++ [.disconnected]) = 0 := streak_other events (by simp)
        exact ⟨by rw [hzero], Nat.le_max_left _ _⟩
      | checked | reconnected => cases he
    | reconnecting attempt backoff =>
      cases e with
      | reconnected ok => exact ih.reconnected hs
      | checked | disconnected => cases he
    | givenUp => cases he

/-- **A watchdog has given up when as many attempts have failed in a row as its policy lets fail,**
though at least one. -/
theorem Reached.givenUp_iff (h : Reached policy events s) :
    s = givenUp ↔ streak events = max 1 policy.maxRetries := by
  have hcounts := h.counts
  cases s with
  | healthy | unhealthy =>
    have hzero : streak events = 0 := hcounts
    simp only [reduceCtorEq, false_iff]
    omega
  | reconnecting attempt backoff =>
    obtain ⟨hcount, hbound⟩ := hcounts
    simp only [reduceCtorEq, false_iff]
    omega
  | givenUp => exact iff_of_true rfl hcounts

end WatchdogState

end ChillerGateway
