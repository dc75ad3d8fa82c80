/-!
# Watchdog states

A watchdog is healthy until a check fails, then closes the device and tries to reconnect with
growing pauses, and gives up after so many failed attempts.  Giving up is final.

* `WatchdogState.after?` — the state after an event; there is none when a pause outgrows the clock.
* `WatchdogState.afterOn?` — the same on a clock of any rate, in ticks a second.
-/

namespace ChillerGateway

/-- Timing and limits; spans are in ticks of the clock, which are milliseconds where nothing else is
said. -/
structure WatchdogPolicy where
  /-- Between two checks of a healthy device. -/
  interval : Nat := 10000
  initialBackoff : Nat := 5000
  maxBackoff : Nat := 60000
  backoffFactor : Nat := 2
  /-- Failed attempts before giving up. -/
  maxRetries : Nat := 20
  deriving DecidableEq, Repr

inductive WatchdogState where
  | healthy
  | unhealthy
  /-- Waiting before attempt number `attempt`. -/
  | reconnecting (attempt backoff : Nat)
  | givenUp
  deriving DecidableEq, Repr, Inhabited

inductive WatchdogEvent where
  | checked (ok : Bool)
  | disconnected
  | reconnected (ok : Bool)
  deriving DecidableEq, Repr

namespace WatchdogState

/-- Whether a clock of so many ticks a second can express a span: its whole seconds fit 64 bits. -/
def Fits (rate span : Nat) : Prop := span / rate < Nat.pow 2 64

instance (rate span : Nat) : Decidable (Fits rate span) := by unfold Fits; infer_instance

/-- Whether the clock can express a span. -/
def Expressible (milliseconds : Nat) : Prop := Fits 1000 milliseconds

instance (n : Nat) : Decidable (Expressible n) := by unfold Expressible; infer_instance

def afterCheck (s : WatchdogState) (ok : Bool) : WatchdogState :=
  match s, ok with
  | healthy, false => unhealthy
  | other, _ => other

def afterDisconnect (policy : WatchdogPolicy) : WatchdogState → WatchdogState
  | unhealthy => reconnecting 1 policy.initialBackoff
  | other => other

/-- The state after an attempt; a failed one waits longer, up to the cap. -/
def afterReconnectOn? (rate : Nat) (policy : WatchdogPolicy) (s : WatchdogState) (ok : Bool) :
    Option WatchdogState :=
  match s with
  | reconnecting attempt backoff =>
    if ok then some healthy
    else if policy.maxRetries ≤ attempt then some givenUp
    else
      let longer := backoff * policy.backoffFactor
      if Fits rate longer then some (reconnecting (attempt + 1) (min longer policy.maxBackoff))
      else none
  | other => some other

def afterOn? (rate : Nat) (policy : WatchdogPolicy) (s : WatchdogState) :
    WatchdogEvent → Option WatchdogState
  | .checked ok => some (s.afterCheck ok)
  | .disconnected => some (s.afterDisconnect policy)
  | .reconnected ok => s.afterReconnectOn? rate policy ok

def afterReconnect? (policy : WatchdogPolicy) (s : WatchdogState) (ok : Bool) :
    Option WatchdogState :=
  s.afterReconnectOn? 1000 policy ok

def after? (policy : WatchdogPolicy) (s : WatchdogState) (e : WatchdogEvent) :
    Option WatchdogState :=
  s.afterOn? 1000 policy e

end WatchdogState

end ChillerGateway
