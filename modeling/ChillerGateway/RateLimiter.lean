/-!
# Rate limits

At most so many requests of one key within any window of time.  Each key has a queue of the readings
of its admitted requests, oldest first; readings that left the window are dropped when the key calls
again. Once a window, on whichever call comes next, keys whose newest reading left the window are
forgotten.

* `RateLimiter.allowAt` — admits or refuses a request at a clock reading.
-/

namespace ChillerGateway

/-- A limit and the readings it remembers; each key has one queue. -/
structure RateLimiter where
  maxRequests : Nat
  window : Nat
  queues : List (String × List Nat) := []
  lastSweep : Option Nat := none
  deriving DecidableEq, Repr

namespace RateLimiter

/-- Whether a reading left the window; a reading from the future is inside. -/
def expired (l : RateLimiter) (now reading : Nat) : Bool := decide (l.window ≤ now - reading)

/-- Forgets the keys whose newest reading left the window, at most once a window. -/
def sweep (l : RateLimiter) (now : Nat) : RateLimiter :=
  match l.lastSweep with
  | none => { l with lastSweep := some now }
  | some last =>
    if l.expired now last then
      { l with
        queues := l.queues.filter fun (_, queue) =>
          queue.getLast?.any fun newest => !l.expired now newest
        lastSweep := some now }
    else l

/-- The queue of a key without the readings at its front that left the window. -/
def current (l : RateLimiter) (key : String) (now : Nat) : List Nat :=
  ((l.queues.lookup key).getD []).dropWhile (l.expired now)

def put (key : String) (queue : List Nat) (queues : List (String × List Nat)) :
    List (String × List Nat) :=
  match queue with
  | [] => queues.filter (·.1 ≠ key)
  | _ => (key, queue) :: queues.filter (·.1 ≠ key)

/-- Whether the request is admitted, and the limiter after it. -/
def allowAt (l : RateLimiter) (key : String) (now : Nat) : Bool × RateLimiter :=
  let l := l.sweep now
  let queue := l.current key now
  if queue.length < l.maxRequests then
    (true, { l with queues := put key (queue ++ [now]) l.queues })
  else (false, { l with queues := put key queue l.queues })

/-- How many keys are remembered. -/
def trackedKeys (l : RateLimiter) : Nat := l.queues.length

end RateLimiter

end ChillerGateway
