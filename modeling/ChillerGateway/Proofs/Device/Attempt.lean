import ChillerGateway.Device.Basic

/-!
# A driver alone with a link

Between taking and releasing a device's lock a driver is alone with it, and then each of its steps
is settled by the link itself.  `LinkDevice.attempt` runs a driver program on a link; the laws below
take it apart along the way in which driver programs are put together.

* `attempt_bind` — a failure ends the program.
* `bench_attempt` — the bench of a link does nothing else.
-/

namespace ChillerGateway

namespace LinkDevice

variable {α β : Type}

/-- A program alone with a link: its result, the time at which it is over, and the link after it. -/
def execute : Program Exchange.interface α → Nat → LinkDevice → α × Nat × LinkDevice
  | .done a, now, l => (a, now, l)
  | .ask op next, now, l =>
    let (time, answer, l) := l.exchange now op
    execute (next answer) time l

/-- An attempt alone with a link. -/
def attempt (p : Attempt α) (now : Nat) (l : LinkDevice) : Except Error α × Nat × LinkDevice :=
  execute p.run now l

theorem execute_bind (p : Program Exchange.interface α) (f : α → Program Exchange.interface β)
    (now : Nat) (l : LinkDevice) :
    execute (p.bind f) now l =
      execute (f (execute p now l).1) (execute p now l).2.1 (execute p now l).2.2 := by
  induction p generalizing now l with
  | done a => rfl
  | ask op next ih => exact ih _ _ _

@[simp] theorem attempt_pure (a : α) (now : Nat) (l : LinkDevice) :
    attempt (pure a) now l = (.ok a, now, l) := rfl

@[simp] theorem attempt_mk (r : Except Error α) (now : Nat) (l : LinkDevice) :
    attempt (ExceptT.mk (pure r)) now l = (r, now, l) := rfl

theorem attempt_bind (p : Attempt α) (f : α → Attempt β) (now : Nat) (l : LinkDevice) :
    attempt (p >>= f) now l =
      match attempt p now l with
      | (.ok a, time, l') => attempt (f a) time l'
      | (.error e, time, l') => (.error e, time, l') := by
  unfold attempt
  rw [Attempt.run_bind, execute_bind]
  generalize execute p.run now l = x
  obtain ⟨r, time, l'⟩ := x
  cases r <;> rfl

/-- A program whose first part succeeded goes on with its result. -/
theorem attempt_bind_ok {p : Attempt α} {f : α → Attempt β} {now time : Nat} {l l' : LinkDevice}
    {a : α} (h : attempt p now l = (.ok a, time, l')) :
    attempt (p >>= f) now l = attempt (f a) time l' := by rw [attempt_bind, h]

theorem attempt_bind_error {p : Attempt α} {f : α → Attempt β} {now time : Nat}
    {l l' : LinkDevice} {e : Error} (h : attempt p now l = (.error e, time, l')) :
    attempt (p >>= f) now l = (.error e, time, l') := by rw [attempt_bind, h]

@[simp] theorem attempt_step (op : Exchange) (now : Nat) (l : LinkDevice) :
    attempt (Attempt.step op) now l =
      (.ok (l.exchange now op).2.1, (l.exchange now op).1, (l.exchange now op).2.2) := rfl

@[simp] theorem attempt_outcome (p : Attempt α) (now : Nat) (l : LinkDevice) :
    attempt (Attempt.outcome p) now l =
      (.ok (attempt p now l).1, (attempt p now l).2) := by
  unfold attempt
  rw [Attempt.run_outcome, execute_bind]
  rfl

@[simp] theorem attempt_openStream (now : Nat) (l : LinkDevice) :
    attempt (Attempt.check (Program.perform (I := Exchange.interface) .openStream)) now l =
      ((l.openStream now).1, now, (l.openStream now).2) := rfl

theorem run_step (p : Program Exchange.interface α) (now : Nat) (l : LinkDevice) :
    (Program.run (I := Exchange.interface) Device.Bench.step p : StateM Device.Bench α)
        ⟨now, .link l⟩ =
      ((execute p now l).1, ⟨(execute p now l).2.1, .link (execute p now l).2.2⟩) := by
  induction p generalizing now l with
  | done a => rfl
  | ask op next ih => exact ih _ _ _

/-- **A driver on the bench of a link** gets what `attempt` says. -/
theorem bench_attempt (p : Attempt α) (now : Nat) (l : LinkDevice) :
    Device.Bench.attempt p ⟨now, .link l⟩ =
      ((attempt p now l).1, ⟨(attempt p now l).2.1, .link (attempt p now l).2.2⟩) :=
  run_step p.run now l

end LinkDevice

end ChillerGateway
