import ChillerGateway.Device.Link

/-!
# What operations over a link are made of

Every operation over a link, the readings after a write included, is put together from writes,
queries and pauses.  What holds of these and is kept by putting attempts together therefore holds of
every operation.

* `Link.Kept` — a property of attempts that putting them together keeps.
* `Link.Kept.verify` — by induction on the readings that are left.
* `Link.Kept.perform` — every operation; opening and closing the stream answer for themselves.
-/

namespace ChillerGateway

namespace Link

/-- A property of attempts that holds of results, writes, queries and pauses, and that is kept when
attempts are put together. -/
structure Kept (P : {α : Type} → Attempt α → Prop) : Prop where
  result : ∀ {α : Type} (r : Except Error α), P (ExceptT.mk (pure r))
  bind : ∀ {α β : Type} {p : Attempt α} {f : α → Attempt β}, P p → (∀ a, P (f a)) → P (p >>= f)
  outcome : ∀ {α : Type} {p : Attempt α}, P p → P (Attempt.outcome p)
  write : ∀ command, P (write command)
  query : ∀ timeout command, P (query timeout command)
  pause : P pause

namespace Kept

variable {P : {α : Type} → Attempt α → Prop}

theorem queryNumber (h : Kept P) (timeout : Nat) (command : String) :
    P (queryNumber timeout command) := by
  refine h.bind (h.query timeout command) fun answer => ?_
  split
  · exact h.result (.ok _)
  · exact h.result (.error _)

theorem queryRunning (h : Kept P) (timeout : Nat) : P (queryRunning timeout) :=
  h.bind (h.query timeout _) fun _ => h.result (.ok _)

theorem observe (h : Kept P) (timeout : Nat) (expected : Expected) :
    P (observe timeout expected) := by
  cases expected with
  | setpoint value => exact h.bind (h.queryNumber timeout _) fun _ => h.result (.ok _)
  | running running => exact h.bind (h.queryRunning timeout) fun _ => h.result (.ok _)

theorem verifyFrom (h : Kept P) (timeout : Nat) (expected : Expected) (attempts : Nat)
    (last : Option String) : P (verifyFrom timeout expected attempts last) := by
  induction attempts generalizing last with
  | zero =>
    unfold Link.verifyFrom
    exact h.result (.error _)
  | succ attempts ih =>
    have hagain : ∀ last, P (Link.verifyFrom.again timeout expected attempts last) := by
      intro last
      unfold Link.verifyFrom.again
      simp only
      split
      · exact h.bind h.pause fun _ => ih last
      · exact ih last
    unfold Link.verifyFrom
    refine h.bind (h.outcome (h.observe timeout expected)) fun seen => ?_
    split
    · exact h.result (.ok _)
    · exact hagain _
    · exact hagain _
    · exact h.result (.error _)

theorem verify (h : Kept P) (timeout : Nat) (expected : Expected) : P (verify timeout expected) :=
  h.verifyFrom timeout expected _ none

/-- **What holds of the parts of an operation holds of the operation.** -/
theorem perform (h : Kept P) (timeout : Nat) {op : Operation} (hconnect : op = .connect → P connect)
    (hclose : op = .close → P (Attempt.step .dropStream)) : P (perform timeout op) := by
  cases op with
  | connect => exact hconnect rfl
  | close => exact hclose rfl
  | identify => exact h.query timeout "version"
  | status => exact h.query timeout "status"
  | temperature => exact h.queryNumber timeout "in_pv_00"
  | setpoint => exact h.queryNumber timeout "in_sp_00"
  | isRunning => exact h.queryRunning timeout
  | setSetpoint value =>
    exact h.bind (h.result _) fun _ => h.bind (h.write _) fun _ => h.verify timeout _
  | setRunning running =>
    exact h.bind (h.write _) fun _ => h.bind (h.verify timeout _) fun _ => h.result (.ok _)
  | raw line => exact h.query timeout line

end Kept

end Link

end ChillerGateway
