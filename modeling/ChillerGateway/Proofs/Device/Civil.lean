import ChillerGateway.Proofs.Device.Refusals

/-!
# Failures of drivers are never about a limit

Only a gateway limits its clients.  No device answers that a limit was reached, and no driver makes
such a failure of what a device answers.

* `Exchange.Civil` — an answer of a device that is no such failure.
* `Device.civil_exchange` — all answers are.
* `Command.unlimited_execute` — so no command fails in that way.
-/

namespace ChillerGateway

/-- A result that is not the refusal of a client over its limit. -/
def Unlimited {α : Type} (r : Except Error α) : Prop := r ≠ .error .rateLimited

theorem unlimited_ok {α : Type} (a : α) : Unlimited (.ok a) := fun h => by cases h

theorem Accepted.unlimited {α : Type} {r : Except Error α} (h : Accepted r) : Unlimited r :=
  fun heq => absurd (h _ heq) (by decide)

theorem Unlimited.map_error {α β : Type} {e : Error} (h : Unlimited (.error e : Except Error α)) :
    Unlimited (.error e : Except Error β) := by
  rintro ⟨⟩
  exact h rfl

/-- Whether an answer of a device is no failure because of a limit. -/
def Exchange.Civil : (op : Exchange) → op.Answer → Prop
  | .send _ => Unlimited
  | .simulated _ => Unlimited
  | _ => fun _ => True

namespace SimulatedDevice

variable {d : SimulatedDevice} {α : Type} {read : Bath → α × Bath}

theorem unlimited_reading : Unlimited (d.reading read).1 := by
  unfold reading reachable
  cases d.offline with
  | true => exact fun h => by cases h
  | false =>
    cases d.connected with
    | true => exact unlimited_ok _
    | false => exact fun h => by cases h

theorem unlimited_perform (d : SimulatedDevice) (now : Nat) (op : Operation) :
    Unlimited (d.perform now op).1 := by
  cases op with
  | connect =>
    unfold perform
    split
    · exact fun h => by cases h
    · exact unlimited_ok _
  | close => exact unlimited_ok _
  | setSetpoint value =>
    by_cases hv : Setpoint.InRange value
    · rw [perform_accepted hv]
      exact unlimited_reading
    · rw [perform_refused hv]
      exact fun h => by cases h
  | raw line =>
    have hreading : Unlimited (d.reading fun b => b.respond now line).1 := unlimited_reading
    obtain ⟨answer, after, heq⟩ : ∃ answer after,
        (d.reading fun b => b.respond now line) = (answer, after) := ⟨_, _, rfl⟩
    rw [heq] at hreading
    simp only [perform, heq]
    cases answer with
    | error e => exact hreading.map_error
    | ok answer =>
      show Unlimited (rawAnswer answer)
      unfold rawAnswer
      split
      · exact unlimited_ok _
      · split
        · exact fun h => by cases h
        · exact unlimited_ok _
  | identify | status | temperature | setpoint | isRunning | setRunning => exact unlimited_reading

end SimulatedDevice

/-- **No device answers that a limit was reached.** -/
theorem Device.civil_exchange (d : Device) (now : Nat) (op : Exchange) :
    op.Civil (d.exchange now op).2.1 := by
  cases op with
  | send line =>
    cases d with
    | link l => exact (l.accepted_send now line).unlimited
    | simulated d => exact unlimited_ok _
  | simulated op =>
    cases d with
    | link l => exact fun h => by cases h
    | simulated d => exact d.unlimited_perform now op
  | _ => trivial

open Attempt (AlongIf alongIf_bind)

theorem lenient_civil : Lenient Exchange.Civil fun _ => Unlimited where
  accepted := fun h => h.unlimited
  map_error := fun h => h.map_error
  closed := fun _ {_} h => by cases h
  sent := fun h => h

/-- An operation that clients have does not fail because of a limit. -/
theorem Backend.unlimited_perform (b : Backend) {op : Operation} (h : op.isOrdinary = true) :
    AlongIf (b.perform op) Exchange.Civil (fun _ _ => True) Unlimited := by
  by_cases hrefused : op.isRefused = true
  · -- A value that is refused fails as such, before anything is sent.
    cases op with
    | setSetpoint value =>
      cases b with
      | simulated => exact Backend.alongIf_simulated fun a ha => ⟨trivial, ha⟩
      | link timeout =>
        have hv : ¬ Setpoint.InRange value := by simpa [Operation.isRefused] using hrefused
        show AlongIf (Link.setSetpoint timeout value) _ _ _
        unfold Link.setSetpoint
        rw [Setpoint.validate_refused hv]
        exact fun h => by cases h
    | _ => cases hrefused
  · refine (b.steady_of_lenient h (fun _ _ => lenient_civil) (fun _ _ ha => ha) ?_).mono
      (fun _ _ h => h) (fun _ _ _ => trivial) fun _ h => h
    exact fun hyes => absurd hyes hrefused

/-- **No command fails because of a limit.** -/
theorem Command.unlimited_execute (b : Backend) (c : Command) :
    AlongIf (c.execute b) Exchange.Civil (fun _ _ => True) Unlimited := by
  have hone : ∀ {op : Operation} {f : op.Result → Json}, op.isOrdinary = true →
      AlongIf (do return f (← b.perform op)) Exchange.Civil (fun _ _ => True) Unlimited :=
    fun hop => alongIf_bind (b.unlimited_perform hop) (fun _ _ => unlimited_ok _)
      fun _ h => h.map_error
  cases c with
  | identify | status | getSetpoint | temperature | isRunning | start | stop | setRunning =>
    exact hone rfl
  | setSetpoint value =>
    exact alongIf_bind (b.unlimited_perform rfl) (fun _ _ => hone rfl) fun _ h => h.map_error
  | statusAll =>
    refine alongIf_bind (b.unlimited_perform rfl) (fun _ _ => ?_) fun _ h => h.map_error
    refine alongIf_bind (b.unlimited_perform rfl) (fun _ _ => ?_) fun _ h => h.map_error
    refine alongIf_bind (b.unlimited_perform rfl) (fun _ _ => ?_) fun _ h => h.map_error
    exact hone rfl
  | ping => exact unlimited_ok _

end ChillerGateway
