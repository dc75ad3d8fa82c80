import ChillerGateway.Proofs.Device.Refusals

/-!
# Opening and closing a device

A device that is closed stays closed until its driver opens it, and only the operation that connects
does that: whatever else a client, a schedule or a check asks for, no answer makes a driver open or
close anything.

* `Exchange.opens`, `Exchange.closes` — the steps that do.
* `Device.isConnected_of_not_opens` — a closed device stays closed under all other steps.
* `Backend.steady_perform`, `Command.steady_execute` — the operations and commands that take neither.
-/

namespace ChillerGateway

/-! ## Steps -/

/-- Whether a device is reached by a link. -/
def Backend.isLink : Backend → Bool
  | .simulated => false
  | .link _ => true

namespace Exchange

/-- Whether a step can open a device. -/
def opens : Exchange → Bool
  | .openStream | .simulated .connect => true
  | _ => false

/-- Whether a step closes a device of that kind. -/
def closes (b : Backend) : Exchange → Bool
  | .dropStream => b.isLink
  | .simulated .close => !b.isLink
  | _ => false

theorem not_opens_of_isSteady {op : Exchange} (h : op.isSteady = true) : op.opens = false := by
  cases op with
  | openStream => cases h
  | simulated op =>
    cases op with
    | connect => cases h
    | _ => rfl
  | _ => rfl

end Exchange

namespace Device

/-- **A closed device stays closed** under every step that does not open it. -/
theorem isConnected_of_not_opens (d : Device) (now : Nat) {op : Exchange} (h : op.opens = false)
    (hd : d.isConnected = false) : (d.exchange now op).2.2.isConnected = false := by
  cases op with
  | openStream => cases h
  | dropStream =>
    cases d with
    | link => rfl
    | simulated => exact hd
  | simulated op =>
    cases d with
    | link => exact hd
    | simulated d =>
      cases op with
      | connect => cases h
      | close => rfl
      | raw line =>
        simp only [exchange, SimulatedDevice.perform]
        have hraw := d.connected_reading fun b => b.respond now line
        split
        all_goals
          rename_i heq
          rw [heq] at hraw
          exact hraw.trans hd
      | _ => exact ((Device.simulated d).isConnected_exchange now rfl).trans hd
  | _ => exact (d.isConnected_exchange now rfl).trans hd

/-- A step that closes a device leaves it closed. -/
theorem isConnected_of_closes (d : Device) (now : Nat) {op : Exchange}
    (h : op.closes d.backend = true) : (d.exchange now op).2.2.isConnected = false := by
  cases op with
  | dropStream =>
    cases d with
    | link => rfl
    | simulated => cases h
  | simulated op =>
    cases op with
    | close =>
      cases d with
      | link => cases h
      | simulated => rfl
    | _ => cases h
  | _ => cases h

end Device

/-! ## Drivers -/

open Attempt (AlongIf alongIf_bind)

/-- What opens and closes nothing, whatever is answered. -/
abbrev Attempt.IsSteady {α : Type} (p : Attempt α) : Prop :=
  AlongIf p (fun _ _ => True) Steady fun _ => True

namespace Attempt

variable {α β : Type}

theorem IsSteady.bind {p : Attempt α} {f : α → Attempt β} (h : p.IsSteady)
    (hf : ∀ a, (f a).IsSteady) : (p >>= f).IsSteady :=
  alongIf_bind h (fun a _ => hf a) fun _ _ => trivial

theorem IsSteady.pure (a : α) : (Pure.pure a : Attempt α).IsSteady := trivial

theorem isSteady_of_spared {p : Attempt α} {Q : Except Error α → Prop}
    (h : AlongIf p (fun _ _ => True) Spared Q) : p.IsSteady :=
  h.mono (fun _ _ h => h) (fun _ _ => Exchange.isSteady_of_spares) fun _ _ => trivial

end Attempt

open Attempt (IsSteady isSteady_of_spared)

/-- **An operation that clients have opens and closes nothing**, whatever is answered. -/
theorem Backend.steady_perform {op : Operation} (b : Backend) (h : op.isOrdinary = true) :
    (b.perform op).IsSteady :=
  b.steady_of_lenient (Q := fun _ _ => True) h (fun _ _ => lenient_true) (fun _ _ _ => trivial)
    fun _ _ => trivial

namespace Command

theorem steady_priorValue (b : Backend) (c : Command) : (c.priorValue b).IsSteady :=
  isSteady_of_spared (c.spared_priorValue b)

/-- **No command opens or closes anything.** -/
theorem steady_execute (b : Backend) (c : Command) : (c.execute b).IsSteady := by
  cases c with
  | setSetpoint value =>
    refine IsSteady.bind (b.steady_perform rfl) fun _ => ?_
    exact IsSteady.bind (b.steady_perform rfl) fun _ => IsSteady.pure _
  | start | stop | setRunning =>
    exact IsSteady.bind (b.steady_perform rfl) fun _ => IsSteady.pure _
  | _ => exact isSteady_of_spared (spared_execute b rfl)

end Command

end ChillerGateway
