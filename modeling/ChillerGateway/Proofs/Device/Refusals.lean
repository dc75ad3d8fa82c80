import ChillerGateway.Device.Execution
import ChillerGateway.Proofs.Device.Settings

/-!
# What a driver does before it refuses

An operation is refused because the device is closed, or because of the value that it came with.
Either shows before anything is written; whatever fails later fails with an error of another kind.

* `Error.rejects`, `Error.refuses` — the failures of requests and of drivers that mean a refusal.
* `Exchange.Given` — what a device that is open, or closed, may answer.
* `Lenient`, `Backend.steady_of_lenient` — what a driver comes to that opens and closes nothing.
* `Backend.closed_perform` — an operation on a closed device writes nothing.
* `Backend.open_perform` — an operation on an open device is not refused, unless for its value.
* `Command.closed_execute`, `Command.open_execute`, `Command.refused_execute` — the same of the
  commands of clients, and `Command.spared_execute` of those that change nothing.
-/

namespace ChillerGateway

/-! ## Refusals -/

namespace Error

/-- The kinds of failures with which a request is rejected. -/
def rejections : List String :=
  ["validation", "unknown_command", "unknown_device", "csv", "permission", "rate_limited",
    "read_only", "reconnecting"]

/-- Whether a request that failed like this was rejected. -/
def rejects (e : Error) : Bool := rejections.contains e.kind

/-- Whether a driver that failed like this refused what it was asked for. -/
def refuses (e : Error) : Bool := e.rejects || e == .notConnected

end Error

/-- Whether an operation is refused because of its value. -/
def Operation.isRefused : Operation → Bool
  | .setSetpoint value => !decide (Setpoint.InRange value)
  | _ => false

/-- A result that is no refusal. -/
def Accepted {α : Type} (r : Except Error α) : Prop := ∀ e, r = .error e → e.refuses = false

theorem accepted_ok {α : Type} (a : α) : Accepted (.ok a) := fun _ h => by cases h

theorem accepted_error {α : Type} {e : Error} (h : e.refuses = false) :
    Accepted (.error e : Except Error α) := by
  rintro _ ⟨⟩
  exact h

theorem Accepted.map_error {α β : Type} {e : Error} (h : Accepted (.error e : Except Error α)) :
    Accepted (.error e : Except Error β) := accepted_error (h e rfl)

/-! ## What a device may answer -/

/-- What a device may answer to its driver, by whether it is open. -/
def Exchange.Given (b : Backend) (live : Bool) : (op : Exchange) → op.Answer → Prop
  | .isOpen => fun a => ∀ timeout, b = .link timeout → a = live
  | .send _ => fun a => Accepted a
  | .simulated op => fun a => b = .simulated → op.isOrdinary = true →
    ((live = false ∨ op.isRefused = true) → a.toOption = none) ∧
      (¬ Accepted a → live = false ∨ op.isRefused = true)
  | _ => fun _ => True

/-- Whether a device is open for a driver of that kind. -/
def Device.isLive (b : Backend) : Device → Bool
  | .link l => b != .simulated && l.stream.isSome
  | .simulated d => d.connected

namespace SimulatedDevice

variable {d : SimulatedDevice} {α : Type} {read : Bath → α × Bath}

theorem reading_of_closed (h : d.connected = false) : (d.reading read).1.toOption = none := by
  unfold reading reachable
  rw [h]
  cases d.offline <;> rfl

theorem accepted_reading (h : d.connected = true) : Accepted (d.reading read).1 := by
  unfold reading reachable
  rw [h]
  cases d.offline with
  | true => exact accepted_error rfl
  | false => exact accepted_ok _

variable {now : Nat} {op : Operation}

/-- On a closed device, and with a value that is refused, nothing succeeds. -/
theorem perform_blocked (hop : op.isOrdinary = true)
    (h : d.connected = false ∨ op.isRefused = true) : (d.perform now op).1.toOption = none := by
  cases op with
  | connect | close | raw => cases hop
  | setSetpoint value =>
    by_cases hv : Setpoint.InRange value
    · rw [perform_accepted hv]
      exact reading_of_closed (h.resolve_right (by simp [Operation.isRefused, hv]))
    · rw [perform_refused hv]
      rfl
  | _ => exact reading_of_closed (h.resolve_right Bool.false_ne_true)

/-- Else nothing is refused. -/
theorem accepted_perform (hop : op.isOrdinary = true) (h : d.connected = true)
    (hvalue : op.isRefused = false) : Accepted (d.perform now op).1 := by
  cases op with
  | connect | close | raw => cases hop
  | setSetpoint value =>
    rw [perform_accepted (by simpa [Operation.isRefused] using hvalue)]
    exact accepted_reading h
  | _ => exact accepted_reading h

end SimulatedDevice

theorem LinkDevice.accepted_send (l : LinkDevice) (now : Nat) (line : String) :
    Accepted (l.send now line).1 := by
  unfold send
  split
  · rename_i e he
    refine accepted_error ?_
    unfold LineCodec.encode at he
    split at he
    · cases he
    · cases he
      rfl
  · split
    · exact accepted_error rfl
    · split
      · exact accepted_error rfl
      · split
        · exact accepted_ok _
        · exact accepted_ok _

/-- **What a device answers is what it may answer.** -/
theorem Device.given_exchange (b : Backend) (d : Device) (now : Nat) (op : Exchange) :
    op.Given b (d.isLive b) (d.exchange now op).2.1 := by
  cases op with
  | isOpen =>
    rintro timeout rfl
    cases d with
    | link l => exact (Bool.true_and _).symm
    | simulated d => rfl
  | send line =>
    cases d with
    | link l => exact l.accepted_send now line
    | simulated d => exact accepted_ok _
  | simulated op =>
    rintro rfl hop
    cases d with
    | link l => exact ⟨fun _ => rfl, fun _ => .inl rfl⟩
    | simulated d =>
      refine ⟨d.perform_blocked hop, fun hrefused => ?_⟩
      by_contra hnot
      obtain ⟨hlive, hvalue⟩ := not_or.mp hnot
      exact hrefused (d.accepted_perform hop (Bool.eq_true_of_not_eq_false hlive)
        (Bool.eq_false_of_not_eq_true hvalue))
  | _ => trivial

/-! ## Attempts -/

namespace Attempt

variable {H P : (op : Exchange) → op.Answer → Prop} {α β : Type}

/-- What holds of an attempt: of its questions with their answers, and of its result. -/
abbrev AlongIf (p : Attempt α) (H P : (op : Exchange) → op.Answer → Prop)
    (Q : Except Error α → Prop) : Prop :=
  Program.AlongIf (I := Exchange.interface) H P Q p.run

theorem alongIf_bind {p : Attempt α} {f : α → Attempt β} {Q : Except Error α → Prop}
    {R : Except Error β → Prop} (h : AlongIf p H P Q) (hok : ∀ a, Q (.ok a) → AlongIf (f a) H P R)
    (herror : ∀ e, Q (.error e) → R (.error e)) : AlongIf (p >>= f) H P R :=
  Program.AlongIf.bind h fun r hr => by
    cases r with
    | ok a => exact hok a hr
    | error e => exact herror e hr

theorem alongIf_step {op : Exchange} {Q : Except Error op.Answer → Prop}
    (h : ∀ a, H op a → P op a ∧ Q (.ok a)) : AlongIf (step op) H P Q := h

theorem alongIf_mk {r : Except Error α} {Q : Except Error α → Prop} (h : Q r) :
    AlongIf (ExceptT.mk (pure r)) H P Q := h

theorem alongIf_outcome {p : Attempt α} {Q : Except Error (Except Error α) → Prop}
    (h : AlongIf p H P fun r => Q (.ok r)) : AlongIf (outcome p) H P Q :=
  Program.AlongIf.bind h fun _ hr => hr

end Attempt

open Attempt (AlongIf alongIf_bind alongIf_step alongIf_mk alongIf_outcome)

/-- Nothing was written, opened or closed. -/
def Spared (op : Exchange) (a : op.Answer) : Prop := op.spares a = true

/-- Nothing was opened or closed. -/
def Steady (op : Exchange) (_ : op.Answer) : Prop := op.isSteady = true

/-- A condition on results that only a refusal can miss: a driver that may be answered what satisfies
`H` misses it on a closed stream only. -/
structure Lenient (H : (op : Exchange) → op.Answer → Prop)
    (Q : (α : Type) → Except Error α → Prop) : Prop where
  accepted : ∀ {α : Type} {r : Except Error α}, Accepted r → Q α r
  map_error : ∀ {α β : Type} {e : Error}, Q α (.error e) → Q β (.error e)
  closed : H .isOpen false → ∀ {α : Type}, Q α (.error .notConnected)
  sent : ∀ {line : String} {a : Except Error Unit}, H (.send line) a → Q Unit a

theorem lenient_open (timeout : Nat) :
    Lenient (Exchange.Given (.link timeout) true) fun _ => Accepted where
  accepted := fun h => h
  map_error := fun h => h.map_error
  closed := fun h => by cases h timeout rfl
  sent := fun h => h

/-- No condition at all. -/
theorem lenient_true {H : (op : Exchange) → op.Answer → Prop} : Lenient H fun _ _ => True where
  accepted := fun _ => trivial
  map_error := fun _ => trivial
  closed := fun _ _ => trivial
  sent := fun _ => trivial

namespace Link

variable {H : (op : Exchange) → op.Answer → Prop} {timeout : Nat} {command : String}

theorem spared_pace : AlongIf pace H Spared (· = .ok ()) := by
  intro last _
  refine ⟨rfl, ?_⟩
  cases last with
  | none => exact fun _ _ => ⟨rfl, fun _ _ => ⟨rfl, rfl⟩⟩
  | some last => exact fun _ _ => ⟨rfl, fun _ _ => ⟨rfl, fun _ _ => ⟨rfl, rfl⟩⟩⟩

/-- A command that asks for something. -/
theorem spared_write (h : queries.contains command = true) :
    AlongIf (write command) H Spared fun _ => True := by
  refine alongIf_bind spared_pace (fun _ _ => ?_) fun _ _ => trivial
  refine alongIf_bind (alongIf_step (Q := fun _ => True) fun _ _ => ⟨rfl, trivial⟩) (fun live _ => ?_)
    fun _ _ => trivial
  cases live with
  | false => exact trivial
  | true => exact fun _ _ => ⟨rfl, fun _ _ => ⟨h, trivial⟩⟩

/-- No line goes out on a stream that is closed. -/
theorem closed_write : AlongIf (write command) (Exchange.Given (.link timeout) false) Spared
    fun r => ∃ e, r = .error e := by
  refine alongIf_bind spared_pace (fun _ _ => ?_) fun e _ => ⟨e, rfl⟩
  refine alongIf_bind (alongIf_step (Q := (· = .ok false)) fun a ha => ⟨rfl, ?_⟩) (fun live hlive => ?_)
    fun e _ => ⟨e, rfl⟩
  · exact congrArg Except.ok (ha timeout rfl)
  · cases hlive
    exact ⟨_, rfl⟩

theorem accepted_answerOf (r : Reception) : Accepted (answerOf r) := by
  cases r with
  | line answer =>
    unfold answerOf
    split
    all_goals first
      | exact accepted_error rfl
      | split
        · exact accepted_error rfl
        · exact accepted_ok _
  | _ => exact accepted_error rfl

theorem spared_query (h : queries.contains command = true) :
    AlongIf (query timeout command) H Spared fun _ => True :=
  alongIf_bind (spared_write h) (fun _ _ _ _ => ⟨rfl, trivial⟩) fun _ _ => trivial

theorem closed_query : AlongIf (query timeout command) (Exchange.Given (.link timeout) false) Spared
    fun r => ∃ e, r = .error e := by
  refine alongIf_bind closed_write (fun _ h => ?_) fun e _ => ⟨e, rfl⟩
  obtain ⟨_, h⟩ := h
  cases h

theorem steady_pace : AlongIf pace H Steady (· = .ok ()) :=
  spared_pace.mono (fun _ _ h => h) (fun _ _ => Exchange.isSteady_of_spares) fun _ h => h

theorem steady_pause : AlongIf pause H Steady (· = .ok ()) :=
  fun _ _ => ⟨rfl, fun _ _ => ⟨rfl, rfl⟩⟩

section

variable {Q : (α : Type) → Except Error α → Prop}

/-- A command is refused on a closed stream only. -/
theorem steady_write (hQ : Lenient H Q) : AlongIf (write command) H Steady (Q Unit) := by
  refine alongIf_bind steady_pace (fun _ _ live hlive => ⟨rfl, ?_⟩) fun e h => by cases h
  cases live with
  | false => exact hQ.closed hlive
  | true => exact fun _ _ => ⟨rfl, fun _ hsent => ⟨rfl, hQ.sent hsent⟩⟩

theorem steady_query (hQ : Lenient H Q) : AlongIf (query timeout command) H Steady (Q String) :=
  alongIf_bind (steady_write hQ) (fun _ _ a _ => ⟨rfl, hQ.accepted (accepted_answerOf a)⟩)
    fun _ => hQ.map_error

theorem steady_queryNumber (hQ : Lenient H Q) :
    AlongIf (queryNumber timeout command) H Steady (Q Binary64) := by
  refine alongIf_bind (steady_query hQ) (fun answer _ => ?_) fun _ => hQ.map_error
  split
  · exact hQ.accepted (accepted_ok _)
  · exact hQ.accepted (accepted_error rfl)

theorem steady_queryRunning (hQ : Lenient H Q) :
    AlongIf (queryRunning timeout) H Steady (Q Bool) :=
  alongIf_bind (steady_query hQ) (fun _ _ => hQ.accepted (accepted_ok _)) fun _ => hQ.map_error

theorem steady_observe (hQ : Lenient H Q) (expected : Expected) :
    AlongIf (observe timeout expected) H Steady (Q _) := by
  cases expected with
  | setpoint value =>
    exact alongIf_bind (steady_queryNumber hQ) (fun _ _ => hQ.accepted (accepted_ok _))
      fun _ => hQ.map_error
  | running running =>
    exact alongIf_bind (steady_queryRunning hQ) (fun _ _ => hQ.accepted (accepted_ok _))
      fun _ => hQ.map_error

/-- The readings after a write end with a failure of their own, if they fail. -/
theorem steady_verifyFrom (hQ : Lenient H Q) (expected : Expected) (attempts : Nat)
    (last : Option String) :
    AlongIf (verifyFrom timeout expected attempts last) H Steady (Q Unit) := by
  induction attempts generalizing last with
  | zero =>
    rw [verifyFrom]
    apply hQ.accepted
    apply accepted_error
    cases last <;> rfl
  | succ attempts ih =>
    have hagain : ∀ last, AlongIf (verifyFrom.again timeout expected attempts last) H Steady
        (Q Unit) := by
      intro last
      rw [verifyFrom.again]
      split
      · exact alongIf_bind steady_pause (fun _ _ => ih last) fun e h => by cases h
      · exact ih last
    rw [verifyFrom]
    refine alongIf_bind (alongIf_outcome (Q := fun r => ∃ x, r = .ok x ∧ Q _ x) ?_)
      (fun outcome ho => ?_) fun e h => by obtain ⟨_, h, -⟩ := h; cases h
    · exact (steady_observe hQ expected).mono (fun _ _ h => h) (fun _ _ h => h)
        fun x hx => ⟨x, rfl, hx⟩
    · obtain ⟨x, heq, hx⟩ := ho
      cases heq
      split
      · exact hQ.accepted (accepted_ok _)
      · exact hagain _
      · exact hagain _
      · exact hQ.map_error hx

theorem steady_setSetpoint (hQ : Lenient H Q) {value : Binary64}
    (hvalue : Operation.isRefused (.setSetpoint value) = true → ∀ r, Q Unit r) :
    AlongIf (setSetpoint timeout value) H Steady (Q Unit) := by
  unfold setSetpoint
  by_cases hv : Setpoint.InRange value
  · rw [Setpoint.validate_accepted hv]
    refine alongIf_bind (alongIf_mk (Q := (· = .ok ())) rfl) (fun _ _ => ?_) fun e h => by cases h
    exact alongIf_bind (steady_write hQ) (fun _ _ => steady_verifyFrom hQ _ _ _)
      fun _ => hQ.map_error
  · have hrefused : Operation.isRefused (.setSetpoint value) = true := by
      simpa [Operation.isRefused] using hv
    rw [Setpoint.validate_refused hv]
    exact hvalue hrefused _

theorem steady_setRunning (hQ : Lenient H Q) (running : Bool) :
    AlongIf (setRunning timeout running) H Steady (Q Bool) := by
  refine alongIf_bind (steady_write hQ) (fun _ _ => ?_) fun _ => hQ.map_error
  exact alongIf_bind (steady_verifyFrom hQ _ _ _) (fun _ _ => hQ.accepted (accepted_ok _))
    fun _ => hQ.map_error

end

end Link

/-! ## Operations -/

namespace Backend

variable {H : (op : Exchange) → op.Answer → Prop} {op : Operation} {live : Bool}

/-- One question for a simulated bath. -/
theorem alongIf_simulated {P : (op : Exchange) → op.Answer → Prop}
    {Q : Except Error op.Result → Prop}
    (h : ∀ a : Except Error op.Result, H (.simulated op) a → P (.simulated op) a ∧ Q a) :
    AlongIf (Backend.simulated.perform op) H P Q := h

/-- **A reading writes nothing**, whatever is answered. -/
theorem spared_perform (b : Backend) (h : op.isReading = true) :
    AlongIf (b.perform op) H Spared fun _ => True := by
  cases b with
  | simulated =>
    refine alongIf_simulated fun a _ => ⟨?_, trivial⟩
    cases op with
    | identify | status | temperature | setpoint | isRunning => rfl
    | connect | close | raw | setSetpoint | setRunning => cases h
  | link timeout =>
    cases op with
    | identify | status => exact Link.spared_query (by decide)
    | temperature | setpoint =>
      refine alongIf_bind (Link.spared_query (by decide)) (fun answer _ => ?_) fun _ _ => trivial
      split
      · exact trivial
      · exact trivial
    | isRunning =>
      exact alongIf_bind (Link.spared_query (by decide)) (fun _ _ => trivial) fun _ _ => trivial
    | connect | close | raw | setSetpoint | setRunning => cases h

/-- **On a closed device nothing is written.** -/
theorem closed_perform (b : Backend) (h : op.isOrdinary = true) :
    AlongIf (b.perform op) (Exchange.Given b false) Spared fun _ => True := by
  cases b with
  | simulated =>
    refine alongIf_simulated fun a ha => ⟨?_, trivial⟩
    have hnone : a.toOption = none := (ha rfl h).1 (.inl rfl)
    show (op.isOrdinary && (op.isReading || a.toOption.isNone)) = true
    rw [h, hnone]
    simp
  | link timeout =>
    have hquery : ∀ {command α} {f : String → Attempt α}, AlongIf (Link.query timeout command >>= f)
        (Exchange.Given (.link timeout) false) Spared fun _ => True := fun {_ _ _} =>
      alongIf_bind Link.closed_query (fun _ h => by obtain ⟨_, h⟩ := h; cases h) fun _ _ => trivial
    have hwrite : ∀ {command α} {f : Unit → Attempt α}, AlongIf (Link.write command >>= f)
        (Exchange.Given (.link timeout) false) Spared fun _ => True := fun {_ _ _} =>
      alongIf_bind Link.closed_write (fun _ h => by obtain ⟨_, h⟩ := h; cases h) fun _ _ => trivial
    cases op with
    | connect | close | raw => cases h
    | identify | status =>
      exact Link.closed_query.mono (fun _ _ h => h) (fun _ _ h => h) fun _ _ => trivial
    | temperature | setpoint | isRunning => exact hquery
    | setSetpoint value =>
      show AlongIf (Link.setSetpoint timeout value) _ _ _
      unfold Link.setSetpoint
      generalize Setpoint.validate value = valid
      exact alongIf_bind (alongIf_mk (Q := fun _ => True) trivial) (fun _ _ => hwrite)
        fun _ _ => trivial
    | setRunning running => exact hwrite

/-- **An operation that clients have opens and closes nothing,** and only a refusal of its value, or
a closed stream, keeps it from a result as it may be demanded. -/
theorem steady_of_lenient {Q : (α : Type) → Except Error α → Prop} (b : Backend)
    (h : op.isOrdinary = true) (hlink : ∀ timeout, b = .link timeout → Lenient H Q)
    (hsimulated : ∀ a : Except Error op.Result, b = .simulated → H (.simulated op) a → Q op.Result a)
    (hvalue : op.isRefused = true → ∀ r, Q op.Result r) :
    AlongIf (b.perform op) H Steady (Q op.Result) := by
  cases b with
  | simulated => exact alongIf_simulated fun a ha => ⟨h, hsimulated a rfl ha⟩
  | link timeout =>
    have hQ := hlink timeout rfl
    cases op with
    | connect | close | raw => cases h
    | identify | status => exact Link.steady_query hQ
    | temperature =>
      show AlongIf (Link.queryNumber timeout "in_pv_00") _ _ _
      exact Link.steady_queryNumber hQ
    | setpoint =>
      show AlongIf (Link.queryNumber timeout "in_sp_00") _ _ _
      exact Link.steady_queryNumber hQ
    | isRunning => exact Link.steady_queryRunning hQ
    | setSetpoint value => exact Link.steady_setSetpoint hQ hvalue
    | setRunning running => exact Link.steady_setRunning hQ running

/-- **On an open device nothing is refused, unless for its value.** -/
theorem open_perform (b : Backend) (h : op.isOrdinary = true) (hvalue : op.isRefused = false) :
    AlongIf (b.perform op) (Exchange.Given b true) Steady Accepted := by
  refine b.steady_of_lenient (Q := fun _ => Accepted) h ?_ ?_ ?_
  · rintro timeout rfl
    exact lenient_open timeout
  · rintro a rfl ha
    by_contra hnot
    rcases (ha rfl h).2 hnot with hlive | hrefused
    · cases hlive
    · exact Bool.false_ne_true (hvalue.symm.trans hrefused)
  · intro hrefused
    cases hvalue.symm.trans hrefused

/-- **A value that is refused is not written.** -/
theorem refused_perform (b : Backend) (hvalue : op.isRefused = true) :
    AlongIf (b.perform op) (Exchange.Given b live) Spared fun r => ∃ e, r = .error e := by
  cases op with
  | setSetpoint value =>
    have hv : ¬ Setpoint.InRange value := by simpa [Operation.isRefused] using hvalue
    cases b with
    | simulated =>
      refine alongIf_simulated fun a ha => ?_
      have hnone : a.toOption = none := (ha rfl rfl).1 (.inr hvalue)
      cases a with
      | ok => cases hnone
      | error e => exact ⟨rfl, e, rfl⟩
    | link timeout =>
      show AlongIf (Link.setSetpoint timeout value) _ _ _
      unfold Link.setSetpoint
      rw [Setpoint.validate_refused hv]
      exact ⟨_, rfl⟩
  | _ => cases hvalue

end Backend

/-! ## Commands -/

namespace Command

variable {H : (op : Exchange) → op.Answer → Prop} {c : Command} {live : Bool}

/-- Whether a command is refused because of its value. -/
def isRefused : Command → Bool
  | setSetpoint value => Operation.isRefused (.setSetpoint value)
  | _ => false

/-- The reading before a command. -/
theorem spared_priorValue (b : Backend) (c : Command) :
    AlongIf (c.priorValue b) H Spared fun _ => True := by
  cases c with
  | setSetpoint value =>
    exact alongIf_bind (alongIf_outcome (Q := fun _ => True) (b.spared_perform rfl))
      (fun _ _ => trivial) fun _ _ => trivial
  | start | stop | setRunning running =>
    exact alongIf_bind (alongIf_outcome (Q := fun _ => True) (b.spared_perform rfl))
      (fun _ _ => trivial) fun _ _ => trivial
  | identify | status | getSetpoint | temperature | isRunning | statusAll | ping => exact trivial

/-- Status, temperature, setpoint and run state are readings. -/
theorem spared_overview (b : Backend) : AlongIf (overview b) H Spared fun _ => True := by
  refine alongIf_bind (b.spared_perform rfl) (fun _ _ => ?_) fun _ _ => trivial
  refine alongIf_bind (b.spared_perform rfl) (fun _ _ => ?_) fun _ _ => trivial
  refine alongIf_bind (b.spared_perform rfl) (fun _ _ => ?_) fun _ _ => trivial
  exact alongIf_bind (b.spared_perform rfl) (fun _ _ => trivial) fun _ _ => trivial

/-- **A command that changes nothing writes nothing.** -/
theorem spared_execute (b : Backend) (h : c.isMutating = false) :
    AlongIf (c.execute b) H Spared fun _ => True := by
  cases c with
  | setSetpoint | start | stop | setRunning => cases (show true = false from h)
  | identify | status | getSetpoint | temperature | isRunning =>
    exact alongIf_bind (b.spared_perform rfl) (fun _ _ => trivial) fun _ _ => trivial
  | statusAll => exact spared_overview b
  | ping => exact trivial

/-- **No command writes anything on a closed device.** -/
theorem closed_execute (b : Backend) (c : Command) :
    AlongIf (c.execute b) (Exchange.Given b false) Spared fun _ => True := by
  cases c with
  | setSetpoint value =>
    refine alongIf_bind (b.closed_perform rfl) (fun _ _ => ?_) fun _ _ => trivial
    exact alongIf_bind (b.closed_perform rfl) (fun _ _ => trivial) fun _ _ => trivial
  | start | stop | setRunning running =>
    exact alongIf_bind (b.closed_perform rfl) (fun _ _ => trivial) fun _ _ => trivial
  | _ => exact spared_execute b rfl

/-- **No command is refused on an open device, unless for its value.** -/
theorem open_execute (b : Backend) (h : c.isMutating = true) (hvalue : c.isRefused = false) :
    AlongIf (c.execute b) (Exchange.Given b true) Steady Accepted := by
  cases c with
  | setSetpoint value =>
    refine alongIf_bind (b.open_perform rfl hvalue) (fun _ _ => ?_) fun _ h => h.map_error
    exact alongIf_bind (b.open_perform rfl rfl) (fun _ _ => accepted_ok _) fun _ h => h.map_error
  | start | stop | setRunning running =>
    exact alongIf_bind (b.open_perform rfl rfl) (fun _ _ => accepted_ok _) fun _ h => h.map_error
  | _ => exact absurd h (by decide)

/-- **A command with a value that is refused writes nothing.** -/
theorem refused_execute (b : Backend) (hvalue : c.isRefused = true) :
    AlongIf (c.execute b) (Exchange.Given b live) Spared fun _ => True := by
  cases c with
  | setSetpoint value =>
    refine alongIf_bind (b.refused_perform hvalue) (fun _ h => ?_) fun _ _ => trivial
    obtain ⟨_, h⟩ := h
    cases h
  | _ => cases hvalue

end Command

end ChillerGateway
