import ChillerGateway.Proofs.Device.Sending
import Mathlib.Data.List.Flatten
import Mathlib.Data.List.Perm.Subperm

/-!
# What becomes of the settings of a bath

The settings of a bath are its setpoint and its run flag.  Behind a link they change when the far
end reads a line that writes, and that can be long after the line went out.  So a step of a driver
leaves the settings alone if nothing comes of it but that lines are read which were under way
before.

* `Bath.obey` — what a line makes of the settings.
* `FarEnd.LeftAlone` — a far end that got no line that writes.
* `Exchange.spares` — steps of drivers that neither write nor open or close anything.
* `Device.leftAlone_exchange`, `Device.isConnected_exchange` — what such steps leave as it was.
-/

namespace ChillerGateway

/-! ## Lines and settings -/

namespace Bath

/-- The setpoint and the run flag. -/
def settings (b : Bath) : Binary64 × Bool := (b.setpoint, b.running)

/-- What a line makes of the settings. -/
def obey (settings : Binary64 × Bool) (line : String) : Binary64 × Bool :=
  match splitCommand line with
  | ("out_sp_00", arg) =>
    ((Binary64.parse? arg).filter (fun v => decide (Setpoint.InRange v)) |>.getD settings.1,
      settings.2)
  | ("out_mode_05", arg) => (settings.1, arg = "1")
  | _ => settings

/-- Whether a line is for changing the settings. -/
def isWrite (line : String) : Bool := ["out_sp_00", "out_mode_05"].contains (splitCommand line).1

theorem obey_of_not_isWrite {line : String} (h : isWrite line = false)
    (settings : Binary64 × Bool) : obey settings line = settings := by
  unfold isWrite at h
  unfold obey
  split
  · rename_i heq
    rw [heq] at h
    cases h
  · rename_i heq
    rw [heq] at h
    cases h
  · rfl

theorem settings_respond (b : Bath) (now : Nat) (line : String) :
    (b.respond now line).2.settings = obey b.settings line := by
  unfold respond obey
  obtain ⟨command, arg⟩ := splitCommand line
  simp only
  split
  case h_7 =>
    unfold writeSetpoint
    cases hv : Binary64.parse? arg with
    | none => simp [hv, settings]
    | some v =>
      by_cases hrange : Setpoint.InRange v
      · simp [hv, hrange, settings, update, Option.filter]
      · simp [hv, hrange, settings, Option.filter]
  case h_9 hsp hmode =>
    split
    · rename_i heq
      exact absurd (congrArg Prod.fst heq) hsp
    · rename_i heq
      exact absurd (congrArg Prod.fst heq) hmode
    · rfl
  all_goals rfl

end Bath

/-- The settings of the bath that answers, if it is one. -/
def Responder.settings? : Responder → Option (Binary64 × Bool)
  | .bath b => some b.settings
  | .script .. => none

theorem Responder.settings?_react (r : Responder) (now : Nat) (line : String) :
    (r.react now line).2.settings? = r.settings?.map fun settings => Bath.obey settings line := by
  cases r with
  | bath b =>
    unfold react
    simp only [settings?, Option.map_some, b.settings_respond]
  | script answers answerWrites =>
    rw [react_script]
    split <;> rfl

/-! ## Far ends -/

/-- The lines that wait on a connection and are for changing the settings. -/
def Session.writes (s : Session) : List String := (s.queue.map Prod.snd).filter Bath.isWrite

namespace FarEnd

/-- All such lines. -/
def writes (f : FarEnd) : List String := f.sessions.flatMap Session.writes

/-- No line arrived that is for changing the settings; what became of them came of lines that waited
before and wait no more. -/
def LeftAlone (f f' : FarEnd) : Prop :=
  ∃ read : List String,
    f'.responder.settings? = f.responder.settings?.map (fun settings => read.foldl Bath.obey settings) ∧
    (read ++ f'.writes).Subperm f.writes

variable {f f' f'' : FarEnd}

theorem LeftAlone.of_writes (hr : f'.responder = f.responder)
    (hw : f'.writes.Subperm f.writes) : LeftAlone f f' :=
  ⟨[], by simp [hr], hw⟩

theorem LeftAlone.refl (f : FarEnd) : LeftAlone f f := .of_writes rfl (List.Perm.refl _).subperm

theorem LeftAlone.trans (h : LeftAlone f f') (h' : LeftAlone f' f'') : LeftAlone f f'' := by
  obtain ⟨read, hs, hw⟩ := h
  obtain ⟨read', hs', hw'⟩ := h'
  refine ⟨read ++ read', ?_, ?_⟩
  · rw [hs', hs, Option.map_map]
    exact congrArg (Option.map · _) (funext fun settings => (List.foldl_append ..).symm)
  · rw [List.append_assoc]
    exact ((List.subperm_append_left read).mpr hw').trans hw

/-- What an act reads, and what is left on its connection. -/
theorem leftAlone_act (f : FarEnd) (s : Session) : ∃ read : List String,
    (f.act s).2.2.responder.settings? =
      f.responder.settings?.map (fun settings => read.foldl Bath.obey settings) ∧
    (read ++ (f.act s).1.toList.flatMap Session.writes).Subperm s.writes := by
  have hsame : f.responder.settings? = f.responder.settings?.map
      (fun settings => ([] : List String).foldl Bath.obey settings) := by simp
  cases hp : s.pending with
  | some p =>
    rw [act_deliver hp]
    refine ⟨[], hsame, ?_⟩
    split
    · exact List.nil_subperm
    · simp only [Option.toList_some, List.flatMap_cons, List.flatMap_nil, List.append_nil]
      exact (List.Perm.refl _).subperm
  | none =>
    cases hq : s.queue with
    | nil =>
      rw [act_idle hp hq]
      refine ⟨[], hsame, ?_⟩
      simp only [Option.toList_some, List.flatMap_cons, List.flatMap_nil, List.append_nil]
      exact (List.Perm.refl _).subperm
    | cons first queue =>
      obtain ⟨arrived, line⟩ := first
      rw [act_read hp hq]
      simp only [Responder.settings?_react, Option.toList_some, List.flatMap_cons,
        List.flatMap_nil, List.append_nil]
      cases hline : Bath.isWrite line with
      | true =>
        refine ⟨[line], by simp, ?_⟩
        simp only [Session.writes, hq, List.map_cons, List.filter_cons_of_pos hline]
        exact (List.Perm.refl _).subperm
      | false =>
        refine ⟨[], by simp [Bath.obey_of_not_isWrite hline], ?_⟩
        simp only [Session.writes, hq, List.map_cons, List.nil_append, List.filter_cons, hline,
          Bool.false_eq_true, if_false]
        exact (List.Perm.refl _).subperm

theorem leftAlone_actAt (f : FarEnd) (i : Nat) : LeftAlone f (f.actAt i).2 := by
  unfold actAt
  split
  · exact .refl f
  · rename_i s hs
    obtain ⟨read, hsettings, hwrites⟩ := f.leftAlone_act s
    refine ⟨read, hsettings, ?_⟩
    have hsplit : f.sessions = f.sessions.take i ++ s :: f.sessions.drop (i + 1) := by
      obtain ⟨hi, rfl⟩ := List.getElem?_eq_some_iff.mp hs
      rw [List.getElem_cons_drop, List.take_append_drop]
    have hall : f.writes = (f.sessions.take i).flatMap Session.writes ++
        (s.writes ++ (f.sessions.drop (i + 1)).flatMap Session.writes) := by
      unfold writes
      conv_lhs => rw [hsplit]
      rw [List.flatMap_append, List.flatMap_cons]
    rw [hall]
    unfold writes
    simp only [act_sessions]
    refine ((List.subperm_append_left read).mpr
      (List.filter_sublist.flatMap Session.writes).subperm).trans ?_
    rw [List.flatMap_append, List.flatMap_append, List.append_assoc]
    refine (List.perm_append_comm_assoc _ _ _).subperm.trans ?_
    refine (List.subperm_append_left _).mpr ?_
    rw [← List.append_assoc]
    exact (List.subperm_append_right _).mpr hwrites

/-- A change of the connections alone that brings no such line. -/
theorem LeftAlone.of_sessions {sessions : List Session} {opened : Nat}
    (h : (sessions.flatMap Session.writes).Subperm f.writes) :
    LeftAlone f { f with sessions, opened } := .of_writes rfl h

theorem leftAlone_connect (f : FarEnd) (now : Nat) : LeftAlone f (f.connect now) := by
  refine .of_sessions ?_
  rw [List.flatMap_append]
  exact (List.Perm.of_eq (List.append_nil f.writes)).subperm

theorem leftAlone_detach (f : FarEnd) : LeftAlone f f.detach := by
  refine .of_sessions ?_
  rw [List.flatMap_map]
  exact (List.Perm.refl _).subperm

theorem leftAlone_hangUp (f : FarEnd) : LeftAlone f f.hangUp :=
  .of_sessions (List.filter_sublist.flatMap Session.writes).subperm

/-- A line arrives that is for something else. -/
theorem leftAlone_arrive {line : String} (h : Bath.isWrite line = false) (f : FarEnd) (now : Nat) :
    LeftAlone f (f.arrive now line) := by
  refine .of_sessions ?_
  rw [List.flatMap_map]
  have hsame : (fun s : Session => Session.writes
      (if s.attached then { s with queue := s.queue ++ [(now, line)] } else s)) = Session.writes := by
    funext s
    split
    · simp [Session.writes, h]
    · rfl
  rw [hsame]
  exact (List.Perm.refl _).subperm

end FarEnd

/-! ## Steps of drivers -/

/-- Whether an operation reads from an open device. -/
def Operation.isReading : Operation → Bool
  | .identify | .status | .temperature | .setpoint | .isRunning => true
  | _ => false

/-- Whether an operation is one that clients have: it needs an open device, and leaves it open. -/
def Operation.isOrdinary : Operation → Bool
  | .connect | .close | .raw _ => false
  | _ => true

namespace Exchange

/-- Whether a step leaves a device open, or closed. -/
def isSteady : Exchange → Bool
  | .openStream | .dropStream => false
  | .simulated op => op.isOrdinary
  | _ => true

/-- Whether a step with its answer neither wrote nor opened or closed anything: a line that went out
asked for something, and a simulated bath was read, or refused. -/
def spares : (op : Exchange) → op.Answer → Bool
  | .send line => fun _ => Link.queries.contains line
  | .simulated op => fun a => op.isOrdinary && (op.isReading || a.toOption.isNone)
  | op => fun _ => op.isSteady

theorem isSteady_of_spares {op : Exchange} {a : op.Answer} (h : op.spares a = true) :
    op.isSteady = true := by
  cases op with
  | simulated op => exact (Bool.and_eq_true_iff.mp h).1
  | openStream | dropStream => cases h
  | _ => rfl

end Exchange

namespace LinkDevice

theorem leftAlone_advance (l : LinkDevice) (time settled : Nat) :
    l.farEnd.LeftAlone (l.advance time settled).farEnd :=
  advance_rel (R := fun l l' => l.farEnd.LeftAlone l'.farEnd) (fun l => .refl l.farEnd)
    (fun l _ _ h => (l.farEnd.leftAlone_actAt _).trans h) l time settled

theorem leftAlone_receiveFrom (start deadline fuel time : Nat) (l : LinkDevice) :
    l.farEnd.LeftAlone (receiveFrom start deadline fuel time l).2.2.farEnd :=
  receiveFrom_rel (R := fun l l' => l.farEnd.LeftAlone l'.farEnd) (fun l => .refl l.farEnd)
    (fun l _ h => farEnd_poll l ▸ h) (fun l _ _ _ h => (leftAlone_advance l _ _).trans h)
    start deadline fuel time l

/-- What asks for something is no line that writes, when it arrives. -/
theorem isWrite_trim_of_query {line : String} (h : Link.queries.contains line = true) :
    Bath.isWrite (Text.trim line) = false := by
  have hall : Link.queries.all fun line => !Bath.isWrite (Text.trim line) := by decide +kernel
  simpa using List.all_eq_true.mp hall line (List.contains_iff_mem.mp h)

/-- Only a line that writes does not leave the far end alone. -/
theorem leftAlone_exchange (l : LinkDevice) (now : Nat) {op : Exchange}
    (h : ∀ line, op = .send line → Link.queries.contains line = true) :
    l.farEnd.LeftAlone (l.exchange now op).2.2.farEnd := by
  cases op with
  | send line =>
    rcases l.send_cases now line with ⟨e, hsend | hsend⟩ | ⟨-, hsend⟩
    · simp only [exchange, hsend]
      exact .refl _
    · simp only [exchange, hsend]
      exact l.farEnd.leftAlone_hangUp
    · simp only [exchange, hsend]
      exact FarEnd.leftAlone_arrive (isWrite_trim_of_query (h line rfl)) _ _
  | openStream =>
    show l.farEnd.LeftAlone (l.openStream now).2.farEnd
    unfold openStream
    split
    · exact .refl _
    · exact .refl _
    · exact l.farEnd.leftAlone_connect now
  | dropStream => exact l.farEnd.leftAlone_detach
  | receive timeout => exact leftAlone_receiveFrom _ _ _ _ l
  | sleepUntil time =>
    simp only [exchange]
    split
    · exact leftAlone_advance l _ _
    · exact .refl _
  | _ => exact .refl _

theorem isSome_stream_advance (l : LinkDevice) (time settled : Nat) :
    (l.advance time settled).stream.isSome = l.stream.isSome :=
  advance_rel (R := fun l l' => l'.stream.isSome = l.stream.isSome) (fun _ => rfl)
    (fun l i _ h => h.trans (by simp [acted])) l time settled

theorem isSome_stream_poll (l : LinkDevice) : l.poll.2.stream.isSome = l.stream.isSome := by
  unfold poll
  cases hs : l.stream with
  | none => exact congrArg Option.isSome hs
  | some s => rfl

theorem isSome_stream_receiveFrom (start deadline fuel time : Nat) (l : LinkDevice) :
    (receiveFrom start deadline fuel time l).2.2.stream.isSome = l.stream.isSome :=
  receiveFrom_rel (R := fun l l' => l'.stream.isSome = l.stream.isSome) (fun _ => rfl)
    (fun l _ h => h.trans (isSome_stream_poll l))
    (fun l _ _ _ h => h.trans (isSome_stream_advance l _ _)) start deadline fuel time l

/-- A link stays open, or closed. -/
theorem isSome_stream_exchange (l : LinkDevice) (now : Nat) {op : Exchange}
    (h : op.isSteady = true) : (l.exchange now op).2.2.stream.isSome = l.stream.isSome := by
  cases op with
  | send line =>
    rcases l.send_cases now line with ⟨e, hsend | hsend⟩ | ⟨-, hsend⟩
    · simp only [exchange, hsend]
    · simp [exchange, hsend, hungUp]
    · simp only [exchange, hsend]
  | openStream | dropStream => cases h
  | receive timeout => exact isSome_stream_receiveFrom _ _ _ _ l
  | sleepUntil time =>
    simp only [exchange]
    split
    · exact isSome_stream_advance l _ _
    · rfl
  | clearInput => simp [exchange]
  | _ => rfl

end LinkDevice

namespace SimulatedDevice

variable {d : SimulatedDevice} {now : Nat} {op : Operation}

theorem connected_reading {α : Type} (read : Bath → α × Bath) :
    (d.reading read).2.connected = d.connected := by
  unfold reading
  split <;> rfl

/-- A reading that leaves the settings of every bath alone. -/
theorem settings_reading {α : Type} {read : Bath → α × Bath}
    (h : ∀ b, (read b).2.settings = b.settings) :
    (d.reading read).2.bath.settings = d.bath.settings := by
  unfold reading
  split
  · rfl
  · exact h d.bath

/-- A reading that failed. -/
theorem reading_of_failed {α : Type} {read : Bath → α × Bath}
    (h : (d.reading read).1.toOption = none) : (d.reading read).2 = d := by
  unfold reading at h ⊢
  split
  · rfl
  · rename_i hok
    rw [hok] at h
    cases h

theorem perform_refused {value : Binary64} (h : ¬ Setpoint.InRange value) :
    d.perform now (.setSetpoint value) = (.error (Setpoint.outOfRange value), d) := by
  simp only [perform, Setpoint.validate_refused h]

theorem perform_accepted {value : Binary64} (h : Setpoint.InRange value) :
    d.perform now (.setSetpoint value) =
      d.reading fun b => ((), { b.update now with setpoint := value }) := by
  simp only [perform, Setpoint.validate_accepted h]

theorem connected_perform (h : op.isOrdinary = true) :
    (d.perform now op).2.connected = d.connected := by
  cases op with
  | connect | close | raw => cases h
  | setSetpoint value =>
    by_cases hv : Setpoint.InRange value
    · rw [perform_accepted hv]
      exact connected_reading _
    · rw [perform_refused hv]
  | _ => exact connected_reading _

theorem settings_perform (h : op.isOrdinary = true)
    (ha : op.isReading = true ∨ (d.perform now op).1.toOption = none) :
    (d.perform now op).2.bath.settings = d.bath.settings := by
  cases op with
  | connect | close | raw => cases h
  | identify | status | temperature | setpoint | isRunning =>
    exact settings_reading fun b => rfl
  | setSetpoint value =>
    rcases ha with ha | ha
    · cases ha
    by_cases hv : Setpoint.InRange value
    · rw [perform_accepted hv] at ha ⊢
      exact congrArg (·.bath.settings) (reading_of_failed ha)
    · rw [perform_refused hv]
  | setRunning running =>
    rcases ha with ha | ha
    · cases ha
    · exact congrArg (·.bath.settings) (reading_of_failed ha)

end SimulatedDevice

namespace Device

/-- The settings are as they were, but for lines that had been under way to the bath. -/
def LeftAlone : Device → Device → Prop
  | simulated d, simulated d' => d'.bath.settings = d.bath.settings
  | link l, link l' => l.farEnd.LeftAlone l'.farEnd
  | _, _ => False

theorem LeftAlone.refl (d : Device) : LeftAlone d d := by
  cases d with
  | simulated d => exact rfl
  | link l => exact FarEnd.LeftAlone.refl _

/-- **Steps that neither write nor open or close anything leave the settings alone.** -/
theorem leftAlone_exchange (d : Device) (now : Nat) {op : Exchange}
    (h : op.spares (d.exchange now op).2.1 = true) : d.LeftAlone (d.exchange now op).2.2 := by
  cases d with
  | link l =>
    refine LinkDevice.leftAlone_exchange l now ?_
    rintro line rfl
    exact h
  | simulated d =>
    cases op with
    | simulated op =>
      obtain ⟨hop, ha⟩ := Bool.and_eq_true_iff.mp h
      refine SimulatedDevice.settings_perform hop ?_
      exact (Bool.or_eq_true_iff.mp ha).imp_right Option.isNone_iff_eq_none.mp
    | _ => exact rfl

/-- A device stays open, or closed. -/
theorem isConnected_exchange (d : Device) (now : Nat) {op : Exchange} (h : op.isSteady = true) :
    (d.exchange now op).2.2.isConnected = d.isConnected := by
  cases d with
  | link l => exact l.isSome_stream_exchange now h
  | simulated d =>
    cases op with
    | simulated op => exact SimulatedDevice.connected_perform h
    | _ => rfl

end Device

end ChillerGateway
