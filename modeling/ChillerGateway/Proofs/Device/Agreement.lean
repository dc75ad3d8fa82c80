import ChillerGateway.Proofs.Device.SetSetpoint
import ChillerGateway.Proofs.Device.Settings

/-!
# A link to a bath and the bath at hand

A bath that answers at once is the same device whether its driver holds it in hand or reaches it
over a link.  One driver assigns a field; the other writes a line, lets the far end read it and
confirms it by what comes back.  Of operations one after another both come to the same results, and
they leave the same settings behind.

* `Operation.IsComparable` — the operations for which that holds: all but those that tell a
  temperature or take a raw line, and with setpoints that survive being written, or are refused.
* `LinkDevice.Shut` — a closed link with nothing under way.
* `Twins` — a link and a bath at hand that cannot be told apart, between two operations.
* `Twins.perform` — an operation comes to the same on both, and leaves them so.
* `Device.performAll_agree` — any operations after one another.
-/

namespace ChillerGateway

open Binary64

/-! ## What is compared -/

/-- A number that is the same again when it is read from its text with so many places. -/
def Binary64.Survives (places : Nat) (x : Binary64) : Prop := parse? (x.toFixed places) = some x

instance (places : Nat) (x : Binary64) : Decidable (x.Survives places) := by
  unfold Binary64.Survives; infer_instance

namespace Setpoint

variable {x : Binary64}

theorem written_of_survives (hx : InRange x) (h : x.Survives 1) : written x = x :=
  Option.some.inj ((parse?_sent hx).symm.trans h)

/-- An accepted value that survives one place survives two. -/
theorem survives_two (hx : InRange x) (h : x.Survives 1) : x.Survives 2 := by
  have hshown := parse?_shown hx
  rw [written_of_survives hx h] at hshown
  exact hshown

end Setpoint

/-- Operations that a link and a bath at hand can be compared by; a value is refused, or survives
being written with one place. -/
def Operation.IsComparable : Operation → Prop
  | .temperature | .raw _ => False
  | .setSetpoint value => ¬ Setpoint.InRange value ∨ value.Survives 1
  | _ => True

instance (op : Operation) : Decidable op.IsComparable := by
  unfold Operation.IsComparable; split <;> infer_instance

namespace Bath

/-- A bath of which identity and setpoint are had as they are. -/
structure Legible (b : Bath) : Prop where
  identity : Link.IsReply b.identity
  setpoint : b.setpoint.Survives 2

instance (b : Bath) : Decidable b.Legible :=
  decidable_of_iff (Link.IsReply b.identity ∧ b.setpoint.Survives 2)
    ⟨fun ⟨hidentity, hsetpoint⟩ => ⟨hidentity, hsetpoint⟩, fun h => ⟨h.identity, h.setpoint⟩⟩

/-- Baths that differ in nothing but the course of their temperature. -/
structure Alike (b b' : Bath) : Prop where
  setpoint : b.setpoint = b'.setpoint
  running : b.running = b'.running
  identity : b.identity = b'.identity

variable {b b' : Bath}

theorem Alike.status (h : Alike b b') : b.status = b'.status := by
  unfold Bath.status
  rw [h.running]

end Bath

/-! ## A closed link -/

namespace LinkDevice

/-- A closed link to a bath that has read all that was sent. -/
structure Shut (l : LinkDevice) (b : Bath) : Prop where
  responder : l.farEnd.responder = .bath b
  stream : l.stream = none
  sessions : ∀ s ∈ l.farEnd.sessions, s.IsIdle ∧ s.attached = false

variable {l : LinkDevice} {now timeout : Nat} {b : Bath}

namespace Shut

/-- Waiting changes nothing. -/
theorem advance (h : Shut l b) (time settled : Nat) : l.advance time settled = l :=
  advanceFrom_idle (FarEnd.next?_eq_none_of_idle fun s hs => (h.sessions s hs).1) _ _ _

theorem ready (h : Shut l b) (now : Nat) : (l.ready now).2 = l := by
  unfold LinkDevice.ready
  split
  · rfl
  · split
    · exact h.advance _ _
    · rfl

/-- **Nothing goes out on a closed link**, whatever is to follow. -/
theorem write_bind (h : Shut l b) (now : Nat) (command : String) {α : Type}
    (f : Unit → Attempt α) :
    ∃ time l', attempt (Link.write command >>= f) now l = (.error .notConnected, time, l') ∧
      Shut l' b := by
  have hready := h.ready now
  have hwrite := attempt_write_closed (by rw [hready]; exact h.stream) command
  refine ⟨_, _, attempt_bind_error hwrite, ?_⟩
  rw [hready]
  exact ⟨h.responder, h.stream, h.sessions⟩

theorem query_bind (h : Shut l b) (now timeout : Nat) (command : String) {α : Type}
    (f : String → Attempt α) :
    ∃ time l', attempt (Link.query timeout command >>= f) now l =
      (.error .notConnected, time, l') ∧ Shut l' b := by
  obtain ⟨time, l', hquery, hshut⟩ := h.write_bind now command
    fun _ => do ExceptT.mk (pure (Link.answerOf (← Attempt.step (.receive timeout))))
  exact ⟨time, l', attempt_bind_error hquery, hshut⟩

/-- A closed link is opened. -/
theorem connect (h : Shut l b) (hr : l.refusals = some 0) (now : Nat) :
    ∃ l', attempt Link.connect now l = (.ok (), now, l') ∧ Serving l' now b := by
  obtain ⟨hok, hserving⟩ := serving_openStream h.responder hr h.sessions now
  refine ⟨{ (l.openStream now).2 with lastCommand := none }, ?_, hserving.responder,
    hserving.stream, hserving.sessions⟩
  rw [attempt_connect_closed h.stream]
  generalize l.openStream now = opened at hok
  obtain ⟨result, l'⟩ := opened
  cases hok
  rfl

end Shut

/-- A link is closed, and the far end has nothing left to read. -/
theorem shut_dropped (hb : l.farEnd.responder = .bath b)
    (hs : ∀ s ∈ l.farEnd.sessions, s.IsIdle) :
    Shut { l with stream := none, farEnd := l.farEnd.detach } b := by
  refine ⟨hb, rfl, ?_⟩
  intro s hmem
  obtain ⟨o, ho, rfl⟩ := List.mem_map.mp hmem
  exact ⟨hs o ho, rfl⟩

theorem Serving.isIdle (h : Serving l now b) : ∀ s ∈ l.farEnd.sessions, s.IsIdle := by
  obtain ⟨old, s, hf, ho, hs, -⟩ := h.sessions
  intro o hmem
  rw [hf, List.mem_append, List.mem_singleton] at hmem
  rcases hmem with hmem | rfl
  · exact (ho o hmem).1
  · exact hs

/-! ## Openings are never refused -/

theorem refusals_exchange (h : l.refusals = some 0) (now : Nat) (op : Exchange) :
    (l.exchange now op).2.2.refusals = some 0 := by
  have hadvance : ∀ (l : LinkDevice) time settled,
      (l.advance time settled).refusals = l.refusals :=
    advance_rel (R := fun l l' => l'.refusals = l.refusals) (fun _ => rfl)
      fun l i _ h => h
  have hpoll : ∀ l : LinkDevice, l.poll.2.refusals = l.refusals := by
    intro l
    unfold poll
    split <;> rfl
  cases op with
  | openStream =>
    show (l.openStream now).2.refusals = some 0
    unfold openStream
    rw [h]
  | send line =>
    rcases l.send_cases now line with ⟨e, hsend | hsend⟩ | ⟨-, hsend⟩
    · simpa only [exchange, hsend] using h
    · simpa only [exchange, hsend, hungUp] using h
    · simpa only [exchange, hsend] using h
  | receive timeout =>
    have hreceive := receiveFrom_rel (R := fun l l' => l'.refusals = l.refusals) (fun _ => rfl)
      (fun l _ h => h.trans (hpoll l)) (fun l _ _ _ h => h.trans (hadvance l _ _))
      now (now + timeout) (l.farEnd.work + 1) now l
    exact hreceive.trans h
  | sleepUntil time =>
    simp only [exchange]
    split
    · exact (hadvance l _ _).trans h
    · exact h
  | _ => exact h

/-- No driver makes openings be refused. -/
theorem refusals_attempt {α : Type} (p : Attempt α) (h : l.refusals = some 0) (now : Nat) :
    (attempt p now l).2.2.refusals = some 0 := by
  suffices hall : ∀ (p : Program Exchange.interface (Except Error α)) (now : Nat) (l : LinkDevice),
      l.refusals = some 0 → (execute p now l).2.2.refusals = some 0 from hall p.run now l h
  intro p
  induction p with
  | done a => exact fun _ _ h => h
  | ask op next ih => exact fun now l h => ih _ _ _ (refusals_exchange h now op)

/-! ## Setting an open link -/

/-- A value that survives being written is kept as it is. -/
theorem Serving.setSetpoint (h : Serving l now b) {x : Binary64} (hx : Setpoint.InRange x)
    (hs : x.Survives 1) (ht : 0 < timeout) :
    ∃ time l' sent, attempt (Link.perform timeout (.setSetpoint x)) now l = (.ok (), time, l') ∧
      Serving l' time { b.update sent with setpoint := x } := by
  obtain ⟨time, l', sent, hset, hserving⟩ := setSetpoint_kept h hx ht
  rw [Setpoint.written_of_survives hx hs, if_pos (Setpoint.near_self hx.isFinite)] at hset
  rw [Setpoint.written_of_survives hx hs] at hserving
  exact ⟨time, l', sent, hset, hserving⟩

theorem Serving.setRunning (h : Serving l now b) (running : Bool) (ht : 0 < timeout) :
    ∃ time l' sent,
      attempt (Link.perform timeout (.setRunning running)) now l = (.ok running, time, l') ∧
        Serving l' time { b.update sent with running } := by
  have hfits := (Link.runFlag_fits running).1
  obtain ⟨l₁, hwrite, hsent, hlast⟩ := h.paced.write hfits.isLine hfits.length_le
  rw [hfits.trim_eq] at hsent
  have hpaced := hsent.paced (Bath.respond_writeMode b _ running) hlast
  obtain ⟨time, l', -, hread, hserving⟩ := hpaced.reads_running ht
  refine ⟨time, l', _, ?_, hserving⟩
  have hobserve : attempt (Link.observe timeout (.running running)) (l.ready now).1 l₁ =
      (.ok (true, Link.runningText running), time, l') := by
    unfold Link.observe
    rw [attempt_bind_ok hread, attempt_pure]
    simp
  unfold Link.perform Link.setRunning
  rw [attempt_bind_ok hwrite]
  exact attempt_bind_ok (verifyFrom_seen hobserve 2 none)

end LinkDevice

/-! ## One operation -/

/-- A link and a bath at hand that are open or closed together and show the same. -/
structure Twins (now : Nat) (l : LinkDevice) (d : SimulatedDevice) : Prop where
  refusals : l.refusals = some 0
  online : d.offline = false
  legible : d.bath.Legible
  bath : ∃ b, b.Alike d.bath ∧ if d.connected then l.Serving now b else l.Shut b

namespace Twins

open LinkDevice (attempt attempt_bind_ok)

variable {l : LinkDevice} {now timeout : Nat} {b bath : Bath} {op : Operation}

/-- An operation on an open link comes to what it comes to on the bath at hand. -/
theorem perform_open (h : l.Serving now b) (ha : b.Alike bath) (hl : bath.Legible)
    (hop : op.IsComparable) (hordinary : op.isOrdinary = true) (ht : 0 < timeout) (clock : Nat) :
    ∃ result time l' b' bath', attempt (Link.perform timeout op) now l = (result, time, l') ∧
      SimulatedDevice.perform ⟨bath, true, false⟩ clock op = (result, ⟨bath', true, false⟩) ∧
      l'.Serving time b' ∧ b'.Alike bath' ∧ bath'.Legible := by
  have hidentity := hl.identity
  have hsetpoint := hl.setpoint
  rw [← ha.identity] at hidentity
  rw [← ha.setpoint] at hsetpoint
  cases op with
  | connect | close | raw => cases hordinary
  | temperature => cases hop
  | identify =>
    obtain ⟨time, l', -, hquery, hserving⟩ :=
      h.paced.asks (Link.query_fits (by simp [Link.queries])).1 b.respond_version hidentity ht
    refine ⟨_, time, l', b, bath, hquery, ?_, hserving, ha, hl⟩
    rw [ha.identity]
    rfl
  | status =>
    obtain ⟨time, l', -, hquery, hserving⟩ :=
      h.paced.asks (Link.query_fits (by simp [Link.queries])).1 b.respond_status b.isReply_status ht
    refine ⟨_, time, l', b, bath, hquery, ?_, hserving, ha, hl⟩
    rw [ha.status]
    rfl
  | setpoint =>
    obtain ⟨time, l', -, hquery, hserving⟩ := h.paced.reads_setpoint hsetpoint ht
    refine ⟨_, time, l', b, bath, hquery, ?_, hserving, ha, hl⟩
    rw [ha.setpoint]
    rfl
  | isRunning =>
    obtain ⟨time, l', -, hquery, hserving⟩ := h.paced.reads_running ht
    refine ⟨_, time, l', b, bath, hquery, ?_, hserving, ha, hl⟩
    rw [ha.running]
    rfl
  | setSetpoint value =>
    by_cases hv : Setpoint.InRange value
    · have hs : value.Survives 1 := hop.resolve_left (fun hnot => hnot hv)
      obtain ⟨time, l', sent, hset, hserving⟩ := h.setSetpoint hv hs ht
      refine ⟨_, time, l', _, { bath.update clock with setpoint := value }, hset, ?_, hserving,
        ⟨rfl, ha.running, ha.identity⟩, hl.identity, Setpoint.survives_two hv hs⟩
      rw [SimulatedDevice.perform_accepted hv]
      rfl
    · refine ⟨.error (Setpoint.outOfRange value), now, l, b, bath, ?_,
        SimulatedDevice.perform_refused hv, h, ha, hl⟩
      exact LinkDevice.attempt_refused hv now l
  | setRunning running =>
    obtain ⟨time, l', sent, hset, hserving⟩ := h.setRunning running ht
    exact ⟨_, time, l', _, { bath.update clock with running }, hset, rfl, hserving,
      ⟨ha.setpoint, rfl, ha.identity⟩, hl.identity, hl.setpoint⟩

/-- On a closed link it fails as it does there, and nothing happens. -/
theorem perform_closed (h : l.Shut b) (hop : op.IsComparable) (hordinary : op.isOrdinary = true)
    (now clock timeout : Nat) (bath : Bath) :
    ∃ result time l', attempt (Link.perform timeout op) now l = (result, time, l') ∧
      SimulatedDevice.perform ⟨bath, false, false⟩ clock op = (result, ⟨bath, false, false⟩) ∧
      l'.Shut b := by
  have hquery : ∀ command {α : Type} (f : String → Attempt α), ∃ time l',
      attempt (Link.query timeout command >>= f) now l = (.error .notConnected, time, l') ∧
        l'.Shut b := fun command _ f => h.query_bind now timeout command f
  have hwrite : ∀ command {α : Type} (f : Unit → Attempt α), ∃ time l',
      attempt (Link.write command >>= f) now l = (.error .notConnected, time, l') ∧ l'.Shut b :=
    fun command _ f => h.write_bind now command f
  cases op with
  | connect | close | raw => cases hordinary
  | temperature => cases hop
  | identify | status =>
    obtain ⟨time, l', hfailed, hshut⟩ := hwrite _ _
    exact ⟨_, time, l', hfailed, rfl, hshut⟩
  | setpoint | isRunning =>
    obtain ⟨time, l', hfailed, hshut⟩ := hquery _ _
    exact ⟨_, time, l', hfailed, rfl, hshut⟩
  | setSetpoint value =>
    by_cases hv : Setpoint.InRange value
    · obtain ⟨time, l', hfailed, hshut⟩ := hwrite ("out_sp_00 " ++ value.toFixed 1)
        fun _ => Link.verify timeout (.setpoint value)
      refine ⟨.error .notConnected, time, l', ?_, ?_, hshut⟩
      · exact (attempt_bind_ok (LinkDevice.attempt_validate hv now l)).trans hfailed
      · rw [SimulatedDevice.perform_accepted hv]
        rfl
    · exact ⟨_, now, l, LinkDevice.attempt_refused hv now l, SimulatedDevice.perform_refused hv, h⟩
  | setRunning running =>
    obtain ⟨time, l', hfailed, hshut⟩ := hwrite _ _
    exact ⟨_, time, l', hfailed, rfl, hshut⟩

/-- **An operation comes to the same on both**, and leaves two that still cannot be told apart. -/
theorem perform {d : SimulatedDevice} (h : Twins now l d) (hop : op.IsComparable)
    (ht : 0 < timeout) (clock : Nat) :
    ∃ result time l' d', attempt (Link.perform timeout op) now l = (result, time, l') ∧
      d.perform clock op = (result, d') ∧ Twins time l' d' := by
  have hrefusals : ∀ {result : Except Error op.Result} {time l'},
      attempt (Link.perform timeout op) now l = (result, time, l') → l'.refusals = some 0 := by
    intro result time l' hattempt
    have hkept := LinkDevice.refusals_attempt (Link.perform timeout op) h.refusals now
    rwa [hattempt] at hkept
  obtain ⟨hnever, honline, hlegible, b, halike, hstate⟩ := h
  obtain ⟨bath, connected, offline⟩ := d
  cases honline
  by_cases hordinary : op.isOrdinary = true
  · cases connected with
    | true =>
      obtain ⟨result, time, l', b', bath', hattempt, hperform, hserving, halike', hlegible'⟩ :=
        perform_open hstate halike hlegible hop hordinary ht clock
      exact ⟨result, time, l', _, hattempt, hperform, hrefusals hattempt, rfl, hlegible', b',
        halike', hserving⟩
    | false =>
      obtain ⟨result, time, l', hattempt, hperform, hshut⟩ :=
        perform_closed hstate hop hordinary now clock timeout bath
      exact ⟨result, time, l', _, hattempt, hperform, hrefusals hattempt, rfl, hlegible, b, halike,
        hshut⟩
  · cases op with
    | connect =>
      cases connected with
      | true =>
        obtain ⟨st, hst, -⟩ := hstate.stream
        have hattempt := LinkDevice.attempt_connect_open (l := l) (by rw [hst]; rfl) now
        exact ⟨.ok (), now, l, _, hattempt, rfl, hrefusals hattempt, rfl, hlegible, b, halike,
          hstate⟩
      | false =>
        obtain ⟨l', hattempt, hserving⟩ := hstate.connect hnever now
        exact ⟨.ok (), now, l', _, hattempt, rfl, hrefusals hattempt, rfl, hlegible, b, halike,
          hserving⟩
    | close =>
      have hshut : LinkDevice.Shut { l with stream := none, farEnd := l.farEnd.detach } b := by
        cases connected with
        | true => exact LinkDevice.shut_dropped hstate.responder hstate.isIdle
        | false =>
          exact LinkDevice.shut_dropped hstate.responder fun s hs => (hstate.sessions s hs).1
      have hattempt : attempt (Link.perform timeout .close) now l =
          (.ok (), now, { l with stream := none, farEnd := l.farEnd.detach }) := rfl
      exact ⟨.ok (), now, _, _, hattempt, rfl, hrefusals hattempt, rfl, hlegible, b, halike, hshut⟩
    | raw => cases hop
    | _ => exact absurd rfl hordinary

/-- Time that passes leaves both as they are. -/
theorem wait {d : SimulatedDevice} (h : Twins now l d) (pause : Nat) :
    l.settle (now + pause) = l ∧ Twins (now + pause) l d := by
  obtain ⟨hrefusals, honline, hlegible, b, halike, hstate⟩ := h
  cases hc : d.connected with
  | true =>
    rw [hc] at hstate
    have hserving : l.Serving (now + pause) b :=
      LinkDevice.Serving.mono hstate (Nat.le_add_right _ _)
    exact ⟨LinkDevice.Serving.advance hstate _ _, hrefusals, honline, hlegible, b, halike,
      by rw [hc]; exact hserving⟩
  | false =>
    rw [hc] at hstate
    exact ⟨LinkDevice.Shut.advance hstate _ _, hrefusals, honline, hlegible, b, halike,
      by rw [hc]; exact hstate⟩

end Twins

/-! ## Operations one after another -/

namespace Device

/-- An operation with what it came to. -/
abbrev Outcome := (op : Operation) × Except Error op.Result

/-- A pause, in which the device goes on by itself. -/
def Bench.wait (pause : Nat) (bench : Bench) : Bench :=
  { now := bench.now + pause, device := bench.device.settle (bench.now + pause) }

/-- Operations one after another, each after a pause. -/
def Bench.performAll (b : Backend) : List (Nat × Operation) → Bench → List Outcome × Bench
  | [], bench => ([], bench)
  | (pause, op) :: rest, bench =>
    let (result, bench) := Bench.attempt (b.perform op) (bench.wait pause)
    let (results, bench) := performAll b rest bench
    (⟨op, result⟩ :: results, bench)

/-- The setpoint and the run flag of the bath behind a device, if there is one. -/
def settings? : Device → Option (Binary64 × Bool)
  | .simulated d => some d.bath.settings
  | .link l => l.farEnd.responder.settings?

end Device

open Device (Bench)

/-- One operation of a driver over a link, and of the driver of a bath at hand. -/
theorem LinkDevice.performAll_cons {l l' : LinkDevice} {now time pause timeout : Nat}
    {op : Operation} {result : Except Error op.Result} (hw : l.settle (now + pause) = l)
    (h : attempt (Link.perform timeout op) (now + pause) l = (result, time, l'))
    (rest : List (Nat × Operation)) :
    Bench.performAll (.link timeout) ((pause, op) :: rest) ⟨now, .link l⟩ =
      (⟨op, result⟩ :: (Bench.performAll (.link timeout) rest ⟨time, .link l'⟩).1,
        (Bench.performAll (.link timeout) rest ⟨time, .link l'⟩).2) := by
  have hattempt : Bench.attempt (Backend.perform (.link timeout) op)
      (Bench.wait pause ⟨now, .link l⟩) = (result, ⟨time, .link l'⟩) := by
    unfold Device.Bench.wait Device.settle
    simp only [hw]
    exact (bench_attempt _ _ _).trans (by rw [show Backend.perform (.link timeout) op =
      Link.perform timeout op from rfl, h])
  rw [Device.Bench.performAll, hattempt]

theorem SimulatedDevice.performAll_cons {d d' : SimulatedDevice} {now pause : Nat}
    {op : Operation} {result : Except Error op.Result}
    (h : d.perform (now + pause) op = (result, d')) (rest : List (Nat × Operation)) :
    Bench.performAll .simulated ((pause, op) :: rest) ⟨now, .simulated d⟩ =
      (⟨op, result⟩ :: (Bench.performAll .simulated rest ⟨now + pause, .simulated d'⟩).1,
        (Bench.performAll .simulated rest ⟨now + pause, .simulated d'⟩).2) := by
  have hattempt : Bench.attempt (Backend.perform .simulated op)
      (Bench.wait pause ⟨now, .simulated d⟩) = (result, ⟨now + pause, .simulated d'⟩) := by
    show ((d.perform (now + pause) op).1,
      (⟨now + pause, .simulated (d.perform (now + pause) op).2⟩ : Bench)) = _
    rw [h]
  rw [Device.Bench.performAll, hattempt]

/-- What cannot be told apart comes to the same, whatever is asked of it. -/
theorem Twins.performAll {l : LinkDevice} {d : SimulatedDevice} {now timeout : Nat}
    (h : Twins now l d) (ht : 0 < timeout) (clock : Nat) {steps : List (Nat × Operation)}
    (hsteps : ∀ step ∈ steps, step.2.IsComparable) :
    ∃ results time l' clock' d',
      Bench.performAll (.link timeout) steps ⟨now, .link l⟩ = (results, ⟨time, .link l'⟩) ∧
      Bench.performAll .simulated steps ⟨clock, .simulated d⟩ =
        (results, ⟨clock', .simulated d'⟩) ∧ Twins time l' d' := by
  induction steps generalizing now clock l d with
  | nil => exact ⟨[], now, l, clock, d, rfl, rfl, h⟩
  | cons step rest ih =>
    obtain ⟨pause, op⟩ := step
    obtain ⟨hsettle, hwaited⟩ := h.wait pause
    obtain ⟨result, time, l₁, d₁, hlink, hsimulated, htwins⟩ :=
      hwaited.perform (hsteps _ List.mem_cons_self) ht (clock + pause)
    obtain ⟨results, time', l', clock', d', hlinks, hsimulateds, htwins'⟩ :=
      ih htwins (clock + pause) fun step hmem => hsteps step (List.mem_cons_of_mem _ hmem)
    refine ⟨⟨op, result⟩ :: results, time', l', clock', d', ?_, ?_, htwins'⟩
    · rw [LinkDevice.performAll_cons hsettle hlink, hlinks]
    · rw [SimulatedDevice.performAll_cons hsimulated, hsimulateds]

theorem Twins.settings {l : LinkDevice} {d : SimulatedDevice} {now : Nat} (h : Twins now l d) :
    (Device.link l).settings? = (Device.simulated d).settings? := by
  obtain ⟨b, halike, hstate⟩ := h.bath
  have hresponder : l.farEnd.responder = .bath b := by
    split at hstate
    · exact hstate.responder
    · exact hstate.responder
  show l.farEnd.responder.settings? = some d.bath.settings
  rw [hresponder]
  exact congrArg some (Prod.ext halike.setpoint halike.running)

namespace Device

/-- **A link to a bath and the bath at hand agree.**  Of operations one after another, in which each
new setpoint is refused or survives being written, both come to the same results and leave the same
settings behind, if both are closed at first and the bath can be read. -/
theorem performAll_agree {l : LinkDevice} {b : Bath} {steps : List (Nat × Operation)}
    (hl : l.Shut b) (hr : l.refusals = some 0) (hb : b.Legible) (ht : 0 < l.timeout)
    (hsteps : ∀ step ∈ steps, step.2.IsComparable) (now : Nat) :
    let overLink := Bench.performAll (.link l.timeout) steps ⟨now, .link l⟩
    let atHand := Bench.performAll .simulated steps ⟨now, .simulated { bath := b }⟩
    overLink.1 = atHand.1 ∧
      ∃ settings, overLink.2.device.settings? = some settings ∧
        atHand.2.device.settings? = some settings := by
  have htwins : Twins now l { bath := b } := ⟨hr, rfl, hb, b, ⟨rfl, rfl, rfl⟩, hl⟩
  obtain ⟨results, time, l', clock, d, hlink, hsimulated, hend⟩ := htwins.performAll ht now hsteps
  simp only [hlink, hsimulated]
  exact ⟨trivial, d.bath.settings, hend.settings, rfl⟩

theorem shut_toNewBath : LinkDevice.toNewBath.Shut {} := ⟨rfl, rfl, fun s hs => by cases hs⟩

/-- Settings before and after a second connection, and a value out of range. -/
def reconnecting : List (Nat × Operation) :=
  [(0, .setRunning true), (5, .connect), (0, .setSetpoint 35.5), (20, .setRunning true),
    (0, .setSetpoint 300), (0, .close), (70, .status), (0, .connect), (0, .setpoint),
    (0, .isRunning), (0, .identify)]

theorem performAll_agree_reconnecting :
    let overLink := Bench.performAll (.link LinkDevice.toNewBath.timeout) reconnecting
      ⟨0, .link .toNewBath⟩
    let atHand := Bench.performAll .simulated reconnecting ⟨0, .simulated { bath := {} }⟩
    overLink.1 = atHand.1 ∧
      ∃ settings, overLink.2.device.settings? = some settings ∧
        atHand.2.device.settings? = some settings :=
  performAll_agree shut_toNewBath rfl (by decide +kernel) (by decide) (by decide +kernel) 0

end Device

end ChillerGateway
