import ChillerGateway.Config.Basic
import Mathlib.Logic.Basic

/-!
# What a reload may not change

A configuration is read again while the gateway runs.  Four of its fields are the settings that take
effect at once; a change of any other field is reported under the name of its group.  Together they
leave no field out: if nothing is reported and the settings are the same, the configurations are
equal.

Fields are equal as the configuration compares them, so two path names are if they go through the
same places.

* `Config.Field` — the fields, with `Field.differs` and the name that reports a change.
* `Config.settings_eq_iff` — the settings tell the four fields apart, although zero becomes none.
* `Config.mem_immutableChanges`, `Config.immutableChanges_comm` — which names are reported.
* `Config.reload_complete` — no change is dropped.
-/

namespace ChillerGateway

/-! ## Path names -/

namespace PathName

/-- Path names that go through the same places are equal, whichever comes first. -/
theorem option_bne_comm (p q : Option PathName) : (p != q) = (q != p) := by
  refine congrArg not ?_
  cases p with
  | none => cases q <;> rfl
  | some p =>
    cases q with
    | none => rfl
    | some q =>
      show (p.parts == q.parts) = (q.parts == p.parts)
      exact BEq.comm

end PathName

namespace Config

/-! ## Fields -/

/-- A field of a configuration. -/
inductive Field where
  | port | baudRate | timeout | simulate
  | listen | authToken | rateLimit | readOnly | idleTimeout | watchdog | logTraffic | auditLog
  | metricsListen | tlsCertificate | tlsKey
  | devices
  deriving DecidableEq, Repr

namespace Field

/-- Whether two configurations differ in a field. -/
def differs (old new : Config) : Field → Bool
  | port => old.serial.port != new.serial.port
  | baudRate => old.serial.baudRate != new.serial.baudRate
  | timeout => old.serial.timeout != new.serial.timeout
  | simulate => old.serial.simulate != new.serial.simulate
  | listen => old.server.listen != new.server.listen
  | authToken => old.server.authToken != new.server.authToken
  | rateLimit => old.server.rateLimit != new.server.rateLimit
  | readOnly => old.server.readOnly != new.server.readOnly
  | idleTimeout => old.server.idleTimeout != new.server.idleTimeout
  | watchdog => old.server.watchdog != new.server.watchdog
  | logTraffic => old.server.logTraffic != new.server.logTraffic
  | auditLog => old.server.auditLog != new.server.auditLog
  | metricsListen => old.server.metricsListen != new.server.metricsListen
  | tlsCertificate => old.server.tlsCertificate != new.server.tlsCertificate
  | tlsKey => old.server.tlsKey != new.server.tlsKey
  | devices => old.devices != new.devices

/-- The name that reports a change of the field; none for the settings of a running gateway. -/
def group? : Field → Option String
  | port | baudRate | timeout | simulate => some "serial"
  | listen => some "listen"
  | authToken => some "auth_token"
  | watchdog => some "watchdog"
  | auditLog => some "audit_log"
  | metricsListen => some "metrics_listen"
  | tlsCertificate | tlsKey => some "tls"
  | devices => some "devices"
  | rateLimit | readOnly | idleTimeout | logTraffic => none

end Field

variable (old new : Config)

/-! ## Equality by fields -/

theorem serial_bne :
    (old.serial != new.serial) =
      (Field.port.differs old new || Field.baudRate.differs old new ||
        Field.timeout.differs old new || Field.simulate.differs old new) := by
  obtain ⟨⟨port, baudRate, timeout, simulate⟩, server, devices⟩ := old
  obtain ⟨⟨port', baudRate', timeout', simulate'⟩, server', devices'⟩ := new
  rw [Bool.eq_iff_iff]
  simp only [Field.differs, bne_iff_ne, ne_eq, SerialSection.mk.injEq, Bool.or_eq_true, not_and_or,
    or_assoc]

theorem server_bne :
    (old.server != new.server) =
      (Field.listen.differs old new || (Field.authToken.differs old new ||
        (Field.rateLimit.differs old new || (Field.readOnly.differs old new ||
        (Field.idleTimeout.differs old new || (Field.watchdog.differs old new ||
        (Field.logTraffic.differs old new || (Field.auditLog.differs old new ||
        (Field.metricsListen.differs old new || (Field.tlsCertificate.differs old new ||
          Field.tlsKey.differs old new)))))))))) := by
  have hfields : (old.server == new.server) =
      (old.server.listen == new.server.listen &&
        (old.server.authToken == new.server.authToken &&
        (old.server.rateLimit == new.server.rateLimit &&
        (old.server.readOnly == new.server.readOnly &&
        (old.server.idleTimeout == new.server.idleTimeout &&
        (old.server.watchdog == new.server.watchdog &&
        (old.server.logTraffic == new.server.logTraffic &&
        (old.server.auditLog == new.server.auditLog &&
        (old.server.metricsListen == new.server.metricsListen &&
        (old.server.tlsCertificate == new.server.tlsCertificate &&
          old.server.tlsKey == new.server.tlsKey)))))))))) := by
    cases old.server
    cases new.server
    rfl
  rw [bne, hfields]
  simp only [Bool.not_and, Field.differs, bne]

/-- **Configurations are equal if no field of them differs.** -/
theorem beq_iff_differs : (old == new) = true ↔ ∀ f : Field, f.differs old new = false := by
  have hsections : (old == new) =
      (old.serial == new.serial && (old.server == new.server && old.devices == new.devices)) := rfl
  have hequal : (old == new) = true ↔ (old.serial != new.serial) = false ∧
      (old.server != new.server) = false ∧ Field.devices.differs old new = false := by
    rw [hsections]
    simp only [Bool.and_eq_true, Field.differs, bne, Bool.not_eq_false']
  rw [hequal, serial_bne, server_bne]
  simp only [Bool.or_eq_false_iff]
  constructor
  · rintro ⟨⟨⟨⟨_, _⟩, _⟩, _⟩, ⟨_, _, _, _, _, _, _, _, _, _, _⟩, _⟩ f
    cases f <;> assumption
  · intro h
    exact ⟨⟨⟨⟨h .port, h .baudRate⟩, h .timeout⟩, h .simulate⟩,
      ⟨h .listen, h .authToken, h .rateLimit, h .readOnly, h .idleTimeout, h .watchdog,
        h .logTraffic, h .auditLog, h .metricsListen, h .tlsCertificate, h .tlsKey⟩, h .devices⟩

/-! ## Settings of a running gateway -/

/-- A limit is told by its setting, in which none stands for zero. -/
theorem limit_eq_iff {a b unit : Nat} (hunit : 0 < unit) :
    ((if 0 < a then some (unit * a) else none) = if 0 < b then some (unit * b) else none) ↔
      a = b := by
  constructor
  · intro h
    split at h <;> split at h
    · exact Nat.eq_of_mul_eq_mul_left hunit (Option.some.inj h)
    · cases h
    · cases h
    · omega
  · rintro rfl
    rfl

/-- The settings tell their four fields apart. -/
theorem settings_eq_iff :
    old.server.settings = new.server.settings ↔
      ∀ f : Field, f.group? = none → f.differs old new = false := by
  have hlimit := limit_eq_iff (a := old.server.rateLimit) (b := new.server.rateLimit) Nat.one_pos
  have hidle := limit_eq_iff (a := old.server.idleTimeout) (b := new.server.idleTimeout)
    (show 0 < 1000 by decide)
  simp only [Nat.one_mul] at hlimit
  unfold ServerSection.settings
  rw [Settings.mk.injEq, hlimit, hidle]
  constructor
  · rintro ⟨hlimit, hread, hidle, hlog⟩ f hf
    cases f with
    | rateLimit => exact bne_eq_false_iff_eq.mpr hlimit
    | readOnly => exact bne_eq_false_iff_eq.mpr hread
    | idleTimeout => exact bne_eq_false_iff_eq.mpr hidle
    | logTraffic => exact bne_eq_false_iff_eq.mpr hlog
    | _ => cases hf
  · intro h
    exact ⟨bne_eq_false_iff_eq.mp (h .rateLimit rfl), bne_eq_false_iff_eq.mp (h .readOnly rfl),
      bne_eq_false_iff_eq.mp (h .idleTimeout rfl), bne_eq_false_iff_eq.mp (h .logTraffic rfl)⟩

/-! ## Reported names -/

/-- What is reported, by the fields that differ. -/
theorem immutableChanges_eq :
    immutableChanges old new =
      ([("listen", Field.listen.differs old new),
        ("serial", Field.port.differs old new || Field.baudRate.differs old new ||
          Field.timeout.differs old new || Field.simulate.differs old new),
        ("devices", Field.devices.differs old new),
        ("tls", Field.tlsCertificate.differs old new || Field.tlsKey.differs old new),
        ("auth_token", Field.authToken.differs old new),
        ("audit_log", Field.auditLog.differs old new),
        ("metrics_listen", Field.metricsListen.differs old new),
        ("watchdog", Field.watchdog.differs old new)].filter Prod.snd).map Prod.fst := by
  rw [← serial_bne]
  rfl

/-- **A name is reported exactly if a field of its group differs.** -/
theorem mem_immutableChanges (name : String) :
    name ∈ immutableChanges old new ↔
      ∃ f : Field, f.group? = some name ∧ f.differs old new = true := by
  rw [immutableChanges_eq]
  simp only [List.mem_map, List.mem_filter, List.mem_cons, List.not_mem_nil, or_false]
  constructor
  · rintro ⟨_, ⟨rfl | rfl | rfl | rfl | rfl | rfl | rfl | rfl, h⟩, rfl⟩
    all_goals simp only [Bool.or_eq_true] at h
    · exact ⟨.listen, rfl, h⟩
    · obtain ((h | h) | h) | h := h
      · exact ⟨.port, rfl, h⟩
      · exact ⟨.baudRate, rfl, h⟩
      · exact ⟨.timeout, rfl, h⟩
      · exact ⟨.simulate, rfl, h⟩
    · exact ⟨.devices, rfl, h⟩
    · obtain h | h := h
      · exact ⟨.tlsCertificate, rfl, h⟩
      · exact ⟨.tlsKey, rfl, h⟩
    · exact ⟨.authToken, rfl, h⟩
    · exact ⟨.auditLog, rfl, h⟩
    · exact ⟨.metricsListen, rfl, h⟩
    · exact ⟨.watchdog, rfl, h⟩
  · rintro ⟨f, hgroup, h⟩
    cases f <;> simp only [Field.group?, Option.some.injEq, reduceCtorEq] at hgroup <;>
      subst hgroup <;> simp [h]

/-- Nothing is reported exactly if no field outside the settings differs. -/
theorem immutableChanges_eq_nil :
    immutableChanges old new = [] ↔
      ∀ f : Field, f.group? ≠ none → f.differs old new = false := by
  rw [List.eq_nil_iff_forall_not_mem]
  simp only [mem_immutableChanges, not_exists, not_and, Bool.not_eq_true]
  constructor
  · intro h f hf
    obtain ⟨name, hname⟩ := Option.ne_none_iff_exists'.mp hf
    exact h name f hname
  · intro h name f hname
    exact h f (by rw [hname]; exact Option.some_ne_none name)

theorem Field.differs_comm (f : Field) : f.differs new old = f.differs old new := by
  cases f with
  | auditLog | tlsCertificate | tlsKey => exact PathName.option_bne_comm _ _
  | _ => exact bne_comm

theorem immutableChanges_comm : immutableChanges new old = immutableChanges old new := by
  rw [immutableChanges_eq, immutableChanges_eq]
  simp only [Field.differs_comm old new]

/-! ## Reloads -/

/-- A configuration with other settings for the running gateway. -/
def retuned (c : Config) (rateLimit : Nat) (readOnly : Bool) (idleTimeout : Nat)
    (logTraffic : Bool) : Config :=
  { c with server := { c.server with rateLimit, readOnly, idleTimeout, logTraffic } }

/-- **A reload drops no change.**  If nothing is reported and the settings are the same, the
configurations are equal in every field.  A name is reported exactly if a field of its group
differs, whichever configuration is the old one, and whatever the settings are. -/
theorem reload_complete :
    (immutableChanges old new = [] ∧ old.server.settings = new.server.settings ↔
      (old == new) = true) ∧
    ((old == new) = true ↔ ∀ f : Field, f.differs old new = false) ∧
    (∀ name, name ∈ immutableChanges old new ↔
      ∃ f : Field, f.group? = some name ∧ f.differs old new = true) ∧
    immutableChanges new old = immutableChanges old new ∧
    ∀ rateLimit readOnly idleTimeout logTraffic,
      immutableChanges (old.retuned rateLimit readOnly idleTimeout logTraffic) new =
        immutableChanges old new ∧
      immutableChanges old (new.retuned rateLimit readOnly idleTimeout logTraffic) =
        immutableChanges old new := by
  refine ⟨?_, beq_iff_differs old new, mem_immutableChanges old new,
    immutableChanges_comm old new, fun _ _ _ _ => ⟨rfl, rfl⟩⟩
  rw [immutableChanges_eq_nil, settings_eq_iff, beq_iff_differs]
  constructor
  · rintro ⟨hreported, hsettings⟩ f
    by_cases hf : f.group? = none
    · exact hsettings f hf
    · exact hreported f hf
  · intro h
    exact ⟨fun f _ => h f, fun f _ => h f⟩

/-- A new address and a new port are reported, a new limit is not. -/
example :
    immutableChanges {}
        { serial := { port := "/dev/ttyS9" }
          server := { listen := "0.0.0.0:1", rateLimit := 10 } } =
      ["listen", "serial"] := by
  decide +kernel

end Config

end ChillerGateway
