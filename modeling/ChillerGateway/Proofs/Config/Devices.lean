import ChillerGateway.Gateway.Startup
import ChillerGateway.Proofs.Lookup
import Mathlib.Data.List.Nodup

/-!
# The devices of a configuration

A device is registered under its id, in place of any other that has the id.  The check of a
configuration lets no id pass twice, and not that of the default device, so no registration takes a
place that is taken: each id leads to its own device, and all devices are listed.

* `Config.validate_eq_ok_iff` — which configurations are accepted.
* `World.Enrolled` — the invariant: the devices of some ids and ports are registered, and no others.
* `World.Enrolled.enrol` — registering devices under new ids keeps it.
* `World.devices_apart` — no configured device shadows another.
-/

namespace ChillerGateway

namespace Config

variable {c : Config}

/-! ## Which ids are accepted -/

/-- The ids of the devices, that of the default device first. -/
def ids (c : Config) : List String := c.devicePorts.map Prod.fst

theorem ids_eq (c : Config) : c.ids = defaultId :: c.devices.map DeviceSection.id := by
  rw [ids, devicePorts, List.map_cons, List.map_map]
  rfl

/-- The scan accepts devices whose ids are not empty, not taken and not repeated, and no others. -/
theorem checkIds_eq_ok_iff (taken : List String) (devices : List DeviceSection) :
    checkIds taken devices = .ok () ↔
      (∀ d ∈ devices, d.id ≠ "" ∧ d.id ∉ taken) ∧ (devices.map DeviceSection.id).Nodup := by
  induction devices generalizing taken with
  | nil => simp [checkIds]
  | cons d rest ih =>
    rw [checkIds, List.forall_mem_cons, List.map_cons, List.nodup_cons]
    by_cases hempty : d.id = ""
    · simp [hempty]
    by_cases htaken : d.id ∈ taken
    · simp [hempty, htaken]
    -- A later device may not have this id either, so it joins those that are taken.
    have hrest : (∀ e ∈ rest, e.id ≠ "" ∧ e.id ∉ d.id :: taken) ↔
        (∀ e ∈ rest, e.id ≠ "" ∧ e.id ∉ taken) ∧ d.id ∉ rest.map DeviceSection.id := by
      simp only [List.mem_cons, not_or, List.mem_map, not_exists, not_and]
      constructor
      · exact fun h => ⟨fun e he => ⟨(h e he).1, (h e he).2.2⟩, fun e he => (h e he).2.1⟩
      · exact fun h e he => ⟨(h.1 e he).1, h.2 e he, (h.1 e he).2⟩
    simp only [String.isEmpty_iff, hempty, List.contains_eq_mem, htaken, decide_false, if_false,
      Bool.false_eq_true, ih, hrest, ne_eq, not_false_eq_true, true_and, and_assoc]

theorem bind_eq_ok_iff {α β : Type} {x : Except Error α} {f : α → Except Error β} {b : β} :
    (x >>= f) = .ok b ↔ ∃ a, x = .ok a ∧ f a = .ok b := by
  cases x with
  | error e => simp [bind, Except.bind]
  | ok a => simp [bind, Except.bind]

/-- A rule that is checked before others. -/
theorem rule_eq_ok_iff {β : Type} {broken : Prop} [Decidable broken] {e : Error}
    {f : PUnit → Except Error β} {rest : Except Error β} {b : β} :
    (if broken then throw e >>= f else rest) = .ok b ↔ ¬ broken ∧ rest = .ok b := by
  by_cases h : broken
  · simp [h, bind, Except.bind, throw, throwThe, MonadExceptOf.throw]
  · simp [h]

/-- A configuration is accepted exactly if its addresses can be read, a reply has time to come, an
identity is whole or absent, and each device has an id of its own. -/
theorem validate_eq_ok_iff : c.validate = .ok () ↔
    (∃ a, c.server.listenAddress = .ok a) ∧ (∃ a, c.server.metricsAddress = .ok a) ∧
      c.serial.timeout ≠ 0 ∧ c.server.tlsCertificate.isSome = c.server.tlsKey.isSome ∧
      (∀ d ∈ c.devices, d.id ≠ "") ∧ c.ids.Nodup := by
  have hids : checkIds [defaultId] c.devices = .ok () ↔
      (∀ d ∈ c.devices, d.id ≠ "") ∧ c.ids.Nodup := by
    rw [checkIds_eq_ok_iff, ids_eq, List.nodup_cons]
    simp only [List.mem_singleton, List.mem_map, not_exists, not_and]
    constructor
    · exact fun h => ⟨fun d hd => (h.1 d hd).1, fun d hd => (h.1 d hd).2, h.2⟩
    · exact fun h => ⟨fun d hd => ⟨h.1 d hd, h.2.1 d hd⟩, h.2.2⟩
  unfold validate
  simp only [bind_eq_ok_iff, exists_and_right, rule_eq_ok_iff, hids, not_not, ne_eq]

end Config

namespace World

/-! ## Registering devices -/

/-- The gateway with a device for each id and port, registered in their order. -/
def enrol (device : String × String → Device) (w : World) (ports : List (String × String)) : World :=
  ports.foldl (fun w p => w.register p.1 (device p)) w

/-- A gateway starts with the devices of its configuration, registered in their order. -/
theorem registered_eq (c : Config) :
    registered c = enrol (fun p => c.device p.2)
      (start c.server.authToken c.server.settings (c.server.metricsListen.map fun _ => {})
        (c.device c.serial.port)) c.devicePorts.tail := by
  rw [registered, enrol, Config.devicePorts, List.tail_cons, List.foldl_map]

/-- What the list of devices says about one that nobody has locked. -/
def listing (device : String × String → Device) (p : String × String) : DeviceReport :=
  { id := p.1, online := true, connected := some (device p).isConnected }

variable {w : World} {device : String × String → Device} {ports : List (String × String)}

/-- The devices of ids and ports are registered in their order, and no others. -/
structure Enrolled (device : String × String → Device) (w : World)
    (ports : List (String × String)) : Prop where
  devices : w.devices.toList = ports.map fun p => { id := p.1, device := device p }
  registry : w.registry = (ports.map Prod.fst).zipIdx.reverse

theorem enrolled_start (device : String × String → Device) (auth : Option String)
    (settings : Settings) (metrics : Option Metrics) (remark : String → String) (port : String) :
    Enrolled device (start auth settings metrics (device (Config.defaultId, port)) remark)
      [(Config.defaultId, port)] :=
  ⟨rfl, rfl⟩

namespace Enrolled

theorem keys (h : Enrolled device w ports) :
    w.registry.map Prod.fst = (ports.map Prod.fst).reverse := by
  rw [h.registry, List.map_reverse, List.zipIdx_map_fst]

theorem nodup_keys (h : Enrolled device w ports) (hn : (ports.map Prod.fst).Nodup) :
    (w.registry.map Prod.fst).Nodup := by
  rw [h.keys]
  exact List.nodup_reverse.mpr hn

theorem mem_registry (h : Enrolled device w ports) {e : String × Nat} :
    e ∈ w.registry ↔ ∃ p, ports[e.2]? = some p ∧ p.1 = e.1 := by
  rw [h.registry, List.mem_reverse, List.mem_zipIdx_iff_getElem?, List.getElem?_map]
  exact Option.map_eq_some_iff

theorem slot (h : Enrolled device w ports) {i : Nat} {p : String × String}
    (hp : ports[i]? = some p) : w.devices[i]? = some { id := p.1, device := device p } := by
  rw [← Array.getElem?_toList, h.devices, List.getElem?_map, hp]
  rfl

/-- An id that is new takes nobody's place. -/
theorem lookup_eq_none (h : Enrolled device w ports) {id : String}
    (hid : id ∉ ports.map Prod.fst) : w.registry.lookup id = none := by
  apply Table.lookup_eq_none_of_not_mem
  rwa [h.keys, List.mem_reverse]

/-- **A registration under a new id keeps all that was registered.** -/
theorem register (h : Enrolled device w ports) {p : String × String}
    (hp : p.1 ∉ ports.map Prod.fst) :
    Enrolled device (w.register p.1 (device p)) (ports ++ [p]) := by
  have hsize : w.devices.size = ports.length := by
    rw [← Array.length_toList, h.devices, List.length_map]
  have hsame : w.registry.filter (·.1 ≠ p.1) = w.registry := by
    refine List.filter_eq_self.mpr fun e he => decide_eq_true fun heq => hp ?_
    rw [← List.mem_reverse, ← h.keys, ← heq]
    exact List.mem_map_of_mem he
  constructor
  · show (w.devices.push _).toList = _
    rw [Array.toList_push, h.devices, List.map_append]
    rfl
  · show (p.1, w.devices.size) :: w.registry.filter (·.1 ≠ p.1) = _
    rw [hsame, hsize, h.registry, List.map_append, List.zipIdx_append, List.reverse_append,
      List.length_map, Nat.zero_add]
    rfl

/-- Registering devices under ids that are new, and differ from each other, keeps all that was
registered. -/
theorem enrol (h : Enrolled device w ports) {more : List (String × String)}
    (hn : ((ports ++ more).map Prod.fst).Nodup) :
    Enrolled device (enrol device w more) (ports ++ more) := by
  induction more generalizing w ports with
  | nil => rwa [List.append_nil]
  | cons p rest ih =>
    rw [List.append_cons] at hn ⊢
    have hfirst : ((ports ++ [p]).map Prod.fst).Nodup :=
      hn.sublist ((List.sublist_append_left _ rest).map Prod.fst)
    rw [List.map_append, List.nodup_append] at hfirst
    exact ih (h.register fun hp => hfirst.2.2 p.1 hp p.1 (by simp) rfl) hn

/-! ## Looking devices up -/

/-- Each id leads to its own device. -/
theorem resolve (h : Enrolled device w ports) (hn : (ports.map Prod.fst).Nodup) {i : Nat}
    {p : String × String} (hp : ports[i]? = some p) :
    w.resolve (some p.1) = some ⟨i, p.1, (device p).backend⟩ := by
  have hlookup : w.registry.lookup p.1 = some i :=
    (Table.lookup_eq_some_iff (h.nodup_keys hn)).mpr (h.mem_registry.mpr ⟨p, hp, rfl⟩)
  rw [World.resolve, Option.getD_some, hlookup, Option.bind_some, handleAt, h.slot hp]
  rfl

/-- No other id leads to a device. -/
theorem resolve_eq_none (h : Enrolled device w ports) {id : String}
    (hid : id ∉ ports.map Prod.fst) : w.resolve (some id) = none := by
  rw [World.resolve, Option.getD_some, h.lookup_eq_none hid]
  rfl

/-! ## The list of devices -/

theorem report (h : Enrolled device w ports) (mine : Nat → Bool) {i : Nat} {p : String × String}
    (hp : ports[i]? = some p) : w.report mine p.1 i = some (listing device p) := by
  rw [World.report, h.slot hp]
  rfl

/-- Every device is listed once. -/
theorem reports_perm (h : Enrolled device w ports) (mine : Nat → Bool) :
    (w.reports mine).Perm (ports.map (listing device)) := by
  have hperm : (w.registry.mergeSort fun a b => decide (a.1 ≤ b.1)).Perm
      (ports.map Prod.fst).zipIdx := by
    refine (List.mergeSort_perm _ _).trans ?_
    rw [h.registry]
    exact List.reverse_perm _
  refine (hperm.filterMap _).trans (List.Perm.of_eq ?_)
  rw [List.zipIdx_map, List.filterMap_map]
  calc ports.zipIdx.filterMap _
      = ports.zipIdx.filterMap (some ∘ listing device ∘ Prod.fst) :=
        List.filterMap_congr fun e he => h.report mine (List.mem_zipIdx_iff_getElem?.mp he)
    _ = ports.map (listing device) := by
        rw [List.filterMap_eq_map, ← List.map_map, List.zipIdx_map_fst]

/-- Devices are listed by ascending id. -/
theorem reports_ascending (h : Enrolled device w ports) (hn : (ports.map Prod.fst).Nodup)
    (mine : Nat → Bool) :
    ((w.reports mine).map DeviceReport.id).Pairwise (· < ·) := by
  have hids : (w.reports mine).map DeviceReport.id =
      (w.registry.mergeSort fun a b => decide (a.1 ≤ b.1)).map Prod.fst := by
    rw [World.reports, List.map_filterMap, ← List.filterMap_eq_map]
    refine List.filterMap_congr fun e he => ?_
    obtain ⟨p, hp, hid⟩ := h.mem_registry.mp ((List.mergeSort_perm _ _).mem_iff.mp he)
    show (w.report mine e.1 e.2).map DeviceReport.id = some e.1
    rw [← hid, h.report mine hp]
    rfl
  rw [hids]
  exact Table.mergeSort_keys (h.nodup_keys hn)

end Enrolled

/-! ## Requests for unknown devices -/

/-- A question of the operator that is answered when it is asked. -/
theorem driveFrom_answered {α : Type} {fuel : Nat} {op : Action} {next : op.Answer → Work α}
    {a : op.Answer} {w w' : World} (hready : w.ready.head? = some operator)
    (hact : w.act operator op = .answered a w') :
    driveFrom (fuel + 1) (Program.ask op next) w = driveFrom fuel (next a) w' := by
  rw [driveFrom.eq_def]
  simp only [hready, if_true, hact]

/-- A command for an id that leads to no device fails with that id. -/
theorem drive_serveCommand_unknown {r : Request} (h : w.resolve r.chillerId = none)
    (name client : String) (began : Nat) :
    (w.drive (Gateway.serveCommand name r client began)).1 =
      some (.error (.unknownDevice (r.chillerId.getD defaultId))) := by
  -- The look-up is the first question, and the failure needs no other.
  have hact : ({ w with ready := operator :: w.ready.erase operator } : World).act operator
      (.resolve r.chillerId) =
        .answered none { w with ready := operator :: w.ready.erase operator } :=
    congrArg (Outcome.answered · _) h
  obtain ⟨fuel, hfuel⟩ : ∃ fuel, turnLimit = fuel + 1 + 1 := ⟨999999998, rfl⟩
  rw [drive, hfuel]
  exact congrArg Prod.fst (driveFrom_answered rfl hact)

/-! ## Devices apart from each other -/

/-- **No configured device shadows another.**  Whatever devices are registered for the ids and ports
of an accepted configuration, the default device first, none takes the place of another.  Then each
id leads to its own device, no id to the default device, any other id to a failure that names it,
and the list of devices has each of them once, by ascending id. -/
theorem devices_apart {c : Config} (hc : c.validate = .ok ()) (auth : Option String)
    (settings : Settings) (metrics : Option Metrics) (device : String × String → Device)
    (remark : String → String) :
    let first := start auth settings metrics (device (Config.defaultId, c.serial.port)) remark
    let w := enrol device first c.devicePorts.tail
    (∀ before p after, c.devicePorts.tail = before ++ p :: after →
      (enrol device first before).registry.lookup p.1 = none) ∧
    w.registry.length = 1 + c.devices.length ∧
    (∀ i p, c.devicePorts[i]? = some p →
      w.resolve (some p.1) = some ⟨i, p.1, (device p).backend⟩ ∧
      w.devices[i]? = some { id := p.1, device := device p }) ∧
    w.resolve none =
      some ⟨0, Config.defaultId, (device (Config.defaultId, c.serial.port)).backend⟩ ∧
    (∀ id ∉ c.ids, w.resolve (some id) = none ∧
      ∀ (name : String) (r : Request) (client : String) (began : Nat), r.chillerId = some id →
        (w.drive (Gateway.serveCommand name r client began)).1 =
          some (.error (.unknownDevice id))) ∧
    ∀ mine, (w.reports mine).Perm (c.devicePorts.map (listing device)) ∧
      ((w.reports mine).map DeviceReport.id).Pairwise (· < ·) := by
  intro first w
  obtain ⟨-, -, -, -, -, hn⟩ := Config.validate_eq_ok_iff.mp hc
  have hfirst : Enrolled device first [(Config.defaultId, c.serial.port)] :=
    enrolled_start device auth settings metrics remark c.serial.port
  have hw : Enrolled device w c.devicePorts := hfirst.enrol hn
  refine ⟨?_, ?_, fun i p hp => ⟨hw.resolve hn hp, hw.slot hp⟩,
    hw.resolve hn (i := 0) (p := (Config.defaultId, c.serial.port)) rfl, ?_,
    fun mine => ⟨hw.reports_perm mine, hw.reports_ascending hn mine⟩⟩
  · intro before p after hports
    have hall : c.devicePorts = (Config.defaultId, c.serial.port) :: before ++ p :: after :=
      congrArg (_ :: ·) hports
    rw [Config.ids, hall, List.map_append, List.nodup_append] at hn
    have hbefore := hfirst.enrol hn.1
    exact hbefore.lookup_eq_none fun hp => hn.2.2 p.1 hp p.1 (by simp) rfl
  · rw [hw.registry, List.length_reverse, List.length_zipIdx, List.length_map, Config.devicePorts,
      List.length_cons, List.length_map, Nat.add_comm]
  · intro id hid
    refine ⟨hw.resolve_eq_none hid, fun name r client began hr => ?_⟩
    have hunknown : w.resolve r.chillerId = none := hr ▸ hw.resolve_eq_none hid
    have hfails := drive_serveCommand_unknown hunknown name client began
    rwa [hr] at hfails

/-- A configuration with two devices beside the default one. -/
def threeBaths : Config :=
  { devices := [⟨"bath2", "/dev/ttyUSB1"⟩, ⟨"annex", "/dev/ttyUSB2"⟩] }

/-- The gateway that starts with it has three devices, and the one in the middle is not shadowed. -/
theorem devices_apart_three :
    threeBaths.validate = .ok () ∧ (registered threeBaths).registry.length = 3 ∧
      (registered threeBaths).resolve (some "bath2") =
        some ⟨1, "bath2", (threeBaths.device "/dev/ttyUSB1").backend⟩ := by
  have hvalid : threeBaths.validate = .ok () := by decide +kernel
  obtain ⟨-, hlength, hresolve, -⟩ := devices_apart hvalid threeBaths.server.authToken
    threeBaths.server.settings (threeBaths.server.metricsListen.map fun _ => {})
    (fun p => threeBaths.device p.2) fun _ => ""
  rw [registered_eq]
  exact ⟨hvalid, hlength, (hresolve 1 ("bath2", "/dev/ttyUSB1") rfl).1⟩

end World

end ChillerGateway
