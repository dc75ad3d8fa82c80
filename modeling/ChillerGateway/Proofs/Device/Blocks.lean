import ChillerGateway.Device.Execution
import ChillerGateway.Proofs.Device.Sending

/-!
# Blocks of lines

An operation that succeeds has sent one of a few blocks of lines, and one that fails the beginning
of one.  The same holds of a command with the reading before it: where that reading does not go out,
the command does not either.

* `Says` — the blocks of an attempt, with one law for each way of putting attempts together.
* `Operation.blocks`, `says_perform` — the blocks of each operation.
* `Command.blocks`, `Command.says_execute`, `Command.mute_execute` — the blocks of each command.
-/

namespace ChillerGateway

/-! ## Blocks of lines -/

/-- An attempt that sends a whole block if it succeeds, and the beginning of one if it fails. -/
structure Says {α : Type} (p : Attempt α) (blocks : List (List String)) : Prop where
  whole : ∀ {l lines a l'}, LinkDevice.Talks l p.run lines (.ok a) l' → lines ∈ blocks
  cut : ∀ {l lines e l'}, LinkDevice.Talks l p.run lines (.error e) l' →
    ∃ block ∈ blocks, lines <+: block

/-- Each block of one list with each block of another after it. -/
def followed (first second : List (List String)) : List (List String) :=
  first.flatMap fun block => second.map (block ++ ·)

namespace Says

open LinkDevice (Talks)

variable {α β : Type} {blocks more : List (List String)}

theorem prefix_block {l l' : LinkDevice} {lines : List String} {p : Attempt α}
    {r : Except Error α} (h : Says p blocks) (ht : Talks l p.run lines r l') :
    ∃ block ∈ blocks, lines <+: block := by
  cases r with
  | error e => exact h.cut ht
  | ok a => exact ⟨lines, h.whole ht, List.prefix_refl lines⟩

theorem bind {p : Attempt α} {f : α → Attempt β} (hp : Says p blocks)
    (hf : ∀ a, Says (f a) more) (hmore : more ≠ []) : Says (p >>= f) (followed blocks more) := by
  have hmem : ∀ {block rest}, block ∈ blocks → rest ∈ more →
      block ++ rest ∈ followed blocks more := fun hb hr =>
    List.mem_flatMap.mpr ⟨_, hb, List.mem_map_of_mem hr⟩
  constructor
  · intro l lines b l' h
    rcases h.attempt_bind with ⟨e, he, -⟩ | ⟨a, l₁, before, after, rfl, hfirst, hrest⟩
    · cases he
    · exact hmem (hp.whole hfirst) ((hf a).whole hrest)
  · intro l lines e l' h
    rcases h.attempt_bind with ⟨e, -, hfirst⟩ | ⟨a, l₁, before, after, rfl, hfirst, hrest⟩
    · obtain ⟨block, hb, hcut⟩ := hp.cut hfirst
      obtain ⟨rest, hr⟩ := List.exists_mem_of_ne_nil more hmore
      exact ⟨_, hmem hb hr, hcut.trans (List.prefix_append block rest)⟩
    · obtain ⟨rest, hr, hcut⟩ := (hf a).cut hrest
      exact ⟨_, hmem (hp.whole hfirst) hr, (List.prefix_append_right_inj before).mpr hcut⟩

/-- What sends no line says nothing. -/
theorem silent {p : Attempt α} (hp : p.run.Along Exchange.IsSilent fun _ => True) :
    Says p [[]] := by
  constructor
  · intro l lines a l' h
    exact List.mem_singleton.mpr (h.silent hp)
  · intro l lines e l' h
    exact ⟨[], List.mem_singleton_self _, List.prefix_nil.mpr (h.silent hp)⟩

/-- What is made of a result that was had. -/
theorem map {p : Attempt α} {f : α → Attempt β} (hp : Says p blocks)
    (hf : ∀ a, (f a).run.Along Exchange.IsSilent fun _ => True) : Says (p >>= f) blocks := by
  have h := hp.bind (fun a => silent (hf a)) (List.cons_ne_nil _ _)
  have hsame : followed blocks [[]] = blocks := by simp [followed]
  rwa [hsame] at h

end Says

namespace Link

open LinkDevice

variable {timeout : Nat}

theorem says_write {command : String} (h : Text.trim command = command) :
    Says (write command) [[command]] := by
  constructor
  · intro l lines a l' ht
    rcases talks_write ht with ⟨rfl, -⟩ | ⟨-, ⟨e, he⟩, -⟩
    · rw [h]
      exact List.mem_singleton_self _
    · cases he
  · intro l lines e l' ht
    rcases talks_write ht with ⟨-, hok, -⟩ | ⟨rfl, -⟩
    · cases hok
    · exact ⟨_, List.mem_singleton_self _, List.nil_prefix⟩

theorem says_query (command : String) : Says (query timeout command) [[Text.trim command]] := by
  constructor
  · intro l lines a l' ht
    rcases talks_query ht with ⟨rfl, -⟩ | ⟨-, ⟨e, he⟩, -⟩
    · exact List.mem_singleton_self _
    · cases he
  · intro l lines e l' ht
    refine ⟨_, List.mem_singleton_self _, ?_⟩
    rcases talks_query ht with ⟨rfl, -⟩ | ⟨rfl, -⟩
    · exact List.prefix_refl _
    · exact List.nil_prefix

theorem says_word (command : String) (h : command ∈ queries) :
    Says (query timeout command) [[command]] := by
  have hquery : Says (query timeout command) [[Text.trim command]] := says_query command
  rwa [(query_fits h).1.trim_eq] at hquery

theorem says_queryNumber (command : String) (h : command ∈ queries) :
    Says (queryNumber timeout command) [[command]] := by
  refine (says_word command h).map fun answer => ?_
  split
  · exact trivial
  · exact trivial

theorem says_queryRunning : Says (queryRunning timeout) [["in_mode_05"]] :=
  (says_word "in_mode_05" (by simp [queries])).map fun _ => trivial

/-- The line of a reading. -/
def Expected.line : Expected → String
  | setpoint _ => "in_sp_00"
  | running _ => "in_mode_05"

theorem says_observe (expected : Expected) : Says (observe timeout expected) [[expected.line]] := by
  cases expected with
  | setpoint value => exact (says_queryNumber "in_sp_00" (by simp [queries])).map fun _ => trivial
  | running running => exact says_queryRunning.map fun _ => trivial

theorem talks_observe {expected : Expected} {l l' : LinkDevice} {lines : List String}
    {r : Except Error (Bool × String)} (h : Talks l (observe timeout expected).run lines r l') :
    ∃ j ≤ 1, lines = List.replicate j expected.line ∧ ∀ a, r = .ok a → j = 1 := by
  cases r with
  | ok a =>
    exact ⟨1, Nat.le_refl 1, List.mem_singleton.mp ((says_observe expected).whole h),
      fun _ _ => rfl⟩
  | error e =>
    obtain ⟨block, hb, hcut⟩ := (says_observe expected).cut h
    rw [List.mem_singleton.mp hb] at hcut
    refine ⟨lines.length, hcut.length_le, ?_, fun a ha => by cases ha⟩
    exact List.eq_replicate_iff.mpr ⟨rfl, fun b hb => List.mem_singleton.mp (hcut.subset hb)⟩

theorem along_pause : (pause.run).Along Exchange.IsQuiet (· = .ok ()) :=
  ⟨trivial, fun _ => ⟨trivial, fun _ => rfl⟩⟩

/-- The readings after a write are as many as the attempts allow, and at least one if the write is
confirmed. -/
theorem talks_verifyFrom {expected : Expected} {n : Nat} {last : Option String}
    {l l' : LinkDevice} {lines : List String} {r : Except Error Unit}
    (h : Talks l (verifyFrom timeout expected n last).run lines r l') :
    ∃ k ≤ n, lines = List.replicate k expected.line ∧ (r = .ok () → 0 < k) := by
  induction n generalizing last l lines with
  | zero =>
    rw [verifyFrom] at h
    obtain ⟨rfl, rfl, -⟩ := h.of_throw
    exact ⟨0, Nat.le_refl 0, rfl, fun hok => by cases hok⟩
  | succ n ih =>
    have hagain : ∀ {last : Option String} {l : LinkDevice} {lines : List String},
        Talks l (verifyFrom.again timeout expected n last).run lines r l' →
        ∃ k ≤ n, lines = List.replicate k expected.line ∧ (r = .ok () → 0 < k) := by
      intro last l lines h
      rw [verifyFrom.again] at h
      split at h
      · rcases h.attempt_bind with ⟨e, rfl, hpause⟩ | ⟨_, l₁, before, after, rfl, hpause, h₁⟩
        · cases (hpause.quiet along_pause).2.1
        · obtain ⟨rfl, -, -⟩ := hpause.quiet along_pause
          exact ih h₁
      · exact ih h
    rw [verifyFrom] at h
    rcases h.attempt_bind with ⟨e, -, ho⟩ | ⟨x, l₁, before, after, rfl, ho, h₁⟩
    · obtain ⟨_, ho, -⟩ := ho.of_outcome
      cases ho
    obtain ⟨x', hx, ho⟩ := ho.of_outcome
    cases hx
    obtain ⟨j, hj, rfl, hread⟩ := talks_observe ho
    -- A reading that shows what is expected is the last one, and so is a failure.
    have hlast : ∀ {y : Except Error Unit}, after = [] → r = y → (y = .ok () → j = 1) →
        ∃ k ≤ n + 1, List.replicate j expected.line ++ after = List.replicate k expected.line ∧
          (r = .ok () → 0 < k) := by
      rintro y rfl rfl hone
      refine ⟨j, by omega, List.append_nil _, fun hok => ?_⟩
      rw [hone hok]
      exact Nat.one_pos
    have hmore : (∃ k ≤ n, after = List.replicate k expected.line ∧ (r = .ok () → 0 < k)) →
        ∃ k ≤ n + 1, List.replicate j expected.line ++ after = List.replicate k expected.line ∧
          (r = .ok () → 0 < k) := by
      rintro ⟨k, hk, rfl, hpos⟩
      refine ⟨j + k, by omega, List.replicate_append_replicate, fun hok => ?_⟩
      exact Nat.add_pos_right j (hpos hok)
    split at h₁
    · obtain ⟨hnil, hr, -⟩ := h₁.of_pure
      exact hlast hnil hr fun _ => hread _ rfl
    · exact hmore (hagain h₁)
    · exact hmore (hagain h₁)
    · obtain ⟨hnil, hr, -⟩ := h₁.of_throw
      exact hlast hnil hr fun hok => by cases hok

/-- The readings after a write that confirm it. -/
def readings (expected : Expected) : List (List String) :=
  (List.range verifyAttempts).map fun k => List.replicate (k + 1) expected.line

theorem says_verify (expected : Expected) : Says (verify timeout expected) (readings expected) := by
  have hmem : ∀ k, k < verifyAttempts → List.replicate (k + 1) expected.line ∈ readings expected :=
    fun k hk => List.mem_map_of_mem (List.mem_range.mpr hk)
  constructor
  · intro l lines a l' h
    obtain ⟨k, hk, rfl, hpos⟩ := talks_verifyFrom h
    obtain ⟨k, rfl⟩ := Nat.exists_eq_succ_of_ne_zero (Nat.ne_of_gt (hpos rfl))
    exact hmem k hk
  · intro l lines e l' h
    obtain ⟨k, hk, rfl, -⟩ := talks_verifyFrom h
    cases k with
    | zero => exact ⟨_, hmem 0 (by decide), List.nil_prefix⟩
    | succ k => exact ⟨_, hmem k hk, List.prefix_refl _⟩

end Link

/-! ## Operations -/

/-- What an operation sends: the whole of it, in each form that it can have. -/
def Operation.blocks : Operation → List (List String)
  | connect | close => [[]]
  | identify => [["version"]]
  | status => [["status"]]
  | temperature => [["in_pv_00"]]
  | setpoint => [["in_sp_00"]]
  | isRunning => [["in_mode_05"]]
  | setSetpoint value =>
    followed [["out_sp_00 " ++ value.toFixed 1]] (Link.readings (.setpoint value))
  | setRunning running =>
    followed [["out_mode_05 " ++ if running then "1" else "0"]] (Link.readings (.running running))
  | raw line => [[Text.trim line]]

theorem Link.readings_ne_nil (expected : Expected) : readings expected ≠ [] := by
  cases expected with
  | setpoint | running => exact List.cons_ne_nil _ _

theorem Operation.blocks_ne_nil (op : Operation) : op.blocks ≠ [] := by
  cases op with
  | _ => exact List.cons_ne_nil _ _

namespace Link

open LinkDevice

variable {timeout : Nat}

theorem says_setSetpoint (value : Binary64) :
    Says (setSetpoint timeout value) (Operation.setSetpoint value).blocks := by
  unfold setSetpoint Setpoint.validate
  by_cases hv : Setpoint.InRange value
  · rw [if_pos hv]
    exact (says_write (Bath.trim_write hv)).bind (fun _ => says_verify _) (readings_ne_nil _)
  · rw [if_neg hv]
    constructor
    · intro l lines a l' h
      cases (Talks.of_done h).2.1
    · intro l lines e l' h
      obtain ⟨block, hb⟩ := List.exists_mem_of_ne_nil _ (Operation.setSetpoint value).blocks_ne_nil
      exact ⟨block, hb, (Talks.of_done h).1 ▸ List.nil_prefix⟩

theorem says_setRunning (running : Bool) :
    Says (setRunning timeout running) (Operation.setRunning running).blocks := by
  refine (says_write (runFlag_fits running).1.trim_eq).bind (fun _ => ?_) (readings_ne_nil _)
  exact (says_verify _).map fun _ => trivial

theorem says_connect : Says connect [[]] := by
  refine Says.silent ⟨trivial, fun opened => ?_⟩
  cases opened with
  | true => exact trivial
  | false =>
    refine ⟨trivial, fun result => ?_⟩
    cases result with
    | error e => exact trivial
    | ok => exact ⟨trivial, fun _ => trivial⟩

end Link

open LinkDevice in
/-- A bath at hand is not behind a link, so an operation on it fails there. -/
theorem says_simulated (op : Operation) {l l' : LinkDevice} {lines : List String}
    {r : Except Error op.Result} (h : Talks l (Backend.simulated.perform op).run lines r l') :
    lines = [] ∧ r = .error .notConnected := by
  obtain ⟨_, _, -, rfl, rfl, -⟩ := Talks.of_perform h
  exact ⟨rfl, rfl⟩

/-- **Each operation sends one of its blocks**, or the beginning of one when it fails. -/
theorem says_perform (b : Backend) (op : Operation) : Says (b.perform op) op.blocks := by
  cases b with
  | simulated =>
    constructor
    · intro l lines a l' h
      cases (says_simulated op h).2
    · intro l lines e l' h
      obtain ⟨block, hb⟩ := List.exists_mem_of_ne_nil _ op.blocks_ne_nil
      exact ⟨block, hb, (says_simulated op h).1 ▸ List.nil_prefix⟩
  | link timeout =>
    cases op with
    | connect => exact Link.says_connect
    | close => exact Says.silent ⟨trivial, fun _ => trivial⟩
    | identify => exact Link.says_word "version" (by simp [Link.queries])
    | status => exact Link.says_word "status" (by simp [Link.queries])
    | temperature => exact Link.says_queryNumber "in_pv_00" (by simp [Link.queries])
    | setpoint => exact Link.says_queryNumber "in_sp_00" (by simp [Link.queries])
    | isRunning => exact Link.says_queryRunning
    | setSetpoint value => exact Link.says_setSetpoint value
    | setRunning running => exact Link.says_setRunning running
    | raw line => exact Link.says_query line

/-! ## Links on which nothing goes out -/

/-- No line goes out, because the link is down or the driver knows of no link. -/
def Backend.IsCutOff (b : Backend) (l : LinkDevice) : Prop := b = .simulated ∨ l.IsDown

/-- On this link an attempt sends nothing and fails. -/
def LinkDevice.Mute (l : LinkDevice) {α : Type} (p : Attempt α) : Prop :=
  ∀ lines r l', l.Talks p.run lines r l' → lines = [] ∧ ∃ e, r = .error e

section

open LinkDevice (Talks)

variable {α β : Type} {l l' : LinkDevice} {b : Backend} {lines : List String}

theorem LinkDevice.Mute.bind {p : Attempt α} (hp : l.Mute p) (f : α → Attempt β) :
    l.Mute (p >>= f) := by
  intro lines r l' h
  rcases h.attempt_bind with ⟨e, rfl, hfirst⟩ | ⟨a, l₁, before, after, rfl, hfirst, -⟩
  · exact ⟨(hp _ _ _ hfirst).1, e, rfl⟩
  · obtain ⟨-, e, he⟩ := hp _ _ _ hfirst
    cases he

theorem Link.mute_write (hd : l.IsDown) (command : String) : l.Mute (write command) := by
  intro lines r l' h
  rcases talks_write h with ⟨-, -, hup⟩ | ⟨hnil, he, -⟩
  · exact absurd hd hup
  · exact ⟨hnil, he⟩

theorem mute_simulated (op : Operation) : l.Mute (Backend.simulated.perform op) := by
  intro lines r l' h
  obtain ⟨hnil, hr⟩ := says_simulated op h
  exact ⟨hnil, _, hr⟩

theorem Backend.IsCutOff.mute_setSetpoint (h : b.IsCutOff l) (value : Binary64) :
    l.Mute (b.perform (.setSetpoint value)) := by
  cases b with
  | simulated => exact mute_simulated _
  | link timeout =>
    have hd : l.IsDown := h.resolve_left Backend.noConfusion
    show l.Mute (Link.setSetpoint timeout value)
    unfold Link.setSetpoint Setpoint.validate
    split
    · exact (Link.mute_write hd _).bind _
    · intro lines r l' h
      obtain ⟨hnil, hr, -⟩ := Talks.of_done h
      exact ⟨hnil, _, hr⟩

theorem Backend.IsCutOff.mute_setRunning (h : b.IsCutOff l) (running : Bool) :
    l.Mute (b.perform (.setRunning running)) := by
  cases b with
  | simulated => exact mute_simulated _
  | link timeout => exact (Link.mute_write (h.resolve_left Backend.noConfusion) _).bind _

/-- A reading goes out, or nothing does from then on. -/
theorem talks_reading {op : Operation} {line : String}
    (hop : op = .setpoint ∧ line = "in_sp_00" ∨ op = .isRunning ∧ line = "in_mode_05")
    {r : Except Error op.Result} (h : Talks l (b.perform op).run lines r l') :
    lines = [line] ∨ (lines = [] ∧ b.IsCutOff l') := by
  cases b with
  | simulated => exact .inr ⟨(says_simulated op h).1, .inl rfl⟩
  | link timeout =>
    have hquery : ∀ {α : Type} {command : String} {f : String → Attempt α} {r : Except Error α},
        command ∈ Link.queries →
        (∀ a, (f a).run.Along Exchange.IsSilent fun _ => True) →
        Talks l (Link.query timeout command >>= f).run lines r l' →
        lines = [command] ∨ lines = [] ∧ (Backend.link timeout).IsCutOff l' := by
      intro α command f r hcommand hf h
      have hfits := (Link.query_fits hcommand).1
      rcases h.attempt_bind with ⟨e, -, hq⟩ | ⟨a, l₁, before, after, rfl, hq, hk⟩
      · rcases Link.talks_query hq with ⟨rfl, -⟩ | ⟨rfl, -, hdown⟩
        · exact .inl (by rw [hfits.trim_eq])
        · exact .inr ⟨rfl, .inr (hdown (Link.fits_of_line hfits))⟩
      · rw [hk.silent (hf a), List.append_nil]
        rcases Link.talks_query hq with ⟨rfl, -⟩ | ⟨-, ⟨e, he⟩, -⟩
        · exact .inl (by rw [hfits.trim_eq])
        · cases he
    rcases hop with ⟨rfl, rfl⟩ | ⟨rfl, rfl⟩
    · refine hquery (by simp [Link.queries]) ?_ h
      intro answer
      split
      · exact trivial
      · exact trivial
    · refine hquery (by simp [Link.queries]) ?_ h
      exact fun _ => trivial

end

/-! ## Commands -/

namespace Command

open LinkDevice (Talks)

variable {b : Backend} {l l' : LinkDevice} {lines : List String}

/-- The line that reads the state which a command is about to change. -/
def reading : Command → List String
  | setSetpoint _ => ["in_sp_00"]
  | start | stop | setRunning _ => ["in_mode_05"]
  | _ => []

/-- What a command itself sends. -/
def saying : Command → List (List String)
  | identify => Operation.identify.blocks
  | status => Operation.status.blocks
  | getSetpoint => Operation.setpoint.blocks
  | setSetpoint value => followed (Operation.setSetpoint value).blocks Operation.setpoint.blocks
  | temperature => Operation.temperature.blocks
  | isRunning => Operation.isRunning.blocks
  | start => (Operation.setRunning true).blocks
  | stop => (Operation.setRunning false).blocks
  | setRunning running => (Operation.setRunning running).blocks
  | statusAll => [["status", "in_pv_00", "in_sp_00", "in_mode_05"]]
  | ping => [[]]

/-- What a command sends with the reading before it. -/
def blocks (c : Command) : List (List String) := followed [c.reading] c.saying

theorem says_overview (b : Backend) : Says (overview b) statusAll.saying := by
  refine (says_perform b .status).bind (fun _ => ?_) (List.cons_ne_nil ["in_pv_00", _, _] [])
  refine (says_perform b .temperature).bind (fun _ => ?_) (List.cons_ne_nil ["in_sp_00", _] [])
  refine (says_perform b .setpoint).bind (fun _ => ?_) (Operation.blocks_ne_nil .isRunning)
  refine (says_perform b .isRunning).map ?_
  exact fun _ => trivial

theorem says_execute (b : Backend) (c : Command) : Says (c.execute b) c.saying := by
  cases c with
  | identify | status | getSetpoint | temperature | isRunning | start | stop | setRunning =>
    exact (says_perform b _).map fun _ => trivial
  | setSetpoint value =>
    refine (says_perform b _).bind (fun _ => ?_) (Operation.blocks_ne_nil _)
    exact (says_perform b _).map fun _ => trivial
  | statusAll => exact says_overview b
  | ping => exact Says.silent trivial

theorem mute_execute {c : Command} (hc : c.isMutating = true) {r : Except Error Json}
    (hcut : b.IsCutOff l) (h : Talks l (c.execute b).run lines r l') :
    lines = [] ∧ ∃ e, r = .error e := by
  cases c with
  | setSetpoint value => exact (hcut.mute_setSetpoint value).bind _ _ _ _ h
  | start | stop | setRunning => exact (hcut.mute_setRunning _).bind _ _ _ _ h
  | identify | status | getSetpoint | temperature | isRunning | statusAll | ping =>
    exact absurd hc (by decide)

/-- The state before a change is read, or nothing goes out from then on. -/
theorem talks_priorValue {c : Command} {r : Except Error (Option String)}
    (h : Talks l (c.priorValue b).run lines r l') :
    lines = c.reading ∨ (lines = [] ∧ b.IsCutOff l') := by
  cases c with
  | setSetpoint value =>
    obtain ⟨x, -, hread⟩ := Talks.of_outcome_map h
    exact talks_reading (.inl ⟨rfl, rfl⟩) hread
  | start | stop | setRunning =>
    obtain ⟨x, -, hread⟩ := Talks.of_outcome_map h
    exact talks_reading (.inr ⟨rfl, rfl⟩) hread
  | identify | status | getSetpoint | temperature | isRunning | statusAll | ping =>
    exact .inl h.of_pure.1

end Command

end ChillerGateway
