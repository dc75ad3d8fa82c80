import ChillerGateway.Proofs.Device.Blocks
import ChillerGateway.Proofs.Device.Trace
import ChillerGateway.Proofs.Device.SetSetpoint

/-!
# What comes of a verified write

A write is followed by readings, each of which confirms it, shows something else, times out, or
fails.  The first one to confirm it or to fail decides; without such a reading the write is
unacknowledged, or its outcome is unknown when nothing was read at all.

* `Link.Asked.shows` — what a reading shows.
* `Link.Concludes` — the readings in turn, as the driver goes through them.
* `Link.Verified` — what the result says of the readings.
* `Link.verified_writes` — every write that goes out comes to what its readings say.
-/

namespace ChillerGateway

namespace Link

variable {expected : Expected} {timeout : Nat} {es : List Exchanged}

/-! ## One reading -/

/-- The number that an answer reads as. -/
def numberOf (command answer : String) : Except Error Binary64 :=
  match Binary64.parse? (Text.trim answer) with
  | some x => .ok x
  | none => .error (.protocol ("Unparseable reply to " ++ command ++ ": " ++ Text.quote answer))

/-- What an answer shows: whether it is what is expected, and its text. -/
def Expected.reads : Expected → String → Except Error (Bool × String)
  | setpoint value, answer =>
    (numberOf "in_sp_00" answer).map fun x =>
      (decide (Setpoint.Near x value), temperatureText x)
  | running r, answer => .ok ((answer == "1") == r, runningText (answer == "1"))

theorem numberOf_error {command answer : String} {e : Error}
    (h : numberOf command answer = .error e) : ∃ text, e = .protocol text := by
  unfold numberOf at h
  cases hparse : Binary64.parse? (Text.trim answer) with
  | some x =>
    rw [hparse] at h
    cases h
  | none =>
    rw [hparse] at h
    exact ⟨_, (Except.error.inj h).symm⟩

theorem Expected.reads_error {answer : String} {e : Error} (h : expected.reads answer = .error e) :
    ∃ text, e = .protocol text := by
  cases expected with
  | running r => cases h
  | setpoint value =>
    rw [reads] at h
    cases hnumber : numberOf "in_sp_00" answer with
    | ok x =>
      rw [hnumber] at h
      cases h
    | error e' =>
      rw [hnumber] at h
      cases h
      exact numberOf_error hnumber

/-- Waiting fails for want of an answer, for the stream, or for the answer itself. -/
theorem answerOf_error {r : Reception} {e : Error} (h : answerOf r = .error e) :
    (e = .timeout ∧ (r = .timeout ∨ r = .line "")) ∨ ∃ text, e = .io text ∨ e = .protocol text := by
  unfold answerOf at h
  split at h
  · cases h
    exact .inl ⟨rfl, .inl rfl⟩
  · cases h
    exact .inr ⟨_, .inl rfl⟩
  · cases h
    exact .inr ⟨_, .inl rfl⟩
  · cases h
    exact .inl ⟨rfl, .inr rfl⟩
  · split at h
    · cases h
      exact .inr ⟨_, .inr rfl⟩
    · cases h

namespace Asked

/-- What a reading shows, or how it failed. -/
def shows (expected : Expected) (asked : Asked) : Except Error (Bool × String) :=
  asked.answer.bind expected.reads

/-- The reading shows what is expected. -/
def Confirms (expected : Expected) (asked : Asked) : Prop :=
  ∃ seen, asked.shows expected = .ok (true, seen)

/-- The reading shows something else. -/
def Differs (expected : Expected) (asked : Asked) (seen : String) : Prop :=
  asked.shows expected = .ok (false, seen)

/-- Nothing came in time, or a blank line. -/
def TimedOut (asked : Asked) : Prop := asked = .heard .timeout ∨ asked = .heard (.line "")

/-- The reading failed in another way. -/
def Fails (expected : Expected) (asked : Asked) (e : Error) : Prop :=
  asked.shows expected = .error e ∧ e ≠ .timeout

/-- The reading decides nothing. -/
def Undecided (expected : Expected) (asked : Asked) : Prop :=
  asked.TimedOut ∨ ∃ seen, asked.Differs expected seen

variable {asked : Asked}

/-- A reading times out, or fails with an error of the link or for its answer. -/
theorem shows_error {e : Error} (h : asked.shows expected = .error e) :
    (e = .timeout ∧ asked.TimedOut) ∨ e = .notConnected ∨
      ∃ text, e = .io text ∨ e = .protocol text := by
  cases asked with
  | unsent e' he' =>
    cases h
    rcases he' with rfl | ⟨text, rfl⟩
    · exact .inr (.inl rfl)
    · exact .inr (.inr ⟨text, .inl rfl⟩)
  | heard r =>
    change (answerOf r).bind expected.reads = .error e at h
    cases hr : answerOf r with
    | ok answer =>
      rw [hr] at h
      obtain ⟨text, rfl⟩ := Expected.reads_error h
      exact .inr (.inr ⟨text, .inr rfl⟩)
    | error e' =>
      rw [hr] at h
      cases h
      rcases answerOf_error hr with ⟨rfl, rfl | rfl⟩ | hother
      · exact .inl ⟨rfl, .inl rfl⟩
      · exact .inl ⟨rfl, .inr rfl⟩
      · exact .inr (.inr hother)

theorem TimedOut.shows (h : asked.TimedOut) : asked.shows expected = .error .timeout := by
  rcases h with rfl | rfl <;> rfl

theorem timedOut_of_shows (h : asked.shows expected = .error .timeout) : asked.TimedOut := by
  rcases shows_error h with ⟨-, htimed⟩ | hnot | ⟨text, hnot | hnot⟩
  · exact htimed
  all_goals cases hnot

/-- The text of what was read, if something was. -/
def seen? (expected : Expected) (asked : Asked) : Option String :=
  (asked.shows expected).toOption.map Prod.snd

theorem Differs.seen? {seen : String} (h : asked.Differs expected seen) :
    asked.seen? expected = some seen := by
  unfold Asked.seen?
  rw [h]
  rfl

theorem TimedOut.seen? (h : asked.TimedOut) : asked.seen? expected = none := by
  unfold Asked.seen?
  rw [h.shows]
  rfl

theorem TimedOut.not_differs {text : String} (h : asked.TimedOut) :
    ¬ asked.Differs expected text := fun hdiffers => by
  cases h.shows.symm.trans hdiffers

/-- **What decides nothing** is what neither confirms nor fails. -/
theorem undecided_iff :
    asked.Undecided expected ↔ ¬ asked.Confirms expected ∧ ∀ e, ¬ asked.Fails expected e := by
  constructor
  · rintro (htimed | ⟨seen, hdiffers⟩)
    · refine ⟨fun ⟨_, h⟩ => ?_, fun e h => h.2 ?_⟩
      · cases htimed.shows.symm.trans h
      · exact (Except.error.inj (htimed.shows.symm.trans h.1)).symm
    · refine ⟨fun ⟨_, h⟩ => ?_, fun e h => ?_⟩
      · cases hdiffers.symm.trans h
      · cases hdiffers.symm.trans h.1
  · rintro ⟨hconfirms, hfails⟩
    cases h : asked.shows expected with
    | ok x =>
      obtain ⟨confirmed, seen⟩ := x
      cases confirmed with
      | true => exact absurd ⟨seen, h⟩ hconfirms
      | false => exact .inr ⟨seen, h⟩
    | error e =>
      by_cases he : e = .timeout
      · exact .inl (timedOut_of_shows (he ▸ h))
      · exact absurd ⟨h, he⟩ (hfails e)

end Asked

/-- A number that is asked for is what the answer reads as. -/
theorem trace_queryNumber {command : String} {r : Except Error Binary64}
    (h : Trace (queryNumber timeout command).run es r) (hl : ∀ x ∈ es, x.OfLink) :
    ∃ asked : Asked, happenings es = asked.happenings command ∧
      r = asked.answer.bind (numberOf command) := by
  unfold queryNumber at h
  obtain ⟨x, hquery, hr⟩ := h.of_map (g := numberOf command) fun answer => by
    unfold numberOf
    cases Binary64.parse? (Text.trim answer) with
    | some x => rfl
    | none => rfl
  obtain ⟨asked, hshown, rfl⟩ := trace_query hquery hl
  exact ⟨asked, hshown, hr⟩

/-- A reading of the driver shows on the link as what came of its question. -/
theorem trace_observe {r : Except Error (Bool × String)}
    (h : Trace (observe timeout expected).run es r) (hl : ∀ x ∈ es, x.OfLink) :
    ∃ asked : Asked, happenings es = asked.happenings expected.line ∧
      r = asked.shows expected := by
  cases expected with
  | setpoint value =>
    unfold observe at h
    obtain ⟨x, hnumber, hr⟩ := h.of_map (g := fun actual =>
      .ok (decide (Setpoint.Near actual value), temperatureText actual)) fun _ => rfl
    obtain ⟨asked, hshown, rfl⟩ := trace_queryNumber hnumber hl
    refine ⟨asked, hshown, hr.trans ?_⟩
    unfold Asked.shows
    cases asked.answer with
    | error e => rfl
    | ok answer =>
      simp only [Except.bind, Expected.reads]
      cases numberOf "in_sp_00" answer with
      | ok x => rfl
      | error e => rfl
  | running flag =>
    unfold observe queryRunning at h
    obtain ⟨x, hrunning, hr⟩ := h.of_map (g := fun actual =>
      .ok (actual == flag, runningText actual)) fun _ => rfl
    obtain ⟨y, hquery, rfl⟩ := hrunning.of_map (g := fun answer => .ok (answer == "1")) fun _ => rfl
    obtain ⟨asked, hshown, rfl⟩ := trace_query hquery hl
    refine ⟨asked, hshown, hr.trans ?_⟩
    unfold Asked.shows
    cases asked.answer <;> rfl

/-! ## The readings in turn -/

/-- Readings of which each follows one that decided nothing, with so many attempts left and the text
of the last one that showed something, and what they come to. -/
inductive Concludes (expected : Expected) :
    Nat → Option String → List Asked → Except Error Unit → Prop where
  | exhausted {last} : Concludes expected 0 last [] (.error (unconfirmed expected last))
  | confirmed {n last asked} (h : asked.Confirms expected) :
      Concludes expected (n + 1) last [asked] (.ok ())
  | differed {n last asked seen rest r} (h : asked.Differs expected seen)
      (more : Concludes expected n (some seen) rest r) :
      Concludes expected (n + 1) last (asked :: rest) r
  | late {n last asked rest r} (h : asked.TimedOut) (more : Concludes expected n last rest r) :
      Concludes expected (n + 1) last (asked :: rest) r
  | failed {n last asked e} (h : asked.Fails expected e) :
      Concludes expected (n + 1) last [asked] (.error e)

/-- **The readings after a write** are gone through in turn. -/
theorem trace_verifyFrom {n : Nat} {last : Option String} {r : Except Error Unit}
    (h : Trace (verifyFrom timeout expected n last).run es r) (hl : ∀ x ∈ es, x.OfLink) :
    ∃ tries : List Asked, happenings es = tries.flatMap (Asked.happenings expected.line) ∧
      Concludes expected n last tries r := by
  induction n generalizing last es with
  | zero =>
    rw [verifyFrom] at h
    obtain ⟨rfl, rfl⟩ := Trace.of_done h
    exact ⟨[], rfl, .exhausted⟩
  | succ n ih =>
    have hagain : ∀ {last : Option String} {es : List Exchanged},
        Trace (verifyFrom.again timeout expected n last).run es r → (∀ x ∈ es, x.OfLink) →
        ∃ tries : List Asked, happenings es = tries.flatMap (Asked.happenings expected.line) ∧
          Concludes expected n last tries r := by
      intro last es h hl
      rw [verifyFrom.again] at h
      split at h
      · rcases h.attempt_bind with ⟨e, rfl, hpause⟩ | ⟨_, before, after, rfl, hpause, h₁⟩
        · cases (trace_pause hpause).2
        · rw [happenings_append, (trace_pause hpause).1, List.nil_append]
          exact ih h₁ (List.forall_mem_append.mp hl).2
      · exact ih h hl
    rw [verifyFrom] at h
    rcases h.attempt_bind with ⟨e, -, ho⟩ | ⟨x, before, after, rfl, ho, h₁⟩
    · obtain ⟨_, ho, -⟩ := ho.of_outcome
      cases ho
    obtain ⟨x', hx, ho⟩ := ho.of_outcome
    obtain rfl := Except.ok.inj hx
    obtain ⟨hbefore, hafter⟩ := List.forall_mem_append.mp hl
    obtain ⟨asked, hshown, hx⟩ := trace_observe ho hbefore
    rw [happenings_append, hshown]
    -- The reading decides, or the readings after it do.
    split at h₁
    · obtain ⟨rfl, rfl⟩ := Trace.of_done h₁
      exact ⟨[asked], by simp, .confirmed ⟨_, hx.symm⟩⟩
    · obtain ⟨tries, hmore, hconcludes⟩ := hagain h₁ hafter
      exact ⟨asked :: tries, by simp [hmore], .differed hx.symm hconcludes⟩
    · obtain ⟨tries, hmore, hconcludes⟩ := hagain h₁ hafter
      exact ⟨asked :: tries, by simp [hmore], .late (Asked.timedOut_of_shows hx.symm) hconcludes⟩
    · rename_i e hne _ _
      obtain ⟨rfl, rfl⟩ := Trace.of_done h₁
      exact ⟨[asked], by simp, .failed ⟨hx.symm, hne⟩⟩

/-! ## What they come to -/

/-- The texts of what was read, in turn. -/
def seen (expected : Expected) (tries : List Asked) : List String :=
  tries.filterMap (Asked.seen? expected)

section Seen

variable {asked : Asked} {tries : List Asked} {text : String}

theorem seen_differed (h : asked.Differs expected text) :
    seen expected (asked :: tries) = text :: seen expected tries :=
  List.filterMap_cons_some h.seen?

theorem seen_late (h : asked.TimedOut) : seen expected (asked :: tries) = seen expected tries :=
  List.filterMap_cons_none h.seen?

/-- The last reading is the last one to have shown something. -/
theorem getLast?_seen_differed (h : asked.Differs expected text) (last : Option String) :
    (seen expected (asked :: tries)).getLast?.or last =
      (seen expected tries).getLast?.or (some text) := by
  rw [seen_differed h, List.getLast?_cons]
  cases (seen expected tries).getLast? <;> rfl

/-- Readings of which none decides show something exactly if one of them differs. -/
theorem seen_ne_nil_iff (h : ∀ t ∈ tries, t.Undecided expected) :
    seen expected tries ≠ [] ↔ ∃ t ∈ tries, ∃ text, t.Differs expected text := by
  induction tries with
  | nil => simp [seen]
  | cons t rest ih =>
    obtain ⟨ht, hrest⟩ := List.forall_mem_cons.mp h
    rw [List.exists_mem_cons_iff]
    rcases ht with hlate | ⟨text, hdiffers⟩
    · rw [seen_late hlate, ih hrest, or_iff_right]
      exact fun ⟨_, hdiffers⟩ => hlate.not_differs hdiffers
    · rw [seen_differed hdiffers]
      exact iff_of_true (List.cons_ne_nil _ _) (.inl ⟨text, hdiffers⟩)

end Seen

/-- The last reading decides: it confirms the write or fails, and none before it does. -/
def Decided (expected : Expected) (tries : List Asked) (r : Except Error Unit) : Prop :=
  ∃ before asked, tries = before ++ [asked] ∧ (∀ t ∈ before, t.Undecided expected) ∧
    (asked.Confirms expected ∧ r = .ok () ∨ ∃ e, asked.Fails expected e ∧ r = .error e)

theorem Decided.cons {asked : Asked} {tries : List Asked} {r : Except Error Unit}
    (h : Decided expected tries r) (hu : asked.Undecided expected) :
    Decided expected (asked :: tries) r := by
  obtain ⟨before, decisive, rfl, hbefore, hr⟩ := h
  exact ⟨asked :: before, decisive, rfl, List.forall_mem_cons.mpr ⟨hu, hbefore⟩, hr⟩

/-- **The readings decide, or run out**: the last one does, or none of as many as there are
attempts; then the last one that showed something is named. -/
theorem Concludes.outcome {n : Nat} {last : Option String} {tries : List Asked}
    {r : Except Error Unit} (h : Concludes expected n last tries r) :
    tries.length ≤ n ∧ (Decided expected tries r ∨
      tries.length = n ∧ (∀ t ∈ tries, t.Undecided expected) ∧
        r = .error (unconfirmed expected ((seen expected tries).getLast?.or last))) := by
  induction h with
  | exhausted => exact ⟨le_rfl, .inr ⟨rfl, List.forall_mem_nil _, rfl⟩⟩
  | @confirmed n last asked h =>
    exact ⟨Nat.le_add_left 1 n, .inl ⟨[], asked, rfl, List.forall_mem_nil _, .inl ⟨h, rfl⟩⟩⟩
  | @failed n last asked e h =>
    exact ⟨Nat.le_add_left 1 n, .inl ⟨[], asked, rfl, List.forall_mem_nil _, .inr ⟨e, h, rfl⟩⟩⟩
  | @differed n last asked text rest r h _ ih =>
    refine ⟨Nat.succ_le_succ ih.1, ih.2.imp (·.cons (.inr ⟨text, h⟩)) ?_⟩
    rintro ⟨hlength, hrest, hr⟩
    refine ⟨congrArg (· + 1) hlength, List.forall_mem_cons.mpr ⟨.inr ⟨text, h⟩, hrest⟩, ?_⟩
    rw [getLast?_seen_differed h]
    exact hr
  | @late n last asked rest r h _ ih =>
    refine ⟨Nat.succ_le_succ ih.1, ih.2.imp (·.cons (.inl h)) ?_⟩
    rintro ⟨hlength, hrest, hr⟩
    refine ⟨congrArg (· + 1) hlength, List.forall_mem_cons.mpr ⟨.inl h, hrest⟩, ?_⟩
    rw [seen_late h]
    exact hr

/-- **What the result of a verified write says of its readings.** -/
structure Verified (expected : Expected) (tries : List Asked) (r : Except Error Unit) : Prop where
  count : 0 < tries.length ∧ tries.length ≤ verifyAttempts
  /-- No reading follows one that decides. -/
  undecided : ∀ t ∈ tries.dropLast, t.Undecided expected
  /-- Without one that decides there are as many as may be, and the last one that showed something
  is named. -/
  exhausted : (∀ t ∈ tries, t.Undecided expected) → tries.length = verifyAttempts ∧
    r = .error (unconfirmed expected (seen expected tries).getLast?)
  ok : r = .ok () ↔ ∃ before asked after, tries = before ++ asked :: after ∧
    asked.Confirms expected ∧ ∀ t ∈ before, t.Undecided expected
  failed : ∀ {before asked after e}, tries = before ++ asked :: after →
    (∀ t ∈ before, t.Undecided expected) → asked.Fails expected e → r = .error e
  unacknowledged : (∃ text, r = .error (.unacknowledged text)) ↔
    (∀ t ∈ tries, t.Undecided expected) ∧ ∃ t ∈ tries, ∃ text, t.Differs expected text
  stateUnknown : (∃ text, r = .error (.stateUnknown text)) ↔
    tries.length = verifyAttempts ∧ ∀ t ∈ tries, t.TimedOut

section Verified

variable {asked : Asked} {before tries : List Asked} {r : Except Error Unit}

/-- Nothing else that decides stands among readings of which only the last one does. -/
theorem eq_of_append_decisive (hbefore : ∀ t ∈ before, t.Undecided expected)
    {before' after : List Asked} {decisive : Asked}
    (heq : before ++ [asked] = before' ++ decisive :: after)
    (hdecisive : ¬ decisive.Undecided expected) : decisive = asked := by
  rcases after.eq_nil_or_concat with rfl | ⟨after, final, rfl⟩
  · exact (List.cons.inj (List.append_inj_right' heq rfl)).1.symm
  · rw [List.concat_eq_append, ← List.cons_append, ← List.append_assoc] at heq
    exact absurd (hbefore _ (List.append_inj_left' heq rfl ▸ by simp)) hdecisive

/-- The failure of a reading is one of the link or for the answer. -/
theorem Asked.Fails.of_link {e : Error} (h : asked.Fails expected e) :
    (∀ text, e ≠ .unacknowledged text) ∧ ∀ text, e ≠ .stateUnknown text := by
  rcases shows_error h.1 with ⟨rfl, -⟩ | rfl | ⟨_, rfl | rfl⟩
  · exact absurd rfl h.2
  all_goals exact ⟨fun _ => Error.noConfusion, fun _ => Error.noConfusion⟩

/-- A reading that decides gives the result. -/
theorem verified_of_decided (hlength : tries.length ≤ verifyAttempts)
    (h : Decided expected tries r) : Verified expected tries r := by
  obtain ⟨before, asked, rfl, hbefore, hr⟩ := h
  have hnot : ¬ asked.Undecided expected := by
    rw [Asked.undecided_iff]
    rintro ⟨hconfirms, hfails⟩
    rcases hr with ⟨h, -⟩ | ⟨e, h, -⟩
    · exact hconfirms h
    · exact hfails e h
  have hsome : ¬ ∀ t ∈ before ++ [asked], t.Undecided expected := fun hall =>
    hnot (hall asked (by simp))
  refine ⟨⟨by simp, hlength⟩, ?undecided, fun hall => absurd hall hsome, ?ok, ?failed,
    ?unacknowledged, ?stateUnknown⟩
  case undecided =>
    rw [List.dropLast_concat]
    exact hbefore
  case ok =>
    constructor
    · intro hok
      rcases hr with ⟨h, -⟩ | ⟨e, -, herror⟩
      · exact ⟨before, asked, [], rfl, h, hbefore⟩
      · cases hok.symm.trans herror
    · rintro ⟨before', decisive, after, heq, hconfirms, -⟩
      obtain rfl := eq_of_append_decisive hbefore heq fun hu =>
        (Asked.undecided_iff.mp hu).1 hconfirms
      rcases hr with ⟨-, hok⟩ | ⟨e, hfails, -⟩
      · exact hok
      · obtain ⟨seen, hconfirms⟩ := hconfirms
        cases hconfirms.symm.trans hfails.1
  case failed =>
    intro before' decisive after e heq _ hfails
    obtain rfl := eq_of_append_decisive hbefore heq fun hu => (Asked.undecided_iff.mp hu).2 e hfails
    rcases hr with ⟨⟨seen, hconfirms⟩, -⟩ | ⟨e', hfails', herror⟩
    · cases hconfirms.symm.trans hfails.1
    · rw [herror, Except.error.inj (hfails'.1.symm.trans hfails.1)]
  case unacknowledged =>
    refine iff_of_false ?_ fun h => hsome h.1
    rintro ⟨text, herror⟩
    rcases hr with ⟨-, hok⟩ | ⟨e, hfails, he⟩
    · cases hok.symm.trans herror
    · exact hfails.of_link.1 text (Except.error.inj (he.symm.trans herror))
  case stateUnknown =>
    refine iff_of_false ?_ fun h => hsome fun t ht => .inl (h.2 t ht)
    rintro ⟨text, herror⟩
    rcases hr with ⟨-, hok⟩ | ⟨e, hfails, he⟩
    · cases hok.symm.trans herror
    · exact hfails.of_link.2 text (Except.error.inj (he.symm.trans herror))

/-- Readings that decide nothing leave the write unconfirmed. -/
theorem verified_of_exhausted (hlength : tries.length = verifyAttempts)
    (hall : ∀ t ∈ tries, t.Undecided expected)
    (hr : r = .error (unconfirmed expected (seen expected tries).getLast?)) :
    Verified expected tries r := by
  have hnone : ∀ {before asked after}, tries = before ++ asked :: after →
      asked.Undecided expected := fun heq => hall _ (heq ▸ by simp)
  have hseen := seen_ne_nil_iff hall
  refine ⟨⟨hlength.symm ▸ by decide, hlength.le⟩,
    fun t ht => hall t (List.dropLast_subset tries ht), fun _ => ⟨hlength, hr⟩, ?ok, ?failed,
    ?unacknowledged, ?stateUnknown⟩
  case ok =>
    refine iff_of_false (fun hok => by cases hok.symm.trans hr) ?_
    rintro ⟨_, _, _, heq, hconfirms, -⟩
    exact (Asked.undecided_iff.mp (hnone heq)).1 hconfirms
  case failed =>
    intro _ _ _ e heq _ hfails
    exact absurd hfails ((Asked.undecided_iff.mp (hnone heq)).2 e)
  case unacknowledged =>
    rw [and_iff_right hall, ← hseen, hr]
    cases hlast : (seen expected tries).getLast? with
    | none =>
      rw [List.getLast?_eq_none_iff] at hlast
      exact iff_of_false (fun ⟨_, h⟩ => nomatch h) fun h => h hlast
    | some text =>
      refine iff_of_true ⟨_, rfl⟩ fun hnil => ?_
      rw [hnil] at hlast
      cases hlast
  case stateUnknown =>
    have hlate : (∀ t ∈ tries, t.TimedOut) ↔ seen expected tries = [] := by
      constructor
      · intro htimed
        by_contra hne
        obtain ⟨t, ht, _, hdiffers⟩ := hseen.mp hne
        exact (htimed t ht).not_differs hdiffers
      · intro hnil t ht
        refine (hall t ht).resolve_right fun ⟨text, hdiffers⟩ => ?_
        exact hseen.mpr ⟨t, ht, text, hdiffers⟩ hnil
    rw [and_iff_right hlength, hlate, hr]
    cases hlast : (seen expected tries).getLast? with
    | none => exact iff_of_true ⟨_, rfl⟩ (List.getLast?_eq_none_iff.mp hlast)
    | some text =>
      refine iff_of_false (fun ⟨_, h⟩ => nomatch h) fun hnil => ?_
      rw [hnil] at hlast
      cases hlast

end Verified

/-- **The readings after a write** say what came of it. -/
theorem trace_verify {r : Except Error Unit} (h : Trace (verify timeout expected).run es r)
    (hl : ∀ x ∈ es, x.OfLink) :
    ∃ tries : List Asked, happenings es = tries.flatMap (Asked.happenings expected.line) ∧
      Verified expected tries r := by
  obtain ⟨tries, hshown, hconcludes⟩ := trace_verifyFrom h hl
  obtain ⟨hlength, hdecided | ⟨hcount, hall, hr⟩⟩ := hconcludes.outcome
  · exact ⟨tries, hshown, verified_of_decided hlength hdecided⟩
  · rw [Option.or_none] at hr
    exact ⟨tries, hshown, verified_of_exhausted hcount hall hr⟩

/-! ## The write and its readings -/

/-- **What happens at a verified write**: its line does not go out, and nothing else does; or it
goes out once, and what comes of the readings after it is what the result says. -/
def Outcome (line : String) (expected : Expected) (shown : List Happening)
    (r : Except Error Unit) : Prop :=
  (∃ e, IsUnsent e ∧ shown = [.unsent e] ∧ r = .error e) ∨
    ∃ tries : List Asked, shown = .sent line :: tries.flatMap (Asked.happenings expected.line) ∧
      .sent line ∉ tries.flatMap (Asked.happenings expected.line) ∧ Verified expected tries r

/-- Only the question goes out at a reading. -/
theorem Asked.sent_eq {line question : String} {asked : Asked}
    (h : .sent line ∈ asked.happenings question) : line = question := by
  cases asked with
  | unsent e he => simp [happenings] at h
  | heard r => simpa [happenings] using h

theorem outcome_of_unsent {line : String} {e : Error} (h : Trace (write line).run es (.error e))
    (hl : ∀ x ∈ es, x.OfLink) : Outcome line expected (happenings es) (.error e) := by
  rcases trace_write h hl with ⟨-, hok⟩ | ⟨e', he, hshown, heq⟩
  · cases hok
  · cases heq
    exact .inl ⟨e, he, hshown, rfl⟩

theorem outcome_of_sent {line : String} {fs : List Exchanged} {r : Except Error Unit}
    (hline : line ≠ expected.line) (hwrite : Trace (write line).run es (.ok ()))
    (hverify : Trace (verify timeout expected).run fs r) (hl : ∀ x ∈ es ++ fs, x.OfLink) :
    Outcome line expected (happenings (es ++ fs)) r := by
  obtain ⟨hes, hfs⟩ := List.forall_mem_append.mp hl
  rcases trace_write hwrite hes with ⟨hsent, -⟩ | ⟨_, -, -, heq⟩
  · obtain ⟨tries, hshown, hverified⟩ := trace_verify hverify hfs
    refine .inr ⟨tries, ?_, fun hmem => ?_, hverified⟩
    · rw [happenings_append, hsent, hshown]
      rfl
    · obtain ⟨asked, -, hasked⟩ := List.mem_flatMap.mp hmem
      exact hline (Asked.sent_eq hasked)
  · cases heq

/-- What is written is no question. -/
theorem write_ne_line {command text : String} (h : command.toList.head? = some 'o') :
    command ++ text ≠ expected.line := by
  intro heq
  have hhead : (command ++ text).toList.head? = some 'o' := by
    rw [String.toList_append, List.head?_append, h]
    rfl
  rw [heq] at hhead
  cases expected with
  | setpoint value =>
    have hline : "in_sp_00".toList.head? = some 'i' := by decide
    cases hhead.symm.trans hline
  | running running =>
    have hline : "in_mode_05".toList.head? = some 'i' := by decide
    cases hhead.symm.trans hline

/-- **Every verified write, whatever the far end does**: a value out of range is refused with
nothing sent; any other write goes out once or not at all, and comes to what its readings say. -/
theorem verified_writes (timeout : Nat) :
    (∀ (value : Binary64) (es : List Exchanged) (r : Except Error Unit),
      Trace (setSetpoint timeout value).run es r → (∀ x ∈ es, x.OfLink) →
      (¬ Setpoint.InRange value → es = [] ∧ r = .error (Setpoint.outOfRange value)) ∧
      (Setpoint.InRange value →
        Outcome ("out_sp_00 " ++ value.toFixed 1) (.setpoint value) (happenings es) r)) ∧
    (∀ (running : Bool) (es : List Exchanged) (r : Except Error Bool),
      Trace (setRunning timeout running).run es r → (∀ x ∈ es, x.OfLink) →
      (r = .ok running ∨ ∃ e, r = .error e) ∧
      Outcome ("out_mode_05 " ++ if running then "1" else "0") (.running running) (happenings es)
        (r.map fun _ => ())) := by
  constructor
  · intro value es r h hl
    unfold setSetpoint at h
    constructor
    · intro hrange
      rw [Setpoint.validate_refused hrange] at h
      exact Trace.of_done h
    · intro hrange
      rw [Setpoint.validate_accepted hrange] at h
      rcases Trace.attempt_bind (p := write _) h with ⟨e, rfl, hwrite⟩ |
        ⟨_, _, _, rfl, hwrite, hrest⟩
      · exact outcome_of_unsent hwrite hl
      · exact outcome_of_sent (write_ne_line (by decide)) hwrite hrest hl
  · intro running es r h hl
    unfold setRunning at h
    rcases h.attempt_bind with ⟨e, rfl, hwrite⟩ | ⟨_, before, after, rfl, hwrite, hrest⟩
    · exact ⟨.inr ⟨e, rfl⟩, outcome_of_unsent hwrite hl⟩
    · obtain ⟨x, hverify, rfl⟩ := hrest.of_map (g := fun _ => .ok running) fun _ => rfl
      have houtcome := outcome_of_sent (write_ne_line (by decide)) hwrite hverify hl
      cases x with
      | ok => exact ⟨.inl rfl, houtcome⟩
      | error e => exact ⟨.inr ⟨e, rfl⟩, houtcome⟩

/-- Three writes to a new bath: a value that it keeps, one out of range, and the run flag. -/
theorem verified_writes_bath :
    (∃ es, Trace (setSetpoint 500 35.54).run es (.ok ()) ∧ (∀ x ∈ es, x.OfLink) ∧
      Outcome ("out_sp_00 " ++ (35.54 : Binary64).toFixed 1) (.setpoint 35.54) (happenings es)
        (.ok ())) ∧
    (∃ r, Trace (setSetpoint 500 1000).run [] r ∧ r = .error (Setpoint.outOfRange 1000)) ∧
    ∃ es r, Trace (setRunning 500 true).run es r ∧ (∀ x ∈ es, x.OfLink) ∧
      Outcome ("out_mode_05 " ++ if true then "1" else "0") (.running true) (happenings es)
        (r.map fun _ => ()) := by
  have hin : Setpoint.InRange 35.54 := by decide +kernel
  have hout : ¬ Setpoint.InRange 1000 := by decide +kernel
  refine ⟨?kept, ?refused, ?started⟩
  case kept =>
    obtain ⟨es, hes, hl⟩ :=
      LinkDevice.trace_execute (setSetpoint 500 35.54).run 0 (LinkDevice.toNewBath.openStream 0).2
    obtain ⟨_, _, _, hset, -⟩ :=
      LinkDevice.setSetpoint_kept LinkDevice.serving_toNewBath hin (show 0 < 500 by decide)
    rw [if_pos (by decide +kernel)] at hset
    have hok : (LinkDevice.execute (setSetpoint 500 35.54).run 0
        (LinkDevice.toNewBath.openStream 0).2).1 = .ok () := congrArg Prod.fst hset
    rw [hok] at hes
    exact ⟨es, hes, hl, ((verified_writes 500).1 _ es _ hes hl).2 hin⟩
  case refused =>
    obtain ⟨es, hes, hl⟩ :=
      LinkDevice.trace_execute (setSetpoint 500 1000).run 0 (LinkDevice.toNewBath.openStream 0).2
    obtain ⟨rfl, hr⟩ := ((verified_writes 500).1 _ es _ hes hl).1 hout
    exact ⟨_, hes, hr⟩
  case started =>
    obtain ⟨es, hes, hl⟩ :=
      LinkDevice.trace_execute (setRunning 500 true).run 0 (LinkDevice.toNewBath.openStream 0).2
    exact ⟨es, _, hes, hl, ((verified_writes 500).2 _ es _ hes hl).2⟩

end Link

end ChillerGateway
