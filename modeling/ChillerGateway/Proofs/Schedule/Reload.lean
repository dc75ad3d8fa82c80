import ChillerGateway.Schedule.File
import ChillerGateway.Proofs.Binary64.Hundredths
import ChillerGateway.Proofs.Schedule.CsvLines
import ChillerGateway.Proofs.Schedule.Steps
import Mathlib.Data.List.Forall2

/-!
# A stored schedule is read back

A schedule is stored with two places, so a step is read back as the numbers nearest to its
hundredths.  Two steps closer together than a hundredth of a minute may be stored at one time, and
then the file is refused; in all other cases each step comes back in its place.

* `Schedule.ofCsv_toCsv` — the steps of the file of a schedule.
* `Schedule.reload` — which schedules are read back, and as what.
* `Schedule.dense_not_reloaded` — one that is not.
-/

namespace ChillerGateway

open Binary64

/-- What a step is read back as. -/
def Step.atHundredths (s : Step Binary64) : Step Binary64 :=
  ⟨s.minutes.atHundredths, s.temperature.atHundredths⟩

/-! ## Numbers -/

namespace Binary64

theorem IsTime.atHundredths {x : Binary64} (hx : x.IsTime) : x.atHundredths.IsTime := by
  obtain ⟨s, u, h, rfl, hs⟩ := hx.exists_finite
  rw [atHundredths_finite, isTime_finite_iff]
  intro hneg
  rw [hs hneg, show fixed 2 0 = 0 by decide +kernel, Nat.zero_mul]
  exact nearestUnits_zero 100

theorem IsTime.magnitude_atHundredths {x : Binary64} (hx : x.IsTime) :
    x.atHundredths.magnitude = nearestUnits (fixed 2 x.magnitude * one) 100 := by
  obtain ⟨s, u, h, rfl, -⟩ := hx.exists_finite
  rw [atHundredths_finite, magnitude_finite, magnitude_finite]

theorem isNegative_atHundredths {x : Binary64} (hx : x.isFinite = true) :
    x.atHundredths.isNegative = x.isNegative := by
  cases x with
  | nan => cases hx
  | infinite => cases hx
  | finite s u h => rw [atHundredths_finite, isNegative_finite, isNegative_finite]

/-- A later time is not read back as an earlier one. -/
theorem timeKey_atHundredths {x y : Binary64} (hx : x.IsTime) (hy : y.IsTime)
    (h : x.magnitude < y.magnitude) : x.atHundredths.timeKey ≤ y.atHundredths.timeKey := by
  have hsign : y.isNegative = false := by
    by_contra hneg
    have := hy.magnitude_of_isNegative (by simpa using hneg)
    omega
  have hmono : nearestUnits (fixed 2 x.magnitude * one) 100 ≤
      nearestUnits (fixed 2 y.magnitude * one) 100 :=
    nearestUnits_mono (by decide) (Nat.mul_le_mul_right _ (fixed_two_mono h.le))
  have := Bool.toNat_le (!x.atHundredths.isNegative)
  unfold timeKey
  rw [hx.magnitude_atHundredths, hy.magnitude_atHundredths, isNegative_atHundredths hy.1, hsign]
  simp only [Bool.not_false, Bool.toNat_true]
  omega

/-- Two times are read back as one when their hundredths are the same. -/
theorem IsTime.magnitude_atHundredths_inj {x y : Binary64} (hx : x.IsTime) (hy : y.IsTime) :
    x.atHundredths.magnitude = y.atHundredths.magnitude ↔ x.hundredths = y.hundredths := by
  rw [hx.magnitude_atHundredths, hy.magnitude_atHundredths]
  obtain ⟨s, u, hu, rfl, -⟩ := hx.exists_finite
  obtain ⟨t, v, hv, rfl, -⟩ := hy.exists_finite
  exact ⟨hundredths_inj hu hv, fun h => congrArg (fun k => nearestUnits (k * one) 100) h⟩

end Binary64

namespace Setpoint

/-- An accepted temperature is read back as an accepted one. -/
theorem InRange.atHundredths {x : Binary64} (hx : InRange x) : InRange x.atHundredths := by
  obtain ⟨s, u, h, rfl, hu⟩ := hx.exists_finite
  have hcount : fixed 2 u ≤ limit s * 10 ^ 2 := by
    rw [fixed_eq]
    refine roundHalfEven_le Binary64.one_pos ?_
    rw [Nat.mul_right_comm]
    exact Nat.mul_le_mul_right _ hu
  rw [atHundredths_finite, inRange_finite_iff]
  refine nearestUnits_le (by decide) (representable_limit s).dvd ?_
  exact (Nat.mul_le_mul_right _ hcount).trans_eq (Nat.mul_right_comm _ _ _)

end Setpoint

namespace Schedule

/-! ## The steps of a file -/

section

variable {s : Step Binary64} {steps : List (Step Binary64)}

theorem Accepted.atHundredths (h : Accepted s) : Accepted s.atHundredths :=
  ⟨h.1.atHundredths, h.2.atHundredths⟩

/-- The fields of the record of a step. -/
def fields (s : Step Binary64) : List Csv.Bytes :=
  [Text.toBytes (s.minutes.toFixed 2), Text.toBytes (s.temperature.toFixed 2)]

/-- The fields of the header. -/
def headerFields : List Csv.Bytes :=
  [Text.toBytes "elapsed_minutes", Text.toBytes "temperature_c"]

/-- The text of a finite number needs no quotes and has no blanks. -/
theorem plain_toFixed {x : Binary64} (hx : x.isFinite = true) :
    Csv.Plain (Text.toBytes (x.toFixed 2)) ∧ Text.trim (x.toFixed 2) = x.toFixed 2 := by
  cases x with
  | nan => cases hx
  | infinite => cases hx
  | finite s u h =>
    have hnumeral : ∀ c ∈ ((Binary64.finite s u h).toFixed 2).toList, IsNumeral c :=
      fun c hc => isNumeral_of_mem_toFixed (by decide) hc
    refine ⟨?_, Text.trim_of_numeral hnumeral⟩
    rw [Text.toBytes_ascii fun c hc => (hnumeral c hc).lt_128]
    refine ⟨by simpa using toFixed_ne_nil (by decide), fun b hb => ?_⟩
    obtain ⟨c, hc, rfl⟩ := List.mem_map.mp hb
    obtain ⟨hlow, hhigh⟩ := hnumeral c hc
    have hnat : (UInt8.ofNat c.toNat).toNat = c.toNat := by
      rw [UInt8.toNat_ofNat', Nat.mod_eq_of_lt (by omega)]
    have hne : ∀ d : UInt8, d.toNat < 45 → UInt8.ofNat c.toNat ≠ d := by
      rintro d hd rfl
      omega
    refine ⟨hne _ (by decide), hne _ (by decide), ?_⟩
    rw [Csv.isLineEnd, decide_eq_false (hne 10 (by decide)), decide_eq_false (hne 13 (by decide))]
    rfl

theorem plain_fields (h : Accepted s) : fields s ≠ [] ∧ ∀ f ∈ fields s, Csv.Plain f := by
  refine ⟨List.cons_ne_nil _ _, ?_⟩
  simp only [fields, List.forall_mem_cons]
  exact ⟨(plain_toFixed h.1.1).1, (plain_toFixed h.2.isFinite).1, List.forall_mem_nil _⟩

theorem texts?_fields (h : Accepted s) :
    Csv.texts? (fields s) = some [s.minutes.toFixed 2, s.temperature.toFixed 2] := by
  simp [Csv.texts?, fields, Text.ofBytes?_toBytes, (plain_toFixed h.1.1).2,
    (plain_toFixed h.2.isFinite).2]

theorem step?_texts (h : Accepted s) :
    step? [s.minutes.toFixed 2, s.temperature.toFixed 2] = some s.atHundredths := by
  simp [step?, parse?_hundredths h.1.1, parse?_hundredths h.2.isFinite, Step.atHundredths]

/-- The steps of some records, after others. -/
theorem stepsFrom_fields (h : ∀ s ∈ steps, Accepted s) (index : Nat) (read : List (Step Binary64)) :
    stepsFrom index read (steps.map fields) =
      .ok (read.reverse ++ steps.map Step.atHundredths) := by
  induction steps generalizing index read with
  | nil => simp [stepsFrom]
  | cons s steps ih =>
    obtain ⟨hs, hrest⟩ := List.forall_mem_cons.mp h
    rw [List.map_cons, stepsFrom, texts?_fields hs]
    simp only [List.length_cons, List.length_nil, Nat.reduceAdd, Nat.lt_irrefl, if_false,
      step?_texts hs]
    rw [ih hrest]
    simp

theorem plain_headerFields : headerFields ≠ [] ∧ ∀ f ∈ headerFields, Csv.Plain f := by
  simp only [headerFields, Text.toBytes_eq]
  refine ⟨List.cons_ne_nil _ _, List.forall_mem_cons.mpr ⟨by decide, ?_⟩⟩
  exact List.forall_mem_singleton.mpr (by decide)

/-- A header is passed over. -/
theorem stepsFrom_header (rest : List (List Csv.Bytes)) :
    stepsFrom 0 [] (headerFields :: rest) = stepsFrom 1 [] rest := by
  have htexts : Csv.texts? headerFields = some ["elapsed_minutes", "temperature_c"] := by
    have htrim : Text.trim "elapsed_minutes" = "elapsed_minutes" ∧
      Text.trim "temperature_c" = "temperature_c" := by decide
    simp [Csv.texts?, headerFields, Text.ofBytes?_toBytes, htrim]
  have hnone : step? ["elapsed_minutes", "temperature_c"] = none := by decide
  rw [stepsFrom, htexts]
  simp [hnone]

/-! ## The file of a schedule -/

theorem toBytes_csvLine (s : Step Binary64) : Text.toBytes (csvLine s) = Csv.line (fields s) := by
  have hcomma : Text.toBytes "," = [Csv.comma] := by rw [Text.toBytes_eq]; rfl
  have hend : Text.toBytes "\n" = [10] := by rw [Text.toBytes_eq]; rfl
  simp [csvLine, Csv.line, Csv.joined, fields, Text.toBytes_append, hcomma, hend]

theorem toBytes_toCsv (s : Schedule) :
    Text.toBytes s.toCsv = (headerFields :: s.steps.toList.map fields).flatMap Csv.line := by
  have hfold : ∀ (steps : List (Step Binary64)) (out : String),
      Text.toBytes (steps.foldl (fun out step => out ++ csvLine step) out) =
        Text.toBytes out ++ (steps.map fields).flatMap Csv.line := by
    intro steps
    induction steps with
    | nil => simp
    | cons step steps ih =>
      intro out
      rw [List.foldl_cons, ih, Text.toBytes_append, toBytes_csvLine]
      simp
  have hheader : Text.toBytes "elapsed_minutes,temperature_c\n" = Csv.line headerFields := by
    simp only [headerFields, Text.toBytes_eq]
    rfl
  rw [toCsv, hfold, hheader, List.flatMap_cons]

/-- **The steps of the file of a schedule** are its steps, as they are read back. -/
theorem ofCsv_toCsv {s : Schedule} (h : ∀ x ∈ s.steps.toList, Accepted x) :
    ofCsv s.toCsv = make (s.steps.toList.map Step.atHundredths) := by
  have hrows : ∀ row ∈ headerFields :: s.steps.toList.map fields,
      row ≠ [] ∧ ∀ f ∈ row, Csv.Plain f := by
    refine List.forall_mem_cons.mpr ⟨plain_headerFields, fun row hrow => ?_⟩
    obtain ⟨x, hx, rfl⟩ := List.mem_map.mp hrow
    exact plain_fields (h x hx)
  have hmark : Csv.dropMark ((headerFields :: s.steps.toList.map fields).flatMap Csv.line) =
      (headerFields :: s.steps.toList.map fields).flatMap Csv.line := by
    obtain ⟨more, hmore⟩ : ∃ more, Csv.line headerFields = 101 :: more := by
      simp only [headerFields, Text.toBytes_eq]
      exact ⟨_, rfl⟩
    rw [List.flatMap_cons, hmore]
    rfl
  unfold ofCsv ofBytes
  rw [toBytes_toCsv, Csv.records_lines hrows hmark, stepsFrom_header, stepsFrom_fields h]
  rfl

/-! ## Reading it back -/

/-- What is read back is the number nearest to hundredths that lie at most half a hundredth from
what was stored. -/
def StoredAs (x y : Binary64) : Prop :=
  ∃ s u h k, x = .finite s u h ∧ y = ofRatio s k 100 ∧
    2 * (100 * u) ≤ 2 * (k * one) + one ∧ 2 * (k * one) ≤ 2 * (100 * u) + one

theorem storedAs_atHundredths {x : Binary64} (hx : x.isFinite = true) :
    StoredAs x x.atHundredths := by
  cases x with
  | nan => cases hx
  | infinite => cases hx
  | finite s u h => exact ⟨s, u, h, fixed 2 u, rfl, rfl, fixed_two_error u⟩

/-- Steps in order are read back in order. -/
theorem inOrder_atHundredths (h : ∀ x ∈ steps, Accepted x)
    (ho : steps.Pairwise fun a b => a.minutes.magnitude < b.minutes.magnitude) :
    InOrder (steps.map Step.atHundredths) :=
  List.pairwise_map.mpr <| ho.imp_of_mem fun ha hb hlt =>
    timeKey_atHundredths (h _ ha).1 (h _ hb).1 hlt

/-- No time is repeated when no two are stored at one hundredth. -/
theorem repeatedTimes_atHundredths (h : ∀ x ∈ steps, Accepted x)
    (ho : steps.Pairwise fun a b => a.minutes.magnitude < b.minutes.magnitude) :
    repeatedTimes (sorted (steps.map Step.atHundredths)) = [] ↔
      steps.Pairwise fun a b => a.minutes.hundredths ≠ b.minutes.hundredths := by
  have haccepted : ∀ x ∈ steps.map Step.atHundredths, Accepted x := by
    intro x hx
    obtain ⟨y, hy, rfl⟩ := List.mem_map.mp hx
    exact (h y hy).atHundredths
  have horder := inOrder_atHundredths h ho
  rw [sorted_of_inOrder haccepted horder, repeatedTimes_eq_nil_iff haccepted horder,
    List.pairwise_map]
  have hsame : ∀ {a b}, a ∈ steps → b ∈ steps →
      (a.minutes.atHundredths.magnitude ≠ b.minutes.atHundredths.magnitude ↔
        a.minutes.hundredths ≠ b.minutes.hundredths) :=
    fun ha hb => not_congr ((h _ ha).1.magnitude_atHundredths_inj (h _ hb).1)
  exact ⟨fun hp => hp.imp_of_mem fun ha hb => (hsame ha hb).mp,
    fun hp => hp.imp_of_mem fun ha hb => (hsame ha hb).mpr⟩

end

variable {steps : List (Step Binary64)} {s : Schedule}

/-- A schedule of which no two times are stored at one hundredth. -/
def Separate (s : Schedule) : Prop :=
  s.steps.toList.Pairwise fun a b => a.minutes.hundredths ≠ b.minutes.hundredths

instance (s : Schedule) : Decidable s.Separate := by
  unfold Separate
  infer_instance

/-- What the file of a schedule holds. -/
theorem ofCsv_toCsv_of_make (h : make steps = .ok s) :
    if s.Separate then
      ∃ t, ofCsv s.toCsv = .ok t ∧ t.steps.toList = s.steps.toList.map Step.atHundredths
    else ∃ times, ofCsv s.toCsv = .error (duplicates times) := by
  obtain ⟨hne, haccepted, hascending⟩ := steps_of_make h
  have hstored : ∀ x ∈ s.steps.toList.map Step.atHundredths, Accepted x := by
    intro x hx
    obtain ⟨y, hy, rfl⟩ := List.mem_map.mp hx
    exact (haccepted y hy).atHundredths
  have hsorted := sorted_of_inOrder hstored (inOrder_atHundredths haccepted hascending)
  rw [ofCsv_toCsv haccepted, make_eq (mt List.map_eq_nil_iff.mp hne) hstored]
  have hrepeat := repeatedTimes_atHundredths haccepted hascending
  split
  · rename_i hseparate
    rw [if_pos (hrepeat.mpr hseparate)]
    exact ⟨_, rfl, hsorted⟩
  · rename_i hmerged
    rw [if_neg (mt hrepeat.mp hmerged)]
    exact ⟨_, rfl⟩

/-- **Which schedules are read back**: those of which no two times are stored at one hundredth.
Their steps come back in their places, as the numbers nearest to their hundredths; any other
schedule is refused for its times. -/
theorem reload (h : make steps = .ok s) :
    ((∃ t, ofCsv s.toCsv = .ok t) ↔ s.Separate) ∧
    (∀ t, ofCsv s.toCsv = .ok t →
      List.Forall₂ (fun a b => StoredAs a.minutes b.minutes ∧ StoredAs a.temperature b.temperature)
        s.steps.toList t.steps.toList) ∧
    ∀ e, ofCsv s.toCsv = .error e → ∃ times, e = duplicates times := by
  have haccepted := (steps_of_make h).2.1
  have hfile := ofCsv_toCsv_of_make h
  split at hfile
  · rename_i hseparate
    obtain ⟨t, ht, hsteps⟩ := hfile
    refine ⟨iff_of_true ⟨t, ht⟩ hseparate, fun t' ht' => ?_, fun e he => ?_⟩
    · cases ht.symm.trans ht'
      rw [hsteps, List.forall₂_map_right_iff, List.forall₂_same]
      exact fun x hx => ⟨storedAs_atHundredths (haccepted x hx).1.1,
        storedAs_atHundredths (haccepted x hx).2.isFinite⟩
    · cases ht.symm.trans he
  · rename_i hmerged
    obtain ⟨times, htimes⟩ := hfile
    refine ⟨iff_of_false (fun ⟨t, ht⟩ => ?_) hmerged, fun t ht => ?_, fun e he => ?_⟩
    · cases htimes.symm.trans ht
    · cases htimes.symm.trans ht
    · cases htimes.symm.trans he
      exact ⟨times, rfl⟩

/-- The ramp of the documentation comes back. -/
theorem reload_ramp : ∃ s t, make [⟨0, 20.25⟩, ⟨12.5, -4.75⟩, ⟨60, 80⟩] = .ok s ∧
    ofCsv s.toCsv = .ok t := by
  obtain ⟨s, hs, hsteps⟩ : ∃ s, make [⟨0, 20.25⟩, ⟨12.5, -4.75⟩, ⟨60, 80⟩] = .ok s ∧
      s.steps.toList = [⟨0, 20.25⟩, ⟨12.5, -4.75⟩, ⟨60, 80⟩] :=
    make_of_ascending (by decide) (by decide +kernel) (by decide +kernel)
  have hseparate : s.Separate := by
    rw [Separate, hsteps]
    decide +kernel
  obtain ⟨t, ht⟩ := (reload hs).1.mpr hseparate
  exact ⟨s, t, hs, ht⟩

/-- Two steps a thousandth of a minute apart are stored at one time, and not read back. -/
theorem dense_not_reloaded : ∃ s, make [⟨0.001, 20⟩, ⟨0.002, 30⟩] = .ok s ∧
    ¬ ∃ t, ofCsv s.toCsv = .ok t := by
  obtain ⟨s, hs, hsteps⟩ : ∃ s, make [⟨0.001, 20⟩, ⟨0.002, 30⟩] = .ok s ∧
      s.steps.toList = [⟨0.001, 20⟩, ⟨0.002, 30⟩] :=
    make_of_ascending (by decide) (by decide +kernel) (by decide +kernel)
  have hmerged : ¬ s.Separate := by
    rw [Separate, hsteps]
    decide +kernel
  have hfile := ofCsv_toCsv_of_make hs
  rw [if_neg hmerged] at hfile
  obtain ⟨times, htimes⟩ := hfile
  refine ⟨s, hs, fun ⟨t, ht⟩ => ?_⟩
  cases htimes.symm.trans ht

end Schedule

end ChillerGateway
