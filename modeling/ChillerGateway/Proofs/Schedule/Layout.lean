import ChillerGateway.Proofs.Schedule.CsvText
import ChillerGateway.Proofs.Schedule.Steps
import ChillerGateway.Schedule.File
import Mathlib.Data.List.Pairwise

/-!
# The layout of a schedule file

What a schedule file holds are its rows of numbers.  Their order does not matter, nor does anything
that is laid out around them: a header, blank lines, rows of one field, columns after the second,
the kind of the line ends, a byte-order mark.

* `Schedule.stepsFrom_body`, `Schedule.stepsFrom_laid` — the steps that are read from such rows.
* `Schedule.make_of_perm` — a schedule does not depend on the order of the steps it is made of.
* `Schedule.ofCsv_layout` — files with the same rows of numbers hold the same schedule, which is the
  one made of these numbers, or none of them holds any.
-/

namespace ChillerGateway

open Csv (Field Row File present)

namespace Schedule

/-! ## Layouts -/

/-- Two fields are the numbers of a step, without the blanks around them. -/
def Reads (first second : Field) (step : Step Binary64) : Prop :=
  Binary64.parse? (Text.trim first.text) = some step.minutes ∧
    Binary64.parse? (Text.trim second.text) = some step.temperature

instance (first second : Field) (step : Step Binary64) : Decidable (Reads first second step) := by
  unfold Reads
  infer_instance

/-- Rows of numbers with any columns after the second, and with blank lines and rows of one field
among them. -/
inductive Body : List (Step Binary64) → List Row → Prop where
  | nil : Body [] []
  | blank {steps : List (Step Binary64)} {rows : List Row} (h : Body steps rows) :
      Body steps ([] :: rows)
  | short {steps : List (Step Binary64)} {rows : List Row} (field : Field) (h : Body steps rows) :
      Body steps ([field] :: rows)
  | data {steps : List (Step Binary64)} {rows : List Row} {first second : Field}
      {step : Step Binary64} (more : Row) (hreads : Reads first second step)
      (h : Body steps rows) : Body (step :: steps) ((first :: second :: more) :: rows)

/-- The rows of a file: those of a body, with or without a header before them, which has two fields
or more that are not two numbers.  Only blank lines may come before a header. -/
inductive Laid : List (Step Binary64) → List Row → Prop where
  | blank {steps : List (Step Binary64)} {rows : List Row} (h : Laid steps rows) :
      Laid steps ([] :: rows)
  | headed {steps : List (Step Binary64)} {rows : List Row} {first second : Field} (more : Row)
      (hheader : ∀ step, ¬ Reads first second step) (h : Body steps rows) :
      Laid steps ((first :: second :: more) :: rows)
  | bare {steps : List (Step Binary64)} {rows : List Row} (h : Body steps rows) : Laid steps rows

/-- A file has some rows of numbers, in any order and laid out in any way. -/
def Holds (f : File) (steps : List (Step Binary64)) : Prop :=
  ∃ order, order.Perm steps ∧ Laid order f.rows

/-! ## Reading a layout -/

variable {steps : List (Step Binary64)} {rows : List Row}

/-- The step in a row is that in its first two fields. -/
theorem step?_row {first second : Field} {step : Step Binary64} (more : Row) :
    step? ((first :: second :: more).map fun field => Text.trim field.text) = some step ↔
      Reads first second step := by
  rw [List.map_cons, List.map_cons, step?, Reads]
  cases Binary64.parse? (Text.trim first.text) with
  | none => exact iff_of_false (fun h => nomatch h) fun h => nomatch h.1
  | some minutes =>
    cases Binary64.parse? (Text.trim second.text) with
    | none => exact iff_of_false (fun h => nomatch h) fun h => nomatch h.2
    | some temperature =>
      constructor
      · rintro ⟨⟩
        exact ⟨rfl, rfl⟩
      · rintro ⟨⟨⟩, ⟨⟩⟩
        rfl

/-- A row of two fields or more is not passed over for being short. -/
theorem not_short (first second : Field) (more : Row) :
    ¬ ((first :: second :: more).map fun field => Text.trim field.text).length < 2 := by
  rw [List.length_map, List.length_cons, List.length_cons]
  omega

/-- **The steps of a body** are those of its rows of numbers, wherever it begins. -/
theorem stepsFrom_body (h : Body steps rows) (index : Nat) (read : List (Step Binary64)) :
    stepsFrom index read (present (rows.map Row.bytes)) = .ok (read.reverse ++ steps) := by
  induction h generalizing index read with
  | nil => simp [Csv.present_nil, stepsFrom]
  | blank _ ih =>
    rw [Csv.present_blank]
    exact ih index read
  | short field _ ih =>
    -- An empty field leaves no byte in its row, which then has no index of its own.
    rcases Csv.present_short field _ with heq | heq
    · rw [heq]
      exact ih index read
    · rw [heq, stepsFrom, Csv.texts?_row]
      exact ih (index + 1) read
  | data more hreads _ ih =>
    rw [Csv.present_wide, stepsFrom, Csv.texts?_row]
    simp only [if_neg (not_short _ _ _), (step?_row more).mpr hreads]
    rw [ih, List.reverse_cons, List.append_assoc]
    rfl

/-- **The steps of a file** are those of its rows of numbers. -/
theorem stepsFrom_laid (h : Laid steps rows) :
    stepsFrom 0 [] (present (rows.map Row.bytes)) = .ok steps := by
  induction h with
  | blank _ ih =>
    rw [Csv.present_blank]
    exact ih
  | headed more hheader h =>
    have hnone := Option.eq_none_iff_forall_ne_some.mpr fun step hstep =>
      hheader step ((step?_row more).mp hstep)
    rw [Csv.present_wide, stepsFrom, Csv.texts?_row]
    simp only [if_neg (not_short _ _ _), hnone, if_true]
    exact stepsFrom_body h 1 []
  | bare h => exact stepsFrom_body h 0 []

theorem ofCsv_text {f : File} (h : Laid steps f.rows) : ofCsv f.text = make steps := by
  rw [ofCsv, ofBytes, Csv.records_text, stepsFrom_laid h]
  rfl

/-! ## The order of the steps -/

/-- Sorting undoes any other order of steps at different times. -/
theorem sorted_of_perm {a b : List (Step Binary64)} (hp : a.Perm b) (h : ∀ x ∈ a, Accepted x)
    (hdistinct : a.Pairwise fun x y => x.minutes.magnitude ≠ y.minutes.magnitude) :
    sorted a = sorted b := by
  have hb : ∀ x ∈ b, Accepted x := fun x hx => h x (hp.mem_iff.mpr hx)
  have hsymm : Std.Symm fun x y : Step Binary64 => x.minutes.magnitude ≠ y.minutes.magnitude :=
    ⟨fun _ _ => Ne.symm⟩
  have hsame : ∀ x y, x ∈ sorted a → y ∈ sorted b → x.minutes.timeKey ≤ y.minutes.timeKey →
      y.minutes.timeKey ≤ x.minutes.timeKey → x = y := by
    intro x y hx hy hxy hyx
    have hmagnitude := (Binary64.magnitude_le_of_timeKey hxy).antisymm
      (Binary64.magnitude_le_of_timeKey hyx)
    by_contra hne
    exact hdistinct.forall (mem_sorted.mp hx) (hp.mem_iff.mpr (mem_sorted.mp hy)) hne hmagnitude
  exact List.Perm.eq_of_pairwise hsame (inOrder_sorted h) (inOrder_sorted hb)
    (perm_sorted.trans (hp.trans perm_sorted.symm))

/-- **A schedule does not depend on the order** of the steps that it is made of. -/
theorem make_of_perm {a b : List (Step Binary64)} {s : Schedule} (hp : a.Perm b)
    (h : make a = .ok s) : make b = .ok s := by
  obtain ⟨hne, haccepted⟩ := accepted_of_make h
  have hdistinct : a.Pairwise fun x y => x.minutes.magnitude ≠ y.minutes.magnitude :=
    ((perm_of_make h).pairwise_iff Ne.symm).mp ((steps_of_make h).2.2.imp Nat.ne_of_lt)
  have hsorted := sorted_of_perm hp haccepted hdistinct
  have hneb : b ≠ [] := fun hb => hne (hp.trans (.of_eq hb)).eq_nil
  rw [make_eq hne haccepted] at h
  rw [make_eq hneb fun x hx => haccepted x (hp.mem_iff.mpr hx), ← h]
  simp only [hsorted]

/-! ## The schedule of a file -/

/-- Two answers are alike when they are the same schedule, or both a refusal. -/
def Alike : Except Error Schedule → Except Error Schedule → Prop
  | .ok s, .ok t => s = t
  | .error _, .error _ => True
  | _, _ => False

theorem alike_of_ok_iff {a b : Except Error Schedule} (h : ∀ s, a = .ok s ↔ b = .ok s) :
    Alike a b := by
  cases a with
  | ok s =>
    rw [(h s).mp rfl]
    rfl
  | error e =>
    cases b with
    | ok t => cases (h t).mpr rfl
    | error d => trivial

theorem ofCsv_of_holds {f : File} (h : Holds f steps) (s : Schedule) :
    ofCsv f.text = .ok s ↔ make steps = .ok s := by
  obtain ⟨order, hp, hlaid⟩ := h
  rw [ofCsv_text hlaid]
  exact ⟨make_of_perm hp, make_of_perm hp.symm⟩

/-- **The layout of a file does not matter**: files with the same rows of numbers are read as the
same schedule, or all of them are refused; and the schedule is the one that the numbers make. -/
theorem ofCsv_layout {f g : File} (hf : Holds f steps) (hg : Holds g steps) :
    Alike (ofCsv f.text) (ofCsv g.text) ∧ ∀ s, ofCsv f.text = .ok s ↔ make steps = .ok s := by
  refine ⟨alike_of_ok_iff fun s => ?_, ofCsv_of_holds hf⟩
  rw [ofCsv_of_holds hf, ofCsv_of_holds hg]

/-- Two rows of numbers, and the same rows the other way round after a mark and a header, with a
blank line, a row of one field and a further column. -/
theorem ofCsv_layout_decorated : ∃ f g : File,
    f.text = "0,20\n10,30\n" ∧
    g.text = "\uFEFFminutes,celsius\r\n\r\n10, 30 ,late\nnote\r0,20" ∧
    (Holds f [⟨0, 20⟩, ⟨10, 30⟩] ∧ Holds g [⟨0, 20⟩, ⟨10, 30⟩]) ∧
    Alike (ofCsv f.text) (ofCsv g.text) ∧
    (∀ s, ofCsv f.text = .ok s ↔ make [⟨0, 20⟩, ⟨10, 30⟩] = .ok s) ∧
    ∃ s, ofCsv g.text = .ok s := by
  let f : File := ⟨false, [([⟨"0", by decide⟩, ⟨"20", by decide⟩], .lf),
    ([⟨"10", by decide⟩, ⟨"30", by decide⟩], .lf)], [], by decide⟩
  let g : File := ⟨true, [([⟨"minutes", by decide⟩, ⟨"celsius", by decide⟩], .crlf), ([], .crlf),
    ([⟨"10", by decide⟩, ⟨" 30 ", by decide⟩, ⟨"late", by decide⟩], .lf),
    ([⟨"note", by decide⟩], .cr)], [⟨"0", by decide⟩, ⟨"20", by decide⟩], nofun⟩
  have hf : Holds f [⟨0, 20⟩, ⟨10, 30⟩] := ⟨_, .refl _, .bare <|
    .data [] (by decide +kernel) <| .data [] (by decide +kernel) <| .blank .nil⟩
  have hheader : ∀ step, ¬ Reads ⟨"minutes", by decide⟩ ⟨"celsius", by decide⟩ step := by
    have hword : Binary64.parse? (Text.trim "minutes") = none := by decide
    intro step hreads
    cases hword.symm.trans hreads.1
  have hg : Holds g [⟨0, 20⟩, ⟨10, 30⟩] := ⟨[⟨10, 30⟩, ⟨0, 20⟩], .swap _ _ _,
    .headed [] hheader <| .blank <| .data _ (by decide +kernel) <| .short _ <|
      .data [] (by decide +kernel) .nil⟩
  obtain ⟨s, hs, -⟩ : ∃ s, make [⟨0, 20⟩, ⟨10, 30⟩] = .ok s ∧
      s.steps.toList = [⟨0, 20⟩, ⟨10, 30⟩] :=
    make_of_ascending (by decide) (by decide +kernel) (by decide +kernel)
  obtain ⟨hsame, hmade⟩ := ofCsv_layout hf hg
  exact ⟨f, g, by decide, by decide, ⟨hf, hg⟩, hsame, hmade, s, (ofCsv_of_holds hg s).mpr hs⟩

end Schedule

end ChillerGateway
