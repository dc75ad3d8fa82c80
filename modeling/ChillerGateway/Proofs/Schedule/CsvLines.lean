import ChillerGateway.Csv.Reader

/-!
# Records of plain fields

Fields without commas, quotes and line ends that are written with commas between them, and a line
end after each record, are read back as they are.  Lines without any byte are passed over.

* `Csv.run_joined` — the fields of a line.
* `Csv.run_rows` — lines with any line ends, the last of which may have none.
* `Csv.records_lines` — a whole file with a line feed after each record.
-/

namespace ChillerGateway

namespace Csv

/-- A field that stands for itself. -/
def Bare (field : Bytes) : Prop := ∀ b ∈ field, b ≠ comma ∧ b ≠ quote ∧ isLineEnd b = false

/-- A field that needs no quotes. -/
structure Plain (field : Bytes) : Prop where
  ne_nil : field ≠ []
  bytes : Bare field

instance (field : Bytes) : Decidable (Plain field) :=
  have : Decidable (∀ b ∈ field, b ≠ comma ∧ b ≠ quote ∧ isLineEnd b = false) :=
    List.decidableBAll _ field
  decidable_of_iff (field ≠ [] ∧ ∀ b ∈ field, b ≠ comma ∧ b ≠ quote ∧ isLineEnd b = false)
    ⟨fun ⟨hn, hb⟩ => ⟨hn, hb⟩, fun ⟨hn, hb⟩ => ⟨hn, hb⟩⟩

/-- The fields of a record with commas between them; nothing for a record without fields. -/
def joined (fields : List Bytes) : Bytes := [comma].intercalate fields

/-- A record as it is written. -/
def line (fields : List Bytes) : Bytes := joined fields ++ [10]

variable {fields record : List Bytes} {field rest : Bytes} {out : List (List Bytes)} {e : UInt8}

/-! ## The fields of a line -/

theorem joined_cons (field next : Bytes) (fields : List Bytes) :
    joined (field :: next :: fields) = field ++ comma :: joined (next :: fields) := by
  simp [joined]

theorem joined_nil : joined [] = [] := rfl

theorem joined_singleton (field : Bytes) : joined [field] = field := List.intercalate_singleton

/-- Bare bytes belong to their field. -/
theorem run_bytes (h : Bare field) (read rest : Bytes) :
    State.run (.plain record read) out (field ++ rest) =
      State.run (.plain record (field.reverse ++ read)) out rest := by
  induction field generalizing read with
  | nil => rfl
  | cons b field ih =>
    obtain ⟨⟨hcomma, -, hend⟩, hrest⟩ := List.forall_mem_cons.mp h
    have hstep : State.step (.plain record read) b = (.plain record (b :: read), none) := by
      simp [State.step, State.unquoted, hcomma, hend]
    rw [List.cons_append, State.run, hstep]
    simpa using ih hrest (b :: read)

/-- A field that does not begin with a quote is one without quotes from its beginning on. -/
theorem run_fieldStart (h : rest.head? ≠ some quote) :
    State.run (.fieldStart record) out rest = State.run (.plain record []) out rest := by
  cases rest with
  | nil => rfl
  | cons b rest =>
    have hquote : b ≠ quote := fun heq => h (congrArg some heq)
    have hstep : State.step (.fieldStart record) b = State.step (.plain record []) b := by
      simp [State.step, State.step.start, hquote]
    rw [State.run, State.run, hstep]

/-- A record begins like a field, but for a line end. -/
theorem run_betweenRecords {b : UInt8} (hquote : b ≠ quote) (hend : isLineEnd b = false) :
    State.run .betweenRecords out (b :: rest) = State.run (.plain [] []) out (b :: rest) := by
  have hstep : State.step .betweenRecords b = State.step (.plain [] []) b := by
    simp [State.step, State.step.start, hquote, hend]
  rw [State.run, State.run, hstep]

theorem mem_joined (h : ∀ f ∈ fields, Bare f) :
    ∀ b ∈ joined fields, b ≠ quote ∧ isLineEnd b = false := by
  induction fields with
  | nil => exact fun b hb => nomatch hb
  | cons f fields ih =>
    obtain ⟨hf, hmore⟩ := List.forall_mem_cons.mp h
    intro b hb
    cases fields with
    | nil =>
      rw [joined_singleton] at hb
      exact (hf b hb).2
    | cons g fields =>
      rw [joined_cons, List.mem_append, List.mem_cons] at hb
      rcases hb with hb | rfl | hb
      · exact (hf b hb).2
      · exact ⟨by decide, by decide⟩
      · exact ih hmore b hb

theorem head?_joined (h : ∀ f ∈ fields, Bare f) (hrest : rest.head? ≠ some quote) :
    (joined fields ++ rest).head? ≠ some quote := by
  have hmem := mem_joined h
  cases hj : joined fields with
  | nil => exact hrest
  | cons b more =>
    rw [hj] at hmem
    exact fun hb => (hmem b List.mem_cons_self).1 (Option.some.inj hb)

/-- **The fields of a line** are read one after the other; the last one goes on to the line end. -/
theorem run_joined (record : List Bytes) (out : List (List Bytes)) (h : ∀ f ∈ fields, Bare f)
    (hne : fields ≠ []) (hrest : rest.head? ≠ some quote) :
    ∃ before last, fields = before ++ [last] ∧
      State.run (.plain record []) out (joined fields ++ rest) =
        State.run (.plain (before.reverse ++ record) last.reverse) out rest := by
  induction fields generalizing record with
  | nil => exact absurd rfl hne
  | cons f fields ih =>
    obtain ⟨hf, hmore⟩ := List.forall_mem_cons.mp h
    cases fields with
    | nil =>
      refine ⟨[], f, rfl, ?_⟩
      rw [joined_singleton, run_bytes hf, List.append_nil]
      rfl
    | cons g fields =>
      obtain ⟨before, last, heq, hrun⟩ := ih (f :: record) hmore (List.cons_ne_nil g fields)
      have hcomma :
          State.step (.plain record f.reverse) comma = (.fieldStart (f :: record), none) := by
        simp [State.step, State.unquoted]
      refine ⟨f :: before, last, by rw [heq]; rfl, ?_⟩
      rw [joined_cons, List.append_assoc, List.cons_append, run_bytes hf, List.append_nil,
        State.run, hcomma]
      show State.run (.fieldStart (f :: record)) out _ = _
      rw [run_fieldStart (head?_joined hmore hrest), hrun, List.reverse_cons, List.append_assoc]
      rfl

/-! ## Lines -/

/-- Line ends between records are passed over. -/
theorem run_lineEnds {ends : Bytes} (h : ∀ e ∈ ends, isLineEnd e = true) (rest : Bytes) :
    State.run .betweenRecords out (ends ++ rest) = State.run .betweenRecords out rest := by
  induction ends with
  | nil => rfl
  | cons e ends ih =>
    obtain ⟨he, hends⟩ := List.forall_mem_cons.mp h
    have hstep : State.step .betweenRecords e = (.betweenRecords, none) := by
      simp [State.step, he]
    rw [List.cons_append, State.run, hstep]
    exact ih hends

/-- A line with any byte is read from its beginning as from that of a field without quotes. -/
theorem run_line_start (h : ∀ f ∈ fields, Bare f) (hline : joined fields ≠ []) (rest : Bytes) :
    State.run .betweenRecords out (joined fields ++ rest) =
      State.run (.plain [] []) out (joined fields ++ rest) := by
  have hmem := mem_joined h
  obtain ⟨b, more, hj⟩ := List.exists_cons_of_ne_nil hline
  rw [hj] at hmem ⊢
  obtain ⟨hquote, hend⟩ := hmem b List.mem_cons_self
  exact run_betweenRecords hquote hend

theorem ne_nil_of_joined (h : joined fields ≠ []) : fields ≠ [] := by
  rintro rfl
  exact h rfl

/-- **A record of bare fields** ends at its line end. -/
theorem run_row (h : ∀ f ∈ fields, Bare f) (hline : joined fields ≠ []) (he : isLineEnd e = true)
    (rest : Bytes) :
    State.run .betweenRecords out (joined fields ++ e :: rest) =
      State.run .betweenRecords (fields :: out) rest := by
  have hquote : (e :: rest).head? ≠ some quote := by
    intro heq
    obtain rfl : e = quote := Option.some.inj heq
    exact absurd he (by decide)
  have hcomma : e ≠ comma := by
    rintro rfl
    exact absurd he (by decide)
  obtain ⟨before, last, rfl, hrun⟩ :=
    run_joined [] out h (ne_nil_of_joined hline) hquote
  have hstep : State.step (.plain (before.reverse ++ []) last.reverse) e =
      (.betweenRecords, some (before ++ [last])) := by
    simp [State.step, State.unquoted, hcomma, he, Csv.record]
  rw [run_line_start h hline, hrun, State.run, hstep]
  rfl

/-- The end of the file ends a record as well. -/
theorem run_last (h : ∀ f ∈ fields, Bare f) (hline : joined fields ≠ []) :
    State.run .betweenRecords out (joined fields) = out.reverse ++ [fields] := by
  have hquote : ([] : Bytes).head? ≠ some quote := nofun
  obtain ⟨before, last, rfl, hrun⟩ :=
    run_joined [] out h (ne_nil_of_joined hline) hquote
  have hstart : State.run .betweenRecords out (joined (before ++ [last]) ++ []) = _ :=
    run_line_start h hline []
  rw [hrun, List.append_nil] at hstart
  rw [hstart]
  simp [State.run, State.finish, Csv.record]

/-- The records among some rows: those that have any byte. -/
def present (rows : List (List Bytes)) : List (List Bytes) := rows.filter fun row => joined row ≠ []

/-- The bytes of some rows with their line ends, and of a last row without one. -/
def bytesOf (rows : List (List Bytes × Bytes)) (last : List Bytes) : Bytes :=
  rows.flatMap (fun row => joined row.1 ++ row.2) ++ joined last

/-- **Lines of bare fields** are read as their records, whatever their line ends are. -/
theorem run_rows {rows : List (List Bytes × Bytes)} {last : List Bytes}
    (hrows : ∀ row ∈ rows, (∀ f ∈ row.1, Bare f) ∧ row.2 ≠ [] ∧ ∀ e ∈ row.2, isLineEnd e = true)
    (hlast : ∀ f ∈ last, Bare f) :
    State.run .betweenRecords out (bytesOf rows last) =
      out.reverse ++ present (rows.map Prod.fst ++ [last]) := by
  unfold bytesOf
  induction rows generalizing out with
  | nil =>
    by_cases hline : joined last = []
    · simp [present, hline, State.run, State.finish]
    · simpa [present, hline] using run_last hlast hline
  | cons row rows ih =>
    obtain ⟨⟨hbare, hne, hends⟩, hmore⟩ := List.forall_mem_cons.mp hrows
    obtain ⟨fields, ends⟩ := row
    rw [List.flatMap_cons, List.append_assoc, List.append_assoc]
    by_cases hline : joined fields = []
    · rw [hline, List.nil_append, run_lineEnds hends, ih hmore]
      simp [present, hline]
    · obtain ⟨e, more, rfl⟩ := List.exists_cons_of_ne_nil hne
      obtain ⟨he, hmoreEnds⟩ := List.forall_mem_cons.mp hends
      rw [List.cons_append, run_row hbare hline he, run_lineEnds hmoreEnds, ih hmore]
      simp [present, hline]

theorem joined_ne_nil (h : field ≠ []) (fields : List Bytes) : joined (field :: fields) ≠ [] := by
  cases fields with
  | nil => rwa [joined_singleton]
  | cons next fields => simp [joined_cons]

/-- **A file of plain fields** is read back. -/
theorem records_lines {rows : List (List Bytes)}
    (h : ∀ row ∈ rows, row ≠ [] ∧ ∀ f ∈ row, Plain f)
    (hmark : dropMark (rows.flatMap line) = rows.flatMap line) :
    records (rows.flatMap line) = rows := by
  have hbytes : rows.flatMap line = bytesOf (rows.map fun row => (row, [10])) [] := by
    rw [bytesOf, List.flatMap_map, joined_nil, List.append_nil]
    rfl
  have hpresent : present (rows ++ [[]]) = rows := by
    rw [present, List.filter_append, List.filter_eq_self.mpr fun row hrow => ?_]
    · simp [joined]
    · obtain ⟨hne, hplain⟩ := h row hrow
      obtain ⟨f, fields, rfl⟩ := List.exists_cons_of_ne_nil hne
      exact decide_eq_true (joined_ne_nil (hplain f List.mem_cons_self).ne_nil fields)
  have hlines : ∀ row ∈ rows.map fun row => (row, [(10 : UInt8)]),
      (∀ f ∈ row.1, Bare f) ∧ row.2 ≠ [] ∧ ∀ e ∈ row.2, isLineEnd e = true := by
    intro row hrow
    obtain ⟨fields, hfields, rfl⟩ := List.mem_map.mp hrow
    exact ⟨fun f hf => ((h fields hfields).2 f hf).bytes, List.cons_ne_nil _ _, by simp [isLineEnd]⟩
  unfold records
  rw [hmark, hbytes, run_rows hlines (List.forall_mem_nil Bare), List.map_map]
  simpa [Function.comp_def] using hpresent

end Csv

end ChillerGateway
