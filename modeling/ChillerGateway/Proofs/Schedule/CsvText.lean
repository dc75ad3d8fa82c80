import ChillerGateway.Proofs.Schedule.CsvLines
import ChillerGateway.Proofs.Text

/-!
# Files of plain text

A file is a text of rows.  Commas stand between the fields of a row, a line end of any of the three
kinds after each row but the last one, and a byte-order mark may come first.  The fields themselves
have no commas, quotes or line ends.

* `Csv.records_text` — the records of such a file are its rows, but for those without any byte.
* `Csv.texts?_row` — the texts of such a record are its fields without the blanks around them.
-/

namespace ChillerGateway

namespace Csv

/-- A text without commas, quotes and line ends. -/
def IsBare (text : String) : Prop :=
  ∀ c ∈ text.toList, c ≠ ',' ∧ c ≠ '"' ∧ c ≠ '\n' ∧ c ≠ '\r'

instance (text : String) : Decidable (IsBare text) := List.decidableBAll _ text.toList

/-- A text that stands for itself. -/
structure Field where
  text : String
  bare : IsBare text

abbrev Row := List Field

/-- What ends a line. -/
inductive LineEnd where
  | lf
  | cr
  | crlf

def LineEnd.text : LineEnd → String
  | .lf => "\n"
  | .cr => "\r"
  | .crlf => "\r\n"

/-- The text of a row, without a line end. -/
def Row.text : Row → String
  | [] => ""
  | [field] => field.text
  | field :: row => field.text ++ "," ++ Row.text row

/-- The text of some lines and of a row after them. -/
def linesText : List (Row × LineEnd) → Row → String
  | [], last => last.text
  | (row, lineEnd) :: lines, last => row.text ++ lineEnd.text ++ linesText lines last

/-- The byte-order mark. -/
def mark : Char := '\uFEFF'

/-- A file, with or without a mark.  A mark that comes first is not part of a field. -/
structure File where
  marked : Bool
  lines : List (Row × LineEnd)
  last : Row
  mark_apart : marked = false → (linesText lines last).toList.head? ≠ some mark

def File.text (f : File) : String :=
  (if f.marked then mark.toString else "") ++ linesText f.lines f.last

/-- The rows of a file; the last one is empty when the file ends with a line end. -/
def File.rows (f : File) : List Row := f.lines.map Prod.fst ++ [f.last]

/-! ## Bytes -/

def Field.bytes (field : Field) : Bytes := Text.toBytes field.text

def LineEnd.bytes : LineEnd → Bytes
  | .lf => [10]
  | .cr => [13]
  | .crlf => [13, 10]

theorem LineEnd.toBytes_text (e : LineEnd) : Text.toBytes e.text = e.bytes := by
  rw [Text.toBytes_eq]
  cases e <;> rfl

theorem LineEnd.bytes_ne_nil (e : LineEnd) : e.bytes ≠ [] := by
  cases e <;> exact List.cons_ne_nil _ _

theorem LineEnd.isLineEnd_bytes (e : LineEnd) : ∀ b ∈ e.bytes, isLineEnd b = true := by
  cases e <;> simp [bytes, isLineEnd]

/-- The bytes of a bare text are bare. -/
theorem Field.bare_bytes (field : Field) : Bare field.bytes := by
  intro b hb
  rw [bytes, Text.toBytes_eq] at hb
  obtain ⟨c, hc, hb⟩ := List.mem_flatMap.mp hb
  obtain ⟨hcomma, hquote, hlf, hcr⟩ := field.bare c hc
  refine ⟨?_, ?_, Bool.or_eq_false_iff.mpr ⟨decide_eq_false ?_, decide_eq_false ?_⟩⟩
  · rintro rfl
    exact hcomma (Text.eq_of_mem_bytes rfl rfl hb)
  · rintro rfl
    exact hquote (Text.eq_of_mem_bytes rfl rfl hb)
  · rintro rfl
    exact hlf (Text.eq_of_mem_bytes rfl rfl hb)
  · rintro rfl
    exact hcr (Text.eq_of_mem_bytes rfl rfl hb)

/-- A row as the fields of a record. -/
def Row.bytes (row : Row) : List Bytes := row.map Field.bytes

theorem Row.toBytes_text (row : Row) : Text.toBytes row.text = joined row.bytes := by
  have hcomma : Text.toBytes "," = [comma] := by rw [Text.toBytes_eq]; rfl
  induction row with
  | nil => rw [Text.toBytes_eq]; rfl
  | cons field row ih =>
    cases row with
    | nil => exact (joined_singleton _).symm
    | cons next row =>
      rw [Row.text, Text.toBytes_append, Text.toBytes_append, ih, hcomma, List.append_assoc]
      · exact (joined_cons _ _ _).symm
      · exact List.cons_ne_nil next row

theorem toBytes_linesText (lines : List (Row × LineEnd)) (last : Row) :
    Text.toBytes (linesText lines last) =
      bytesOf (lines.map fun line => (line.1.bytes, line.2.bytes)) last.bytes := by
  induction lines with
  | nil => exact last.toBytes_text
  | cons line lines ih =>
    obtain ⟨row, lineEnd⟩ := line
    rw [linesText, Text.toBytes_append, Text.toBytes_append, ih, row.toBytes_text,
      lineEnd.toBytes_text]
    simp [bytesOf]

/-! ## The mark -/

theorem toBytes_mark : Text.toBytes mark.toString = [0xEF, 0xBB, 0xBF] := by
  rw [Text.toBytes_eq]
  rfl

/-- A text that does not begin with the mark is read from its first byte on. -/
theorem dropMark_toBytes {text : String} (h : text.toList.head? ≠ some mark) :
    dropMark (Text.toBytes text) = Text.toBytes text := by
  have hbytes : ∀ rest, Text.toBytes text ≠ 0xEF :: 0xBB :: 0xBF :: rest := by
    intro rest heq
    rw [Text.toBytes_eq] at heq
    cases hchars : text.toList with
    | nil => rw [hchars] at heq; cases heq
    | cons c chars =>
      rw [hchars] at h heq
      exact h (congrArg some (Text.eq_of_append (y := rest) heq))
  unfold dropMark
  split
  · rename_i rest heq
    exact absurd heq (hbytes rest)
  · rfl

theorem File.dropMark_text (f : File) :
    dropMark (Text.toBytes f.text) = Text.toBytes (linesText f.lines f.last) := by
  rw [File.text]
  cases hmarked : f.marked with
  | false => simpa using dropMark_toBytes (f.mark_apart hmarked)
  | true =>
    rw [if_pos rfl, Text.toBytes_append, toBytes_mark]
    rfl

/-! ## Records -/

/-- **The records of a file** are its rows, but for those without any byte. -/
theorem records_text (f : File) :
    records (Text.toBytes f.text) = present (f.rows.map Row.bytes) := by
  have hbare : ∀ row : Row, ∀ field ∈ row.bytes, Bare field := by
    intro row field hfield
    obtain ⟨field, -, rfl⟩ := List.mem_map.mp hfield
    exact field.bare_bytes
  have hlines : ∀ line ∈ f.lines.map fun line => (line.1.bytes, line.2.bytes),
      (∀ field ∈ line.1, Bare field) ∧ line.2 ≠ [] ∧ ∀ e ∈ line.2, isLineEnd e = true := by
    intro line hline
    obtain ⟨⟨row, lineEnd⟩, -, rfl⟩ := List.mem_map.mp hline
    exact ⟨hbare row, lineEnd.bytes_ne_nil, lineEnd.isLineEnd_bytes⟩
  rw [records, f.dropMark_text, toBytes_linesText, run_rows hlines (hbare f.last)]
  simp [File.rows, Function.comp_def]

/-- The texts of a record are its fields without the blanks around them. -/
theorem texts?_row (row : Row) :
    texts? row.bytes = some (row.map fun field => Text.trim field.text) := by
  unfold texts? Row.bytes
  induction row with
  | nil => rfl
  | cons field row ih =>
    rw [List.map_cons, List.mapM_cons, ih, Field.bytes, Text.ofBytes?_toBytes]
    rfl

/-! ## Rows that are present -/

theorem present_nil : present [] = [] := rfl

/-- A row without fields is no record. -/
theorem present_blank (rows : List Row) :
    present ((([] : Row) :: rows).map Row.bytes) = present (rows.map Row.bytes) := by
  simp [present, Row.bytes, joined_nil]

/-- A row of two fields or more is a record. -/
theorem present_wide (first second : Field) (more : Row) (rows : List Row) :
    present (((first :: second :: more) :: rows).map Row.bytes) =
      Row.bytes (first :: second :: more) :: present (rows.map Row.bytes) := by
  simp [present, Row.bytes, joined_cons]

/-- A row of one field is a record of one field, or no record when the field is empty. -/
theorem present_short (field : Field) (rows : List Row) :
    present (([field] :: rows).map Row.bytes) = present (rows.map Row.bytes) ∨
      present (([field] :: rows).map Row.bytes) =
        Row.bytes [field] :: present (rows.map Row.bytes) := by
  by_cases hline : joined (Row.bytes [field]) = []
  · exact Or.inl (by simp [present, hline])
  · exact Or.inr (by simp [present, hline])

end Csv

end ChillerGateway
