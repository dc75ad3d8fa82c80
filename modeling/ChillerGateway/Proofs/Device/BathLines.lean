import ChillerGateway.Device.Bath
import ChillerGateway.Device.Link
import ChillerGateway.Proofs.Binary64.Numerals
import ChillerGateway.Proofs.Device.LineCodec

/-!
# The lines of a bath about its setpoint

* `LineCodec.isLine_of_numeral`, `Link.isErrorAnswer_of_numeral` — the text of a number is one line,
  and no failure.
* `LineCodec.Fits`, `Link.query_fits` — lines that cross a link as they are, and the questions among
  them.
* `respond_write`, `respond_read` — a written setpoint is kept as its tenths, and shown.
-/

namespace ChillerGateway

open Binary64

theorem isNumeral_sent {x : Binary64} (hx : Setpoint.InRange x) :
    ∀ c ∈ (x.toFixed 1).toList, IsNumeral c := by
  obtain ⟨s, u, h, rfl, -⟩ := hx.exists_finite
  exact fun c hc => isNumeral_of_mem_toFixed Nat.one_pos hc

theorem sent_ne_nil {x : Binary64} (hx : Setpoint.InRange x) : (x.toFixed 1).toList ≠ [] := by
  obtain ⟨s, u, h, rfl, -⟩ := hx.exists_finite
  exact toFixed_ne_nil Nat.one_pos

namespace LineCodec

theorem isLine_of_numeral {text : String} (h : ∀ c ∈ text.toList, IsNumeral c) : IsLine text :=
  fun c hc => ⟨(h c hc).lt_128, (h c hc).not_lineEnd⟩

end LineCodec

namespace Link

/-- A text that is not empty and has no error mark is an answer. -/
theorem answerOf_line {text : String} (hempty : text ≠ "") (herror : isErrorAnswer text = false) :
    answerOf (.line text) = .ok text := by
  unfold answerOf
  split
  · rename_i heq
    cases heq
  · rename_i heq
    cases heq
  · rename_i heq
    cases heq
  · rename_i heq
    cases heq
    exact absurd rfl hempty
  · rename_i heq
    cases heq
    exact if_neg (by simp [herror])

/-- A number has no error mark. -/
theorem isErrorAnswer_of_numeral {text : String} (h : ∀ c ∈ text.toList, IsNumeral c)
    (hne : text.toList ≠ []) : isErrorAnswer text = false := by
  obtain ⟨c, rest, hcs⟩ := List.exists_cons_of_ne_nil hne
  have hc : c.toLower ≠ 'e' := (h c (by rw [hcs]; simp)).toLower_ne
  unfold isErrorAnswer
  rw [String.startsWith_string_eq_false_iff, Text.lower, String.toList_ofList, hcs, List.map_cons,
    String.toList_ofList]
  rintro ⟨t, ht⟩
  exact hc (List.cons.inj ht).1.symm

end Link

/-! ## Lines that cross a link -/

/-- A short line that keeps its ends. -/
structure LineCodec.Fits (line : String) : Prop where
  isLine : LineCodec.IsLine line
  length_le : line.toList.length ≤ 1000
  trim_eq : Text.trim line = line

instance (line : String) : Decidable (LineCodec.Fits line) :=
  decidable_of_iff
    (LineCodec.IsLine line ∧ line.toList.length ≤ 1000 ∧ Text.trim line = line)
    ⟨fun ⟨hline, hlength, htrim⟩ => ⟨hline, hlength, htrim⟩,
      fun h => ⟨h.isLine, h.length_le, h.trim_eq⟩⟩

/-- The lines that ask for something. -/
def Link.queries : List String := ["version", "status", "in_sp_00", "in_pv_00", "in_mode_05"]

/-- Each question is a short line, and one word to a bath. -/
theorem Link.query_fits {line : String} (h : line ∈ Link.queries) :
    LineCodec.Fits line ∧ Bath.splitCommand line = (line, "") := by
  have hall : ∀ line ∈ Link.queries,
      LineCodec.Fits line ∧ Bath.splitCommand line = (line, "") := by decide +kernel
  exact hall line h

/-- The write of the run flag is a short line, and a word with its argument to a bath. -/
theorem Link.runFlag_fits : ∀ running : Bool,
    LineCodec.Fits ("out_mode_05 " ++ if running then "1" else "0") ∧
      Bath.splitCommand ("out_mode_05 " ++ if running then "1" else "0") =
        ("out_mode_05", if running then "1" else "0") := by
  decide +kernel

/-! ## The bath -/

namespace Bath

/-- The line that asks for the setpoint, and what it is answered. -/
theorem respond_read (b : Bath) (now : Nat) :
    b.respond now "in_sp_00" = (some (b.setpoint.toFixed 2), b) := by
  unfold respond
  rw [(Link.query_fits (by simp [Link.queries])).2]
  rfl

theorem trimChars_write {text : String} (h : ∀ c ∈ text.toList, IsNumeral c)
    (hne : text.toList ≠ []) :
    Text.trimChars ("out_sp_00 " ++ text).toList = ("out_sp_00 " ++ text).toList := by
  refine Text.trimChars_eq_self ?_ ?_
  · intro c hc
    rw [String.toList_append] at hc
    cases hc
    rfl
  · intro c hc
    rw [String.toList_append, List.getLast?_append, List.getLast?_eq_some_getLast hne,
      Option.some_or, ← List.getLast?_eq_some_getLast hne] at hc
    exact (h c (List.mem_of_getLast? hc)).not_blank

/-- A write goes out as it is. -/
theorem trim_write {x : Binary64} (hx : Setpoint.InRange x) :
    Text.trim ("out_sp_00 " ++ x.toFixed 1) = "out_sp_00 " ++ x.toFixed 1 := by
  unfold Text.trim
  rw [trimChars_write (isNumeral_sent hx) (sent_ne_nil hx), String.ofList_toList]

/-- **A written setpoint is kept as its tenths**, and a write is not answered. -/
theorem respond_write (b : Bath) (now : Nat) {x : Binary64} (hx : Setpoint.InRange x) :
    b.respond now ("out_sp_00 " ++ x.toFixed 1) =
      (none, { b.update now with setpoint := Setpoint.written x }) := by
  have hnumeral := isNumeral_sent hx
  have hne := sent_ne_nil hx
  have htrim : Text.trimChars ("out_sp_00 " ++ x.toFixed 1).toList =
      "out_sp_00".toList ++ ' ' :: (x.toFixed 1).toList := by
    rw [trimChars_write hnumeral hne, String.toList_append]
    rfl
  have hword : ∀ c ∈ "out_sp_00".toList, (!Text.isBlank c) = true :=
    List.all_eq_true.mp (by decide)
  have hsplit : splitCommand ("out_sp_00 " ++ x.toFixed 1) = ("out_sp_00", x.toFixed 1) := by
    unfold splitCommand
    simp only [htrim]
    rw [List.takeWhile_append_of_pos hword, List.dropWhile_append_of_pos hword,
      List.takeWhile_cons_of_neg (by decide), List.dropWhile_cons_of_neg (by decide)]
    have hrest : Text.trimChars (' ' :: (x.toFixed 1).toList) = (x.toFixed 1).toList := by
      have hdrop : Text.trimChars (' ' :: (x.toFixed 1).toList) =
          Text.trimChars (x.toFixed 1).toList := by
        unfold Text.trimChars
        rw [List.dropWhile_cons_of_pos (by decide)]
      rw [hdrop, ← String.toList_ofList (l := Text.trimChars _)]
      exact congrArg String.toList (Text.trim_of_numeral hnumeral)
    rw [hrest, String.ofList_toList, List.append_nil]
    rfl
  unfold respond
  rw [hsplit]
  simp only [writeSetpoint, Setpoint.parse?_sent hx, if_pos hx.written]

end Bath

end ChillerGateway
