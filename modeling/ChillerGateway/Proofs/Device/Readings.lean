import ChillerGateway.Proofs.Device.BathLines
import ChillerGateway.Proofs.Device.Serving

/-!
# What a bath says over a link

A short line that keeps its ends crosses a link as it is.  So an answer is had as it was given,
unless it reads as a failure; the texts of numbers and of states never do.

* `Link.IsReply` — the lines that are had as answers.
* `Link.isReply_toFixed` — the text of every number is such an answer.
* `LinkDevice.Paced.asks` — a question about the state of a bath comes back with its answer.
* `LinkDevice.Paced.verifyFrom_seen` — one reading is enough when it shows what is expected.
-/

namespace ChillerGateway

open Binary64

/-! ## Answers -/

/-- A line that is had as an answer. -/
structure Link.IsReply (text : String) : Prop extends LineCodec.Fits text where
  nonempty : text ≠ ""
  noError : Link.isErrorAnswer text = false

instance (text : String) : Decidable (Link.IsReply text) :=
  decidable_of_iff (LineCodec.Fits text ∧ text ≠ "" ∧ Link.isErrorAnswer text = false)
    ⟨fun ⟨hfits, hnonempty, hnoError⟩ => ⟨hfits, hnonempty, hnoError⟩,
      fun h => ⟨h.toFits, h.nonempty, h.noError⟩⟩

theorem Link.IsReply.answerOf {text : String} (h : Link.IsReply text) :
    Link.answerOf (.line text) = .ok text := Link.answerOf_line h.nonempty h.noError

/-- The characters of a number make such an answer. -/
theorem Link.isReply_of_numeral {text : String} (h : ∀ c ∈ text.toList, IsNumeral c)
    (hne : text.toList ≠ []) (hlen : text.toList.length ≤ 1000) : Link.IsReply text where
  isLine := LineCodec.isLine_of_numeral h
  length_le := hlen
  trim_eq := Text.trim_of_numeral h
  nonempty := by
    rintro rfl
    exact hne rfl
  noError := Link.isErrorAnswer_of_numeral h hne

/-- Some answers that are always the same. -/
theorem Link.isReply_fixed : ∀ text ∈ ["NaN", "" ++ "inf", "-" ++ "inf", "0", "1",
    "02 REMOTE STOP", "03 REMOTE START"], Link.IsReply text := by decide +kernel

/-- **The text of a number is an answer**, also that of an infinity or of no number at all. -/
theorem Link.isReply_toFixed (x : Binary64) : Link.IsReply (x.toFixed 2) := by
  cases x with
  | nan => exact Link.isReply_fixed "NaN" (by simp)
  | infinite s =>
    cases s with
    | false => exact Link.isReply_fixed ("" ++ "inf") (by simp)
    | true => exact Link.isReply_fixed ("-" ++ "inf") (by simp)
  | finite s u h =>
    refine Link.isReply_of_numeral (fun c hc => isNumeral_of_mem_toFixed (by decide) hc)
      (toFixed_ne_nil (by decide)) ?_
    exact (length_toFixed (by decide) s h).trans (by decide)

/-! ## Questions to a bath -/

namespace Bath

/-- The answers that only tell something. -/
theorem respond_version (b : Bath) (now : Nat) :
    b.respond now "version" = (some b.identity, b) := by
  unfold respond
  rw [(Link.query_fits (by simp [Link.queries])).2]
  rfl

theorem respond_status (b : Bath) (now : Nat) :
    b.respond now "status" = (some b.status, b) := by
  unfold respond
  rw [(Link.query_fits (by simp [Link.queries])).2]
  rfl

theorem respond_mode (b : Bath) (now : Nat) :
    b.respond now "in_mode_05" = (some (if b.running then "1" else "0"), b) := by
  unfold respond
  rw [(Link.query_fits (by simp [Link.queries])).2]
  rfl

/-- A bath takes the run flag without an answer. -/
theorem respond_writeMode (b : Bath) (now : Nat) (running : Bool) :
    b.respond now ("out_mode_05 " ++ if running then "1" else "0") =
      (none, { b.update now with running }) := by
  unfold respond
  rw [(Link.runFlag_fits running).2]
  cases running <;> rfl

theorem isReply_status (b : Bath) : Link.IsReply b.status := by
  unfold status
  cases b.running with
  | false => exact Link.isReply_fixed "02 REMOTE STOP" (by simp)
  | true => exact Link.isReply_fixed "03 REMOTE START" (by simp)

end Bath

namespace LinkDevice

variable {l : LinkDevice} {now timeout : Nat} {b : Bath}

namespace Paced

/-- **A question that leaves the bath as it is comes back with its answer.** -/
theorem asks (h : Paced l now b) {command text : String} (hc : LineCodec.Fits command)
    (hr : ∀ time, b.respond time command = (some text, b)) (htext : Link.IsReply text)
    (ht : 0 < timeout) :
    ∃ time l', now ≤ time ∧
      attempt (Link.query timeout command) now l = (.ok text, time, l') ∧ Serving l' time b := by
  have hrespond : b.respond (l.ready now).1 (Text.trim command) = (some text, b) := by
    rw [hc.trim_eq]
    exact hr _
  obtain ⟨l', hquery, hserving⟩ := h.query hc.isLine hc.length_le hrespond htext.isLine
    htext.length_le ht
  rw [htext.trim_eq, htext.answerOf] at hquery
  exact ⟨(l.ready now).1, l', l.le_ready now, hquery, hserving⟩

/-- The setpoint of a bath is read, if its text reads as it. -/
theorem reads_setpoint (h : Paced l now b) (hb : parse? (b.setpoint.toFixed 2) = some b.setpoint)
    (ht : 0 < timeout) :
    ∃ time l', now ≤ time ∧
      attempt (Link.queryNumber timeout "in_sp_00") now l = (.ok b.setpoint, time, l') ∧
      Serving l' time b := by
  have hreply := Link.isReply_toFixed b.setpoint
  obtain ⟨time, l', hle, hquery, hserving⟩ :=
    h.asks (Link.query_fits (by simp [Link.queries])).1 b.respond_read hreply ht
  refine ⟨time, l', hle, ?_, hserving⟩
  unfold Link.queryNumber
  rw [attempt_bind_ok hquery, hreply.trim_eq, hb]
  rfl

theorem reads_running (h : Paced l now b) (ht : 0 < timeout) :
    ∃ time l', now ≤ time ∧
      attempt (Link.queryRunning timeout) now l = (.ok b.running, time, l') ∧
      Serving l' time b := by
  have hreply : Link.IsReply (if b.running then "1" else "0") := by
    split
    · exact Link.isReply_fixed "1" (by simp)
    · exact Link.isReply_fixed "0" (by simp)
  obtain ⟨time, l', hle, hquery, hserving⟩ :=
    h.asks (Link.query_fits (by simp [Link.queries])).1 b.respond_mode hreply ht
  refine ⟨time, l', hle, ?_, hserving⟩
  have hflag : ((if b.running then "1" else "0") == "1") = b.running := by
    cases b.running <;> decide
  unfold Link.queryRunning
  rw [attempt_bind_ok hquery, attempt_pure, hflag]

end Paced

theorem attempt_outcome_eq {α : Type} {p : Attempt α} {r : Except Error α} {time : Nat}
    {l' : LinkDevice} (h : attempt p now l = (r, time, l')) :
    attempt (Attempt.outcome p) now l = (.ok r, time, l') := by
  rw [attempt_outcome, h]

/-- **One reading is enough** when it shows what is expected. -/
theorem verifyFrom_seen {l' : LinkDevice} {time : Nat} {expected : Link.Expected} {seen : String}
    (h : attempt (Link.observe timeout expected) now l = (.ok (true, seen), time, l'))
    (attempts : Nat) (last : Option String) :
    attempt (Link.verifyFrom timeout expected (attempts + 1) last) now l = (.ok (), time, l') := by
  rw [Link.verifyFrom, attempt_bind_ok (attempt_outcome_eq h)]
  rfl

end LinkDevice

end ChillerGateway
