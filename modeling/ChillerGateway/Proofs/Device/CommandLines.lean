import ChillerGateway.Proofs.Device.Chunks

/-!
# Commands that are read back

Commands go into one buffer, one behind the other.  What is not one line of ASCII is refused and
leaves the buffer as it was, so it can neither break a command in two nor join two of them: a
decoder gives back the accepted commands and nothing else.

* `Asked.unique` — what a decoder gives that is asked until it has nothing is settled.
* `appendAll` — commands that go into a buffer, one behind the other.
* `drain_encoded` — the accepted ones come out of it again.
* `commands_restored` — which commands are accepted, and what the buffer gives.
-/

namespace ChillerGateway

namespace LineCodec

variable {buffer left left' : Bytes} {items items' : List Decoded} {command : String}

/-- What a decoder gives that is asked until it has nothing is settled by the buffer. -/
theorem Asked.unique (h : Asked buffer items left) (h' : Asked buffer items' left') :
    items = items' ∧ left = left' := by
  induction h generalizing items' with
  | nothing hdecode =>
    cases h' with
    | nothing hdecode' => exact ⟨rfl, (Prod.mk.inj (hdecode.symm.trans hdecode')).2⟩
    | gave hdecode' hitem _ => exact absurd (Prod.mk.inj (hdecode'.symm.trans hdecode)).1 hitem
  | gave hdecode hitem _ ih =>
    cases h' with
    | nothing hdecode' => exact absurd (Prod.mk.inj (hdecode.symm.trans hdecode')).1 hitem
    | gave hdecode' _ hrest =>
      obtain ⟨rfl, rfl⟩ := Prod.mk.inj (hdecode.symm.trans hdecode')
      obtain ⟨rfl, rfl⟩ := ih hrest
      exact ⟨rfl, rfl⟩

/-! ## One command -/

/-- A command is a line if it is ASCII and has no line end. -/
theorem isLine_iff (command : String) :
    IsLine command ↔ ∀ c ∈ command.toList, c.toNat < 128 ∧ c ≠ '\r' ∧ c ≠ '\n' := by
  unfold IsLine Error.isLineEnd
  refine forall₂_congr fun c _ => and_congr_right fun _ => ?_
  rw [Bool.or_eq_false_iff, decide_eq_false_iff_not, decide_eq_false_iff_not]

theorem append_accepted (h : IsLine command) (buffer : Bytes) :
    append command buffer = (.ok (), buffer ++ charBytes (command.toList ++ ['\r', '\n'])) := by
  unfold append
  rw [encode_of_isLine h]

theorem append_refused (h : ¬ IsLine command) (buffer : Bytes) :
    ∃ e, append command buffer = (.error e, buffer) := by
  unfold append encode
  rw [if_neg h]
  exact ⟨_, rfl⟩

/-! ## Commands one behind the other -/

/-- Adds commands to a buffer, one behind the other: what came of each, and the buffer. -/
def appendAll : (commands : List String) → Bytes → List (Except Error Unit) × Bytes
  | [], buffer => ([], buffer)
  | command :: commands, buffer =>
    let (added, buffer) := append command buffer
    let (more, buffer) := appendAll commands buffer
    (added :: more, buffer)

/-- The bytes of commands without those that are refused. -/
def encodings (commands : List String) : List Bytes :=
  commands.filterMap fun command => (encode command).toOption

/-- What came of each command does not depend on the others, and the buffer has the bytes of those
that were accepted. -/
theorem appendAll_eq (commands : List String) (buffer : Bytes) :
    appendAll commands buffer =
      (commands.map fun command => (append command []).1,
        buffer ++ (encodings commands).flatten) := by
  induction commands generalizing buffer with
  | nil => simp [appendAll, encodings]
  | cons command commands ih =>
    have hstep : appendAll (command :: commands) buffer =
        ((append command buffer).1 :: (appendAll commands (append command buffer).2).1,
          (appendAll commands (append command buffer).2).2) := rfl
    rw [hstep, ih, List.map_cons]
    unfold append encodings
    cases he : encode command with
    | ok bytes => simp [he, Except.toOption]
    | error e => simp [he, Except.toOption]

/-- **The accepted commands come out of the buffer again**, without the blanks at their ends. -/
theorem drain_encoded (commands : List String) :
    drain (encodings commands).flatten =
      ((commands.filter (IsLine ·)).map fun command => .line (Text.trim command), []) := by
  induction commands with
  | nil => exact drain_part List.not_mem_nil (Nat.zero_le _)
  | cons command commands ih =>
    by_cases h : IsLine command
    · obtain ⟨body, hbytes, hbody, -, htext⟩ := exists_body h
      have hfirst :
          encodings (command :: commands) = (body ++ [lineFeed]) :: encodings commands := by
        unfold encodings
        rw [List.filterMap_cons_some (by rw [encode_of_isLine h, hbytes]; rfl)]
      rw [hfirst, List.flatten_cons, List.append_assoc, List.singleton_append, drain_line hbody, ih,
        htext, List.filter_cons_of_pos (by simpa using h), List.map_cons]
    · have hnone : encodings (command :: commands) = encodings commands := by
        unfold encodings
        rw [List.filterMap_cons_none (by unfold encode; rw [if_neg h]; rfl)]
      rw [hnone, ih, List.filter_cons_of_neg (by simpa using h)]

/-- **Commands are read back as they were written.**  A command is accepted exactly if it is ASCII
without a carriage return or a line feed, and a refused one leaves the buffer as it was; of commands
of either kind, one behind the other in an empty buffer, the decoder gives those that were accepted,
in their order and trimmed, without an error, and keeps nothing. -/
theorem commands_restored (commands : List String) :
    (∀ command buffer,
      ((append command buffer).1 = .ok () ↔
        ∀ c ∈ command.toList, c.toNat < 128 ∧ c ≠ '\r' ∧ c ≠ '\n') ∧
      ((∃ e, append command buffer = (.error e, buffer)) ↔
        ¬ ∀ c ∈ command.toList, c.toNat < 128 ∧ c ≠ '\r' ∧ c ≠ '\n')) ∧
    appendAll commands [] =
      (commands.map fun command => (append command []).1, (encodings commands).flatten) ∧
    ∀ items left, Asked (appendAll commands []).2 items left ↔
      items = (commands.filter (IsLine ·)).map (fun command => .line (Text.trim command)) ∧
        left = [] := by
  refine ⟨fun command buffer => ?_, appendAll_eq commands [], fun items left => ?_⟩
  · rw [← isLine_iff]
    by_cases h : IsLine command
    · rw [append_accepted h]
      exact ⟨iff_of_true rfl h, iff_of_false (by simp) (not_not_intro h)⟩
    · obtain ⟨e, he⟩ := append_refused h buffer
      exact ⟨iff_of_false (by rw [he]; nofun) h, iff_of_true ⟨e, he⟩ h⟩
  · have hasked := asked_drain (encodings commands).flatten
    rw [drain_encoded] at hasked
    rw [appendAll_eq, List.nil_append]
    constructor
    · exact fun h => h.unique hasked
    · rintro ⟨rfl, rfl⟩
      exact hasked

/-- Of a blank command, one with an injected line and one with blanks at its ends, the second is
refused and the others are read back. -/
theorem commands_restored_injected :
    Asked (appendAll [" ", "version\r\nstatus", "\tin_sp_00 "] []).2
      [.line "", .line "in_sp_00"] [] :=
  ((commands_restored [" ", "version\r\nstatus", "\tin_sp_00 "]).2.2 _ _).mpr (by decide +kernel)

end LineCodec

end ChillerGateway
