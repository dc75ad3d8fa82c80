import ChillerGateway.Proofs.Device.LineCodec

/-!
# Answers that arrive in chunks

The bytes of a device arrive in chunks, and after each chunk all lines are taken out of the buffer.
Where the chunks end does not matter as long as every line ends in time.  A line that does not is
given whole if its line feed comes with the chunk that makes it too long; otherwise the bytes at
hand are thrown away and its rest is given as a line.

* `Asked`, `asked_drain` — a decoder that is asked until it has nothing.
* `receive` — what it gives of a stream in chunks.
* `drain_append` — where a stream whose lines end in time is cut makes no difference.
* `receive_alike_iff` — which streams are given alike however they are cut.
* `receive_noise`, `noise_read` — noise before an answer, which is given alike only in one chunk.
-/

namespace ChillerGateway

namespace LineCodec

variable {buffer line rest more after : Bytes}

/-! ## All that a buffer gives -/

/-- What a decoder gives that is asked until it has nothing, also after an error, and what it
keeps. -/
inductive Asked : Bytes → List Decoded → Bytes → Prop where
  | nothing {buffer left : Bytes} : decode buffer = (.incomplete, left) → Asked buffer [] left
  | gave {buffer rest left : Bytes} {item : Decoded} {items : List Decoded} :
      decode buffer = (item, rest) → item ≠ .incomplete → Asked rest items left →
      Asked buffer (item :: items) left

theorem decode_part (h : lineFeed ∉ buffer) (hle : buffer.length ≤ maxAnswer) :
    decode buffer = (.incomplete, buffer) := by
  unfold decode
  rw [Separated.dropWhile_eq_nil h]
  exact if_neg (Nat.not_lt.mpr hle)

theorem decode_overlong (h : lineFeed ∉ buffer) (hlt : maxAnswer < buffer.length) :
    decode buffer = (.overlong, []) := by
  unfold decode
  rw [Separated.dropWhile_eq_nil h]
  exact if_pos hlt

/-- One step of draining, by what the buffer gives. -/
theorem drain_eq (buffer : Bytes) :
    drain buffer = match decode buffer with
      | (.line text, rest) => (.line text :: (drain rest).1, (drain rest).2)
      | (.overlong, rest) => ([.overlong], rest)
      | (.incomplete, rest) => ([], rest) := by
  rw [drain]
  split
  · rename_i h
    rw [h]
  · rename_i h
    rw [h]
  · rename_i h
    rw [h]

theorem drain_line (h : lineFeed ∉ line) (rest : Bytes) :
    drain (line ++ lineFeed :: rest) = (.line (textOf line) :: (drain rest).1, (drain rest).2) := by
  rw [drain_eq, decode_line h]

theorem drain_part (h : lineFeed ∉ buffer) (hle : buffer.length ≤ maxAnswer) :
    drain buffer = ([], buffer) := by
  rw [drain_eq, decode_part h hle]

theorem drain_overlong (h : lineFeed ∉ buffer) (hlt : maxAnswer < buffer.length) :
    drain buffer = ([.overlong], []) := by
  rw [drain_eq, decode_overlong h hlt]

/-- The bytes after the last line feed are kept, or none of them if they are too many. -/
theorem drain_last (h : lineFeed ∉ buffer) :
    drain buffer = ([], buffer) ∧ buffer.length ≤ maxAnswer ∨
      drain buffer = ([.overlong], []) ∧ maxAnswer < buffer.length := by
  rcases Nat.lt_or_ge maxAnswer buffer.length with hlt | hle
  · exact .inr ⟨drain_overlong h hlt, hlt⟩
  · exact .inl ⟨drain_part h hle, hle⟩

/-- **Draining is asking until there is nothing**: after an error the buffer is empty. -/
theorem asked_drain (buffer : Bytes) : Asked buffer (drain buffer).1 (drain buffer).2 := by
  induction buffer using Separated.induction lineFeed with
  | last buffer h =>
    rcases drain_last h with ⟨hdrain, hle⟩ | ⟨hdrain, hlt⟩
    · rw [hdrain]
      exact .nothing (decode_part h hle)
    · rw [hdrain]
      exact .gave (decode_overlong h hlt) nofun (.nothing decode_nil)
  | piece line rest h ih =>
    rw [drain_line h]
    exact .gave (decode_line h) nofun ih

/-- What is kept are last bytes of the buffer, short and without a line feed. -/
theorem kept_drain (buffer : Bytes) :
    (drain buffer).2 <:+ buffer ∧ lineFeed ∉ (drain buffer).2 ∧
      (drain buffer).2.length ≤ maxAnswer := by
  induction buffer using Separated.induction lineFeed with
  | last buffer h =>
    rcases drain_last h with ⟨hdrain, hle⟩ | ⟨hdrain, hlt⟩
    · rw [hdrain]
      exact ⟨List.suffix_refl _, h, hle⟩
    · rw [hdrain]
      exact ⟨List.nil_suffix, List.not_mem_nil, Nat.zero_le _⟩
  | piece line rest h ih =>
    rw [drain_line h]
    exact ⟨(ih.1.trans (List.suffix_cons _ _)).trans (List.suffix_append _ _), ih.2⟩

/-! ## Chunks -/

/-- What a decoder that holds `buffer` gives of the chunks of a stream, asked until it has nothing
after each of them, and what it keeps. -/
def receive : (buffer : Bytes) → (chunks : List Bytes) → List Decoded × Bytes
  | buffer, [] => ([], buffer)
  | buffer, chunk :: chunks =>
    let kept := (drain (buffer ++ chunk)).2
    ((drain (buffer ++ chunk)).1 ++ (receive kept chunks).1, (receive kept chunks).2)

/-- Whether every line of a stream ends in time: nothing comes after too many bytes without a line
feed. -/
def EndsInTime (stream : Bytes) : Prop :=
  ∀ before run after, stream = before ++ run ++ after → lineFeed ∉ run → maxAnswer < run.length →
    after = []

theorem EndsInTime.of_suffix {stream last : Bytes} (h : EndsInTime stream) (hs : last <:+ stream) :
    EndsInTime last := by
  rintro before run after rfl hrun hlt
  obtain ⟨first, rfl⟩ := hs
  exact h (first ++ before) run after (by simp) hrun hlt

/-- **Where a stream whose lines end in time is cut makes no difference**: what is kept and what
comes then give the same as all of it at once. -/
theorem drain_append (h : EndsInTime (buffer ++ more)) :
    drain (buffer ++ more) =
      ((drain buffer).1 ++ (drain ((drain buffer).2 ++ more)).1,
        (drain ((drain buffer).2 ++ more)).2) := by
  induction buffer using Separated.induction lineFeed with
  | last buffer hnone =>
    rcases drain_last hnone with ⟨hdrain, -⟩ | ⟨hdrain, hlt⟩
    · rw [hdrain]
      rfl
    · obtain rfl : more = [] := h [] buffer more rfl hnone hlt
      rw [List.append_nil, hdrain, List.append_nil, drain_part List.not_mem_nil (Nat.zero_le _)]
      rfl
  | piece line rest hline ih =>
    have hrest : EndsInTime (rest ++ more) := h.of_suffix ⟨line ++ [lineFeed], by simp⟩
    rw [List.append_assoc, List.cons_append, drain_line hline, drain_line hline, ih hrest]
    rfl

/-- A stream whose lines end in time is given as if it had come at once. -/
theorem receive_eq_drain {chunks : List Bytes} (h : EndsInTime (buffer ++ chunks.flatten))
    (hnone : lineFeed ∉ buffer) (hle : buffer.length ≤ maxAnswer) :
    receive buffer chunks = drain (buffer ++ chunks.flatten) := by
  induction chunks generalizing buffer with
  | nil => rw [List.flatten_nil, List.append_nil, drain_part hnone hle, receive]
  | cons chunk chunks ih =>
    rw [List.flatten_cons, ← List.append_assoc] at h ⊢
    obtain ⟨hsuffix, hkept, hshort⟩ := kept_drain (buffer ++ chunk)
    obtain ⟨front, hfront⟩ := hsuffix
    have hlast : EndsInTime ((drain (buffer ++ chunk)).2 ++ chunks.flatten) :=
      h.of_suffix ⟨front, by rw [← List.append_assoc, hfront]⟩
    rw [receive, ih hlast hkept hshort, drain_append h]

/-- A cut after too many bytes without a line feed shows. -/
theorem drain_append_ne {before run : Bytes} (hrun : lineFeed ∉ run) (hlt : maxAnswer < run.length)
    (hafter : after ≠ []) :
    drain (before ++ run ++ after) ≠
      ((drain (before ++ run)).1 ++ (drain ((drain (before ++ run)).2 ++ after)).1,
        (drain ((drain (before ++ run)).2 ++ after)).2) := by
  induction before using Separated.induction lineFeed with
  | last before hbefore =>
    have hnone : lineFeed ∉ before ++ run := by simp [hbefore, hrun]
    have hlong : maxAnswer < (before ++ run).length := by rw [List.length_append]; omega
    generalize before ++ run = buffer at hnone hlong
    rw [drain_overlong hnone hlong, List.nil_append]
    by_cases hline : lineFeed ∈ after
    · -- With a line feed to come the whole gives a line first, and not an error.
      obtain ⟨line, rest, rfl, hfirst⟩ := List.eq_append_cons_of_mem hline
      have hall : lineFeed ∉ buffer ++ line := by simp [hnone, hfirst]
      rw [← List.append_assoc, drain_line hall]
      intro heq
      cases (List.cons.inj (Prod.mk.inj heq).1).1
    · -- Without one the whole is thrown away, and not only what comes before the cut.
      have hall : lineFeed ∉ buffer ++ after := by simp [hnone, hline]
      have hwhole : maxAnswer < (buffer ++ after).length := by rw [List.length_append]; omega
      rw [drain_overlong hall hwhole]
      intro heq
      rcases drain_last hline with ⟨hkept, -⟩ | ⟨hgone, -⟩
      · rw [hkept] at heq
        exact hafter (Prod.mk.inj heq).2.symm
      · rw [hgone] at heq
        cases (Prod.mk.inj heq).1
  | piece line rest hline ih =>
    simp only [List.append_assoc, List.cons_append, drain_line hline] at ih ⊢
    intro heq
    obtain ⟨hgiven, hkept⟩ := Prod.mk.inj heq
    exact ih (Prod.ext (List.cons.inj hgiven).2 hkept)

/-- **Which streams are given alike however they are cut into chunks**: those whose lines end in
time, so that nothing comes after more than 256 bytes without a line feed.  After each chunk the
decoder is asked until it has nothing, also after an error. -/
theorem receive_alike_iff (stream : Bytes) :
    (∀ buffer, Asked buffer (drain buffer).1 (drain buffer).2) ∧
    ((∀ chunks others : List Bytes, chunks.flatten = stream → others.flatten = stream →
      receive [] chunks = receive [] others) ↔ EndsInTime stream) := by
  refine ⟨asked_drain, fun h => ?_, fun h => ?_⟩
  · rintro before run after rfl hrun hlt
    by_contra hafter
    have halike := h [before ++ run ++ after] [before ++ run, after] (by simp) (by simp)
    simp only [receive, List.nil_append, List.append_nil] at halike
    exact drain_append_ne hrun hlt hafter halike
  · intro chunks others hchunks hothers
    have hempty : ∀ cut : List Bytes, cut.flatten = stream → receive [] cut = drain stream := by
      rintro cut rfl
      exact receive_eq_drain h List.not_mem_nil (Nat.zero_le _)
    rw [hempty chunks hchunks, hempty others hothers]

/-- Few bytes have no line that is too long. -/
theorem endsInTime_of_length {stream : Bytes} (h : stream.length ≤ maxAnswer) :
    EndsInTime stream := by
  rintro before run after rfl - hlt
  simp only [List.length_append] at h
  omega

/-- A temperature in two chunks and in one. -/
theorem receive_alike_reading :
    receive [] [[0x32, 0x35], [0x2E, 0x30, 0x0D, 0x0A]] =
      receive [] [[0x32, 0x35, 0x2E, 0x30, 0x0D, 0x0A]] :=
  (receive_alike_iff [0x32, 0x35, 0x2E, 0x30, 0x0D, 0x0A]).2.mpr (endsInTime_of_length (by decide))
    _ _ rfl rfl

/-- Too much noise before an answer: at once it is one line with the answer, and in two chunks an
error and then the answer alone. -/
theorem receive_noise {noise answer : Bytes} (hnoise : lineFeed ∉ noise)
    (hlong : maxAnswer < noise.length) (hanswer : lineFeed ∉ answer) :
    receive [] [noise ++ (answer ++ [lineFeed])] = ([.line (textOf (noise ++ answer))], []) ∧
      receive [] [noise, answer ++ [lineFeed]] = ([.overlong, .line (textOf answer)], []) := by
  have hall : lineFeed ∉ noise ++ answer := by simp [hnoise, hanswer]
  have hend : drain [] = ([], []) := drain_part List.not_mem_nil (Nat.zero_le _)
  constructor
  · rw [← List.append_assoc, receive, receive, List.nil_append, drain_line hall, hend]
    rfl
  · simp only [receive, List.nil_append, drain_overlong hnoise hlong, drain_line hanswer, hend]
    rfl

/-- Three hundred bytes of noise and then 25 degrees: in two chunks the 25 degrees are an answer. -/
theorem noise_read :
    [List.replicate 300 0x78, [0x32, 0x35, 0x2E, 0x30, 0x0D, 0x0A]].flatten =
      [List.replicate 300 0x78 ++ [0x32, 0x35, 0x2E, 0x30, 0x0D, 0x0A]].flatten ∧
    receive [] [List.replicate 300 0x78, [0x32, 0x35, 0x2E, 0x30, 0x0D, 0x0A]] =
      ([.overlong, .line "25.0"], []) ∧
    receive [] [List.replicate 300 0x78, [0x32, 0x35, 0x2E, 0x30, 0x0D, 0x0A]] ≠
      receive [] [List.replicate 300 0x78 ++ [0x32, 0x35, 0x2E, 0x30, 0x0D, 0x0A]] := by
  have hnoise : lineFeed ∉ List.replicate 300 0x78 := fun h =>
    absurd (List.eq_of_mem_replicate h) (by decide)
  have hlong : maxAnswer < (List.replicate 300 (0x78 : UInt8)).length := by
    rw [List.length_replicate]
    decide
  have hanswer : lineFeed ∉ [0x32, 0x35, 0x2E, 0x30, 0x0D] := by decide
  obtain ⟨hwhole, hcut⟩ := receive_noise hnoise hlong hanswer
  have hread : textOf [0x32, 0x35, 0x2E, 0x30, 0x0D] = "25.0" := by decide
  rw [hread] at hcut
  refine ⟨by simp only [List.flatten_cons, List.flatten_nil, List.append_nil], hcut, fun heq => ?_⟩
  cases (Prod.mk.inj (hcut.symm.trans (heq.trans hwhole))).1

end LineCodec

end ChillerGateway
