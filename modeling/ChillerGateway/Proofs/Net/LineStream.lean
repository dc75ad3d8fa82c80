import ChillerGateway.Net.LineStream
import ChillerGateway.Proofs.Separated

/-!
# The lines of a stream

What a decoder gives depends on the bytes alone, and not on how many of them were at hand when it
was asked.

* `LineStream.pieces`, `LineStream.events` — the pieces of a stream between its line feeds, and what
  they give when the stream ends.
* `LineStream.Taken` — a decoder that is fed and asked in any order.
* `LineStream.Taken.events_eq` — what it has given, and what it has ahead, are the events of the
  stream.
* `LineStream.weight` — what each event uses up.
-/

namespace ChillerGateway

namespace LineStream

variable {buffer line rest more : List UInt8} {s s' : LineStream} {e : Event}

/-! ## The events of a stream -/

/-- The pieces of a stream between its line feeds; the last one has none after it. -/
def pieces (stream : List UInt8) : List (List UInt8) := stream.splitOn lineFeed

/-- What a line gives. -/
def lineEvent (line : List UInt8) : Event :=
  if maxLine < line.length then .oversized else textEvent line

/-- What the end of a stream gives after a line without its line feed. -/
def endEvents (piece : List UInt8) : List Event :=
  if maxLine < piece.length then [.oversized]
  else ((⟨piece, false⟩ : LineStream).last?.map Event.line).toList

/-- What pieces give, the last of which has no line feed. -/
def settle : List (List UInt8) → List Event
  | [] => []
  | [piece] => endEvents piece
  | line :: pieces => lineEvent line :: settle pieces

/-- What a stream gives up to its end. -/
def events (stream : List UInt8) : List Event := settle (pieces stream)

theorem pieces_ne_nil (stream : List UInt8) : pieces stream ≠ [] := List.splitOnP_ne_nil _ _

theorem pieces_line (h : lineFeed ∉ line) (rest : List UInt8) :
    pieces (line ++ lineFeed :: rest) = line :: pieces rest := by
  have hnone : ∀ b ∈ line, (b == lineFeed) = false := fun b hb =>
    beq_false_of_ne fun heq => h (heq ▸ hb)
  exact List.splitOnP_append_cons_of_forall_mem hnone lineFeed (beq_self_eq_true _) rest

theorem pieces_last (h : lineFeed ∉ line) : pieces line = [line] :=
  List.splitOnP_eq_singleton fun _ hb => beq_false_of_ne fun heq => h (heq ▸ hb)

theorem events_line (h : lineFeed ∉ line) (rest : List UInt8) :
    events (line ++ lineFeed :: rest) = lineEvent line :: events rest := by
  unfold events
  rw [pieces_line h]
  cases hp : pieces rest with
  | nil => exact absurd hp (pieces_ne_nil rest)
  | cons => rfl

theorem events_last (h : lineFeed ∉ line) : events line = endEvents line := by
  unfold events
  rw [pieces_last h]
  rfl

/-! ## The next event -/

/-- Bytes with a line feed are a line and what comes after it. -/
theorem lined (buffer : List UInt8) :
    lineFeed ∉ buffer ∨ ∃ line rest, buffer = line ++ lineFeed :: rest ∧ lineFeed ∉ line := by
  by_cases h : lineFeed ∈ buffer
  · exact .inr (List.eq_append_cons_of_mem h)
  · exact .inl h

/-- Too many bytes without a line feed are a line over the limit, whatever comes after them. -/
theorem nextLine_over (h : lineFeed ∉ line) (hover : maxLine < line.length) (rest : List UInt8) :
    nextLine (line ++ rest) = (.oversized, ⟨line ++ rest, true⟩) := by
  have hseen : ((line ++ rest).take (maxLine + 1)).takeWhile (· ≠ lineFeed) =
      line.take (maxLine + 1) := by
    rw [List.take_append_of_le_length hover]
    exact Separated.takeWhile_eq_self fun hmem => h (List.mem_of_mem_take hmem)
  have hlength : (line.take (maxLine + 1)).length = maxLine + 1 := List.length_take_of_le hover
  unfold nextLine
  rw [hseen]
  exact if_pos (Nat.lt_of_lt_of_eq (Nat.lt_succ_self maxLine) hlength.symm)

/-- A line within the limit. -/
theorem nextLine_line (h : lineFeed ∉ line) (hwithin : line.length ≤ maxLine) (rest : List UInt8) :
    nextLine (line ++ lineFeed :: rest) = (textEvent line, ⟨rest, false⟩) := by
  have hseen : ((line ++ lineFeed :: rest).take (maxLine + 1)).takeWhile (· ≠ lineFeed) = line := by
    obtain ⟨k, hk⟩ : ∃ k, maxLine + 1 = line.length + (k + 1) := ⟨maxLine - line.length, by omega⟩
    rw [hk, List.take_length_add_append, List.take_succ_cons]
    exact Separated.takeWhile_append h _
  unfold nextLine
  rw [hseen]
  simp only [Nat.not_lt.mpr hwithin, if_false, List.drop_left]

/-- Not enough bytes for a line. -/
theorem nextLine_part (h : lineFeed ∉ line) (hwithin : line.length ≤ maxLine) :
    nextLine line = (.starved, ⟨line, false⟩) := by
  have hseen : (line.take (maxLine + 1)).takeWhile (· ≠ lineFeed) = line := by
    rw [List.take_of_length_le (Nat.le_succ_of_le hwithin)]
    exact Separated.takeWhile_eq_self h
  unfold nextLine
  rw [hseen]
  simp only [Nat.not_lt.mpr hwithin, if_false, List.drop_length]

/-- While a line over the limit is discarded, all is dropped that has no line feed. -/
theorem next_discarding (h : lineFeed ∉ buffer) : next ⟨buffer, true⟩ = (.starved, ⟨[], true⟩) := by
  unfold next
  simp only [if_true, Separated.dropWhile_eq_nil h]

/-- A line feed ends a line over the limit. -/
theorem next_discarded (h : lineFeed ∉ line) (rest : List UInt8) :
    next ⟨line ++ lineFeed :: rest, true⟩ = next ⟨rest, false⟩ := by
  unfold next
  simp only [if_true, Separated.dropWhile_append h]
  rfl

theorem textEvent_ne_starved (line : List UInt8) : textEvent line ≠ .starved := by
  unfold textEvent
  split
  · exact Event.noConfusion
  · exact Event.noConfusion

/-- The next event, by what a decoder holds. -/
inductive Given : LineStream → Event → LineStream → Prop where
  | text {line rest : List UInt8} : lineFeed ∉ line → line.length ≤ maxLine →
      Given ⟨line ++ lineFeed :: rest, false⟩ (textEvent line) ⟨rest, false⟩
  | tooLong {line rest : List UInt8} : lineFeed ∉ line → maxLine < line.length →
      Given ⟨line ++ rest, false⟩ .oversized ⟨line ++ rest, true⟩
  | part {line : List UInt8} : lineFeed ∉ line → line.length ≤ maxLine →
      Given ⟨line, false⟩ .starved ⟨line, false⟩
  | discarding {line : List UInt8} : lineFeed ∉ line → Given ⟨line, true⟩ .starved ⟨[], true⟩
  | discarded {line rest : List UInt8} {event left} : lineFeed ∉ line →
      Given ⟨rest, false⟩ event left → Given ⟨line ++ lineFeed :: rest, true⟩ event left

/-- Every event is one of these. -/
theorem given_next (s : LineStream) : Given s s.next.1 s.next.2 := by
  have hline : ∀ buffer,
      Given ⟨buffer, false⟩ (next ⟨buffer, false⟩).1 (next ⟨buffer, false⟩).2 := by
    intro buffer
    have hnext : next ⟨buffer, false⟩ = nextLine buffer := rfl
    rw [hnext]
    rcases lined buffer with hnone | ⟨line, rest, rfl, hline⟩
    · by_cases hover : maxLine < buffer.length
      · have hgiven := nextLine_over hnone hover []
        rw [List.append_nil] at hgiven
        rw [hgiven]
        have hwhole : Given ⟨buffer ++ [], false⟩ .oversized ⟨buffer ++ [], true⟩ :=
          .tooLong hnone hover
        rwa [List.append_nil] at hwhole
      · rw [nextLine_part hnone (Nat.not_lt.mp hover)]
        exact .part hnone (Nat.not_lt.mp hover)
    · by_cases hover : maxLine < line.length
      · rw [nextLine_over hline hover]
        exact .tooLong hline hover
      · rw [nextLine_line hline (Nat.not_lt.mp hover)]
        exact .text hline (Nat.not_lt.mp hover)
  obtain ⟨buffer, discarding⟩ := s
  cases discarding with
  | false => exact hline buffer
  | true =>
    rcases lined buffer with hnone | ⟨line, rest, rfl, hdropped⟩
    · rw [next_discarding hnone]
      exact .discarding hnone
    · rw [next_discarded hdropped]
      exact .discarded hdropped (hline rest)

theorem given_of_next (h : s.next = (e, s')) : Given s e s' := by
  have hgiven := given_next s
  rwa [h] at hgiven

/-! ## What is ahead -/

theorem feed_eq (s : LineStream) (bytes : List UInt8) :
    s.feed bytes = ⟨s.buffer ++ bytes, s.discarding⟩ := by
  unfold feed
  cases h : s.buffer with
  | nil => simp
  | cons => simp

theorem feed_feed (s : LineStream) (bytes more : List UInt8) :
    (s.feed bytes).feed more = s.feed (bytes ++ more) := by
  simp only [feed_eq, List.append_assoc]

theorem feed_nil (s : LineStream) : s.feed [] = s := by
  rw [feed_eq, List.append_nil]

/-- What a decoder gives from here on, if the stream ends. -/
def ahead (s : LineStream) : List Event :=
  if s.discarding then
    match s.buffer.dropWhile (· ≠ lineFeed) with
    | [] => []
    | _ :: rest => events rest
  else events s.buffer

theorem ahead_discarding (h : lineFeed ∉ buffer) : ahead ⟨buffer, true⟩ = [] := by
  unfold ahead
  simp only [if_true, Separated.dropWhile_eq_nil h]

theorem ahead_discarded (h : lineFeed ∉ line) (rest : List UInt8) :
    ahead ⟨line ++ lineFeed :: rest, true⟩ = events rest := by
  unfold ahead
  simp only [if_true, Separated.dropWhile_append h]

/-- A line over the limit is one event, and the rest of it none. -/
theorem events_over (h : lineFeed ∉ line) (hover : maxLine < line.length) (rest : List UInt8) :
    events (line ++ rest) = .oversized :: ahead ⟨line ++ rest, true⟩ := by
  rcases lined rest with hnone | ⟨tail, next, rfl, htail⟩
  · have hall : lineFeed ∉ line ++ rest := fun hmem => (List.mem_append.mp hmem).elim h hnone
    rw [events_last hall, ahead_discarding hall]
    unfold endEvents
    exact if_pos (by rw [List.length_append]; omega)
  · have hall : lineFeed ∉ line ++ tail := fun hmem => (List.mem_append.mp hmem).elim h htail
    rw [← List.append_assoc, events_line hall, ahead_discarded hall]
    unfold lineEvent
    rw [if_pos (by rw [List.length_append]; omega)]

/-- **An event is the first one of what is ahead**, whatever comes after the bytes at hand. -/
theorem Given.ahead_feed (h : Given s e s') (he : e ≠ .starved) (more : List UInt8) :
    (s.feed more).ahead = e :: (s'.feed more).ahead := by
  simp only [feed_eq]
  induction h with
  | @text line rest hline hwithin =>
    show events ((line ++ lineFeed :: rest) ++ more) = _ :: events (rest ++ more)
    rw [List.append_assoc, List.cons_append, events_line hline]
    unfold lineEvent
    rw [if_neg (Nat.not_lt.mpr hwithin)]
  | @tooLong line rest hline hover =>
    show events ((line ++ rest) ++ more) = _
    rw [List.append_assoc]
    exact events_over hline hover _
  | part | discarding => exact absurd rfl he
  | @discarded line rest e s' hline _ ih =>
    show ahead ⟨(line ++ lineFeed :: rest) ++ more, true⟩ = _
    rw [List.append_assoc, List.cons_append, ahead_discarded hline]
    exact ih he

/-- A decoder that has no whole line has ahead what it had, -/
theorem Given.ahead_starved (h : Given s .starved s') (more : List UInt8) :
    (s.feed more).ahead = (s'.feed more).ahead := by
  generalize he : Event.starved = e at h
  simp only [feed_eq]
  induction h with
  | text => exact absurd he.symm (textEvent_ne_starved _)
  | tooLong => cases he
  | part => rfl
  | @discarding line hline =>
    rcases lined more with hnone | ⟨tail, rest, rfl, htail⟩
    · have hall : lineFeed ∉ line ++ more := fun hmem => (List.mem_append.mp hmem).elim hline hnone
      rw [ahead_discarding hall]
      exact (ahead_discarding hnone).symm
    · have hall : lineFeed ∉ line ++ tail := fun hmem => (List.mem_append.mp hmem).elim hline htail
      rw [← List.append_assoc, ahead_discarded hall]
      exact (ahead_discarded htail rest).symm
  | @discarded line rest e s' hline _ ih =>
    show ahead ⟨(line ++ lineFeed :: rest) ++ more, true⟩ = _
    rw [List.append_assoc, List.cons_append, ahead_discarded hline]
    exact ih he

/-- and when the stream ends it has the last line ahead, if there is one. -/
theorem Given.ahead_ended (h : Given s .starved s') :
    s.ahead = (s'.last?.map Event.line).toList := by
  generalize he : Event.starved = e at h
  induction h with
  | text => exact absurd he.symm (textEvent_ne_starved _)
  | tooLong => cases he
  | @part line hline hwithin =>
    refine (events_last hline).trans ?_
    unfold endEvents
    exact if_neg (Nat.not_lt.mpr hwithin)
  | discarding hline => exact ahead_discarding hline
  | discarded hline _ ih => exact (ahead_discarded hline _).trans (ih he)

/-! ## A decoder at work -/

/-- A decoder that was fed some bytes and has given some events, in whatever order. -/
inductive Taken : List UInt8 → List Event → LineStream → Prop where
  | start : Taken [] [] {}
  | fed {stream given d} (bytes : List UInt8) : Taken stream given d →
      Taken (stream ++ bytes) given (d.feed bytes)
  | gave {stream given d event left} : Taken stream given d → Given d event left →
      event ≠ .starved → Taken stream (given ++ [event]) left
  | starved {stream given d left} : Taken stream given d → Given d .starved left →
      Taken stream given left

variable {stream : List UInt8} {given : List Event}

/-- **What a decoder has given and what it has ahead are the events of the stream**, however the
stream goes on. -/
theorem Taken.events_eq (h : Taken stream given s) (more : List UInt8) :
    events (stream ++ more) = given ++ (s.feed more).ahead := by
  induction h generalizing more with
  | start =>
    rw [feed_eq]
    rfl
  | fed bytes _ ih => rw [List.append_assoc, ih, feed_feed]
  | gave _ hgiven he ih =>
    rw [ih, hgiven.ahead_feed he, List.append_assoc]
    rfl
  | starved _ hgiven ih => rw [ih, hgiven.ahead_starved]

/-- **At the end of the stream all of its events were given but the last line.** -/
theorem Taken.ended (h : Taken stream given s) (hgiven : Given s .starved s') :
    events stream = given ++ (s'.last?.map Event.line).toList := by
  have hall := h.events_eq []
  rwa [List.append_nil, feed_nil, hgiven.ahead_ended] at hall

/-! ## Coming to an end -/

/-- What is left to be done with the bytes at hand. -/
def weight (s : LineStream) : Nat := 2 * s.buffer.length + if s.discarding then 0 else 1

theorem Given.weight_lt (h : Given s e s') (he : e ≠ .starved) : s'.weight < s.weight := by
  induction h with
  | text =>
    unfold weight
    simp only [Bool.false_eq_true, if_false, List.length_append, List.length_cons]
    omega
  | tooLong =>
    unfold weight
    simp only [Bool.false_eq_true, if_false, if_true, List.length_append]
    omega
  | part | discarding => exact absurd rfl he
  | @discarded line rest e s' hline _ ih =>
    refine Nat.lt_of_lt_of_le (ih he) ?_
    unfold weight
    simp only [Bool.false_eq_true, if_false, if_true, List.length_append, List.length_cons]
    omega

theorem Given.weight_le (h : Given s e s') : s'.weight ≤ s.weight := by
  by_cases he : e = .starved
  · subst he
    generalize hstarved : Event.starved = e at h
    induction h with
    | text => exact absurd hstarved.symm (textEvent_ne_starved _)
    | tooLong => cases hstarved
    | part => exact Nat.le_refl _
    | discarding => exact Nat.zero_le _
    | @discarded line rest e s' hline _ ih =>
      refine Nat.le_trans (ih hstarved) ?_
      unfold weight
      simp only [Bool.false_eq_true, if_false, if_true, List.length_append, List.length_cons]
      omega
  · exact Nat.le_of_lt (h.weight_lt he)

theorem weight_feed (s : LineStream) (bytes : List UInt8) :
    (s.feed bytes).weight = s.weight + 2 * bytes.length := by
  rw [feed_eq]
  unfold weight
  simp only [List.length_append]
  omega

end LineStream

end ChillerGateway
