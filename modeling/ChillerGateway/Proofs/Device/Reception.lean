import ChillerGateway.Proofs.Device.Connection
import Mathlib.Data.List.Basic

/-!
# What a wait for an answer ends with

* `exists_entry` — the next line of the pipe is the rest of the answer to one line that was read.
* `Connection.receiveFrom` — a wait with nothing buffered times out or ends with the next line of
  the pipe; in both cases the account of the connection goes on.
-/

namespace ChillerGateway

/-! ## Lines in the stream of answers -/

namespace LineCodec

/-- Bytes are cut at their first line feed in one way only. -/
theorem line_inj {body body' rest rest' : Bytes} (h : lineFeed ∉ body) (h' : lineFeed ∉ body')
    (he : body ++ lineFeed :: rest = body' ++ lineFeed :: rest') : body = body' := by
  have := congrArg (List.takeWhile (· ≠ lineFeed)) he
  rwa [takeWhile_line h, takeWhile_line h'] at this

end LineCodec

/-- An answer's line is cut at its line feed only. -/
theorem FarAnswer.IsLine.suffix {a : FarAnswer} (ha : a.IsLine) {front back : LineCodec.Bytes}
    (hb : a.bytes = front ++ back) (hne : back ≠ []) :
    ∃ body, back = body ++ [LineCodec.lineFeed] ∧ LineCodec.lineFeed ∉ body := by
  obtain ⟨-, line, hline, hfree, -⟩ := ha
  obtain ⟨body, last, rfl⟩ := (List.eq_nil_or_concat' back).resolve_left hne
  have he : (line ++ [13]) ++ [LineCodec.lineFeed] = (front ++ body) ++ [last] := by
    rw [List.append_assoc, List.append_assoc, ← hb, hline]
    rfl
  obtain ⟨hbody, hlast⟩ := List.append_inj' he rfl
  refine ⟨body, by rw [← List.singleton_inj.mp hlast], ?_⟩
  intro hmem
  have : LineCodec.lineFeed ∈ line ++ [13] := by
    rw [hbody]
    exact List.mem_append_right _ hmem
  rcases List.mem_append.mp this with hm | hm
  · exact hfree hm
  · exact absurd hm (by decide)

/-- **The next line belongs to one answer**: of the bytes of answers, what follows some of them up
to a line feed is the rest of the answer to one of the lines. -/
theorem exists_entry {entries : List Heard} (hlines : ∀ h ∈ entries, ∀ a ∈ h.answer, a.IsLine)
    {read body rest : LineCodec.Bytes} (hbody : LineCodec.lineFeed ∉ body)
    (h : entries.flatMap Heard.bytes = read ++ (body ++ LineCodec.lineFeed :: rest)) :
    ∃ before entry after a front, entries = before ++ entry :: after ∧ entry.answer = some a ∧
      read = before.flatMap Heard.bytes ++ front ∧
      a.bytes = front ++ (body ++ [LineCodec.lineFeed]) := by
  induction entries generalizing read with
  | nil => simp at h
  | cons entry entries ih =>
    have ih := @ih fun h hh => hlines h (List.mem_cons_of_mem _ hh)
    rw [List.flatMap_cons] at h
    -- Either all of the first answer was read, or the line begins in it.
    rcases List.append_eq_append_iff.mp h with ⟨more, hread, hrest⟩ | ⟨back, hentry, hrest⟩
    · obtain ⟨before, e, after, a, front, rfl, ha, rfl, hbytes⟩ := ih hrest
      refine ⟨entry :: before, e, after, a, front, rfl, ha, ?_, hbytes⟩
      rw [hread, List.flatMap_cons, List.append_assoc]
    · by_cases hne : back = []
      · subst hne
        rw [List.append_nil] at hentry
        have hrest : entries.flatMap Heard.bytes = [] ++ (body ++ LineCodec.lineFeed :: rest) :=
          hrest.symm
        obtain ⟨before, e, after, a, front, rfl, ha, hnil, hbytes⟩ := ih hrest
        refine ⟨entry :: before, e, after, a, front, rfl, ha, ?_, hbytes⟩
        rw [List.flatMap_cons, List.append_assoc, ← hnil, List.append_nil, hentry]
      · have hsome : ∃ a, entry.answer = some a := by
          cases ha : entry.answer with
          | some a => exact ⟨a, rfl⟩
          | none =>
            simp [Heard.bytes, ha, hne] at hentry
        obtain ⟨a, ha⟩ := hsome
        have hbytes : a.bytes = read ++ back := by
          rw [← hentry]
          simp [Heard.bytes, ha]
        obtain ⟨line, rfl, hline⟩ :=
          (hlines entry List.mem_cons_self a ha).suffix hbytes hne
        have hsame : body = line := by
          have hboth : body ++ LineCodec.lineFeed :: rest =
              line ++ LineCodec.lineFeed :: entries.flatMap Heard.bytes := by
            rw [hrest, List.append_assoc]
            rfl
          exact LineCodec.line_inj hbody hline hboth
        exact ⟨[], entry, entries, a, read, rfl, ha, rfl, hsame ▸ hbytes⟩

namespace LinkDevice

/-! ## The wait -/

/-- What a wait for an answer comes to on a connection: nothing in time, or the next line of the
pipe. -/
inductive Received (f : FarEnd) (s : Session) (read : LineCodec.Bytes) :
    Reception → LinkDevice → Prop where
  | timeout {l : LinkDevice} {s' : Session} {st : Stream} (h : Connection l s' st read)
      (hf : l.farEnd.Orderly) (hl : f.Later l.farEnd s s') : Received f s read .timeout l
  | line {l : LinkDevice} {s' : Session} {st : Stream} {body rest : LineCodec.Bytes}
      (h : Connection l s' st read) (hf : l.farEnd.Orderly) (hl : f.Later l.farEnd s s')
      (hp : st.pipe = body ++ LineCodec.lineFeed :: rest) (hb : LineCodec.lineFeed ∉ body) :
      Received f s read (.line (LineCodec.textOf body))
        { l with stream := some (st.afterLine body) }

theorem Received.of_later {f f' : FarEnd} {s s' : Session} {read : LineCodec.Bytes}
    {r : Reception} {l : LinkDevice} (h : Received f' s' read r l) (hl : f.Later f' s s') :
    Received f s read r l := by
  cases h with
  | timeout h hf hl' => exact .timeout h hf (hl.trans hl')
  | line h hf hl' hp hb => exact .line h hf (hl.trans hl') hp hb

namespace Connection

variable {l : LinkDevice} {s : Session} {st : Stream} {read : LineCodec.Bytes}

theorem lines (hf : l.farEnd.Orderly) (c : Nat) :
    ∀ h ∈ l.farEnd.told c, ∀ a ∈ h.answer, a.IsLine := by
  intro h hh
  exact (hf.heard h (List.mem_reverse.mp (List.mem_filter.mp hh).1)).2

/-- The next line of the pipe is not longer than an answer. -/
theorem length_line (h : Connection l s st read) (hf : l.farEnd.Orderly)
    {body rest : LineCodec.Bytes} (hp : st.pipe = body ++ LineCodec.lineFeed :: rest)
    (hb : LineCodec.lineFeed ∉ body) : body.length ≤ 256 := by
  have hbytes := h.bytes
  rw [hp, List.append_assoc, List.append_assoc, List.cons_append] at hbytes
  obtain ⟨before, entry, after, a, front, hentries, ha, -, hanswer⟩ :=
    exists_entry (lines hf s.connection) hb hbytes
  obtain ⟨-, line, hline, -, hlen⟩ := lines hf s.connection entry (by rw [hentries]; simp) a ha
  have := congrArg List.length (hline.symm.trans hanswer)
  simp only [List.length_append, List.length_cons, List.length_nil] at this
  omega

/-- **A wait with nothing buffered** times out or ends with the next line of the pipe. -/
theorem receiveFrom (hf : l.farEnd.Orderly) (h : Connection l s st read) (hb : st.buffer = [])
    (start deadline fuel time : Nat) :
    Received l.farEnd s read (LinkDevice.receiveFrom start deadline fuel time l).2.1
      (LinkDevice.receiveFrom start deadline fuel time l).2.2 := by
  induction fuel generalizing l s st time with
  | zero => exact .timeout h hf (FarEnd.Later.refl _ _)
  | succ fuel ih =>
    by_cases hp : st.pipe = []
    · have hpoll := poll_of_stream h.stream (h.live.poll_empty hb hp)
      have hquiet : Connection { l with stream := some { st with readable := false } } s
          { st with readable := false } read :=
        ⟨h.own, h.others, rfl, h.live.unread, h.whole, h.bytes⟩
      rw [LinkDevice.receiveFrom, hpoll]
      simp only
      split
      · exact .timeout hquiet hf (FarEnd.Later.refl _ _)
      · rename_i due since i hn
        split
        · obtain ⟨s', arrived, hwait, hlater⟩ := Connection.advanceFrom (l := { l with
            stream := some { st with readable := false } }) hf hquiet l.farEnd.work due (due + 1)
          have hrest := ih (orderly_advanceFrom (l := { l with
            stream := some { st with readable := false } }) hf l.farEnd.work due (due + 1)) hwait hb
            (max time due)
          exact hrest.of_later hlater
        · exact .timeout hquiet hf (FarEnd.Later.refl _ _)
    · obtain ⟨body, rest, hline, hfree⟩ := h.whole.exists_line hp
      have hlen : body.length < Stream.chunk :=
        Nat.lt_of_le_of_lt (h.length_line hf hline hfree) (by decide)
      have hpoll := poll_of_stream h.stream (h.live.poll_line hb hline hfree hlen)
      rw [receiveFrom_poll hpoll]
      exact .line h hf (FarEnd.Later.refl _ _) hline hfree

end Connection

end LinkDevice

end ChillerGateway
