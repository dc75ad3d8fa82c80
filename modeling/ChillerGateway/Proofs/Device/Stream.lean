import ChillerGateway.Device.Stream
import ChillerGateway.Proofs.Device.LineCodec

/-!
# Polling a stream

What a driver gets from a stream whose buffer it has just cleared: nothing while the pipe is empty,
and otherwise the first line of the pipe.  All that one read takes leaves the pipe, also what
follows that line.
-/

namespace ChillerGateway

namespace Stream

variable {s : Stream}

/-- A stream that neither ended nor failed. -/
structure Live (s : Stream) : Prop where
  failed : s.failed = false
  ended : s.ended = false
  pipeEnded : s.pipeEnded = false

theorem live_new : Live {} := ⟨rfl, rfl, rfl⟩

theorem Live.clear (h : s.Live) : s.clear.Live := ⟨h.failed, h.ended, h.pipeEnded⟩

/-- More bytes arrive. -/
theorem Live.arrive (h : s.Live) (bytes : LineCodec.Bytes) :
    Live { s with pipe := s.pipe ++ bytes } := ⟨h.failed, h.ended, h.pipeEnded⟩

/-- The buffer was found without a line. -/
theorem Live.unread (h : s.Live) : Live { s with readable := false } :=
  ⟨h.failed, h.ended, h.pipeEnded⟩

/-- An empty buffer gives nothing. -/
theorem Live.take_empty (h : s.Live) (hb : s.buffer = []) :
    s.take = (none, { s with readable := false }) := by
  unfold take
  rw [if_neg (by simp [h.failed])]
  cases hr : s.readable with
  | true => simp [hb, h.ended]
  | false => simp [← hr]

theorem Live.poll_empty (h : s.Live) (hb : s.buffer = []) (hp : s.pipe = []) :
    s.poll = (none, { s with readable := false }) := by
  unfold poll
  rw [pollFrom, h.take_empty hb]
  simp [read?, hp, h.pipeEnded]

/-- What a read leaves of a stream when the buffer was empty and one line is decoded from it. -/
def afterLine (s : Stream) (body : LineCodec.Bytes) : Stream :=
  { s with
    pipe := s.pipe.drop chunk
    buffer := (s.pipe.take chunk).drop (body.length + 1)
    readable := true
    ended := false }

/-- The first line of the pipe is had at once. -/
theorem Live.poll_line (h : s.Live) (hb : s.buffer = []) {body rest : LineCodec.Bytes}
    (hp : s.pipe = body ++ LineCodec.lineFeed :: rest) (hbody : LineCodec.lineFeed ∉ body)
    (hlen : body.length < chunk) :
    s.poll = (some (.line (LineCodec.textOf body)), s.afterLine body) := by
  have hchunk : s.pipe.take chunk =
      body ++ LineCodec.lineFeed :: rest.take (chunk - body.length - 1) := by
    obtain ⟨n, hn⟩ : ∃ n, chunk - body.length = n + 1 := ⟨chunk - body.length - 1, by omega⟩
    rw [hp, List.take_append, List.take_of_length_le (by omega), hn, List.take_succ_cons]
    rfl
  have hdrop : (s.pipe.take chunk).drop (body.length + 1) =
      rest.take (chunk - body.length - 1) := by
    rw [hchunk, List.drop_append, List.drop_of_length_le (by omega)]
    simp
  unfold poll
  rw [pollFrom, h.take_empty hb]
  have hread : ({ s with readable := false } : Stream).read? = some { s with
      pipe := s.pipe.drop chunk
      buffer := s.pipe.take chunk
      readable := true
      ended := false } := by
    simp [read?, hb, hp]
  simp only [hread]
  rw [pollFrom]
  simp only [take, h.failed, hchunk, LineCodec.decode_line hbody]
  simp [afterLine, hdrop, h.failed]

theorem Live.afterLine (h : s.Live) (body : LineCodec.Bytes) : (s.afterLine body).Live :=
  ⟨h.failed, rfl, h.pipeEnded⟩

end Stream

end ChillerGateway
