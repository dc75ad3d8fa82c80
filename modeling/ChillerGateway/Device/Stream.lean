import ChillerGateway.Device.LineCodec
import ChillerGateway.Device.Operation

/-!
# The near side of a stream

Bytes that arrived wait in the pipe until the driver reads; a read takes what is there into a
buffer, and lines are decoded from the buffer.  After a decoding failure the next read reports the
end of the stream once, without taking anything, and then reading goes on.

* `Stream.poll` — the line, failure or end that can be had now, if any.
-/

namespace ChillerGateway

/-- The near side of a stream to a controller. -/
structure Stream where
  /-- Arrived and not read. -/
  pipe : LineCodec.Bytes := []
  /-- Whether nothing will arrive any more. -/
  pipeEnded : Bool := false
  /-- Read and not decoded. -/
  buffer : LineCodec.Bytes := []
  /-- Whether the buffer may hold something to decode. -/
  readable : Bool := false
  /-- Whether the end of the pipe was read. -/
  ended : Bool := false
  /-- Whether the last decoding failed. -/
  failed : Bool := false
  deriving DecidableEq, Repr

namespace Stream

/-- The most bytes that one read takes. -/
def chunk : Nat := 1024

/-- What the buffer gives: a line, a failure or the end, or nothing before more is read. -/
def take (s : Stream) : Option Reception × Stream :=
  if s.failed then (some .closed, { s with readable := false, failed := false })
  else if !s.readable then (none, s)
  else match LineCodec.decode s.buffer with
    | (.line text, rest) => (some (.line text), { s with buffer := rest })
    | (.overlong, rest) =>
      (some (.failed "reply exceeds maximum length"), { s with buffer := rest, failed := true })
    | (.incomplete, _) =>
      if s.ended then
        if s.buffer.isEmpty then (some .closed, { s with readable := false })
        else (some (.failed "bytes remaining on stream"), { s with failed := true })
      else (none, { s with readable := false })

/-- Reads from the pipe: what is there, or its end; none when there is nothing to read. -/
def read? (s : Stream) : Option Stream :=
  if !s.pipe.isEmpty then
    some { s with
      pipe := s.pipe.drop chunk
      buffer := s.buffer ++ s.pipe.take chunk
      readable := true
      ended := false }
  else if s.pipeEnded && !s.ended then some { s with readable := true, ended := true }
  else none

/-- Reads and decodes until there is something or nothing is left to read; `fuel`
bounds the reads. -/
def pollFrom : (fuel : Nat) → Stream → Option Reception × Stream
  | 0, s => (none, s)
  | fuel + 1, s =>
    match s.take with
    | (some r, s) => (some r, s)
    | (none, s) =>
      match s.read? with
      | some s => pollFrom fuel s
      | none => if s.pipeEnded && s.ended then (some .closed, s) else (none, s)

/-- The line, failure or end that can be had now. -/
def poll (s : Stream) : Option Reception × Stream := pollFrom (s.pipe.length + 3) s

/-- Throws away what was read and not used. -/
def clear (s : Stream) : Stream := { s with buffer := [] }

end Stream

end ChillerGateway
