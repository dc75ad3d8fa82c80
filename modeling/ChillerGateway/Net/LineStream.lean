import ChillerGateway.Text.Utf8

/-!
# Lines of a byte stream

Bytes from a client become lines that end at a line feed; a carriage return before it is dropped.  A
line over the size limit is reported once, as soon as the limit is passed, and the rest of it is
discarded.

* `LineStream.next` — the next event of the bytes at hand.
* `LineStream.last?` — the line without a line feed at the end of the stream.
-/

namespace ChillerGateway

/-- Bytes that came in and were not used. -/
structure LineStream where
  buffer : List UInt8 := []
  /-- Whether the rest of a line over the limit is still to be discarded. -/
  discarding : Bool := false
  deriving DecidableEq, Repr

namespace LineStream

/-- The longest line, in bytes. -/
def maxLine : Nat := 1048576

def lineFeed : UInt8 := 10

inductive Event where
  | line (text : String)
  /-- A line over the limit. -/
  | oversized
  /-- A line that is not made of characters. -/
  | unreadable
  /-- No whole line. -/
  | starved
  deriving DecidableEq, Repr

/-- More bytes at the end. -/
def feed (s : LineStream) (bytes : List UInt8) : LineStream :=
  { s with buffer := if s.buffer.isEmpty then bytes else s.buffer ++ bytes }

def dropReturn (line : List UInt8) : List UInt8 :=
  if line.getLast? = some 13 then line.dropLast else line

def textEvent (line : List UInt8) : Event :=
  match Text.ofBytes? (dropReturn line) with
  | some text => .line text
  | none => .unreadable

/-- The next event from the start of a line on. -/
def nextLine (buffer : List UInt8) : Event × LineStream :=
  let line := (buffer.take (maxLine + 1)).takeWhile (· ≠ lineFeed)
  if maxLine < line.length then (.oversized, ⟨buffer, true⟩)
  else match buffer.drop line.length with
    | [] => (.starved, ⟨buffer, false⟩)
    | _ :: rest => (textEvent line, ⟨rest, false⟩)

/-- The next event of the bytes at hand, and what is left of them. -/
def next (s : LineStream) : Event × LineStream :=
  if s.discarding then
    match s.buffer.dropWhile (· ≠ lineFeed) with
    | [] => (.starved, ⟨[], true⟩)
    | _ :: rest => nextLine rest
  else nextLine s.buffer

/-- The line that the end of the stream ends, if there is one. -/
def last? (s : LineStream) : Option String :=
  if s.discarding || s.buffer.isEmpty || s.buffer = [13] then none
  else match textEvent s.buffer with
    | .line text => some text
    | _ => none

end LineStream

end ChillerGateway
