import ChillerGateway.Error
import ChillerGateway.Text.Blank
import ChillerGateway.Text.Quoted

/-!
# Lines on the wire

Commands and answers are lines of ASCII characters; a command goes out with a carriage return and a
line feed.  An answer ends at its line feed and is trimmed; a byte outside ASCII is read as a
question mark, so a glitch on the wire shows as an answer without meaning.

* `LineCodec.encode` — the bytes of a command, refused when it is not one line of ASCII.
* `LineCodec.append` — the same behind what is to go out already.
* `LineCodec.decode` — the next line of a buffer.  A buffer that outgrows the longest answer without
  a line feed is thrown away.
* `LineCodec.drain` — all that can be decoded.
-/

namespace ChillerGateway

namespace LineCodec

abbrev Bytes := List UInt8

/-- The most bytes that wait for a line feed. -/
def maxAnswer : Nat := 256

def lineFeed : UInt8 := 10

/-- Whether a command is one line of ASCII. -/
def IsLine (command : String) : Prop :=
  ∀ c ∈ command.toList, c.toNat < 128 ∧ Error.isLineEnd c = false

instance (command : String) : Decidable (IsLine command) :=
  List.decidableBAll _ command.toList

def charBytes (cs : List Char) : Bytes := cs.map fun c => UInt8.ofNat c.toNat

/-- The bytes of a command with its line end. -/
def encode (command : String) : Except Error Bytes :=
  if IsLine command then .ok (charBytes (command.toList ++ ['\r', '\n']))
  else .error (.io ("command is not a single ASCII line: " ++ Text.quote command))

/-- Adds the bytes of a command to what is to go out, which a refused command leaves as it was. -/
def append (command : String) (buffer : Bytes) : Except Error Unit × Bytes :=
  match encode command with
  | .ok bytes => (.ok (), buffer ++ bytes)
  | .error e => (.error e, buffer)

/-- What a buffer gives. -/
inductive Decoded where
  | line (text : String)
  /-- Too many bytes without a line feed; they are gone. -/
  | overlong
  /-- Nothing yet. -/
  | incomplete
  deriving DecidableEq, Repr

/-- The text of an answer's bytes. -/
def textOf (bytes : Bytes) : String :=
  String.ofList (Text.trimChars (bytes.map fun b => if b < 128 then Char.ofNat b.toNat else '?'))

/-- The next line of a buffer, and what stays in it. -/
def decode (buffer : Bytes) : Decoded × Bytes :=
  match buffer.dropWhile (· ≠ lineFeed) with
  | _ :: rest => (.line (textOf (buffer.takeWhile (· ≠ lineFeed))), rest)
  | [] => if maxAnswer < buffer.length then (.overlong, []) else (.incomplete, buffer)

theorem length_decode_line {buffer rest : Bytes} {text : String}
    (h : decode buffer = (.line text, rest)) : rest.length < buffer.length := by
  unfold decode at h
  split at h
  · rename_i b r hd
    obtain ⟨-, rfl⟩ := Prod.mk.inj h
    have := (List.dropWhile_sublist (· ≠ lineFeed) (l := buffer)).length_le
    rw [hd] at this
    simp only [List.length_cons] at this
    omega
  · split at h <;> cases h

/-- The lines of a buffer up to the first error or the last line feed, and what stays. -/
def drain (buffer : Bytes) : List Decoded × Bytes :=
  match _h : decode buffer with
  | (.line text, rest) =>
    let (more, left) := drain rest
    (.line text :: more, left)
  | (.overlong, rest) => ([.overlong], rest)
  | (.incomplete, rest) => ([], rest)
termination_by buffer.length
decreasing_by exact length_decode_line (by assumption)

end LineCodec

end ChillerGateway
