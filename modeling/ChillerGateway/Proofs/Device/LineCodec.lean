import ChillerGateway.Device.LineCodec
import ChillerGateway.Proofs.Separated
import ChillerGateway.Proofs.Text

/-!
# Reading what was written

* `decode_line` — a buffer with a line feed gives the line before it.
* `decode_encode` — a command comes out of the decoder as it went into the encoder, but for blanks
  at its ends.
-/

namespace ChillerGateway

namespace LineCodec

variable {body rest : Bytes}

theorem takeWhile_line (h : lineFeed ∉ body) :
    (body ++ lineFeed :: rest).takeWhile (· ≠ lineFeed) = body :=
  Separated.takeWhile_append h rest

/-- A buffer with a line feed gives the line before it. -/
theorem decode_line (h : lineFeed ∉ body) :
    decode (body ++ lineFeed :: rest) = (.line (textOf body), rest) := by
  unfold decode
  rw [Separated.dropWhile_append h, takeWhile_line h]

@[simp] theorem decode_nil : decode [] = (.incomplete, []) := rfl

/-! ## Commands -/

theorem charBytes_append (cs ds : List Char) :
    charBytes (cs ++ ds) = charBytes cs ++ charBytes ds := List.map_append

theorem lineFeed_not_mem_charBytes {cs : List Char}
    (h : ∀ c ∈ cs, c.toNat < 128 ∧ Error.isLineEnd c = false) : lineFeed ∉ charBytes cs := by
  intro hm
  obtain ⟨c, hc, he⟩ := List.mem_map.mp hm
  obtain ⟨hlt, hline⟩ := h c hc
  have hten : c.toNat = 10 := by
    have := congrArg UInt8.toNat he
    rw [UInt8.toNat_ofNat', Nat.mod_eq_of_lt (by omega)] at this
    exact this
  have hlf : c = '\n' := Char.toNat_inj.mp hten
  rw [hlf] at hline
  exact absurd hline (by decide)

/-- Characters of ASCII survive the way over the wire. -/
theorem textOf_charBytes {cs : List Char} (h : ∀ c ∈ cs, c.toNat < 128) :
    textOf (charBytes cs) = String.ofList (Text.trimChars cs) := by
  have hchar : ∀ c ∈ cs, ((fun b : UInt8 => if b < 128 then Char.ofNat b.toNat else '?') ∘
      fun c : Char => UInt8.ofNat c.toNat) c = id c := by
    intro c hc
    have hlt := h c hc
    have hnat : (UInt8.ofNat c.toNat).toNat = c.toNat := by
      rw [UInt8.toNat_ofNat', Nat.mod_eq_of_lt (by omega)]
    have hsmall : UInt8.ofNat c.toNat < 128 := by
      rw [UInt8.lt_iff_toNat_lt, hnat]
      exact hlt
    simp only [Function.comp_apply, hsmall, if_true, hnat, Char.ofNat_toNat, id_eq]
  have hback : (charBytes cs).map (fun b => if b < 128 then Char.ofNat b.toNat else '?') = cs := by
    unfold charBytes
    rw [List.map_map, List.map_congr_left hchar, List.map_id]
  unfold textOf
  rw [hback]

theorem encode_of_isLine {command : String} (h : IsLine command) :
    encode command = .ok (charBytes (command.toList ++ ['\r', '\n'])) := if_pos h

theorem length_encode {command : String} {bytes : Bytes} (h : encode command = .ok bytes) :
    bytes.length = command.toList.length + 2 := by
  unfold encode at h
  split at h
  · cases h
    simp [charBytes]
  · cases h

/-- What goes over the wire for a line: its text with a carriage return, then a line feed. -/
theorem exists_body {line : String} (h : IsLine line) :
    ∃ body, charBytes (line.toList ++ ['\r', '\n']) = body ++ [lineFeed] ∧ lineFeed ∉ body ∧
      body.length = line.toList.length + 1 ∧ textOf body = Text.trim line := by
  have hcr : ∀ c ∈ line.toList ++ ['\r'], c.toNat < 128 := by
    intro c hc
    rcases List.mem_append.mp hc with hc | hc
    · exact (h c hc).1
    · rw [List.mem_singleton.mp hc]; decide
  refine ⟨charBytes (line.toList ++ ['\r']), ?_, ?_, ?_, ?_⟩
  · simp [charBytes, lineFeed]
  · rw [charBytes_append, List.mem_append]
    rintro (hm | hm)
    · exact lineFeed_not_mem_charBytes h hm
    · exact absurd hm (by decide)
  · simp [charBytes]
  · rw [textOf_charBytes hcr, Text.trimChars_concat_blank _ (by decide)]
    rfl

/-- **A command comes out of the decoder** as it went into the encoder, but for blanks at its
ends. -/
theorem decode_encode {command : String} {bytes : Bytes} (h : encode command = .ok bytes) :
    decode bytes = (.line (Text.trim command), []) := by
  unfold encode at h
  split at h
  · rename_i hline
    cases h
    obtain ⟨body, hbytes, hbody, -, htext⟩ := exists_body hline
    rw [hbytes, decode_line hbody, htext]
  · cases h

end LineCodec

end ChillerGateway
