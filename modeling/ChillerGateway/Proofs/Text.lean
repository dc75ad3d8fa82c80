import ChillerGateway.Error
import ChillerGateway.Text.Blank
import ChillerGateway.Text.Utf8
import Mathlib.Data.List.TakeWhile

/-!
# Texts as characters and as bytes

* `Error.isLineEnd_eq_false` — characters from the blank on end no line.
* `Text.trimChars_eq_self` — a text that begins and ends with no blank is trimmed already.
* `Text.ofBytes?_eq_some` — bytes are the characters that are encoded as them.
* `Text.toBytes_ascii` — characters of ASCII are one byte each.
* `Text.eq_of_append`, `Text.eq_of_mem_bytes` — the character that bytes begin with, and the one
  that a byte of ASCII is.
-/

namespace ChillerGateway

/-- Line ends are control characters. -/
theorem Error.isLineEnd_eq_false {c : Char} (h : 0x20 ≤ c.toNat) : isLineEnd c = false := by
  rw [isLineEnd, Bool.or_eq_false_iff, decide_eq_false_iff_not, decide_eq_false_iff_not]
  constructor
  · rintro rfl
    exact absurd h (by decide)
  · rintro rfl
    exact absurd h (by decide)

namespace Text

/-! ## Blanks at the ends -/

theorem trimChars_of_all_blank {cs : List Char} (h : ∀ c ∈ cs, isBlank c = true) :
    trimChars cs = [] := by
  unfold trimChars
  rw [List.dropWhile_eq_nil_iff.mpr h]
  rfl

/-- Blanks at the end are dropped. -/
theorem trimChars_concat_blank (cs : List Char) {b : Char} (hb : isBlank b = true) :
    trimChars (cs ++ [b]) = trimChars cs := by
  by_cases hall : ∀ c ∈ cs, isBlank c = true
  · rw [trimChars_of_all_blank hall, trimChars_of_all_blank]
    intro c hc
    rcases List.mem_append.mp hc with hc | hc
    · exact hall c hc
    · rw [List.mem_singleton.mp hc]; exact hb
  · have hne : cs.dropWhile isBlank ≠ [] := fun he => hall (List.dropWhile_eq_nil_iff.mp he)
    unfold trimChars
    rw [List.dropWhile_append, if_neg (by simpa using hne), List.reverse_append]
    simp [hb]

/-- A text with no blank at either end is its own trimmed text. -/
theorem trimChars_eq_self {cs : List Char} (hf : ∀ c ∈ cs.head?, isBlank c = false)
    (hl : ∀ c ∈ cs.getLast?, isBlank c = false) : trimChars cs = cs := by
  have hfirst : cs.dropWhile isBlank = cs := by
    cases cs with
    | nil => rfl
    | cons c rest => rw [List.dropWhile_cons_of_neg (by simp [hf c (by simp)])]
  have hlast : cs.reverse.dropWhile isBlank = cs.reverse := by
    cases hr : cs.reverse with
    | nil => rfl
    | cons c rest =>
      have hc : cs.getLast? = some c := by rw [List.getLast?_eq_head?_reverse, hr]; rfl
      rw [List.dropWhile_cons_of_neg (by simp [hl c hc])]
  unfold trimChars
  rw [hfirst, hlast, List.reverse_reverse]

/-! ## Bytes -/

variable {bytes : List UInt8} {s : String}

/-- Bytes are characters if they are what these characters are encoded as. -/
theorem ofBytes?_eq_some :
    ofBytes? bytes = some s ↔ s.toList.flatMap String.utf8EncodeChar = bytes := by
  have hbytes : (⟨bytes.toArray⟩ : ByteArray) = bytes.toByteArray := by
    refine ByteArray.ext ?_
    rw [List.data_toByteArray]
  have hs : s.toByteArray = (s.toList.flatMap String.utf8EncodeChar).toByteArray :=
    String.utf8Encode_toList.symm
  unfold ofBytes? String.fromUTF8?
  rw [hbytes]
  constructor
  · intro h
    split at h
    · rename_i hvalid
      cases h
      have hsame : (String.fromUTF8 bytes.toByteArray hvalid).toByteArray = bytes.toByteArray := rfl
      rw [hs] at hsame
      simpa using congrArg ByteArray.data hsame
    · cases h
  · rintro rfl
    rw [← hs, dif_pos s.isValidUTF8]
    rfl

theorem ofBytes?_nil : ofBytes? [] = some "" := ofBytes?_eq_some.mpr rfl

/-- The bytes from a place on come after those before it. -/
theorem byteArray_toList_loop (bs : ByteArray) (i : Nat) (read : List UInt8) :
    ByteArray.toList.loop bs i read = read.reverse ++ bs.data.toList.drop i := by
  fun_induction ByteArray.toList.loop bs i read with
  | case1 i read h ih =>
    have hget : bs.get! i = bs.data.toList[i] := getElem!_pos bs.data i h
    rw [ih, List.drop_eq_getElem_cons h, hget]
    simp
  | case2 i read h =>
    rw [List.drop_eq_nil_of_le (Nat.not_lt.mp h), List.append_nil]

/-- The bytes of a text are those of its characters, one after the other. -/
theorem toBytes_eq (s : String) : toBytes s = s.toList.flatMap String.utf8EncodeChar := by
  have hs : s.toByteArray = (s.toList.flatMap String.utf8EncodeChar).toByteArray :=
    String.utf8Encode_toList.symm
  unfold toBytes ByteArray.toList
  rw [byteArray_toList_loop, String.toUTF8_eq_toByteArray, hs, List.toList_data_toByteArray]
  rfl

theorem ofBytes?_toBytes (s : String) : ofBytes? (toBytes s) = some s :=
  ofBytes?_eq_some.mpr (toBytes_eq s).symm

theorem toBytes_append (s t : String) : toBytes (s ++ t) = toBytes s ++ toBytes t := by
  rw [toBytes_eq, toBytes_eq, toBytes_eq, String.toList_append, List.flatMap_append]

/-- Characters of ASCII are one byte each. -/
theorem toBytes_ascii (h : ∀ c ∈ s.toList, c.toNat < 128) :
    toBytes s = s.toList.map fun c => UInt8.ofNat c.toNat := by
  have hchar : ∀ c : Char, c.toNat < 128 → String.utf8EncodeChar c = [UInt8.ofNat c.toNat] := by
    intro c hc
    have hle : c.val.toNat ≤ 0x7f := Nat.le_of_lt_succ hc
    unfold String.utf8EncodeChar
    simp only [hle, if_true]
    rfl
  rw [toBytes_eq]
  generalize s.toList = cs at h
  induction cs with
  | nil => rfl
  | cons c cs ih =>
    obtain ⟨hc, hrest⟩ := List.forall_mem_cons.mp h
    rw [List.flatMap_cons, hchar c hc, ih hrest, List.map_cons, List.singleton_append]

variable {c d : Char}

/-- Bytes begin with the encoding of one character only. -/
theorem eq_of_append {x y : List UInt8}
    (h : String.utf8EncodeChar c ++ x = String.utf8EncodeChar d ++ y) : c = d := by
  have hdecode : ∀ (c : Char) (x : List UInt8),
      (String.utf8EncodeChar c ++ x).toByteArray.utf8DecodeChar? 0 = some c := by
    intro c x
    rw [List.toByteArray_append]
    exact ByteArray.utf8DecodeChar?_utf8EncodeChar_append
  have hc := hdecode c x
  rw [h, hdecode d y] at hc
  exact (Option.some.inj hc).symm

/-- A byte of ASCII is no part of the encoding of another character. -/
theorem eq_of_mem_bytes {b : UInt8} (hb : b &&& 128 = 0) (hd : String.utf8EncodeChar d = [b])
    (h : b ∈ String.utf8EncodeChar c) : c = d := by
  obtain ⟨i, hi, hget⟩ := List.mem_iff_getElem.mp h
  have hfirst : (String.utf8EncodeChar c)[i].IsUTF8FirstByte := by
    rw [hget]
    exact Or.inl hb
  obtain rfl := UInt8.isUTF8FirstByte_getElem_utf8EncodeChar.mp hfirst
  obtain ⟨b', more, hc⟩ := List.exists_cons_of_length_pos hi
  have hb' : b' = b := by simpa [hc] using hget
  refine eq_of_append (x := []) (y := more) ?_
  rw [hc, hd, hb', List.append_nil]
  rfl

end Text

end ChillerGateway
