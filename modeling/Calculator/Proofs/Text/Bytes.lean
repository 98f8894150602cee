import Mathlib.Data.List.Basic
import Calculator.Proofs.Token.Scan

/-!
# The bytes of a text

In UTF-8 a character of ASCII is a single byte, and the bytes of all other characters lie beyond
ASCII. So where the byte of an ASCII character stands in a text, this character stands
(`bytes_getElem?_eq_iff`), and whoever looks for such characters may look at bytes.

Places in a text are counted in bytes. Not all of them lie between characters, and a part of a text
can be cut out only at those that do (`part?`). The places before and after an ASCII character are
among them (`isValid_of_byte`).
-/

set_option autoImplicit false

namespace Calculator.Text

/-- The bytes of a text in UTF-8. -/
def bytes (text : String) : List UInt8 :=
  text.toByteArray.data.toList

theorem bytes_ofList (text : List Char) :
    bytes (String.ofList text) = text.flatMap String.utf8EncodeChar := by
  rw [bytes, String.toByteArray_ofList, List.utf8Encode, List.toList_data_toByteArray]

theorem length_flatMap_utf8EncodeChar (text : List Char) :
    (text.flatMap String.utf8EncodeChar).length = byteLength text := by
  induction text with
  | nil => rfl
  | cons c rest ih =>
      rw [List.flatMap_cons, List.length_append, ih, String.length_utf8EncodeChar]
      rfl

/-- A text has as many bytes as its characters have together. -/
theorem utf8ByteSize_ofList (text : List Char) :
    (String.ofList text).utf8ByteSize = byteLength text := by
  rw [← length_flatMap_utf8EncodeChar, ← bytes_ofList]
  rfl

/-! ## Characters of ASCII -/

/-- A character of ASCII is one byte. -/
theorem utf8EncodeChar_of_ascii {c : Char} (ascii : c.toNat ≤ 127) :
    String.utf8EncodeChar c = [c.toUInt8] :=
  if_pos ascii

theorem toNat_toUInt8_of_ascii {c : Char} (ascii : c.toNat ≤ 127) : c.toUInt8.toNat = c.toNat :=
  Nat.mod_eq_of_lt (Nat.lt_of_le_of_lt ascii (by decide))

/-- A byte with a mark of at least 128 lies beyond ASCII, whatever number it carries. -/
theorem beyond_ascii_of_mark {number width mark : Nat} (positive : 0 < width) (high : 127 < mark)
    (fits : width + mark ≤ 256) : ¬ (UInt8.ofNat (number % width + mark)).toNat ≤ 127 := by
  have carried := Nat.mod_lt number positive
  rw [UInt8.toNat_ofNat', Nat.mod_eq_of_lt (by omega)]
  omega

/-- The bytes of a character beyond ASCII lie beyond ASCII. -/
theorem beyond_ascii_of_mem {c : Char} (beyond : ¬ c.toNat ≤ 127) {byte : UInt8}
    (member : byte ∈ String.utf8EncodeChar c) : ¬ byte.toNat ≤ 127 := by
  have beyond : ¬ c.val.toNat ≤ 127 := beyond
  simp only [String.utf8EncodeChar, if_neg beyond] at member
  -- There are two, three or four bytes, and each of them is marked.
  split at member
  on_goal 2 => split at member
  all_goals
    simp only [List.mem_cons, List.not_mem_nil, or_false] at member
    rcases member with rfl | rfl | rfl | rfl
    all_goals exact beyond_ascii_of_mark (by decide) (by decide) (by decide)

/-- The byte of an ASCII character is a byte of no other character. -/
theorem eq_of_toUInt8_mem {c d : Char} (ascii : d.toNat ≤ 127)
    (member : d.toUInt8 ∈ String.utf8EncodeChar c) : c = d := by
  have byte := toNat_toUInt8_of_ascii ascii
  by_cases single : c.toNat ≤ 127
  · rw [utf8EncodeChar_of_ascii single, List.mem_singleton] at member
    rw [member, toNat_toUInt8_of_ascii single] at byte
    exact Char.toNat_inj.mp byte
  · exact absurd (byte ▸ ascii) (beyond_ascii_of_mem single member)

/-- **Where the byte of an ASCII character stands in a text, the character stands.** -/
theorem bytes_getElem?_eq_iff {text : List Char} {d : Char} (ascii : d.toNat ≤ 127) {place : Nat} :
    (bytes (String.ofList text))[place]? = some d.toUInt8 ↔
      ∃ before after, text = before ++ d :: after ∧ place = byteLength before := by
  rw [bytes_ofList]
  constructor
  · intro found
    induction text generalizing place with
    | nil => simp at found
    | cons c rest ih =>
        rw [List.flatMap_cons] at found
        by_cases inside : place < (String.utf8EncodeChar c).length
        · rw [List.getElem?_append_left inside] at found
          obtain rfl := eq_of_toUInt8_mem ascii (List.mem_of_getElem? found)
          rw [utf8EncodeChar_of_ascii ascii, List.length_singleton] at inside
          exact ⟨[], rest, rfl, Nat.lt_one_iff.mp inside⟩
        · rw [List.getElem?_append_right (by omega)] at found
          obtain ⟨before, after, rfl, later⟩ := ih found
          refine ⟨c :: before, after, rfl, ?_⟩
          rw [String.length_utf8EncodeChar] at later inside
          simp only [byteLength, List.foldr_cons] at later ⊢
          omega
  · intro stands
    obtain ⟨before, after, rfl, rfl⟩ := stands
    rw [List.flatMap_append, List.flatMap_cons, utf8EncodeChar_of_ascii ascii,
      ← length_flatMap_utf8EncodeChar, List.getElem?_append_right (Nat.le_refl _), Nat.sub_self]
    rfl

/-! ## Parts -/

/-- The part of a text from one place up to another. There is none if a place is inside a character
or beyond the end, or if the places are in the wrong order. -/
def part? (text : String) (start stop : Nat) : Option String :=
  if between : start ≤ stop ∧ String.Pos.Raw.IsValid text ⟨start⟩ ∧
      String.Pos.Raw.IsValid text ⟨stop⟩ then
    some (String.extract (text.pos ⟨start⟩ between.2.1) (text.pos ⟨stop⟩ between.2.2))
  else none

/-- The place after each text that a text starts with lies between characters. -/
theorem isValid_byteLength (before after : List Char) :
    String.Pos.Raw.IsValid (String.ofList (before ++ after)) ⟨byteLength before⟩ := by
  rw [String.Pos.Raw.isValid_iff_exists_append]
  refine ⟨String.ofList before, String.ofList after, String.ofList_append, ?_⟩
  rw [String.Pos.Raw.ext_iff, String.byteIdx_rawEndPos, utf8ByteSize_ofList]

/-- **The places before and after the byte of an ASCII character lie between characters.** -/
theorem isValid_of_byte {text : List Char} {d : Char} (ascii : d.toNat ≤ 127) {place : Nat}
    (stands : (bytes (String.ofList text))[place]? = some d.toUInt8) :
    String.Pos.Raw.IsValid (String.ofList text) ⟨place⟩ ∧
      String.Pos.Raw.IsValid (String.ofList text) ⟨place + 1⟩ := by
  obtain ⟨before, after, rfl, rfl⟩ := (bytes_getElem?_eq_iff ascii).mp stands
  refine ⟨isValid_byteLength before (d :: after), ?_⟩
  have past := isValid_byteLength (before ++ [d]) after
  have size : byteLength [d] = 1 := by
    rw [← length_flatMap_utf8EncodeChar, List.flatMap_singleton, utf8EncodeChar_of_ascii ascii]
    rfl
  rwa [byteLength_append, size, List.append_assoc] at past

/-- What stands between two texts can be cut out. -/
theorem part?_append (before part after : List Char) :
    part? (String.ofList (before ++ part ++ after)) (byteLength before)
      (byteLength (before ++ part)) = some (String.ofList part) := by
  have starts : String.Pos.Raw.IsValid (String.ofList (before ++ part ++ after))
      ⟨byteLength before⟩ := by
    rw [List.append_assoc]
    exact isValid_byteLength before (part ++ after)
  have stops := isValid_byteLength (before ++ part) after
  have ordered : byteLength before ≤ byteLength (before ++ part) := by
    rw [byteLength_append]
    exact Nat.le_add_right ..
  have size (text : List Char) : byteLength text = text.utf8Encode.size := by
    rw [← utf8ByteSize_ofList, ← String.size_toByteArray, String.toByteArray_ofList]
  rw [part?, dif_pos ⟨ordered, starts, stops⟩, Option.some_inj, ← String.toByteArray_inj,
    String.toByteArray_extract, String.toByteArray_ofList, String.toByteArray_ofList,
    List.utf8Encode_append, String.offset_pos, String.offset_pos, size, size,
    ByteArray.extract_append_size_left, List.utf8Encode_append, ByteArray.size_append]
  exact ByteArray.extract_append_eq_right rfl rfl

end Calculator.Text
