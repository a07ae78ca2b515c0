/-
What a reading of arbitrary bytes as text can hold. Bytes that are valid UTF-8 are
read as the one text they write. Any others lose what is no character, but nothing
appears that was not there apart from the replacement character: a text read from
bytes without a zero byte can be written again.

What is written has a zero byte for the character with the code zero and for no other.
-/

import Telemetry.WireItem

namespace Telemetry.Utf8

private theorem encode_decode_eq_flatMap (bytes : Bytes) :
    encode (decode bytes) = (characters bytes).flatMap String.utf8EncodeChar := by
  rw [encode, decode, String.toList_ofList]

theorem encode_decode {bytes : Bytes} (valid : bytes.toByteArray.IsValidUTF8) :
    encode (decode bytes) = bytes := by
  obtain ⟨text, same⟩ := valid
  have written : bytes = text.flatMap String.utf8EncodeChar := List.toByteArray_inj.mp same
  rw [encode_decode_eq_flatMap, written, characters_flatMap]

/-- The character that bytes start with is written as their start. -/
private theorem encodeChar_subset_of_first? {bytes : Bytes} {character : Char}
    (found : first? bytes = some character) : String.utf8EncodeChar character ⊆ bytes := by
  have same := ByteArray.eq_of_utf8DecodeChar?_eq_some found
  have window := congrArg (fun array => array.data.toList) same
  simp only [ByteArray.data_append, Array.toList_append, List.data_toByteArray,
    List.toList_toArray] at window
  intro byte member
  apply List.mem_of_mem_take (i := 4)
  rw [window]
  exact List.mem_append_left _ member

private theorem zeroByte_notMem_encode_decode {bytes : Bytes} (clean : zeroByte ∉ bytes) :
    zeroByte ∉ encode (decode bytes) := by
  rw [encode_decode_eq_flatMap]
  fun_induction characters bytes with
  | case1 => exact List.not_mem_nil
  | case2 byte rest character found ih =>
      have later := ih fun member =>
        clean (List.mem_cons_of_mem byte (List.mem_of_mem_drop member))
      rw [List.flatMap_cons, List.mem_append]
      rintro (here | there)
      · exact clean (encodeChar_subset_of_first? found here)
      · exact later there
  | case3 byte rest _ ih =>
      have later := ih fun member =>
        clean (List.mem_cons_of_mem byte (List.mem_of_mem_drop member))
      have apart : zeroByte ∉ String.utf8EncodeChar replacement := by decide
      rw [List.flatMap_cons, List.mem_append]
      rintro (here | there)
      · exact apart here
      · exact later there

theorem isPlain_decode {bytes : Bytes} (clean : zeroByte ∉ bytes) :
    WireItem.isPlain (decode bytes) = true := by
  have absent := zeroByte_notMem_encode_decode clean
  rw [WireItem.isPlain, Bool.not_eq_true', ← Bool.not_eq_true, List.contains_iff_mem]
  exact absent

/-- A character of several bytes has none below 128 among them. -/
private theorem le_toNat_of_mem_encodeChar {character : Char} (wide : 127 < character.val.toNat)
    {byte : UInt8} (member : byte ∈ String.utf8EncodeChar character) : 128 ≤ byte.toNat := by
  have high : ∀ value, 128 ≤ value % 256 → byte = UInt8.ofNat value → 128 ≤ byte.toNat := by
    rintro value above rfl
    rwa [UInt8.toNat_ofNat']
  simp only [String.utf8EncodeChar, if_neg (Nat.not_le_of_lt wide)] at member
  split at member
  · simp only [List.mem_cons, List.not_mem_nil, or_false] at member
    rcases member with same | same <;> exact high _ (by omega) same
  · split at member
    · simp only [List.mem_cons, List.not_mem_nil, or_false] at member
      rcases member with same | same | same <;> exact high _ (by omega) same
    · simp only [List.mem_cons, List.not_mem_nil, or_false] at member
      rcases member with same | same | same | same <;> exact high _ (by omega) same

@[simp]
theorem zeroByte_mem_encodeChar_iff (character : Char) :
    zeroByte ∈ String.utf8EncodeChar character ↔ character = '\x00' := by
  constructor
  · intro member
    have narrow : character.val.toNat ≤ 127 := by
      refine Nat.le_of_not_lt fun wide => ?_
      have above : 128 ≤ zeroByte.toNat := le_toNat_of_mem_encodeChar wide member
      exact absurd above (by decide)
    simp only [String.utf8EncodeChar, if_pos narrow, List.mem_singleton] at member
    have same : zeroByte.toNat = character.val.toNat % 256 := by
      rw [member, UInt8.toNat_ofNat']
    have zero : character.val.toNat = 0 := by
      rw [Nat.mod_eq_of_lt (by omega)] at same
      exact same.symm
    exact Char.ext (UInt32.toNat_inj.mp zero)
  · rintro rfl
    decide

private theorem zeroByte_mem_encode_iff (text : String) :
    zeroByte ∈ encode text ↔ '\x00' ∈ text.toList := by
  simp [encode]

@[simp]
theorem isPlain_iff {text : String} :
    WireItem.isPlain text = true ↔ '\x00' ∉ text.toList := by
  rw [WireItem.isPlain, Bool.not_eq_true', ← Bool.not_eq_true, List.contains_iff_mem,
    zeroByte_mem_encode_iff]

end Telemetry.Utf8
