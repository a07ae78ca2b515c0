/-
Text on the wire is UTF-8. Writing is exact. Reading never fails: where the
bytes are no character, the longest start of one that they do hold, or else one
byte, is read as the replacement character.

The two agree on every text (`decode_encode`), so only damaged or foreign bytes
are ever replaced.
-/

import Telemetry.Bytes

namespace Telemetry.Utf8

def encode (text : String) : Bytes :=
  text.toList.flatMap String.utf8EncodeChar

/-- What stands for bytes that are no character. -/
def replacement : Char := '\ufffd'

/-- The character that a byte string starts with. -/
def first? (bytes : Bytes) : Option Char :=
  (bytes.take 4).toByteArray.utf8DecodeChar? 0

/--
What may follow a byte that starts a character of several bytes: the bounds of
the second byte, and how many bytes come after the first.
-/
structure Lead where
  low : UInt8
  high : UInt8
  following : Nat

def lead? (byte : UInt8) : Option Lead :=
  if 0xC2 ≤ byte ∧ byte ≤ 0xDF then some ⟨0x80, 0xBF, 1⟩
  else if byte = 0xE0 then some ⟨0xA0, 0xBF, 2⟩
  else if byte = 0xED then some ⟨0x80, 0x9F, 2⟩
  else if 0xE1 ≤ byte ∧ byte ≤ 0xEF then some ⟨0x80, 0xBF, 2⟩
  else if byte = 0xF0 then some ⟨0x90, 0xBF, 3⟩
  else if 0xF1 ≤ byte ∧ byte ≤ 0xF3 then some ⟨0x80, 0xBF, 3⟩
  else if byte = 0xF4 then some ⟨0x80, 0x8F, 3⟩
  else none

/-- How many bytes behind `byte` still belong to the start of a character. -/
def continuation (byte : UInt8) (rest : Bytes) : Nat :=
  match lead? byte, rest with
  | some lead, second :: later =>
      if lead.low ≤ second ∧ second ≤ lead.high then
        1 + ((later.take (lead.following - 1)).takeWhile fun b => 0x80 ≤ b ∧ b ≤ 0xBF).length
      else 0
  | _, _ => 0

def characters : Bytes → List Char
  | [] => []
  | byte :: rest =>
      match first? (byte :: rest) with
      | some character => character :: characters (rest.drop (character.utf8Size - 1))
      | none => replacement :: characters (rest.drop (continuation byte rest))
termination_by bytes => bytes.length
decreasing_by
  all_goals
    simp only [List.length_drop, List.length_cons]
    omega

def decode (bytes : Bytes) : String :=
  String.ofList (characters bytes)

private theorem take_four_append (character : Char) (rest : Bytes) :
    (String.utf8EncodeChar character ++ rest).take 4 =
      String.utf8EncodeChar character ++ rest.take (4 - character.utf8Size) := by
  have hSize : character.utf8Size ≤ 4 := Char.utf8Size_le_four character
  rw [List.take_append, String.length_utf8EncodeChar,
    List.take_of_length_le (by rw [String.length_utf8EncodeChar]; exact hSize)]

private theorem first?_encodeChar_append (character : Char) (rest : Bytes) :
    first? (String.utf8EncodeChar character ++ rest) = some character := by
  rw [first?, take_four_append, List.toByteArray_append,
    ByteArray.utf8DecodeChar?_utf8EncodeChar_append]

private theorem encodeChar_ne_nil (character : Char) :
    String.utf8EncodeChar character ≠ [] := by
  intro hNil
  have hLength := congrArg List.length hNil
  rw [String.length_utf8EncodeChar] at hLength
  have hPos := Char.utf8Size_pos character
  simp only [List.length_nil] at hLength
  omega

private theorem characters_encodeChar_append (character : Char) (rest : Bytes) :
    characters (String.utf8EncodeChar character ++ rest) = character :: characters rest := by
  cases hEncoded : String.utf8EncodeChar character with
  | nil => exact absurd hEncoded (encodeChar_ne_nil character)
  | cons byte tail =>
      have hFirst : first? (byte :: (tail ++ rest)) = some character := by
        have h := first?_encodeChar_append character rest
        rwa [hEncoded] at h
      have hTail : tail.length = character.utf8Size - 1 := by
        have h := String.length_utf8EncodeChar character
        rw [hEncoded, List.length_cons] at h
        omega
      rw [List.cons_append, characters, hFirst]
      simp only
      rw [← hTail, List.drop_left]

@[simp]
theorem characters_flatMap (text : List Char) :
    characters (text.flatMap String.utf8EncodeChar) = text := by
  induction text with
  | nil => rw [List.flatMap_nil, characters]
  | cons character rest ih =>
      rw [List.flatMap_cons, characters_encodeChar_append, ih]

/-- A text survives the wire. -/
@[simp]
theorem decode_encode (text : String) : decode (encode text) = text := by
  rw [decode, encode, characters_flatMap, String.ofList_toList]

end Telemetry.Utf8
