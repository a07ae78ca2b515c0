/-
Packets can be read back from logs. Between the line ends and spaces of a dump stands one group
of two lower case digits for each byte, sixteen of them on every line but the last, which holds
the rest. No other space or line end stands there, since a group would be empty next to it.
-/

import Telemetry.Packet.Dump

namespace Telemetry.Packet

/-- The digits that bytes are written with, each in the place of its value. -/
def hexAlphabet : List Char := "0123456789abcdef".toList

/-- The lines of a text. A text of no characters has none. -/
def textLines (text : List Char) : List (List Char) :=
  if text = [] then [] else text.splitOn '\n'

/-- What stands between the spaces of each line. -/
def groups (text : String) : List (List (List Char)) :=
  (textLines text.toList).map fun line => line.splitOn ' '

/-- A group that a byte may be read from. -/
structure IsGroup (group : List Char) : Prop where
  size : group.length = 2
  digits : ∀ digit ∈ group, digit ∈ hexAlphabet

def readGroup? : List Char → Option UInt8
  | [high, low] => do
      let highValue ← hexAlphabet.idxOf? high
      let lowValue ← hexAlphabet.idxOf? low
      some (UInt8.ofNat (16 * highValue + lowValue))
  | _ => none

/-- The bytes that the groups of a text are read as, if every group is read as one. -/
def readDump? (text : String) : Option Bytes := (groups text).flatten.mapM readGroup?

private theorem digitChar_of_lt {value : Nat} (small : value < 16) :
    Nat.digitChar value ∈ hexAlphabet ∧
      hexAlphabet.idxOf? (Nat.digitChar value) = some value := by
  have all : ∀ digit : Fin 16, Nat.digitChar digit.val ∈ hexAlphabet ∧
      hexAlphabet.idxOf? (Nat.digitChar digit.val) = some digit.val := by decide
  exact all ⟨value, small⟩

private theorem isGroup_hexDigits (byte : UInt8) : IsGroup (hexDigits byte) := by
  have bound := byte.toNat_lt
  refine ⟨rfl, ?_⟩
  rw [hexDigits, List.forall_mem_cons, List.forall_mem_singleton]
  exact ⟨(digitChar_of_lt (by omega)).1, (digitChar_of_lt (by omega)).1⟩

@[simp]
theorem readGroup?_hexDigits (byte : UInt8) : readGroup? (hexDigits byte) = some byte := by
  have bound := byte.toNat_lt
  have high : byte.toNat / 16 < 16 := by omega
  have low : byte.toNat % 16 < 16 := by omega
  have whole : 16 * (byte.toNat / 16) + byte.toNat % 16 = byte.toNat := by omega
  rw [hexDigits, readGroup?, (digitChar_of_lt high).2, (digitChar_of_lt low).2]
  simp only [Option.bind_eq_bind, Option.bind_some, whole, UInt8.ofNat_toNat]

@[simp]
theorem mapM_readGroup? (bytes : Bytes) : (bytes.map hexDigits).mapM readGroup? = some bytes := by
  induction bytes with
  | nil => rfl
  | cons byte rest ih =>
      rw [List.map_cons, List.mapM_cons, readGroup?_hexDigits, ih]
      rfl

private theorem space_notMem_hexDigits (byte : UInt8) : ' ' ∉ hexDigits byte := by
  intro member
  exact absurd ((isGroup_hexDigits byte).digits ' ' member) (by decide)

private theorem rowText_eq_intercalate (row : Bytes) :
    rowText row = [' '].intercalate (row.map hexDigits) := by
  induction row with
  | nil => rfl
  | cons byte rest ih =>
      cases rest with
      | nil => rw [rowText, List.map_singleton, List.intercalate_singleton]
      | cons next later =>
          rw [rowText, ih]
          simp

private theorem dumpRows_eq_intercalate (bytes : List Bytes) :
    dumpRows bytes = ['\n'].intercalate (bytes.map rowText) := by
  induction bytes with
  | nil => rfl
  | cons row rest ih =>
      cases rest with
      | nil => rw [dumpRows, List.map_singleton, List.intercalate_singleton]
      | cons next later =>
          rw [dumpRows, ih]
          simp

private theorem newline_notMem_rowText (row : Bytes) : '\n' ∉ rowText row := by
  induction row with
  | nil => exact List.not_mem_nil
  | cons byte rest ih =>
      have clean : '\n' ∉ hexDigits byte := by
        intro member
        exact absurd ((isGroup_hexDigits byte).digits '\n' member) (by decide)
      cases rest with
      | nil => exact clean
      | cons next later =>
          rw [rowText, List.mem_append, List.mem_cons, not_or, not_or]
          exact ⟨clean, by decide, ih⟩

private theorem splitOn_rowText {row : Bytes} (filled : row ≠ []) :
    (rowText row).splitOn ' ' = row.map hexDigits := by
  rw [rowText_eq_intercalate]
  apply List.splitOn_intercalate
  · rw [List.forall_mem_map]
    exact fun byte _ => space_notMem_hexDigits byte
  · rwa [ne_eq, List.map_eq_nil_iff]

section Rows

variable (packet : Bytes)

@[simp]
theorem rows_flatten : (rows packet).flatten = packet := by
  induction packet using rows.induct with
  | case1 => rw [rows, List.flatten_nil]
  | case2 byte rest ih =>
      rw [rows, List.flatten_cons, ih, List.cons_append, List.take_append_drop]

theorem rows_length : (rows packet).length = (packet.length + (rowSize - 1)) / rowSize := by
  induction packet using rows.induct with
  | case1 => rw [rows]; rfl
  | case2 byte rest ih =>
      rw [rows, List.length_cons, ih, List.length_drop, List.length_cons]
      simp only [rowSize]
      omega

/-- A row is never empty and never longer than a row may be. -/
private theorem length_of_mem_rows : ∀ row ∈ rows packet, row ≠ [] ∧ row.length ≤ rowSize := by
  induction packet using rows.induct with
  | case1 =>
      intro row member
      rw [rows] at member
      cases member
  | case2 byte rest ih =>
      rw [rows, List.forall_mem_cons]
      refine ⟨⟨List.cons_ne_nil _ _, ?_⟩, ih⟩
      rw [List.length_cons, List.length_take]
      simp only [rowSize]
      omega

/-- A row that another one follows is full. -/
private theorem length_of_mem_dropLast_rows :
    ∀ row ∈ (rows packet).dropLast, row.length = rowSize := by
  induction packet using rows.induct with
  | case1 =>
      intro row member
      rw [rows] at member
      cases member
  | case2 byte rest ih =>
      rw [rows]
      by_cases last : rows (rest.drop (rowSize - 1)) = []
      · rw [last, List.dropLast_singleton]
        intro row member
        cases member
      · rw [List.dropLast_cons_of_ne_nil last, List.forall_mem_cons]
        refine ⟨?_, ih⟩
        have more : rest.drop (rowSize - 1) ≠ [] := by
          intro nothing
          rw [nothing, rows] at last
          exact last rfl
        have longer := List.length_pos_iff.mpr more
        rw [List.length_drop] at longer
        rw [List.length_cons, List.length_take]
        simp only [rowSize] at longer ⊢
        omega

end Rows

private theorem rowText_ne_nil {row : Bytes} (filled : row ≠ []) : rowText row ≠ [] := by
  cases row with
  | nil => exact absurd rfl filled
  | cons byte rest => cases rest <;> exact List.cons_ne_nil _ _

/-- The lines of a dump are its rows. An empty row would be no line of its own. -/
private theorem textLines_dumpRows {bytes : List Bytes} (filled : ∀ row ∈ bytes, row ≠ []) :
    textLines (dumpRows bytes) = bytes.map rowText := by
  cases bytes with
  | nil => rfl
  | cons row rest =>
      have written : dumpRows (row :: rest) ≠ [] := by
        have first := rowText_ne_nil (filled row List.mem_cons_self)
        cases rest with
        | nil => exact first
        | cons next later => exact List.append_ne_nil_of_left_ne_nil first _
      rw [textLines, if_neg written, dumpRows_eq_intercalate]
      apply List.splitOn_intercalate
      · rw [List.forall_mem_map]
        exact fun each _ => newline_notMem_rowText each
      · exact List.cons_ne_nil _ _

theorem groups_dump (packet : Bytes) :
    groups (dump packet) = (rows packet).map (List.map hexDigits) := by
  have filled := fun row member => (length_of_mem_rows packet row member).1
  rw [groups, dump, String.toList_ofList, textLines_dumpRows filled, List.map_map]
  apply List.map_congr_left
  intro row member
  exact splitOn_rowText (filled row member)

@[simp]
theorem readDump?_dump (packet : Bytes) : readDump? (dump packet) = some packet := by
  rw [readDump?, groups_dump, ← List.map_flatten, rows_flatten, mapM_readGroup?]

/-- A dump has a line for each sixteen bytes that are begun. Each line but the last has sixteen
groups of two digits, the last has one to sixteen, and nothing but single separators stands
between them. Read in order the groups are the packet, so no other packet has this dump. -/
theorem dump_lossless (packet : Bytes) :
    (groups (dump packet)).length = (packet.length + 15) / 16 ∧
    (∀ line ∈ (groups (dump packet)).dropLast, line.length = 16) ∧
    (∀ line ∈ groups (dump packet), 1 ≤ line.length ∧ line.length ≤ 16 ∧
      ∀ group ∈ line, IsGroup group) ∧
    readDump? (dump packet) = some packet ∧
    Function.Injective dump := by
  rw [groups_dump, List.length_map, ← List.map_dropLast, List.forall_mem_map, List.forall_mem_map]
  refine ⟨rows_length packet, ?_, ?_, readDump?_dump packet, ?_⟩
  · intro row member
    rw [List.length_map]
    exact length_of_mem_dropLast_rows packet row member
  · intro row member
    obtain ⟨filled, fits⟩ := length_of_mem_rows packet row member
    rw [List.length_map, List.forall_mem_map]
    exact ⟨List.length_pos_iff.mpr filled, fits, fun byte _ => isGroup_hexDigits byte⟩
  · intro left right same
    have both := readDump?_dump left
    rw [same, readDump?_dump right, Option.some.injEq] at both
    exact both.symm

example : dump ((List.range 18).map UInt8.ofNat) =
    "00 01 02 03 04 05 06 07 08 09 0a 0b 0c 0d 0e 0f\n10 11" := by cbv

end Telemetry.Packet
