/-
The values of a tree pass from one tree to another of the same schema. The
receiving tree takes exactly the bytes that were written, ends with the values
of the sending tree bit for bit, and keeps everything else it had.

Nothing separates values on the wire, so both trees are walked in lockstep and
the cursor that one field leaves behind is where the next one starts.
-/

import Telemetry.Part.Data
import Telemetry.Proofs.Part.Shape
import Telemetry.Proofs.Wire

namespace Telemetry.Part

/-- The values of a tree on the wire. -/
def dataBytes (part : Part) : Bytes := WireItem.toWire part.dataItems

def datasBytes (parts : List Part) : Bytes := WireItem.toWire (datasItems parts)

/-- Texts that can be told from what follows them. -/
def PlainTexts (values : List LeafValue) : Prop :=
  ∀ text, LeafValue.text text ∈ values → WireItem.isPlain text = true

@[simp] theorem datasBytes_cons (part : Part) (rest : List Part) :
    datasBytes (part :: rest) = part.dataBytes ++ datasBytes rest := by
  simp [dataBytes, datasBytes]

@[simp] theorem dataBytes_text (name value : String) (source : Option SourceId) :
    dataBytes (.text name value source) = (WireItem.text value).toBytes := by
  simp [dataBytes]

@[simp] theorem dataBytes_number (name : String) (value : Number) (source : Option SourceId) :
    dataBytes (.number name value source) = value.toBytes := by
  simp [dataBytes]

private theorem PlainTexts.append {front back : List LeafValue}
    (plain : PlainTexts (front ++ back)) : PlainTexts front ∧ PlainTexts back := by
  constructor
  · intro text member
    exact plain text (List.mem_append_left back member)
  · intro text member
    exact plain text (List.mem_append_right front member)

/-- What a leaf looks like on the wire. -/
def LeafValue.item : LeafValue → WireItem
  | .text value => .text value
  | .number value => .fixed value.toBytes

mutual

theorem dataItems_eq_map : (part : Part) → part.dataItems = part.values.map LeafValue.item
  | .record _ fields => datasItems_eq_map fields
  | .text _ _ _ => rfl
  | .number _ _ _ => rfl

private theorem datasItems_eq_map : (parts : List Part) →
    datasItems parts = (valuesWithin parts).map LeafValue.item
  | [] => rfl
  | part :: rest => by simp [dataItems_eq_map part, datasItems_eq_map rest]

end

/-- What is on the wire can be written exactly if the texts are plain. -/
theorem dataItems_writable_iff (part : Part) :
    (∀ item ∈ part.dataItems, item.isWritable = true) ↔ PlainTexts part.values := by
  rw [dataItems_eq_map, List.forall_mem_map]
  constructor
  · intro writable text member
    exact writable (.text text) member
  · intro plain value member
    cases value with
    | text text => exact plain text member
    | number number => rfl

theorem encode_dataItems {part : Part} (plain : PlainTexts part.values) :
    WireItem.encode part.dataItems = .ok part.dataBytes :=
  WireItem.encode_eq_ok_iff.mpr ⟨(dataItems_writable_iff part).mpr plain, rfl⟩

/-- Values can be sent exactly if their texts are plain. -/
theorem encode_dataItems_eq_ok_iff {part : Part} {bytes : Bytes} :
    WireItem.encode part.dataItems = .ok bytes ↔
      PlainTexts part.values ∧ bytes = part.dataBytes := by
  rw [WireItem.encode_eq_ok_iff, dataItems_writable_iff]
  rfl

/-- Reading went well up to `after`: the values are now those that were written, and
nothing else of what was there `before` has changed. -/
structure Fills {α : Type} (valuesOf : α → List LeafValue) (clearOf : α → α) (filled : Filled α)
    (before : α) (written : List LeafValue) (after : Cursor) : Prop where
  outcome : filled.outcome = .ok ()
  cursor : filled.cursor = after
  values : valuesOf filled.tree = written
  kept : clearOf filled.tree = clearOf before

mutual

theorem readData_dataBytes : (written held : Part) → written.blank = held.blank →
    PlainTexts written.values → (cursor : Cursor) → (rest : Bytes) →
    cursor.rest = written.dataBytes ++ rest →
    Fills values clear (held.readData cursor) held written.values
      (cursor.advance written.dataBytes.length)
  | .record writtenName writtenFields, .record heldName heldFields, same, plain, cursor, rest,
      here => by
      rw [blank, blank, Part.record.injEq] at same
      have below := readDatas_datasBytes writtenFields heldFields same.2 plain cursor rest here
      refine ⟨below.outcome, below.cursor, below.values, ?_⟩
      rw [readData, clear, clear, below.kept]
  | .text writtenName writtenValue writtenSource, .text heldName heldValue heldSource, same, plain,
      cursor, rest, here => by
      rw [dataBytes_text] at here ⊢
      have read := Decoder.reads_text (plain writtenValue List.mem_cons_self) cursor rest here
      rw [readData, read]
      exact ⟨rfl, rfl, rfl, rfl⟩
  | .number writtenName writtenValue writtenSource, .number heldName heldValue heldSource, same,
      plain, cursor, rest, here => by
      rw [blank, blank, Part.number.injEq] at same
      have kinds : writtenValue.kind = heldValue.kind := Number.zero_inj.mp same.2.1
      rw [dataBytes_number] at here ⊢
      have read := Decoder.reads_number writtenValue cursor rest here
      rw [readData, ← kinds, read]
      refine ⟨rfl, rfl, rfl, ?_⟩
      rw [Filled.leaf, clear, clear, kinds]
  | .record _ _, .text _ _ _, same, _, _, _, _ | .record _ _, .number _ _ _, same, _, _, _, _
  | .text _ _ _, .record _ _, same, _, _, _, _ | .text _ _ _, .number _ _ _, same, _, _, _, _
  | .number _ _ _, .record _ _, same, _, _, _, _ | .number _ _ _, .text _ _ _, same, _, _, _, _ => by
      simp at same

private theorem readDatas_datasBytes : (written held : List Part) → blanks written = blanks held →
    PlainTexts (valuesWithin written) → (cursor : Cursor) → (rest : Bytes) →
    cursor.rest = datasBytes written ++ rest →
    Fills valuesWithin clears (readDatas held cursor) held (valuesWithin written)
      (cursor.advance (datasBytes written).length)
  | [], [], same, plain, cursor, rest, here => ⟨rfl, rfl, rfl, rfl⟩
  | [], _ :: _, same, _, _, _, _ | _ :: _, [], same, _, _, _, _ => by
      simp at same
  | written :: writtenRest, held :: heldRest, same, plain, cursor, rest, here => by
      rw [blanks, blanks, List.cons.injEq] at same
      have both := plain.append
      rw [datasBytes_cons, List.append_assoc] at here
      have first := readData_dataBytes written held same.1 both.1 cursor
        (datasBytes writtenRest ++ rest) here
      have beyond := Cursor.rest_advance_append here
      have later := readDatas_datasBytes writtenRest heldRest same.2 both.2
        (cursor.advance written.dataBytes.length) rest beyond
      rw [readDatas, first.outcome, first.cursor]
      refine ⟨later.outcome, ?_, ?_, ?_⟩
      · rw [datasBytes_cons, List.length_append, ← Cursor.advance_advance]
        exact later.cursor
      · rw [valuesWithin, valuesWithin, first.values, later.values]
      · rw [clears, clears, first.kept, later.kept]

end

/-- Values written from one tree are read into any tree of its schema, in front of
anything, and nothing else of that tree changes. -/
theorem readData_of_sameSchema (written held : Part) (same : written.sameSchema held = true)
    (plain : PlainTexts written.values) :
    ∃ bytes, WireItem.encode written.dataItems = .ok bytes ∧
      ∀ (cursor : Cursor) (rest : Bytes), cursor.rest = bytes ++ rest →
        (held.readData cursor).outcome = .ok () ∧
        (held.readData cursor).cursor = cursor.advance bytes.length ∧
        (held.readData cursor).cursor.rest = rest ∧
        (held.readData cursor).tree.values = written.values ∧
        (held.readData cursor).tree.clear = held.clear := by
  refine ⟨written.dataBytes, encode_dataItems plain, ?_⟩
  intro cursor rest here
  have blankSame := (sameSchema_iff_blank written held).mp same
  have fills := readData_dataBytes written held blankSame plain cursor rest here
  refine ⟨fills.outcome, fills.cursor, ?_, fills.values, fills.kept⟩
  rw [fills.cursor]
  exact Cursor.rest_advance_append here

/-- A number that is not one, a negative zero and a text pass into a tree that has
sources and other values. -/
theorem readData_of_sameSchema_unusual :
    let written := Part.record "m" [.number "f" (.ofPattern .float 0x7fa00001) none,
      .record "n" [.number "d" (.ofPattern .double 0x8000000000000000) none],
      .text "s" "ok" none]
    let held := Part.record "m" [.number "f" (.ofPattern .float 5) (some 3),
      .record "n" [.number "d" (.zero .double) none], .text "s" "old" (some 4)]
    written.sameSchema held = true ∧ PlainTexts written.values ∧
      ∃ bytes, WireItem.encode written.dataItems = .ok bytes ∧
        (held.readData (.start (bytes ++ [7]))).tree.values = written.values := by
  intro written held
  have same : written.sameSchema held = true := by decide
  have plain : PlainTexts written.values := by
    intro text member
    have same : text = "ok" := by simpa [written] using member
    rw [same]
    decide
  obtain ⟨bytes, encoded, reads⟩ := readData_of_sameSchema written held same plain
  have fills := reads (.start (bytes ++ [7])) [7] (Cursor.rest_start (bytes ++ [7]))
  exact ⟨same, plain, bytes, encoded, fills.2.2.2.1⟩

end Telemetry.Part
