/-
Schemas and values that are cut off. Whatever is read of a schema or filled into a tree,
nothing shorter is taken for it. A reader that gets only a beginning of the bytes stops
where they end, wherever in a tag, a name, a count or a number that is, and fails because
bytes are missing there.
-/

import Telemetry.Proofs.Part.Grammar
import Telemetry.Proofs.Part.Splitting
import Telemetry.Proofs.Wire.Shortage

namespace Telemetry.Part

open LeafValue (Fits taking)

private theorem LeafValue.consumes_reader {leaf : LeafValue} {item : Bytes}
    (fits : leaf.Fits item) : leaf.reader.Consumes item (leaf.taking item) := by
  cases leaf with
  | text held =>
      obtain ⟨raw, clean, rfl⟩ := fits
      rw [taking, List.dropLast_concat]
      exact (Decoder.consumes_rawText clean).map LeafValue.text
  | number held => exact (Decoder.consumes_number fits).map LeafValue.number

/-- How reading leaves ends, apart from the values read. -/
def leavesEnding (leaves : List LeafValue) : Decoder Unit := fun cursor =>
  ((readLeaves leaves cursor).outcome, (readLeaves leaves cursor).cursor)

@[simp]
theorem leavesEnding_cons (leaf : LeafValue) (rest : List LeafValue) :
    leavesEnding (leaf :: rest) = leaf.reader >>= fun _ => leavesEnding rest := by
  funext cursor
  rw [Decoder.bind_apply]
  unfold leavesEnding
  rw [readLeaves]
  cases leaf.reader cursor with
  | mk outcome after => cases outcome <;> rfl

private theorem needs_leavesEnding {leaves : List LeafValue} {items : List Bytes}
    (fits : List.Forall₂ Fits leaves items) : (leavesEnding leaves).Needs items.flatten := by
  induction fits with
  | nil => exact Decoder.needs_nil _
  | cons first _ ih =>
      rw [leavesEnding_cons, List.flatten_cons]
      exact .bind (LeafValue.consumes_reader first) ih

theorem leavesEnding_values (tree : Part) (cursor : Cursor) :
    leavesEnding tree.values cursor =
      ((tree.readData cursor).outcome, (tree.readData cursor).cursor) := by
  unfold leavesEnding
  rw [← readData_leaves]
  rfl

/-- Cut off anywhere between its first byte and the last that reading took, a packet is too
short for the same reading. The reader stops inside what is left and wants more than there is
behind the place where it stops. -/
theorem truncation_noticed (cursor : Cursor) (size : Nat) (reached : cursor.position ≤ size) :
    let left := cursor.packet.take size
    let again : Cursor := ⟨left, cursor.position⟩
    (∀ tree after, readSchema cursor = (.ok tree, after) → size < after.position →
      left.length = size ∧ Shortage left (readSchema again).1 (readSchema again).2) ∧
    ∀ tree : Part, (tree.readData cursor).outcome = .ok () →
      size < (tree.readData cursor).cursor.position →
      left.length = size ∧
        Shortage left (tree.readData again).outcome (tree.readData again).cursor := by
  intro left again
  constructor
  · intro tree after read short
    obtain ⟨bytes, took, entry, derives, _⟩ := (accepts_readSchema cursor tree after).mp read
    have consumes := consumes_readSchemaWithin (maxDepth + 1) 0 (Nat.zero_add _) bytes entry derives
    rw [took.place] at short
    exact consumes.needs.cut took.here reached short
  · intro tree read short
    have flat : readLeaves tree.values cursor =
        ⟨(tree.readData cursor).tree.values, .ok (), (tree.readData cursor).cursor⟩ := by
      rw [← readData_leaves, Filled.map, read]
    obtain ⟨items, fits, took, _⟩ := readLeaves_eq_ok_iff.mp flat
    rw [took.place] at short
    have missed := (needs_leavesEnding fits).cut took.here reached short
    rw [leavesEnding_values] at missed
    exact missed

/-- A record whose only field has a name that is no text: it ends in front of the count, or in
front of the last zero byte. Then values that end in front of a zero byte as well. -/
theorem truncation_noticed_inside_names :
    let schema : Bytes := [0, 0x72, 0, 1, 0, 0, 0, 1, 0xFF, 0, 9]
    let tree := Part.record "r" [.number "n" (.zero .int16) none, .text "t" "" none]
    let values : Bytes := [1, 2, 0x61, 0]
    (∃ read after, readSchema (.start schema) = (.ok read, after) ∧ after.position = 10) ∧
      Shortage (schema.take 3) (readSchema (.start (schema.take 3))).1
        (readSchema (.start (schema.take 3))).2 ∧
      Shortage (schema.take 9) (readSchema (.start (schema.take 9))).1
        (readSchema (.start (schema.take 9))).2 ∧
      (tree.readData (.start values)).outcome = .ok () ∧
      Shortage (values.take 3) (tree.readData (.start (values.take 3))).outcome
        (tree.readData (.start (values.take 3))).cursor := by
  intro schema tree values
  obtain ⟨read, after, whole, place⟩ :
      ∃ read after, readSchema (.start schema) = (.ok read, after) ∧ after.position = 10 :=
    ⟨_, _, rfl, rfl⟩
  have filled : (tree.readData (.start values)).outcome = .ok () := rfl
  have ended : (tree.readData (.start values)).cursor.position = 4 := rfl
  refine ⟨⟨read, after, whole, place⟩, ?_, ?_, filled, ?_⟩
  · exact ((truncation_noticed (.start schema) 3 (Nat.zero_le 3)).1 read after whole (by omega)).2
  · exact ((truncation_noticed (.start schema) 9 (Nat.zero_le 9)).1 read after whole (by omega)).2
  · exact ((truncation_noticed (.start values) 3 (Nat.zero_le 3)).2 tree filled (by omega)).2

end Telemetry.Part
