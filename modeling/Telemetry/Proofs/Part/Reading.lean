/-
What reading makes of a tree, whatever the bytes are. A schema that is read is blank.
Values that are read into a tree change nothing of it but values, and once all of them
are read none of the old ones is left: what the tree is then depends on the bytes and on
what it was apart from its values.
-/

import Telemetry.Proofs.Packet.Contents
import Telemetry.Registry.Receive

namespace Telemetry

namespace Decoder

variable {α β : Type}

/-- A sequence succeeds only if its parts do, one behind the other. -/
theorem bind_eq_ok {first : Decoder α} {next : α → Decoder β} {cursor after : Cursor} {value : β}
    (read : (first >>= next) cursor = (.ok value, after)) :
    ∃ found middle, first cursor = (.ok found, middle) ∧
      next found middle = (.ok value, after) := by
  rw [bind_apply] at read
  split at read
  · next found middle begun => exact ⟨found, middle, begun, read⟩
  · cases read

private theorem times_all {decoder : Decoder α} {holds : α → Prop}
    (each : ∀ cursor value after, decoder cursor = (.ok value, after) → holds value) (count : Nat) :
    ∀ cursor values after, decoder.times count cursor = (.ok values, after) →
      ∀ value ∈ values, holds value := by
  induction count with
  | zero =>
      intro cursor values after read value member
      cases read
      cases member
  | succ count ih =>
      intro cursor values after read value member
      obtain ⟨first, middle, begun, rest⟩ := bind_eq_ok read
      obtain ⟨later, last, continued, whole⟩ := bind_eq_ok rest
      cases whole
      rcases List.mem_cons.mp member with here | further
      · exact here ▸ each cursor first middle begun
      · exact ih middle later after continued value further

private theorem number_kind {kind : NumericKind} {cursor after : Cursor} {value : Number}
    (read : number kind cursor = (.ok value, after)) : value.kind = kind := by
  obtain ⟨bytes, middle, _, whole⟩ := bind_eq_ok read
  cases whole
  rfl

end Decoder

namespace Part

private theorem blanks_eq_self {parts : List Part} (each : ∀ part ∈ parts, part.blank = part) :
    blanks parts = parts := by
  induction parts with
  | nil => rfl
  | cons part rest ih =>
      obtain ⟨here, later⟩ := List.forall_mem_cons.mp each
      rw [blanks, here, ih later]

theorem readSchemaWithin_blank (levels : Nat) :
    ∀ cursor tree after, readSchemaWithin levels cursor = (.ok tree, after) →
      tree.blank = tree := by
  induction levels with
  | zero =>
      intro cursor tree after read
      cases read
  | succ levels ih =>
      intro cursor tree after read
      obtain ⟨wireType, afterTag, _, named⟩ := Decoder.bind_eq_ok read
      obtain ⟨name, afterName, _, rest⟩ := Decoder.bind_eq_ok named
      cases wireType with
      | record =>
          obtain ⟨count, afterCount, _, within⟩ := Decoder.bind_eq_ok rest
          obtain ⟨fields, last, readFields, whole⟩ := Decoder.bind_eq_ok within
          cases whole
          have each := Decoder.times_all ih count afterCount fields after readFields
          rw [blank, blanks_eq_self each]
      | text =>
          cases rest
          rfl
      | number kind =>
          cases rest
          rfl

mutual

/-- Reading, also if it fails half way, changes values only. -/
theorem readData_clear : (part : Part) → (cursor : Cursor) →
    (part.readData cursor).tree.clear = part.clear
  | .record name fields, cursor => by
      rw [readData, clear, clear, readDatas_clear fields cursor]
  | .text name value source, cursor => by
      rw [readData]
      cases Decoder.text cursor with
      | mk outcome after => cases outcome <;> rfl
  | .number name value source, cursor => by
      rw [readData]
      cases read : Decoder.number value.kind cursor with
      | mk outcome after =>
          cases outcome with
          | error error => rfl
          | ok found =>
              rw [Filled.leaf, clear, clear, Decoder.number_kind read]

private theorem readDatas_clear : (parts : List Part) → (cursor : Cursor) →
    clears (readDatas parts cursor).tree = clears parts
  | [], cursor => rfl
  | part :: rest, cursor => by
      have first := readData_clear part cursor
      rw [readDatas]
      split
      · rw [clears, clears, first]
      · rw [clears, clears, first, readDatas_clear rest]

end

/-- Two readings that go the same way and, unless they fail, end in the same. -/
structure SameReading {α : Type} (left right : Filled α) : Prop where
  outcome : left.outcome = right.outcome
  cursor : left.cursor = right.cursor
  tree : left.outcome = .ok () → left.tree = right.tree

private theorem sameReading_leaf {α : Type} (before other : Part) (after : α → Part)
    (read : Except DecodeError α × Cursor) :
    SameReading (Filled.leaf before after read) (Filled.leaf other after read) := by
  obtain ⟨outcome, cursor⟩ := read
  cases outcome with
  | error error =>
      refine ⟨rfl, rfl, ?_⟩
      intro impossible
      cases impossible
  | ok value => exact ⟨rfl, rfl, fun _ => rfl⟩

mutual

/-- The values a tree had before make no difference. -/
theorem readData_of_clear_eq : (left right : Part) → left.clear = right.clear →
    (cursor : Cursor) → SameReading (left.readData cursor) (right.readData cursor)
  | .record leftName leftFields, .record rightName rightFields, same, cursor => by
      rw [clear, clear, Part.record.injEq] at same
      have below := readDatas_of_clears_eq leftFields rightFields same.2 cursor
      rw [readData, readData, same.1]
      refine ⟨below.outcome, below.cursor, fun read => ?_⟩
      exact congrArg (Part.record rightName) (below.tree read)
  | .text leftName leftValue leftSource, .text rightName rightValue rightSource, same, cursor => by
      rw [clear, clear, Part.text.injEq] at same
      rw [readData, readData, same.1, same.2.2]
      exact sameReading_leaf _ _ _ _
  | .number leftName leftValue leftSource, .number rightName rightValue rightSource, same,
      cursor => by
      rw [clear, clear, Part.number.injEq] at same
      rw [readData, readData, same.1, same.2.2, Number.zero_inj.mp same.2.1]
      exact sameReading_leaf _ _ _ _
  | .record _ _, .text _ _ _, same, _ | .record _ _, .number _ _ _, same, _
  | .text _ _ _, .record _ _, same, _ | .text _ _ _, .number _ _ _, same, _
  | .number _ _ _, .record _ _, same, _ | .number _ _ _, .text _ _ _, same, _ => by
      simp at same

private theorem readDatas_of_clears_eq : (left right : List Part) → clears left = clears right →
    (cursor : Cursor) → SameReading (readDatas left cursor) (readDatas right cursor)
  | [], [], same, cursor => ⟨rfl, rfl, fun _ => rfl⟩
  | [], _ :: _, same, _ | _ :: _, [], same, _ => by
      simp at same
  | left :: leftRest, right :: rightRest, same, cursor => by
      rw [clears, clears, List.cons.injEq] at same
      have first := readData_of_clear_eq left right same.1 cursor
      rw [readDatas, readDatas, ← first.outcome, ← first.cursor]
      cases outcome : (left.readData cursor).outcome with
      | error error =>
          refine ⟨rfl, rfl, ?_⟩
          intro impossible
          cases impossible
      | ok done =>
          have later := readDatas_of_clears_eq leftRest rightRest same.2
            (left.readData cursor).cursor
          exact ⟨later.outcome, later.cursor, fun read =>
            List.cons_eq_cons.mpr ⟨first.tree outcome, later.tree read⟩⟩

end

end Part

namespace Packet

/-- What an advertisement holds was read as a schema. -/
theorem readSchema_of_readBroadcast {packet : Bytes} {id : ChannelId} {tree : Part}
    (read : readBroadcast packet = .ok (id, tree)) :
    ∃ cursor after, Part.readSchema cursor = (.ok tree, after) := by
  unfold readBroadcast at read
  split at read
  · cases read
  · next cursor _ =>
      have whole : advertised cursor = (.ok (id, tree), (advertised cursor).2) := Prod.ext read rfl
      obtain ⟨found, afterHeader, _, headed⟩ := Decoder.bind_eq_ok whole
      split at headed
      · cases headed
      · obtain ⟨number, afterId, _, numbered⟩ := Decoder.bind_eq_ok headed
        obtain ⟨schema, last, payload, given⟩ := Decoder.bind_eq_ok numbered
        cases given
        obtain ⟨found, middle, begun, rest⟩ := Decoder.bind_eq_ok payload
        obtain ⟨_, _, _, given⟩ := Decoder.bind_eq_ok rest
        cases given
        exact ⟨afterId, middle, begun⟩

theorem readBroadcast_blank {packet : Bytes} {id : ChannelId} {tree : Part}
    (read : readBroadcast packet = .ok (id, tree)) : tree.blank = tree := by
  obtain ⟨cursor, after, schema⟩ := readSchema_of_readBroadcast read
  exact Part.readSchemaWithin_blank _ cursor tree after schema

end Packet

namespace Station

theorem fill_eq_ok {tree filled : Part} {payload : Cursor}
    (fills : fill tree payload = .ok filled) :
    (tree.readData payload).outcome = .ok () ∧ (tree.readData payload).tree = filled := by
  unfold fill at fills
  simp only at fills
  split at fills
  · cases fills
  · next read =>
      split at fills
      · cases fills
      · cases fills
        exact ⟨read, rfl⟩

theorem fill_clear {tree filled : Part} {payload : Cursor}
    (fills : fill tree payload = .ok filled) : filled.clear = tree.clear := by
  rw [← (fill_eq_ok fills).2]
  exact Part.readData_clear tree payload

theorem fill_of_clear_eq {left right filled : Part} {payload : Cursor}
    (same : left.clear = right.clear) (fills : fill left payload = .ok filled) :
    fill right payload = .ok filled := by
  have reading := Part.readData_of_clear_eq left right same payload
  have read := fill_eq_ok fills
  unfold fill at fills ⊢
  simp only at fills ⊢
  rw [reading.outcome, reading.cursor, reading.tree read.1] at fills
  exact fills

end Station

end Telemetry
