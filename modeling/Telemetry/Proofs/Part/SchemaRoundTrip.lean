/-
The schema of a tree comes back from the wire as its blank tree, as long as no
node lies deeper than the levels allowed; a node that does is refused when the
reader gets to it, whatever stands in front of it and behind it.

The reader counts levels down while the height of a tree counts them up, so both
laws are stated for any count of levels and meet at the height of the tree.
-/

import Telemetry.Proofs.Part.Shape
import Telemetry.Proofs.Wire

namespace Telemetry.Part

/-- The schema of a tree on the wire. -/
def schemaBytes (part : Part) : Bytes := WireItem.toWire part.schemaItems

def schemasBytes (parts : List Part) : Bytes := WireItem.toWire (schemasItems parts)

@[simp]
theorem schemaBytes_record (name : String) (fields : List Part) :
    schemaBytes (.record name fields) =
      [WireType.record.tag] ++ ((WireItem.text name).toBytes ++
        (littleEndian Decoder.countSize fields.length ++ schemasBytes fields)) := by
  simp [schemaBytes, schemasBytes]

@[simp]
theorem schemaBytes_text (name value : String) (source : Option SourceId) :
    schemaBytes (.text name value source) =
      [WireType.text.tag] ++ (WireItem.text name).toBytes := by
  simp [schemaBytes]

@[simp]
theorem schemaBytes_number (name : String) (value : Number) (source : Option SourceId) :
    schemaBytes (.number name value source) =
      [(WireType.number value.kind).tag] ++ (WireItem.text name).toBytes := by
  simp [schemaBytes]

@[simp]
theorem schemasBytes_cons (part : Part) (rest : List Part) :
    schemasBytes (part :: rest) = part.schemaBytes ++ schemasBytes rest := by
  simp [schemasBytes, schemaBytes]

mutual

theorem blank_schemaItems : (part : Part) → part.blank.schemaItems = part.schemaItems
  | .record name fields => by
      simp [blanks_schemasItems fields]
  | .text name value source => rfl
  | .number name value source => rfl

private theorem blanks_schemasItems : (parts : List Part) →
    schemasItems (blanks parts) = schemasItems parts
  | [] => rfl
  | part :: rest => by
      simp [blank_schemaItems part, blanks_schemasItems rest]

end

theorem schemaBytes_of_blank_eq {left right : Part} (same : left.blank = right.blank) :
    left.schemaBytes = right.schemaBytes := by
  unfold schemaBytes
  rw [← blank_schemaItems left, same, blank_schemaItems right]

mutual

theorem texts_schemaItems : (part : Part) → WireItem.texts part.schemaItems = part.names
  | .record name fields => congrArg (name :: ·) (texts_schemasItems fields)
  | .text _ _ _ => rfl
  | .number _ _ _ => rfl

private theorem texts_schemasItems : (parts : List Part) →
    WireItem.texts (schemasItems parts) = namesWithin parts
  | [] => rfl
  | part :: rest => by
      have first := texts_schemaItems part
      have later := texts_schemasItems rest
      rw [WireItem.texts] at first later ⊢
      rw [schemasItems, List.filterMap_append, first, later, namesWithin]

end

/-- A schema can be sent exactly if its names are plain. -/
theorem encode_schemaItems_eq_ok_iff {part : Part} {bytes : Bytes} :
    WireItem.encode part.schemaItems = .ok bytes ↔
      (∀ name ∈ part.names, WireItem.isPlain name = true) ∧ bytes = part.schemaBytes := by
  rw [WireItem.encode_eq_ok_iff, WireItem.writable_iff_texts, texts_schemaItems]
  rfl

theorem encode_schemaItems {part : Part}
    (plain : ∀ name ∈ part.names, WireItem.isPlain name = true) :
    WireItem.encode part.schemaItems = .ok part.schemaBytes :=
  encode_schemaItems_eq_ok_iff.mpr ⟨plain, rfl⟩

mutual

theorem reads_schema : (part : Part) → (levels : Nat) →
    (∀ name ∈ part.names, WireItem.isPlain name = true) →
    (∀ count ∈ part.fieldCounts, count < 256 ^ Decoder.countSize) →
    part.height < levels →
    (readSchemaWithin levels).Reads part.schemaBytes part.blank
  | .record name fields, levels + 1, plain, countable, within => by
      rw [names, List.forall_mem_cons] at plain
      rw [fieldCounts, List.forall_mem_cons] at countable
      rw [height] at within
      have below := reads_schemas fields levels plain.2 countable.2 (Nat.le_of_lt_succ within)
      rw [schemaBytes_record, blank]
      exact (Decoder.reads_wireType .record).bind
        ((Decoder.reads_text plain.1).bind
          ((Decoder.reads_fieldCount countable.1).bind (below.map (Part.record name))))
  | .text name value source, levels + 1, plain, countable, within => by
      rw [names, List.forall_mem_cons] at plain
      rw [schemaBytes_text, blank]
      exact (Decoder.reads_wireType .text).bind
        ((Decoder.reads_text plain.1).map fun name => Part.text name "" none)
  | .number name value source, levels + 1, plain, countable, within => by
      rw [names, List.forall_mem_cons] at plain
      rw [schemaBytes_number, blank]
      exact (Decoder.reads_wireType (.number value.kind)).bind
        ((Decoder.reads_text plain.1).map fun name => Part.number name (.zero value.kind) none)

private theorem reads_schemas : (parts : List Part) → (levels : Nat) →
    (∀ name ∈ namesWithin parts, WireItem.isPlain name = true) →
    (∀ count ∈ fieldCountsWithin parts, count < 256 ^ Decoder.countSize) →
    heightWithin parts ≤ levels →
    ((readSchemaWithin levels).times parts.length).Reads (schemasBytes parts) (blanks parts)
  | [], levels, plain, countable, within => Decoder.reads_times_zero (readSchemaWithin levels)
  | part :: rest, levels, plain, countable, within => by
      rw [namesWithin, List.forall_mem_append] at plain
      rw [fieldCountsWithin, List.forall_mem_append] at countable
      rw [heightWithin, Nat.max_le] at within
      have first := reads_schema part levels plain.1 countable.1 within.1
      have later := reads_schemas rest levels plain.2 countable.2 within.2
      rw [schemasBytes_cons, blanks, List.length_cons]
      exact Decoder.reads_times_succ first later

end

mutual

theorem rejects_schema : (part : Part) → (levels : Nat) →
    (∀ name ∈ part.names, WireItem.isPlain name = true) →
    (∀ count ∈ part.fieldCounts, count < 256 ^ Decoder.countSize) →
    levels ≤ part.height →
    (readSchemaWithin levels).Rejects part.schemaBytes (.tooDeep maxDepth)
  | part, 0, plain, countable, beyond => Decoder.rejects_fail part.schemaBytes (.tooDeep maxDepth)
  | .record name fields, levels + 1, plain, countable, beyond => by
      rw [names, List.forall_mem_cons] at plain
      rw [fieldCounts, List.forall_mem_cons] at countable
      rw [height] at beyond
      have below := rejects_schemas fields levels plain.2 countable.2 beyond
      have fieldsRejected := below.bind (fun fields => pure (Part.record name fields)) []
      rw [List.append_nil] at fieldsRejected
      rw [schemaBytes_record]
      exact (Decoder.reads_wireType .record).rejects_bind
        ((Decoder.reads_text plain.1).rejects_bind
          ((Decoder.reads_fieldCount countable.1).rejects_bind fieldsRejected))
  | .text name value source, levels + 1, plain, countable, beyond => by
      rw [height] at beyond
      omega
  | .number name value source, levels + 1, plain, countable, beyond => by
      rw [height] at beyond
      omega

private theorem rejects_schemas : (parts : List Part) → (levels : Nat) →
    (∀ name ∈ namesWithin parts, WireItem.isPlain name = true) →
    (∀ count ∈ fieldCountsWithin parts, count < 256 ^ Decoder.countSize) →
    levels < heightWithin parts →
    ((readSchemaWithin levels).times parts.length).Rejects (schemasBytes parts)
      (.tooDeep maxDepth)
  | [], levels, plain, countable, beyond => by
      rw [heightWithin] at beyond
      omega
  | part :: rest, levels, plain, countable, beyond => by
      rw [namesWithin, List.forall_mem_append] at plain
      rw [fieldCountsWithin, List.forall_mem_append] at countable
      rw [schemasBytes_cons, List.length_cons]
      by_cases fits : part.height < levels
      · have first := reads_schema part levels plain.1 countable.1 fits
        have deeper : levels < heightWithin rest := by
          rw [heightWithin] at beyond
          omega
        have later := rejects_schemas rest levels plain.2 countable.2 deeper
        have laterBound := later.bind (fun later => pure (part.blank :: later)) []
        rw [List.append_nil] at laterBound
        exact first.rejects_bind laterBound
      · have first := rejects_schema part levels plain.1 countable.1 (Nat.le_of_not_lt fits)
        exact first.bind _ (schemasBytes rest)

end

end Telemetry.Part
