/-
A schema and its bytes. Two trees have one schema exactly if they are written alike, and
what is written of one never begins what is written of another. Trees that are too deep to
be read are no exception: with as many levels as it takes, a reader finds in the bytes the
schema they were written from.
-/

import Telemetry.Proofs.Part.SchemaRoundTrip

namespace Telemetry.Part

/-- A schema that can be told from its bytes, however deep it goes. -/
structure Legible (part : Part) : Prop where
  plainNames : ∀ name ∈ part.names, WireItem.isPlain name = true
  countable : ∀ count ∈ part.fieldCounts, count < 256 ^ Decoder.countSize

private theorem Legible.reads {part : Part} (legible : part.Legible) {levels : Nat}
    (enough : part.height < levels) :
    (readSchemaWithin levels).Reads part.schemaBytes part.blank :=
  reads_schema part levels legible.plainNames legible.countable enough

/-- A reader that has levels enough for both reads one schema from one beginning. -/
theorem Legible.unique {left right : Part} (legible : left.Legible) (other : right.Legible)
    {rest later : Bytes} (same : left.schemaBytes ++ rest = right.schemaBytes ++ later) :
    left.blank = right.blank ∧ rest = later := by
  have deepLeft : left.height < max left.height right.height + 1 := by omega
  have deepRight : right.height < max left.height right.height + 1 := by omega
  have readLeft := legible.reads deepLeft (.start (left.schemaBytes ++ rest)) rest
    (Cursor.rest_start _)
  have readRight := other.reads deepRight (.start (left.schemaBytes ++ rest)) later
    ((Cursor.rest_start _).trans same)
  rw [readLeft, Prod.mk.injEq, Except.ok.injEq] at readRight
  obtain ⟨sameSchema, samePlace⟩ := readRight
  have lengths := congrArg Cursor.position samePlace
  simp only [Cursor.advance, Nat.add_left_cancel_iff] at lengths
  exact ⟨sameSchema, (List.append_inj same lengths).2⟩

theorem sameSchema_equivalence :
    Equivalence fun left right : Part => left.sameSchema right = true where
  refl part := (sameSchema_iff_blank part part).mpr rfl
  symm same := (sameSchema_iff_blank _ _).mpr ((sameSchema_iff_blank _ _).mp same).symm
  trans first later := (sameSchema_iff_blank _ _).mpr
    (((sameSchema_iff_blank _ _).mp first).trans ((sameSchema_iff_blank _ _).mp later))

/-- Only what is schema is compared. -/
@[simp]
theorem sameSchema_blank (left right : Part) :
    left.blank.sameSchema right.blank = left.sameSchema right := by
  rw [Bool.eq_iff_iff, sameSchema_iff_blank, sameSchema_iff_blank, blank_blank, blank_blank]

/-- One schema is one sequence of bytes, and none begins another. Having one schema is an
equivalence for which values and sources do not count. -/
theorem schema_identity :
    (∀ left right : Part, left.Legible → right.Legible →
      ∃ leftBytes rightBytes,
        WireItem.encode left.schemaItems = .ok leftBytes ∧
        WireItem.encode right.schemaItems = .ok rightBytes ∧
        (left.sameSchema right = true ↔ leftBytes = rightBytes) ∧
        (leftBytes <+: rightBytes → leftBytes = rightBytes)) ∧
    (Equivalence fun left right : Part => left.sameSchema right = true) ∧
    ∀ left right : Part, left.blank.sameSchema right.blank = left.sameSchema right := by
  refine ⟨?_, sameSchema_equivalence, sameSchema_blank⟩
  intro left right legible other
  have begins : ∀ rest, left.schemaBytes ++ rest = right.schemaBytes →
      left.blank = right.blank := by
    intro rest same
    rw [← List.append_nil right.schemaBytes] at same
    exact (legible.unique other same).1
  refine ⟨left.schemaBytes, right.schemaBytes, encode_schemaItems legible.plainNames,
    encode_schemaItems other.plainNames, ?_, ?_⟩
  · rw [sameSchema_iff_blank]
    constructor
    · exact schemaBytes_of_blank_eq
    · intro same
      exact begins [] (by rw [List.append_nil, same])
  · rintro ⟨rest, same⟩
    exact schemaBytes_of_blank_eq (begins rest same)

/-- Forty records in each other around a number, which is more than can be read: with another
value and a source the bytes are the same, with another kind they differ. -/
theorem schema_identity_beyond_depth :
    let around (leaf : Part) := Nat.repeat (fun part => Part.record "r" [part]) 40 leaf
    let sourced := around (.number "n" (.ofPattern .int16 7) (some 3))
    let plain := around (.number "n" (.zero .int16) none)
    let other := around (.number "n" (.zero .uint16) none)
    maxDepth < sourced.height ∧ sourced.Legible ∧ plain.Legible ∧ other.Legible ∧
      (∃ bytes, WireItem.encode sourced.schemaItems = .ok bytes ∧
        WireItem.encode plain.schemaItems = .ok bytes) ∧
      ∃ bytes different, WireItem.encode plain.schemaItems = .ok bytes ∧
        WireItem.encode other.schemaItems = .ok different ∧ ¬ bytes <+: different := by
  intro around sourced plain other
  have sourcedLegible : sourced.Legible := ⟨by decide +kernel, by decide +kernel⟩
  have plainLegible : plain.Legible := ⟨by decide +kernel, by decide +kernel⟩
  have otherLegible : other.Legible := ⟨by decide +kernel, by decide +kernel⟩
  obtain ⟨identify, _, _⟩ := schema_identity
  obtain ⟨bytes, same, written, writtenSame, alike, _⟩ :=
    identify sourced plain sourcedLegible plainLegible
  obtain ⟨front, different, writtenFront, writtenOther, apart, begins⟩ :=
    identify plain other plainLegible otherLegible
  have equal : bytes = same := alike.mp (by decide +kernel)
  refine ⟨by decide +kernel, sourcedLegible, plainLegible, otherLegible,
    ⟨bytes, written, equal ▸ writtenSame⟩, front, different, writtenFront, writtenOther, ?_⟩
  intro begun
  exact absurd (apart.mpr (begins begun)) (by decide +kernel)

end Telemetry.Part
