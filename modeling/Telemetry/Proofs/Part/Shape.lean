/-
What of a tree is schema and what is value. The blank tree of a schema holds
empty values and no sources; two trees have one schema exactly if they have one
blank tree, so what depends on the schema alone is a function of the blank tree.

A tree that is cleared keeps its sources. Together with the list of values in
wire order, which is what a data packet carries, it determines the tree.
-/

import Telemetry.Part.Schema
import Telemetry.Part.Source

namespace Telemetry

@[simp] theorem Number.zero_inj {left right : NumericKind} :
    Number.zero left = Number.zero right ↔ left = right :=
  ⟨congrArg Number.kind, congrArg Number.zero⟩

namespace Part

/-- What a leaf holds, bit for bit. -/
inductive LeafValue where
  | text (value : String)
  | number (value : Number)
  deriving DecidableEq, Repr

@[simp] def LeafValue.isUnset : LeafValue → Bool
  | .text value => value == ""
  | .number value => value == .zero value.kind

mutual

/-- The values of the leaves, in wire order. -/
@[simp] def values : Part → List LeafValue
  | .record _ fields => valuesWithin fields
  | .text _ value _ => [.text value]
  | .number _ value _ => [.number value]

@[simp] def valuesWithin : List Part → List LeafValue
  | [] => []
  | part :: rest => part.values ++ valuesWithin rest

end

mutual

/-- The same schema with empty values and without sources. -/
@[simp] def blank : Part → Part
  | .record name fields => .record name (blanks fields)
  | .text name _ _ => .text name "" none
  | .number name value _ => .number name (.zero value.kind) none

@[simp] def blanks : List Part → List Part
  | [] => []
  | part :: rest => part.blank :: blanks rest

end

mutual

/-- The same schema and sources with empty values. -/
@[simp] def clear : Part → Part
  | .record name fields => .record name (clears fields)
  | .text name _ source => .text name "" source
  | .number name value source => .number name (.zero value.kind) source

@[simp] def clears : List Part → List Part
  | [] => []
  | part :: rest => part.clear :: clears rest

end

mutual

/-- The names of all nodes, the root first. -/
@[simp] def names : Part → List String
  | .record name fields => name :: namesWithin fields
  | .text name _ _ => [name]
  | .number name _ _ => [name]

@[simp] def namesWithin : List Part → List String
  | [] => []
  | part :: rest => part.names ++ namesWithin rest

end

mutual

@[simp] def fieldCounts : Part → List Nat
  | .record _ fields => fields.length :: fieldCountsWithin fields
  | .text _ _ _ => []
  | .number _ _ _ => []

@[simp] def fieldCountsWithin : List Part → List Nat
  | [] => []
  | part :: rest => part.fieldCounts ++ fieldCountsWithin rest

end

mutual

/-- How many levels the deepest node lies below the root. -/
@[simp] def height : Part → Nat
  | .record _ fields => heightWithin fields
  | .text _ _ _ => 0
  | .number _ _ _ => 0

@[simp] def heightWithin : List Part → Nat
  | [] => 0
  | part :: rest => max (part.height + 1) (heightWithin rest)

end

/-- A schema that can be written and read back. -/
structure Advertisable (part : Part) : Prop where
  plainNames : ∀ name ∈ part.names, WireItem.isPlain name = true
  countable : ∀ count ∈ part.fieldCounts, count < 256 ^ Decoder.countSize
  shallow : part.height ≤ maxDepth

@[simp] theorem blanks_length (parts : List Part) : (blanks parts).length = parts.length := by
  induction parts with
  | nil => rfl
  | cons part rest ih => simp [ih]

mutual

theorem sameSchema_iff_blank : (left right : Part) →
    (left.sameSchema right = true ↔ left.blank = right.blank)
  | .record leftName leftFields, .record rightName rightFields => by
      simp [sameSchemas_iff_blanks leftFields rightFields]
  | .text leftName leftValue leftSource, .text rightName rightValue rightSource => by simp
  | .number leftName leftValue leftSource, .number rightName rightValue rightSource => by simp
  | .record _ _, .text _ _ _ | .record _ _, .number _ _ _ | .text _ _ _, .record _ _
  | .text _ _ _, .number _ _ _ | .number _ _ _, .record _ _ | .number _ _ _, .text _ _ _ => by simp

private theorem sameSchemas_iff_blanks : (left right : List Part) →
    (sameSchemas left right = true ↔ blanks left = blanks right)
  | [], [] => by simp
  | [], _ :: _ | _ :: _, [] => by simp
  | left :: leftRest, right :: rightRest => by
      simp [sameSchema_iff_blank left right, sameSchemas_iff_blanks leftRest rightRest]

end

mutual

@[simp] theorem blank_blank : (part : Part) → part.blank.blank = part.blank
  | .record _ fields => by simp [blanks_blanks fields]
  | .text _ _ _ => rfl
  | .number _ _ _ => rfl

@[simp] theorem blanks_blanks : (parts : List Part) → blanks (blanks parts) = blanks parts
  | [] => rfl
  | part :: rest => by simp [blank_blank part, blanks_blanks rest]

end

mutual

@[simp] theorem clear_blank : (part : Part) → part.clear.blank = part.blank
  | .record _ fields => by simp [clears_blanks fields]
  | .text _ _ _ => rfl
  | .number _ _ _ => rfl

@[simp] theorem clears_blanks : (parts : List Part) → blanks (clears parts) = blanks parts
  | [] => rfl
  | part :: rest => by simp [clear_blank part, clears_blanks rest]

end

theorem blank_eq_of_clear_eq {left right : Part} (same : left.clear = right.clear) :
    left.blank = right.blank := by
  rw [← clear_blank left, ← clear_blank right, same]

mutual

@[simp] theorem blank_names : (part : Part) → part.blank.names = part.names
  | .record _ fields => by simp [blanks_names fields]
  | .text _ _ _ => rfl
  | .number _ _ _ => rfl

@[simp] theorem blanks_names : (parts : List Part) →
    namesWithin (blanks parts) = namesWithin parts
  | [] => rfl
  | part :: rest => by simp [blank_names part, blanks_names rest]

end

mutual

@[simp] theorem blank_fieldCounts : (part : Part) → part.blank.fieldCounts = part.fieldCounts
  | .record _ fields => by simp [blanks_fieldCounts fields]
  | .text _ _ _ => rfl
  | .number _ _ _ => rfl

@[simp] theorem blanks_fieldCounts : (parts : List Part) →
    fieldCountsWithin (blanks parts) = fieldCountsWithin parts
  | [] => rfl
  | part :: rest => by simp [blank_fieldCounts part, blanks_fieldCounts rest]

end

mutual

@[simp] theorem blank_height : (part : Part) → part.blank.height = part.height
  | .record _ fields => by simp [blanks_height fields]
  | .text _ _ _ => rfl
  | .number _ _ _ => rfl

@[simp] theorem blanks_height : (parts : List Part) →
    heightWithin (blanks parts) = heightWithin parts
  | [] => rfl
  | part :: rest => by simp [blank_height part, blanks_height rest]

end

mutual

theorem blank_values : (part : Part) → ∀ value ∈ part.blank.values, value.isUnset = true
  | .record _ fields => blanks_values fields
  | .text _ _ _ => by simp
  | .number _ value _ => by simp [Number.zero]

private theorem blanks_values : (parts : List Part) →
    ∀ value ∈ valuesWithin (blanks parts), value.isUnset = true
  | [] => by simp
  | part :: rest => by
      intro value member
      rw [blanks, valuesWithin] at member
      rcases List.mem_append.mp member with first | later
      · exact blank_values part value first
      · exact blanks_values rest value later

end

mutual

@[simp] theorem blank_values_length : (part : Part) →
    part.blank.values.length = part.values.length
  | .record _ fields => blanks_values_length fields
  | .text _ _ _ => rfl
  | .number _ _ _ => rfl

@[simp] theorem blanks_values_length : (parts : List Part) →
    (valuesWithin (blanks parts)).length = (valuesWithin parts).length
  | [] => rfl
  | part :: rest => by simp [blank_values_length part, blanks_values_length rest]

end

theorem values_length_of_blank_eq {left right : Part} (same : left.blank = right.blank) :
    left.values.length = right.values.length := by
  rw [← blank_values_length left, same, blank_values_length right]

mutual

@[simp] theorem blank_sourceIds : (part : Part) → part.blank.sourceIds = []
  | .record _ fields => blanks_sourceIds fields
  | .text _ _ _ => rfl
  | .number _ _ _ => rfl

@[simp] theorem blanks_sourceIds : (parts : List Part) → sourcesIds (blanks parts) = []
  | [] => rfl
  | part :: rest => by simp [blank_sourceIds part, blanks_sourceIds rest]

end

mutual

/-- Refreshing a tree changes values only. -/
@[simp] theorem fetch_clear : (part : Part) → (sources : Sources) →
    (part.fetch sources).1.clear = part.clear
  | .record name fields, sources => by
      rw [fetch, clear, clear, fetches_clears fields sources]
  | .text name value (some source), sources => rfl
  | .text name value none, sources => rfl
  | .number name value (some source), sources => rfl
  | .number name value none, sources => rfl

@[simp] theorem fetches_clears : (parts : List Part) → (sources : Sources) →
    clears (fetches parts sources).1 = clears parts
  | [], sources => rfl
  | part :: rest, sources => by
      rw [fetches, clears, clears, fetch_clear part sources,
        fetches_clears rest (part.fetch sources).2]

end

@[simp] theorem fetch_blank (part : Part) (sources : Sources) :
    (part.fetch sources).1.blank = part.blank :=
  blank_eq_of_clear_eq (fetch_clear part sources)

private theorem plainNames_of_blank_eq {left right : Part} (same : left.blank = right.blank)
    (plain : ∀ name ∈ left.names, WireItem.isPlain name = true) :
    ∀ name ∈ right.names, WireItem.isPlain name = true := by
  rw [← blank_names right, ← same, blank_names left]
  exact plain

theorem Advertisable.of_blank_eq {left right : Part} (fit : left.Advertisable)
    (same : left.blank = right.blank) : right.Advertisable where
  plainNames := plainNames_of_blank_eq same fit.plainNames
  countable := by
    rw [← blank_fieldCounts right, ← same, blank_fieldCounts left]
    exact fit.countable
  shallow := by
    rw [← blank_height right, ← same, blank_height left]
    exact fit.shallow

end Part

end Telemetry
