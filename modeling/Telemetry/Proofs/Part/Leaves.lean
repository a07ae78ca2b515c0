/-
A tree as the list of its leaves. Reading values into a tree is reading one leaf after
the other, in wire order and whatever records they lie in: it ends alike, at the same
place, and with the same values. So laws of reading are laws of lists.

What a tree holds apart from its values, and the values, determine it. Where it matters in
which records a leaf lies or what source it has, the list is one of leaves and not of values.
-/

import Telemetry.Proofs.Part.Reading

namespace Telemetry.Part

mutual

theorem eq_of_clear_of_values : (left right : Part) → left.clear = right.clear →
    left.values = right.values → left = right
  | .record leftName leftFields, .record rightName rightFields, same, sameValues => by
      rw [clear, clear, Part.record.injEq] at same
      rw [same.1, eq_of_clears_of_values leftFields rightFields same.2 sameValues]
  | .text leftName leftValue leftSource, .text rightName rightValue rightSource, same,
      sameValues => by
      rw [clear, clear, Part.text.injEq] at same
      cases sameValues
      rw [same.1, same.2.2]
  | .number leftName leftValue leftSource, .number rightName rightValue rightSource, same,
      sameValues => by
      rw [clear, clear, Part.number.injEq] at same
      cases sameValues
      rw [same.1, same.2.2]
  | .record _ _, .text _ _ _, same, _ | .record _ _, .number _ _ _, same, _
  | .text _ _ _, .record _ _, same, _ | .text _ _ _, .number _ _ _, same, _
  | .number _ _ _, .record _ _, same, _ | .number _ _ _, .text _ _ _, same, _ => by
      simp at same

private theorem eq_of_clears_of_values : (left right : List Part) → clears left = clears right →
    valuesWithin left = valuesWithin right → left = right
  | [], [], _, _ => rfl
  | [], _ :: _, same, _ | _ :: _, [], same, _ => by
      simp at same
  | left :: leftRest, right :: rightRest, same, sameValues => by
      rw [clears, clears, List.cons.injEq] at same
      have sized := values_length_of_blank_eq (blank_eq_of_clear_eq same.1)
      obtain ⟨here, later⟩ := List.append_inj sameValues sized
      rw [eq_of_clear_of_values left right same.1 here,
        eq_of_clears_of_values leftRest rightRest same.2 later]

end

/-- A leaf with where it is found. -/
structure Leaf where
  /-- The names of the records around it, the root first. -/
  around : List String := []
  name : String
  value : LeafValue
  source : Option SourceId
  deriving DecidableEq, Repr

namespace Leaf

/-- The names of all nodes from the root down to the leaf. -/
def names (leaf : Leaf) : List String := leaf.around ++ [leaf.name]

def inside (name : String) (leaf : Leaf) : Leaf := { leaf with around := name :: leaf.around }

/-- The sources of those leaves that have one. -/
def sourceIds (leaves : List Leaf) : List SourceId := leaves.filterMap Leaf.source

@[simp]
theorem sourceIds_cons (leaf : Leaf) (rest : List Leaf) :
    sourceIds (leaf :: rest) = leaf.source.toList ++ sourceIds rest := by
  unfold sourceIds
  cases source : leaf.source with
  | none => rw [List.filterMap_cons_none source]; rfl
  | some id => rw [List.filterMap_cons_some source]; rfl

@[simp]
theorem sourceIds_inside (name : String) (leaves : List Leaf) :
    sourceIds (leaves.map (inside name)) = sourceIds leaves := by
  unfold sourceIds
  rw [List.filterMap_map]
  rfl

end Leaf

mutual

/-- The leaves of a tree, in wire order. -/
def leaves : Part → List Leaf
  | .record name fields => (leavesWithin fields).map (Leaf.inside name)
  | .text name value source => [{ name, value := .text value, source }]
  | .number name value source => [{ name, value := .number value, source }]

def leavesWithin : List Part → List Leaf
  | [] => []
  | part :: rest => part.leaves ++ leavesWithin rest

end

mutual

theorem leaves_values : (part : Part) → part.leaves.map Leaf.value = part.values
  | .record name fields => by
      rw [leaves, values, List.map_map, ← leavesWithin_values fields]
      rfl
  | .text name value source => rfl
  | .number name value source => rfl

private theorem leavesWithin_values : (parts : List Part) →
    (leavesWithin parts).map Leaf.value = valuesWithin parts
  | [] => rfl
  | part :: rest => by
      rw [leavesWithin, valuesWithin, List.map_append, leaves_values part,
        leavesWithin_values rest]

end

mutual

theorem leaves_sourceIds : (part : Part) → Leaf.sourceIds part.leaves = part.sourceIds
  | .record name fields => by
      rw [leaves, sourceIds, Leaf.sourceIds_inside, leavesWithin_sourceIds fields]
  | .text _ _ none | .text _ _ (some _) => rfl
  | .number _ _ none | .number _ _ (some _) => rfl

private theorem leavesWithin_sourceIds : (parts : List Part) →
    Leaf.sourceIds (leavesWithin parts) = sourcesIds parts
  | [] => rfl
  | part :: rest => by
      rw [leavesWithin, sourcesIds, ← leaves_sourceIds part, ← leavesWithin_sourceIds rest]
      exact List.filterMap_append

end

/-- Reads a value of the kind that a leaf holds. -/
def LeafValue.reader : LeafValue → Decoder LeafValue
  | .text _ => do
      let value ← Decoder.text
      pure (.text value)
  | .number held => do
      let value ← Decoder.number held.kind
      pure (.number value)

def readLeaves : List LeafValue → Cursor → Filled (List LeafValue)
  | [], cursor => ⟨[], .ok (), cursor⟩
  | leaf :: rest, cursor =>
      match leaf.reader cursor with
      | (.error error, after) => ⟨leaf :: rest, .error error, after⟩
      | (.ok value, after) =>
          let later := readLeaves rest after
          ⟨value :: later.tree, later.outcome, later.cursor⟩

def Filled.map {α β : Type} (view : α → β) (filled : Filled α) : Filled β :=
  ⟨view filled.tree, filled.outcome, filled.cursor⟩

/-- Goes on with further leaves if all went well so far. -/
def Filled.andThen (filled : Filled (List LeafValue)) (further : List LeafValue) :
    Filled (List LeafValue) :=
  match filled.outcome with
  | .error error => ⟨filled.tree ++ further, .error error, filled.cursor⟩
  | .ok _ =>
      let later := readLeaves further filled.cursor
      ⟨filled.tree ++ later.tree, later.outcome, later.cursor⟩

theorem readLeaves_append (front back : List LeafValue) (cursor : Cursor) :
    readLeaves (front ++ back) cursor = (readLeaves front cursor).andThen back := by
  induction front generalizing cursor with
  | nil => rfl
  | cons leaf rest ih =>
      rw [List.cons_append, readLeaves, readLeaves]
      split
      · rfl
      · next value after _ =>
          simp only [ih after, Filled.andThen]
          split <;> rfl

mutual

theorem readData_leaves : (part : Part) → (cursor : Cursor) →
    (part.readData cursor).map values = readLeaves part.values cursor
  | .record _ fields, cursor => readDatas_leaves fields cursor
  | .text name value source, cursor => by
      rw [readData, values, readLeaves, LeafValue.reader, Decoder.bind_apply]
      cases Decoder.text cursor with
      | mk outcome after => cases outcome <;> rfl
  | .number name value source, cursor => by
      rw [readData, values, readLeaves, LeafValue.reader, Decoder.bind_apply]
      cases Decoder.number value.kind cursor with
      | mk outcome after => cases outcome <;> rfl

private theorem readDatas_leaves : (parts : List Part) → (cursor : Cursor) →
    (readDatas parts cursor).map valuesWithin = readLeaves (valuesWithin parts) cursor
  | [], _ => rfl
  | part :: rest, cursor => by
      rw [readDatas, valuesWithin, readLeaves_append, ← readData_leaves part cursor]
      unfold Filled.andThen
      simp only [Filled.map]
      cases (part.readData cursor).outcome with
      | error error => rfl
      | ok done =>
          simp [← readDatas_leaves rest (part.readData cursor).cursor, Filled.map]

end

end Telemetry.Part
