/-
Refreshing a tree is refreshing one leaf after the other, in wire order and whatever records
they lie in. A leaf that has a source calls it once and takes what it answers. That depends on
the calls made before, those for the leaves in front included, and copies of a tree call the
same sources. A leaf without a source stays as it is, and so do the names, the types and the
shape of the tree and which leaf has which source.
-/

import Telemetry.Proofs.Part.Leaves

namespace Telemetry

namespace Sources

/-- The sources behind these calls, the first of them first. -/
def called (sources : Sources) (ids : List SourceId) : Sources :=
  { sources with calls := ids.reverse ++ sources.calls }

/-- What a source has for a leaf that holds this value. -/
def answer (sources : Sources) (source : SourceId) : Part.LeafValue → Part.LeafValue
  | .text _ => .text (sources.callText source).1
  | .number held => .number (sources.callNumber source held.kind).1

theorem called_append (sources : Sources) (front back : List SourceId) :
    sources.called (front ++ back) = (sources.called front).called back := by
  simp [called]

end Sources

namespace Part

namespace Leaf

def refreshed (sources : Sources) (leaf : Leaf) : Leaf :=
  match leaf.source with
  | none => leaf
  | some source => { leaf with value := sources.answer source leaf.value }

/-- Every leaf is refreshed behind those in front of it. -/
def refreshAll : List Leaf → Sources → List Leaf
  | [], _ => []
  | leaf :: rest, sources =>
      leaf.refreshed sources :: refreshAll rest (sources.called leaf.source.toList)

@[simp]
theorem refreshAll_length (leaves : List Leaf) (sources : Sources) :
    (refreshAll leaves sources).length = leaves.length := by
  induction leaves generalizing sources with
  | nil => rfl
  | cons leaf rest ih => rw [refreshAll, List.length_cons, ih, List.length_cons]

theorem refreshAll_append (front back : List Leaf) (sources : Sources) :
    refreshAll (front ++ back) sources =
      refreshAll front sources ++ refreshAll back (sources.called (sourceIds front)) := by
  induction front generalizing sources with
  | nil => rfl
  | cons leaf rest ih =>
      rw [List.cons_append, refreshAll, ih, refreshAll, List.cons_append, sourceIds_cons,
        Sources.called_append]

@[simp]
theorem refreshed_inside (name : String) (leaf : Leaf) (sources : Sources) :
    (leaf.inside name).refreshed sources = (leaf.refreshed sources).inside name := by
  cases leaf with
  | mk around own value source => cases source <;> rfl

theorem refreshAll_inside (name : String) (leaves : List Leaf) (sources : Sources) :
    refreshAll (leaves.map (inside name)) sources =
      (refreshAll leaves sources).map (inside name) := by
  induction leaves generalizing sources with
  | nil => rfl
  | cons leaf rest ih =>
      rw [List.map_cons, refreshAll, refreshAll, List.map_cons, refreshed_inside, ← ih]
      rfl

end Leaf

mutual

theorem fetch_leaves : (part : Part) → (sources : Sources) →
    (part.fetch sources).1.leaves = Leaf.refreshAll part.leaves sources ∧
      (part.fetch sources).2 = sources.called part.sourceIds
  | .record name fields, sources => by
      obtain ⟨refreshed, called⟩ := fetches_leaves fields sources
      refine ⟨?_, called⟩
      rw [leaves, Leaf.refreshAll_inside, ← refreshed]
      rfl
  | .text _ _ none, _ | .text _ _ (some _), _ => ⟨rfl, rfl⟩
  | .number _ _ none, _ | .number _ _ (some _), _ => ⟨rfl, rfl⟩

private theorem fetches_leaves : (parts : List Part) → (sources : Sources) →
    leavesWithin (fetches parts sources).1 = Leaf.refreshAll (leavesWithin parts) sources ∧
      (fetches parts sources).2 = sources.called (sourcesIds parts)
  | [], _ => ⟨rfl, rfl⟩
  | part :: rest, sources => by
      obtain ⟨here, called⟩ := fetch_leaves part sources
      obtain ⟨later, all⟩ := fetches_leaves rest (part.fetch sources).2
      rw [called] at later all
      constructor
      · rw [leavesWithin, Leaf.refreshAll_append, leaves_sourceIds, ← here, ← later, ← called]
        rfl
      · rw [sourcesIds, Sources.called_append, ← all, ← called]
        rfl

end

/-- A tree with what its sources answered in place of the values that have a source. -/
structure Refreshed (sources : Sources) (tree fetched : Part) : Prop where
  clear : fetched.clear = tree.clear
  count : fetched.leaves.length = tree.leaves.length
  leaf : ∀ front leaf back, tree.leaves = front ++ leaf :: back →
    fetched.leaves[front.length]? =
      some (leaf.refreshed (sources.called (Leaf.sourceIds front)))

theorem fetch_refreshed (part : Part) (sources : Sources) :
    Refreshed sources part (part.fetch sources).1 := by
  obtain ⟨fetched, _⟩ := fetch_leaves part sources
  refine ⟨fetch_clear part sources, ?_, ?_⟩
  · rw [fetched, Leaf.refreshAll_length]
  · intro front leaf back split
    rw [fetched, split, Leaf.refreshAll_append, Leaf.refreshAll,
      List.getElem?_append_right (Nat.le_of_eq (Leaf.refreshAll_length _ _)),
      Leaf.refreshAll_length, Nat.sub_self, List.getElem?_cons_zero]

end Part

end Telemetry
