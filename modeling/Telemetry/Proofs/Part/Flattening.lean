/-
The paths that leaves are listed under. Every leaf of a tree is listed once, in wire order,
and its path is made of the names of all nodes from the root down to it, with dots between
them. Records are not listed, so an empty one leaves no trace, whatever stands behind it.

There is one exception. Whether a dot is due in front of the name of a leaf is told from what
has been joined of the names around it, and that is empty not only if there are none: it is
empty for an unnamed root as well. So a leaf that lies in an unnamed root is listed without
the dot, and a leaf that lies deeper in it is listed with all of them.

A value is listed as what it is, in the widest kind of its reading.
-/

import Mathlib.Data.List.Forall2
import Telemetry.Part.Flattener
import Telemetry.Proofs.Number.Widening
import Telemetry.Proofs.Part.Leaves

namespace Telemetry.Part

def LeafValue.flat : LeafValue → FlatValue
  | .text value => .text value
  | .number value => .number value.widest

/-- How a leaf is listed in a tree that lies in these records itself. -/
def Leaf.entryWithin (outer : List String) (leaf : Leaf) : String × FlatValue :=
  (pathOf (outer ++ leaf.around) leaf.name, leaf.value.flat)

private theorem Leaf.entryWithin_inside (outer : List String) (name : String) (leaf : Leaf) :
    (leaf.inside name).entryWithin outer = leaf.entryWithin (outer ++ [name]) := by
  rw [entryWithin, entryWithin, inside, List.append_assoc]
  rfl

mutual

theorem flattenWithin_eq : (part : Part) → (outer : List String) →
    part.flattenWithin outer = part.leaves.map (Leaf.entryWithin outer)
  | .record name fields, outer => by
      rw [flattenWithin, flattensWithin_eq fields, leaves, List.map_map]
      congr 1
      funext leaf
      exact (leaf.entryWithin_inside outer name).symm
  | .text name value source, outer => by
      rw [flattenWithin, leaves, List.map_singleton, Leaf.entryWithin, List.append_nil]
      rfl
  | .number name value source, outer => by
      rw [flattenWithin, leaves, List.map_singleton, Leaf.entryWithin, List.append_nil]
      rfl

private theorem flattensWithin_eq : (parts : List Part) → (outer : List String) →
    flattensWithin outer parts = (leavesWithin parts).map (Leaf.entryWithin outer)
  | [], _ => rfl
  | part :: rest, outer => by
      rw [flattensWithin, leavesWithin, List.map_append, flattenWithin_eq part outer,
        flattensWithin_eq rest outer]

end

/-- An empty record is not listed, and nothing behind it is listed otherwise because of it. -/
private theorem flattensWithin_hollow (outer : List String) (front : List Part) (hollow : String)
    (back : List Part) : flattensWithin outer (front ++ .record hollow [] :: back) =
      flattensWithin outer (front ++ back) := by
  induction front with
  | nil => rfl
  | cons part rest ih => rw [List.cons_append, flattensWithin, ih, List.cons_append, flattensWithin]

mutual

/-- A walk through a tree leaves the path as it was, and notes what is listed of the tree. -/
private theorem foldl_meet_walk : (part : Part) → (path : List String) →
    (entries : List (String × FlatValue)) →
    (part.walk Number.widest).foldl Flattener.meet ⟨path, entries⟩ =
      ⟨path, entries ++ part.flattenWithin path⟩
  | .record name fields, path, entries => by
      rw [walk, List.foldl_cons, List.foldl_append, flattenWithin]
      change List.foldl Flattener.meet
        (List.foldl Flattener.meet ⟨path ++ [name], entries⟩ _) [.leave name] = _
      rw [foldl_meet_walks fields, List.foldl_cons, List.foldl_nil, Flattener.meet,
        List.dropLast_concat]
  | .text name value source, path, entries => rfl
  | .number name value source, path, entries => rfl

private theorem foldl_meet_walks : (parts : List Part) → (path : List String) →
    (entries : List (String × FlatValue)) →
    (walks Number.widest parts).foldl Flattener.meet ⟨path, entries⟩ =
      ⟨path, entries ++ flattensWithin path parts⟩
  | [], path, entries => by rw [walks, List.foldl_nil, flattensWithin, List.append_nil]
  | part :: rest, path, entries => by
      rw [walks, List.foldl_append, foldl_meet_walk part, foldl_meet_walks rest, flattensWithin,
        List.append_assoc]

end

private theorem Flattener.run_eq (part : Part) : Flattener.run part = ⟨[], part.flatten⟩ :=
  foldl_meet_walk part [] []

/-- Names that are joined come to nothing only if there are none, or there is one and it is
empty. -/
private theorem intercalate_eq_empty_iff (names : List String) :
    String.intercalate "." names = "" ↔ names = [] ∨ names = [""] := by
  match names with
  | [] => simp
  | [name] => simp
  | name :: next :: rest => simp

private theorem pathOf_eq_intercalate {around : List String} (named : around ≠ [""])
    (name : String) : pathOf around name = String.intercalate "." (around ++ [name]) := by
  by_cases outermost : around = []
  · rw [outermost, List.nil_append, String.intercalate_singleton]
    rfl
  · have joined : ¬ (String.intercalate "." around).isEmpty = true := by
      rw [String.isEmpty_iff, intercalate_eq_empty_iff]
      exact not_or.mpr ⟨outermost, named⟩
    rw [pathOf]
    simp only [if_neg joined]
    rw [String.intercalate_append_of_ne_nil outermost (List.cons_ne_nil name []),
      String.intercalate_singleton]

/-- A value and what it is listed as: a text as it is, an integer as the same integer, and a
floating point number as the same number with double precision. -/
inductive LeafValue.WidensTo : LeafValue → FlatValue → Prop where
  | text (value : String) : WidensTo (.text value) (.text value)
  | unsigned (number : Number) (read : number.kind.reading = .unsigned)
      (small : number.pattern < 2 ^ (64 : Nat)) :
      WidensTo (.number number) (.number (.uint number.pattern))
  | signed (number : Number) (value : Int) (read : number.kind.reading = .signed)
      (low : -2 ^ (8 * number.kind.size - 1) ≤ value)
      (high : value < 2 ^ (8 * number.kind.size - 1))
      (congruent : value % 2 ^ (8 * number.kind.size) = number.pattern) :
      WidensTo (.number number) (.number (.int value))
  | floating (number : Number) (format : BinaryFormat) (pattern : Nat)
      (read : number.kind.reading = .floating format) (small : pattern < 2 ^ (64 : Nat))
      (same : (format.decode number.pattern).Same (BinaryFormat.double.decode pattern))
      (unchanged : format = .double → pattern = number.pattern) :
      WidensTo (.number number) (.number (.float pattern))

private theorem pattern_lt_two_pow (number : Number) : number.pattern < 2 ^ (64 : Nat) := by
  have fits : number.kind.size ≤ 8 := by cases number.kind <;> decide
  exact Nat.lt_of_lt_of_le number.pattern_lt (Nat.pow_le_pow_right (by decide) fits)

private theorem toInt_emod_size (number : Number) :
    number.bits.toInt % 2 ^ (8 * number.kind.size) = number.pattern := by
  have cast : ((2 ^ (8 * number.kind.size) : Nat) : Int) = 2 ^ (8 * number.kind.size) := by
    rw [Int.natCast_pow]
    rfl
  rw [BitVec.toInt_eq_toNat_bmod, ← cast, Int.bmod_emod]
  exact Int.emod_eq_of_lt (Int.natCast_nonneg _) (Int.ofNat_lt.mpr number.bits.isLt)

private theorem LeafValue.widensTo_flat (value : LeafValue) : value.WidensTo value.flat := by
  cases value with
  | text value => exact .text value
  | number number =>
      rw [flat, Number.widest]
      cases read : number.kind.reading with
      | unsigned => exact .unsigned number read (pattern_lt_two_pow number)
      | signed =>
          exact .signed number _ read (BitVec.le_toInt number.bits) BitVec.toInt_lt
            (toInt_emod_size number)
      | floating format =>
          by_cases narrow : format = .single
          · simp only [if_pos narrow]
            refine .floating number format _ read (widen_lt number.pattern) ?_ ?_
            · rw [narrow]
              exact same_widen number.pattern
            · intro wide
              cases narrow.symm.trans wide
          · have wide : format = .double := by
              cases kind : number.kind <;> rw [kind] at read <;> cases read
              · exact absurd rfl narrow
              · rfl
            simp only [if_neg narrow]
            refine .floating number format _ read (pattern_lt_two_pow number) ?_ fun _ => rfl
            rw [wide]
            exact BinaryValue.same_refl _

/-- Every leaf is listed once, in wire order, with its value in the widest kind and under the
names of all nodes from the root down to it, with dots between them. In an unnamed root, and
nowhere else, the dot in front of its own leaves is missing. Told node by node, a visitor lists
the same, and an empty record makes no difference to it. -/
theorem flatten_lists_leaves (part : Part) :
    Flattener.run part = ⟨[], part.flatten⟩ ∧
    part.leaves.map Leaf.value = part.values ∧
    List.Forall₂ (fun leaf entry =>
      leaf.value.WidensTo entry.2 ∧
      (leaf.around ≠ [""] → entry.1 = String.intercalate "." leaf.names) ∧
      (leaf.around = [""] → entry.1 = leaf.name)) part.leaves part.flatten ∧
    ∀ outer front hollow back,
      flattensWithin outer (front ++ .record hollow [] :: back) =
        flattensWithin outer (front ++ back) := by
  refine ⟨Flattener.run_eq part, leaves_values part, ?_, flattensWithin_hollow⟩
  rw [flatten, flattenWithin_eq, List.forall₂_map_right_iff, List.forall₂_same]
  intro leaf _
  refine ⟨leaf.value.widensTo_flat, ?_, ?_⟩
  · intro named
    exact pathOf_eq_intercalate named leaf.name
  · intro unnamed
    rw [Leaf.entryWithin, List.nil_append, unnamed]
    rfl

/-- A leaf in an unnamed root, and behind an empty record one that lies deeper. -/
theorem flatten_lists_leaves_of_unnamed_root :
    let direct : Leaf := ⟨[""], "a", .number (.ofPattern .uint8 7), none⟩
    let deeper : Leaf := ⟨["", ""], "a", .number (.ofPattern .int8 0xFE), none⟩
    let part : Part := .record "" [.number "a" (.ofPattern .uint8 7) none, .record "r" [],
      .record "" [.number "a" (.ofPattern .int8 0xFE) none]]
    part.leaves = [direct, deeper] ∧ direct.around = [""] ∧ deeper.around ≠ [""] ∧
      ∃ first second, part.flatten = [first, second] ∧
        first.1 = "a" ∧ direct.value.WidensTo first.2 ∧
        second.1 = "..a" ∧ deeper.value.WidensTo second.2 := by
  intro direct deeper part
  have leaves : part.leaves = [direct, deeper] := rfl
  have unnamed : direct.around = [""] := rfl
  have named : deeper.around ≠ [""] := by decide
  obtain ⟨_, _, listed, _⟩ := flatten_lists_leaves part
  rw [leaves] at listed
  obtain ⟨first, later, ⟨firstValue, _, bare⟩, behind, same⟩ := List.forall₂_cons_left_iff.mp listed
  obtain ⟨second, none, ⟨secondValue, joined, _⟩, nothing, rest⟩ :=
    List.forall₂_cons_left_iff.mp behind
  cases nothing
  rw [rest] at same
  exact ⟨leaves, unnamed, named, first, second, same, bare unnamed, firstValue, joined named,
    secondValue⟩

/-- Two leaves of one name, in an unnamed root and in an unnamed record inside it. -/
theorem unnamed_root_loses_dot :
    ¬ ∀ part : Part, part.flatten.map Prod.fst =
      part.leaves.map fun leaf => String.intercalate "." leaf.names := by
  intro joined
  have wrong := joined (.record "" [.number "a" (.ofPattern .uint8 7) none,
    .record "" [.number "a" (.ofPattern .uint8 8) none]])
  have listed : ["a", "..a"] = [".a", "..a"] := wrong
  exact absurd listed (by decide)

end Telemetry.Part
