/-
Where reading values stops. It reads leaf by leaf in wire order, whatever records they lie in, and
stops behind the last leaf or in front of the first that is not all there. The leaves before hold
what was read and the others what they held, so no leaf is ever filled in part.

Nothing but values is touched, whether reading goes through or not.
-/

import Telemetry.Proofs.Part.Splitting
import Telemetry.Proofs.Wire.Shortage

namespace Telemetry.Part

open LeafValue (Fits taking)

private theorem LeafValue.waits_reader (leaf : LeafValue) : leaf.reader.Waits := by
  cases leaf with
  | text held => exact (Decoder.wants_text.map LeafValue.text).waits
  | number held => exact ((Decoder.wants_number held.kind).map LeafValue.number).waits

/-- The leaves in front took these items, one behind the other from the cursor on, and the others
are as they were. Reading ended well if there are none, and else because there was less left than
the next one wanted. -/
structure StoppedBehind (cursor : Cursor) (filled : Filled (List LeafValue))
    (front back : List LeafValue) (items : List Bytes) : Prop where
  fits : List.Forall₂ Fits front items
  took : cursor.Took items.flatten filled.cursor
  values : filled.tree = List.zipWith taking front items ++ back
  through : back = [] → filled.outcome = .ok ()
  short : ∀ leaf later, back = leaf :: later →
    (∀ item, leaf.Fits item → ¬ item <+: filled.cursor.rest) ∧
      ∃ wanted, filled.outcome = .error (filled.cursor.outOfBounds wanted) ∧
        filled.cursor.remaining < wanted

theorem readLeaves_stopped (leaves : List LeafValue) (cursor : Cursor) :
    ∃ front back items, leaves = front ++ back ∧
      StoppedBehind cursor (readLeaves leaves cursor) front back items := by
  induction leaves generalizing cursor with
  | nil =>
      refine ⟨[], [], [], rfl, .nil, .nothing cursor, rfl, fun _ => rfl, ?_⟩
      intro leaf later impossible
      cases impossible
  | cons leaf rest ih =>
      rw [readLeaves]
      cases read : leaf.reader cursor with
      | mk outcome after =>
          cases outcome with
          | error error =>
              obtain ⟨rfl, wanted, rfl, short⟩ := leaf.waits_reader cursor error after read
              refine ⟨[], leaf :: rest, [], rfl, .nil, .nothing after, rfl, ?_, ?_⟩
              · intro impossible
                cases impossible
              · rintro _ _ ⟨rfl, rfl⟩
                refine ⟨?_, wanted, rfl, short⟩
                rintro item fits ⟨behind, here⟩
                have accepted := (leaf.accepts_reader after _ _).mpr
                  ⟨item, .of_rest here.symm, fits, rfl⟩
                rw [read] at accepted
                cases accepted
          | ok value =>
              obtain ⟨item, took, fits, rfl⟩ := (leaf.accepts_reader cursor value after).mp read
              obtain ⟨front, back, items, same, stopped⟩ := ih after
              refine ⟨leaf :: front, back, item :: items, congrArg (leaf :: ·) same,
                .cons fits stopped.fits, took.trans stopped.took, ?_, stopped.through,
                stopped.short⟩
              change leaf.taking item :: (readLeaves rest after).tree = _
              rw [stopped.values, List.zipWith_cons_cons, List.cons_append]

/-- Some leaves in front, and no others, hold what the bytes behind the cursor say, and the cursor
stands behind the last byte of theirs. Reading succeeds exactly if these are all. If not, bytes of
the next leaf are missing at the place where the cursor stands. Names, types, shape and sources
stay, in either case. -/
theorem partial_reading (tree : Part) (cursor : Cursor) :
    let filled := tree.readData cursor
    filled.tree.clear = tree.clear ∧
      ∃ front back items, tree.values = front ++ back ∧
        List.Forall₂ Fits front items ∧
        filled.tree.values = List.zipWith taking front items ++ back ∧
        cursor.Took items.flatten filled.cursor ∧
        (filled.outcome = .ok () ↔ back = []) ∧
        ∀ leaf later, back = leaf :: later →
          (∀ item, leaf.Fits item → ¬ item <+: filled.cursor.rest) ∧
            ∃ wanted, filled.cursor.remaining < wanted ∧ filled.outcome =
              .error (.outOfBounds wanted filled.cursor.position cursor.packet.length) := by
  intro filled
  obtain ⟨front, back, items, same, stopped⟩ := readLeaves_stopped tree.values cursor
  rw [← readData_leaves tree cursor] at stopped
  refine ⟨readData_clear tree cursor, front, back, items, same, stopped.fits, stopped.values,
    stopped.took, ?_, ?_⟩
  · refine ⟨fun succeeded => ?_, stopped.through⟩
    cases left : back with
    | nil => rfl
    | cons leaf later =>
        obtain ⟨_, wanted, failed, _⟩ := stopped.short leaf later left
        cases failed.symm.trans succeeded
  · intro leaf later left
    obtain ⟨missing, wanted, failed, short⟩ := stopped.short leaf later left
    refine ⟨missing, wanted, short, ?_⟩
    have packet : filled.cursor.packet = cursor.packet := by
      change ((tree.readData cursor).map values).cursor.packet = _
      rw [stopped.took.place]
      rfl
    rw [← packet]
    exact failed

-- One byte of the second number is there, in a record behind a text that was read.
example :
    let tree : Part := .record "r" [.text "t" "old" (some 4), .record "in" [
      .number "n" ⟨.uint8, 7⟩ none, .number "m" ⟨.int16, 9⟩ none], .text "u" "" none]
    let filled := tree.readData (.start [0x41, 0x00, 0x05, 0x06])
    filled.tree.values = [.text "A", .number ⟨.uint8, 5⟩, .number ⟨.int16, 9⟩, .text ""] ∧
      filled.cursor.position = 3 ∧ filled.outcome = .error (.outOfBounds 2 3 4) := by
  decide +kernel

end Telemetry.Part
