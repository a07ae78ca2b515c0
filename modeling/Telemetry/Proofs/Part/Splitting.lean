/-
When a payload fills a tree. It must split into one item for each leaf, in wire order
and with nothing left over: bytes up to a zero byte for a text, and as many as the kind
takes for a number. The records around the leaves play no part in it.

The leaves then hold what the items say. Written again they give the payload back, as
long as its texts were valid.
-/

import Mathlib.Data.List.Forall2
import Telemetry.Proofs.Part.Leaves
import Telemetry.Proofs.Text.Lossy
import Telemetry.Proofs.Wire.Acceptance

namespace Telemetry

namespace Part

namespace LeafValue

/-- Bytes that a leaf of this type can take. -/
def Fits : LeafValue → Bytes → Prop
  | .text _, item => ∃ raw, zeroByte ∉ raw ∧ item = raw ++ [zeroByte]
  | .number held, item => item.length = held.kind.size

/-- What a leaf of this type holds once it has taken these bytes. -/
def taking : LeafValue → Bytes → LeafValue
  | .text _, item => .text (Utf8.decode item.dropLast)
  | .number held, item => .number (.ofBytes held.kind item)

/-- Bytes that hold nothing but text, where it is text they stand for. -/
def ValidText : LeafValue → Bytes → Prop
  | .text _, item => item.dropLast.toByteArray.IsValidUTF8
  | .number _, _ => True

theorem accepts_reader (leaf : LeafValue) :
    leaf.reader.Accepts fun item value => leaf.Fits item ∧ value = leaf.taking item := by
  cases leaf with
  | text held =>
      apply (Decoder.accepts_text.map LeafValue.text).congr
      intro item value
      constructor
      · rintro ⟨_, ⟨raw, clean, rfl, rfl⟩, rfl⟩
        refine ⟨⟨raw, clean, rfl⟩, ?_⟩
        rw [taking, List.dropLast_concat]
      · rintro ⟨⟨raw, clean, rfl⟩, rfl⟩
        refine ⟨Utf8.decode raw, ⟨raw, clean, rfl, rfl⟩, ?_⟩
        rw [taking, List.dropLast_concat]
  | number held =>
      apply ((Decoder.accepts_number held.kind).map LeafValue.number).congr
      intro item value
      constructor
      · rintro ⟨_, ⟨sized, rfl⟩, same⟩
        exact ⟨sized, same⟩
      · rintro ⟨sized, same⟩
        exact ⟨_, ⟨sized, rfl⟩, same⟩

private theorem taking_isWritable {leaf : LeafValue} {item : Bytes} (fits : leaf.Fits item) :
    (leaf.taking item).item.isWritable = true := by
  cases leaf with
  | text held =>
      obtain ⟨raw, clean, rfl⟩ := fits
      rw [taking, List.dropLast_concat]
      exact Utf8.isPlain_decode clean
  | number held => rfl

private theorem taking_toBytes {leaf : LeafValue} {item : Bytes} (fits : leaf.Fits item)
    (valid : leaf.ValidText item) : (leaf.taking item).item.toBytes = item := by
  cases leaf with
  | text held =>
      obtain ⟨raw, _, rfl⟩ := fits
      rw [ValidText, List.dropLast_concat] at valid
      rw [taking, List.dropLast_concat, LeafValue.item, WireItem.toBytes,
        Utf8.encode_decode valid]
  | number held => exact Number.toBytes_ofBytes fits

end LeafValue

open LeafValue (Fits taking ValidText)

/-- Items for these leaves that make up this payload. -/
structure Splits (leaves : List LeafValue) (payload : Bytes) (items : List Bytes) : Prop where
  fits : List.Forall₂ Fits leaves items
  whole : items.flatten = payload

variable {leaves : List LeafValue} {items : List Bytes}

/-- Reading succeeds exactly on a run of fitting items, whatever stands behind it. -/
theorem readLeaves_eq_ok_iff {cursor after : Cursor} {values : List LeafValue} :
    readLeaves leaves cursor = ⟨values, .ok (), after⟩ ↔
      ∃ items, List.Forall₂ Fits leaves items ∧ cursor.Took items.flatten after ∧
        values = List.zipWith taking leaves items := by
  induction leaves generalizing cursor values with
  | nil =>
      rw [readLeaves, Filled.mk.injEq]
      constructor
      · rintro ⟨rfl, _, rfl⟩
        exact ⟨[], .nil, .nothing cursor, rfl⟩
      · rintro ⟨items, fits, took, same⟩
        cases fits
        rw [took.place]
        exact ⟨same.symm, rfl, rfl⟩
  | cons leaf rest ih =>
      rw [readLeaves]
      constructor
      · intro read
        split at read
        · cases read
        · next value middle begun =>
            obtain ⟨item, tookFirst, fits, rfl⟩ :=
              (leaf.accepts_reader cursor value middle).mp begun
            rw [Filled.mk.injEq] at read
            obtain ⟨rfl, outcome, rfl⟩ := read
            have later : readLeaves rest middle =
                ⟨(readLeaves rest middle).tree, .ok (), (readLeaves rest middle).cursor⟩ := by
              rw [← outcome]
            obtain ⟨others, fitsLater, tookLater, same⟩ := ih.mp later
            refine ⟨item :: others, .cons fits fitsLater, tookFirst.trans tookLater, ?_⟩
            rw [same, List.zipWith_cons_cons]
      · rintro ⟨_, fitting, took, rfl⟩
        cases fitting with
        | @cons _ item _ others fits fitsLater =>
            have here := took.here
            rw [List.flatten_cons, List.append_assoc] at here
            have begun := (leaf.accepts_reader cursor _ _).mpr
              ⟨item, .of_rest here, fits, rfl⟩
            have further := Cursor.Took.of_rest (Cursor.rest_advance_append here)
            rw [Cursor.advance_advance, ← List.length_append, ← List.flatten_cons,
              ← took.place] at further
            have later := ih.mpr ⟨others, fitsLater, further, rfl⟩
            rw [begun]
            simp [later]

theorem taking_all_isWritable (fits : List.Forall₂ Fits leaves items) :
    ∀ item ∈ (List.zipWith taking leaves items).map LeafValue.item, item.isWritable = true := by
  induction fits with
  | nil =>
      intro item member
      cases member
  | cons first _ ih =>
      exact List.forall_mem_cons.mpr ⟨LeafValue.taking_isWritable first, ih⟩

theorem taking_all_toBytes (fits : List.Forall₂ Fits leaves items)
    (valid : List.Forall₂ ValidText leaves items) :
    WireItem.toWire ((List.zipWith taking leaves items).map LeafValue.item) = items.flatten := by
  induction fits with
  | nil => rfl
  | cons first _ ih =>
      cases valid with
      | cons validFirst validLater =>
          rw [List.zipWith_cons_cons, List.map_cons, WireItem.toWire_cons,
            LeafValue.taking_toBytes first validFirst, ih validLater, List.flatten_cons]

end Part

namespace Station

open Telemetry.Part (Splits)
open Telemetry.Part.LeafValue (taking)

theorem finished_eq_ok_iff {cursor : Cursor} :
    (Decoder.finished cursor).1 = .ok () ↔ cursor.rest = [] := by
  rw [← List.length_eq_zero_iff, Cursor.rest_length, Decoder.finished]
  split
  · next none => exact ⟨fun _ => none, fun _ => rfl⟩
  · next more =>
      refine ⟨?_, fun none => absurd none more⟩
      intro impossible
      cases impossible

/-- Filling is reading that ends well at the end of the payload. -/
theorem fill_eq_ok_iff_readData {tree filled : Part} {payload : Cursor} :
    fill tree payload = .ok filled ↔
      ∃ after, tree.readData payload = ⟨filled, .ok (), after⟩ ∧ after.rest = [] := by
  unfold fill
  cases tree.readData payload with
  | mk found outcome after =>
      simp only [Part.Filled.mk.injEq]
      cases outcome with
      | error error => simp
      | ok done =>
          constructor
          · intro fills
            simp only at fills
            split at fills
            · cases fills
            · next finished =>
                cases fills
                exact ⟨after, ⟨rfl, rfl, rfl⟩, finished_eq_ok_iff.mp finished⟩
          · rintro ⟨_, ⟨rfl, _, rfl⟩, ends⟩
            simp [finished_eq_ok_iff.mpr ends]

theorem splits_of_fill {tree filled : Part} {payload : Cursor}
    (fills : fill tree payload = .ok filled) :
    ∃ items, Splits tree.values payload.rest items ∧
      filled.values = List.zipWith taking tree.values items := by
  have flat := Part.readData_leaves tree payload
  obtain ⟨after, read, ends⟩ := fill_eq_ok_iff_readData.mp fills
  rw [read] at flat
  obtain ⟨items, fits, took, values⟩ := Part.readLeaves_eq_ok_iff.mp flat.symm
  have here := took.here
  rw [ends, List.append_nil] at here
  exact ⟨items, ⟨fits, here.symm⟩, values⟩

/-- A payload that splits fills the tree, and gives it new values and nothing else. -/
theorem fill_of_splits {tree : Part} {payload : Cursor} {items : List Bytes}
    (splits : Splits tree.values payload.rest items) :
    ∃ filled, fill tree payload = .ok filled ∧ filled.clear = tree.clear ∧
      filled.values = List.zipWith taking tree.values items := by
  have flat := Part.readData_leaves tree payload
  have here : payload.rest = items.flatten ++ [] := by rw [splits.whole, List.append_nil]
  have read := Part.readLeaves_eq_ok_iff.mpr ⟨items, splits.fits, .of_rest here, rfl⟩
  rw [read, Part.Filled.map, Part.Filled.mk.injEq] at flat
  obtain ⟨values, outcome, place⟩ := flat
  refine ⟨(tree.readData payload).tree, ?_, Part.readData_clear tree payload, values⟩
  refine fill_eq_ok_iff_readData.mpr ⟨(tree.readData payload).cursor, ?_, ?_⟩
  · rw [← outcome]
  · rw [place]
    exact Cursor.rest_advance_append here

/-- Whatever fills a tree leaves it texts that can be written. -/
theorem fill_plainTexts {tree filled : Part} {payload : Cursor}
    (fills : fill tree payload = .ok filled) : Part.PlainTexts filled.values := by
  obtain ⟨items, splits, values⟩ := splits_of_fill fills
  rw [← Part.dataItems_writable_iff, Part.dataItems_eq_map, values]
  exact Part.taking_all_isWritable splits.fits

end Station

end Telemetry
