/-
When two trees are equal. They must have one schema, and the values at each place must be equal;
the sources do not count. Values that are equal need not be the same bits: both zeros are equal,
and a NaN makes a tree differ from itself.

Without floating point equal is the same as being written alike, as a schema and as values.
Nothing separates values on the wire, so their bytes tell two trees apart only where these have
one schema: then what is written of either is read into one tree.
-/

import Mathlib.Data.List.Forall2
import Telemetry.Proofs.Number.Equality
import Telemetry.Proofs.Part.DataRoundTrip
import Telemetry.Proofs.Part.SchemaIdentity

namespace Telemetry.Part

namespace LeafValue

/-- One text, or two numbers of one kind that stand for one value. -/
inductive Equals : LeafValue → LeafValue → Prop where
  | text (value : String) : Equals (.text value) (.text value)
  | number {left right : Number} {value : WithBot (WithTop ℚ)} (kinds : left.kind = right.kind)
      (denoted : left.denoted? = some value) (denotedOther : right.denoted? = some value) :
      Equals (.number left) (.number right)

def isFloating : LeafValue → Bool
  | .text _ => false
  | .number value => value.isFloating

def IsNaN : LeafValue → Prop
  | .text _ => False
  | .number value => value.IsNaN

@[simp]
theorem equals_text_iff {left right : String} :
    Equals (.text left) (.text right) ↔ left = right := by
  constructor
  · rintro ⟨⟩
    rfl
  · rintro rfl
    exact .text left

@[simp]
theorem equals_number_iff {left right : Number} :
    Equals (.number left) (.number right) ↔ left.equal right = true := by
  rw [Number.equal_iff]
  constructor
  · rintro (_ | ⟨kinds, denoted, denotedOther⟩)
    exact ⟨kinds, _, denoted, denotedOther⟩
  · rintro ⟨kinds, value, denoted, denotedOther⟩
    exact .number kinds denoted denotedOther

private theorem equals_iff_eq {left : LeafValue} (whole : left.isFloating = false)
    (right : LeafValue) : left.Equals right ↔ left = right := by
  cases left with
  | text value =>
      cases right with
      | text other => rw [equals_text_iff, LeafValue.text.injEq]
      | number other => exact ⟨nofun, nofun⟩
  | number value =>
      cases right with
      | text other => exact ⟨nofun, nofun⟩
      | number other =>
          rw [equals_number_iff, Number.equal_iff_eq whole, LeafValue.number.injEq]

@[simp]
theorem equals_self_iff (value : LeafValue) : value.Equals value ↔ ¬ value.IsNaN := by
  cases value with
  | text value => exact ⟨fun _ => not_false, fun _ => .text value⟩
  | number value => exact equals_number_iff.trans value.equal_self_iff

end LeafValue

private theorem forall₂_append_iff {α β : Type} {relation : α → β → Prop} {front back : List α}
    {other rest : List β} (sized : front.length = other.length) :
    List.Forall₂ relation (front ++ back) (other ++ rest) ↔
      List.Forall₂ relation front other ∧ List.Forall₂ relation back rest := by
  constructor
  · intro all
    have begins := List.forall₂_take_append _ _ _ all
    have ends := List.forall₂_drop_append _ _ _ all
    rw [← sized, List.take_left] at begins
    rw [← sized, List.drop_left] at ends
    exact ⟨begins, ends⟩
  · rintro ⟨begins, ends⟩
    exact List.rel_append begins ends

mutual

theorem equal_iff : (left right : Part) → (left.equal right = true ↔
    left.blank = right.blank ∧ List.Forall₂ LeafValue.Equals left.values right.values)
  | .record leftName leftFields, .record rightName rightFields => by
      rw [equal, blank, blank, values, values, Bool.and_eq_true, beq_iff_eq, Part.record.injEq,
        equals_iff leftFields rightFields, and_assoc]
  | .text leftName leftValue leftSource, .text rightName rightValue rightSource => by
      simp
  | .number leftName leftValue leftSource, .number rightName rightValue rightSource => by
      -- Numbers that are equal are of one kind, so their blanks are equal too.
      suffices leftValue.equal rightValue = true → leftName = rightName →
          leftValue.kind = rightValue.kind by simpa
      intro same _
      exact ((Number.equal_iff _ _).mp same).1
  | .record _ _, .text _ _ _ | .record _ _, .number _ _ _
  | .text _ _ _, .record _ _ | .text _ _ _, .number _ _ _
  | .number _ _ _, .record _ _ | .number _ _ _, .text _ _ _ => by simp

private theorem equals_iff : (left right : List Part) → (equals left right = true ↔
    blanks left = blanks right ∧
      List.Forall₂ LeafValue.Equals (valuesWithin left) (valuesWithin right))
  | [], [] => by simp
  | [], _ :: _ => by simp
  | _ :: _, [] => by simp
  | left :: leftRest, right :: rightRest => by
      rw [equals, blanks, blanks, valuesWithin, valuesWithin, Bool.and_eq_true, List.cons.injEq,
        equal_iff left right, equals_iff leftRest rightRest, and_and_and_comm]
      refine and_congr_right fun ⟨same, _⟩ => ?_
      exact (forall₂_append_iff (values_length_of_blank_eq same)).symm

end

/-- Reading either into the first tree leaves its own values there. -/
theorem values_eq_of_dataBytes_eq {left right : Part} (blanks : left.blank = right.blank)
    (plain : PlainTexts left.values) (plainOther : PlainTexts right.values)
    (same : left.dataBytes = right.dataBytes) : left.values = right.values := by
  have here : (Cursor.start left.dataBytes).rest = left.dataBytes ++ [] := by
    rw [Cursor.rest_start, List.append_nil]
  have own := readData_dataBytes left left rfl plain _ _ here
  rw [same] at here
  have other := readData_dataBytes right left blanks.symm plainOther _ _ here
  rw [← own.values, same, other.values]

private theorem dataBytes_of_values_eq {left right : Part} (same : left.values = right.values) :
    left.dataBytes = right.dataBytes := by
  rw [dataBytes, dataBytes, dataItems_eq_map, dataItems_eq_map, same]

/-- Without floating point only values that are the same are equal. -/
theorem equal_iff_values_eq {left : Part}
    (whole : ∀ value ∈ left.values, value.isFloating = false) (right : Part) :
    left.equal right = true ↔ left.blank = right.blank ∧ left.values = right.values := by
  rw [equal_iff]
  refine and_congr_right fun _ => ⟨fun equals => ?_, fun same => ?_⟩
  · have both := (List.forall₂_and_left left.values right.values).mpr ⟨whole, equals⟩
    rw [← List.forall₂_eq_eq_eq]
    exact both.imp fun value other ⟨wholeValue, equal⟩ =>
      (LeafValue.equals_iff_eq wholeValue other).mp equal
  · rw [← same, List.forall₂_same]
    intro value member
    exact (LeafValue.equals_iff_eq (whole value member) value).mpr rfl

theorem equal_self_iff (part : Part) :
    part.equal part = true ↔ ∀ value ∈ part.values, ¬ value.IsNaN := by
  rw [equal_iff, List.forall₂_same]
  simp

/-- Equal are two trees of one schema whose values are equal, each to the one at its place, and
sources make no difference. Without floating point that is so exactly if their schemas and their
values are the same bytes. A tree is equal to itself exactly if it holds no NaN. -/
theorem equality_agrees_with_wire :
    (∀ left right : Part, left.equal right = true ↔
      left.sameSchema right = true ∧ List.Forall₂ LeafValue.Equals left.values right.values) ∧
    (∀ left right other : Part, left.blank = right.blank → left.values = right.values →
      left.equal other = right.equal other ∧ other.equal left = other.equal right) ∧
    (∀ left right : Part, left.Legible → right.Legible →
      PlainTexts left.values → PlainTexts right.values →
      (∀ value ∈ left.values, value.isFloating = false) →
      ∃ leftSchema rightSchema leftData rightData,
        WireItem.encode left.schemaItems = .ok leftSchema ∧
        WireItem.encode right.schemaItems = .ok rightSchema ∧
        WireItem.encode left.dataItems = .ok leftData ∧
        WireItem.encode right.dataItems = .ok rightData ∧
        (left.equal right = true ↔ leftSchema = rightSchema ∧ leftData = rightData)) ∧
    ∀ part : Part, part.equal part = true ↔ ∀ value ∈ part.values, ¬ value.IsNaN := by
  refine ⟨?_, ?_, ?_, equal_self_iff⟩
  · intro left right
    rw [sameSchema_iff_blank]
    exact equal_iff left right
  · intro left right other blanks sameValues
    constructor
    · rw [Bool.eq_iff_iff, equal_iff, equal_iff, blanks, sameValues]
    · rw [Bool.eq_iff_iff, equal_iff, equal_iff, blanks, sameValues]
  · intro left right legible legibleOther plain plainOther whole
    refine ⟨left.schemaBytes, right.schemaBytes, left.dataBytes, right.dataBytes,
      encode_schemaItems legible.plainNames, encode_schemaItems legibleOther.plainNames,
      encode_dataItems plain, encode_dataItems plainOther, ?_⟩
    rw [equal_iff_values_eq whole]
    constructor
    · rintro ⟨blanks, sameValues⟩
      exact ⟨schemaBytes_of_blank_eq blanks, dataBytes_of_values_eq sameValues⟩
    · rintro ⟨sameSchema, sameData⟩
      have blanks : left.blank = right.blank :=
        (legible.unique legibleOther (congrArg (· ++ []) sameSchema)).1
      exact ⟨blanks, values_eq_of_dataBytes_eq blanks plain plainOther sameData⟩

/-- A source makes no difference to a tree without floating point and is not written, another
value does and is. The two zeros are equal though they are written differently, and a tree that
holds a NaN is not equal to itself. -/
theorem equality_agrees_with_wire_of_zeros :
    let around (value : Nat) (source : Option SourceId) :=
      Part.record "m" [.number "n" (.ofPattern .int16 value) source,
        .record "r" [.text "s" "ok" none]]
    let single (pattern : Nat) := Part.number "f" (.ofPattern .double pattern) none
    (around 7 (some 3)).Legible ∧ (around 7 none).Legible ∧ (around 8 none).Legible ∧
      (∃ schema data, WireItem.encode (around 7 (some 3)).schemaItems = .ok schema ∧
        WireItem.encode (around 7 none).schemaItems = .ok schema ∧
        WireItem.encode (around 7 (some 3)).dataItems = .ok data ∧
        WireItem.encode (around 7 none).dataItems = .ok data) ∧
      (∃ data other, WireItem.encode (around 7 none).dataItems = .ok data ∧
        WireItem.encode (around 8 none).dataItems = .ok other ∧ data ≠ other) ∧
      (single (2 ^ 63)).equal (single 0) = true ∧
      (single (2 ^ 63)).dataBytes ≠ (single 0).dataBytes ∧
      (single 0x7ff0000000000001).equal (single 0x7ff0000000000001) = false := by
  intro around single
  have legible (value : Nat) (source : Option SourceId) : (around value source).Legible := by
    constructor
    · change ∀ name ∈ ["m", "n", "r", "s"], WireItem.isPlain name = true
      decide
    · change ∀ count ∈ [2, 1], count < 256 ^ Decoder.countSize
      decide
  have listed (value : Nat) (source : Option SourceId) :
      (around value source).values = [.number (.ofPattern .int16 value), .text "ok"] := rfl
  have plain (value : Nat) (source : Option SourceId) :
      PlainTexts (around value source).values := by
    intro text member
    have only : text = "ok" := by simpa [listed] using member
    rw [only]
    decide
  have whole (value : Nat) (source : Option SourceId) :
      ∀ leaf ∈ (around value source).values, leaf.isFloating = false := by
    rw [listed, List.forall_mem_cons, List.forall_mem_singleton]
    exact ⟨rfl, rfl⟩
  obtain ⟨-, -, written, reflexive⟩ := equality_agrees_with_wire
  refine ⟨legible _ _, legible _ _, legible _ _, ?_, ?_, by decide, by decide, ?_⟩
  · obtain ⟨schema, other, data, otherData, writes, writesOther, sends, sendsOther, alike⟩ :=
      written (around 7 (some 3)) (around 7 none) (legible _ _) (legible _ _) (plain _ _)
        (plain _ _) (whole _ _)
    obtain ⟨rfl, rfl⟩ := alike.mp (by decide)
    exact ⟨schema, data, writes, writesOther, sends, sendsOther⟩
  · obtain ⟨schema, other, data, otherData, writes, writesOther, sends, sendsOther, alike⟩ :=
      written (around 7 none) (around 8 none) (legible _ _) (legible _ _) (plain _ _)
        (plain _ _) (whole _ _)
    refine ⟨data, otherData, sends, sendsOther, ?_⟩
    rintro rfl
    have schemas : schema = other := Except.ok.inj (writes.symm.trans writesOther)
    exact absurd (alike.mpr ⟨schemas, rfl⟩) (by decide)
  · rw [Bool.eq_false_iff]
    intro reflected
    have numbers := (reflexive _).mp reflected _ (List.mem_singleton_self _)
    exact numbers ⟨.double, rfl, by decide, by decide⟩

end Telemetry.Part
