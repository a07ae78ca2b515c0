/-
A printed schema is the schema. What is printed of a part at some depth begins with a line that
has the depth, the name and the kind, and behind the last colon of that line nothing but the kind
is left. So a colon in a name confuses nobody, nor does anything else in it but the end of a line.
The kind of a record tells how many fields follow, and the text of one field ends before that of
the next begins. Values and sources are not printed.
-/

import Telemetry.Part.Print
import Telemetry.Proofs.Part.Shape
import Telemetry.Proofs.Wire

namespace Telemetry.Part

/-- No name goes over more than one line. -/
def Unbroken (part : Part) : Prop := ∀ name ∈ part.names, '\n' ∉ name.toList

/-- What is printed behind the colon of a part with so many fields. -/
def kindText (wireType : WireType) (count : Nat) : List Char :=
  match wireType with
  | .record =>
      [' ', 'r', 'e', 'c', 'o', 'r', 'd', '['] ++ (Nat.toDigits 10 count ++ [']', '\x7b'])
  | .text => [' ', 's', 't', 'r', 'i', 'n', 'g']
  | .number kind => '\t' :: kind.name.toList

/-- The first line of a part. -/
def heading (depth : Nat) (part : Part) : List Char :=
  margin depth ++ (part.name.toList ++ ':' :: kindText part.wireType part.fields.length)

/-- What stands behind the first line of a part if this follows on the next line. -/
@[simp] def behind (depth : Nat) (rest : List Char) : Part → List Char
  | .record _ fields =>
      printsAt .schema (depth + 1) fields ++ (margin depth ++ '\x7d' :: '\n' :: '\n' :: rest)
  | .text _ _ _ => rest
  | .number _ _ _ => rest

@[simp]
theorem textLeaf_schema (value : String) :
    Printed.schema.textLeaf value = ": string".toList := rfl

@[simp]
theorem numberLeaf_schema (value : Number) :
    Printed.schema.numberLeaf value = ":\t".toList ++ value.kind.name.toList := rfl

private theorem printAt_eq (depth : Nat) (rest : List Char) (part : Part) :
    part.printAt .schema depth ++ '\n' :: rest =
      heading depth part ++ '\n' :: behind depth rest part := by
  rw [heading]
  cases part with
  | record name fields => simp [kindText]
  | text name value source => simp [kindText]
  | number name value source => simp [kindText]

/-- A list is split in one way only at the last place where something stands. -/
private theorem append_cons_inj_last {α : Type} {item : α} {front other rest later : List α}
    (clean : item ∉ rest) (cleanOther : item ∉ later)
    (same : front ++ item :: rest = other ++ item :: later) : front = other ∧ rest = later := by
  have turned := congrArg List.reverse same
  simp only [List.reverse_append, List.reverse_cons, List.append_assoc, List.singleton_append]
    at turned
  have parts := append_cons_inj (by rwa [List.mem_reverse]) (by rwa [List.mem_reverse]) turned
  exact ⟨List.reverse_inj.mp parts.2, List.reverse_inj.mp parts.1⟩

private theorem notMem_kindText {character : Char} (wireType : WireType) (count : Nat)
    (mark : character = '\n' ∨ character = ':') : character ∉ kindText wireType count := by
  cases wireType with
  | record =>
      have noDigit : character ∉ Nat.toDigits 10 count := by
        intro member
        have digit := Nat.isDigit_of_mem_toDigits (by decide) (by decide) member
        rcases mark with rfl | rfl <;> cases digit
      rw [kindText, List.mem_append, List.mem_append, not_or, not_or]
      refine ⟨?_, noDigit, ?_⟩ <;> rcases mark with rfl | rfl <;> decide
  | text =>
      rw [kindText]
      rcases mark with rfl | rfl <;> decide
  | number kind =>
      rw [kindText]
      rcases mark with rfl | rfl <;> cases kind <;> decide

private theorem NumericKind.name_injective : Function.Injective NumericKind.name := by
  intro left right same
  cases left <;> cases right <;> first | rfl | exact absurd same (by decide)

private theorem toDigits_injective : Function.Injective (Nat.toDigits 10) := by
  intro left right same
  rw [← @Nat.ofDigitChars_ten_toDigits left, same, Nat.ofDigitChars_ten_toDigits]

/-- The kind and the count of the fields of a record can be told from what stands for them. -/
private theorem kindText_inj {left right : WireType} {count other : Nat}
    (same : kindText left count = kindText right other) :
    left = right ∧ (left = .record → count = other) := by
  cases left with
  | record =>
      cases right with
      | record =>
          have digits := List.append_cancel_right (List.append_cancel_left same)
          exact ⟨rfl, fun _ => toDigits_injective digits⟩
      | text => simp [kindText] at same
      | number kind => simp [kindText] at same
  | text =>
      cases right with
      | record => simp [kindText] at same
      | text => exact ⟨rfl, fun impossible => by cases impossible⟩
      | number kind => simp [kindText] at same
  | number kind =>
      cases right with
      | record => simp [kindText] at same
      | text => simp [kindText] at same
      | number other =>
          have names := String.toList_injective (List.cons.inj same).2
          exact ⟨by rw [NumericKind.name_injective names], fun impossible => by cases impossible⟩

private theorem newline_notMem_heading {part : Part} (depth : Nat) (unbroken : part.Unbroken) :
    '\n' ∉ heading depth part := by
  have own : '\n' ∉ part.name.toList := by
    cases part <;> exact unbroken _ List.mem_cons_self
  have space : '\n' ∉ margin depth := by
    intro member
    cases List.eq_of_mem_replicate member
  simp only [heading, List.mem_append, List.mem_cons, not_or]
  exact ⟨space, own, by decide, notMem_kindText _ _ (.inl rfl)⟩

/-- The first line tells the name, the kind and the count of the fields. -/
theorem heading_inj {depth : Nat} {left right : Part}
    (same : heading depth left = heading depth right) :
    left.name = right.name ∧ left.wireType = right.wireType ∧
      (left.wireType = .record → left.fields.length = right.fields.length) := by
  obtain ⟨names, kinds⟩ := append_cons_inj_last (notMem_kindText _ _ (.inr rfl))
    (notMem_kindText _ _ (.inr rfl)) (List.append_cancel_left same)
  exact ⟨String.toList_injective names, kindText_inj kinds⟩

/-- The first line ends at its line end, whatever stands in the names on it. -/
private theorem printAt_inj {depth : Nat} {rest later : List Char} {left right : Part}
    (unbroken : left.Unbroken) (unbrokenOther : right.Unbroken)
    (same : left.printAt .schema depth ++ '\n' :: rest =
      right.printAt .schema depth ++ '\n' :: later) :
    left.name = right.name ∧ left.wireType = right.wireType ∧
      (left.wireType = .record → left.fields.length = right.fields.length) ∧
      behind depth rest left = behind depth later right := by
  rw [printAt_eq, printAt_eq] at same
  obtain ⟨headings, others⟩ := append_cons_inj (newline_notMem_heading depth unbroken)
    (newline_notMem_heading depth unbrokenOther) same
  obtain ⟨names, kinds, counts⟩ := heading_inj headings
  exact ⟨names, kinds, counts, others⟩

mutual

/-- What is printed of one schema does not begin what is printed of another. -/
theorem blank_eq_of_printAt : (left right : Part) → left.Unbroken → right.Unbroken →
    (depth : Nat) → (rest later : List Char) →
    left.printAt .schema depth ++ '\n' :: rest = right.printAt .schema depth ++ '\n' :: later →
    left.blank = right.blank ∧ rest = later
  | .record leftName leftFields, .record rightName rightFields, unbroken, other, depth, rest,
      later, same => by
      obtain ⟨names, _, counts, others⟩ := printAt_inj unbroken other same
      obtain ⟨fields, ends⟩ := blanks_eq_of_printsAt leftFields rightFields (counts rfl)
        (fun name member => unbroken name (List.mem_cons_of_mem leftName member))
        (fun name member => other name (List.mem_cons_of_mem rightName member)) (depth + 1) _ _
        others
      have rests := List.append_cancel_left ends
      simp only [List.cons.injEq, true_and] at rests
      exact ⟨by rw [blank, blank, fields, show leftName = rightName from names], rests⟩
  | .text leftName leftValue leftSource, .text rightName rightValue rightSource, unbroken, other,
      depth, rest, later, same => by
      obtain ⟨names, _, _, rests⟩ := printAt_inj unbroken other same
      exact ⟨by rw [blank, blank, show leftName = rightName from names], rests⟩
  | .number leftName leftValue leftSource, .number rightName rightValue rightSource, unbroken,
      other, depth, rest, later, same => by
      obtain ⟨names, kinds, _, rests⟩ := printAt_inj unbroken other same
      have kinds : leftValue.kind = rightValue.kind := WireType.number.inj kinds
      exact ⟨by rw [blank, blank, show leftName = rightName from names, kinds], rests⟩
  | .record _ _, .text _ _ _, unbroken, other, _, _, _, same
  | .record _ _, .number _ _ _, unbroken, other, _, _, _, same
  | .text _ _ _, .record _ _, unbroken, other, _, _, _, same
  | .text _ _ _, .number _ _ _, unbroken, other, _, _, _, same
  | .number _ _ _, .record _ _, unbroken, other, _, _, _, same
  | .number _ _ _, .text _ _ _, unbroken, other, _, _, _, same => by
      cases (printAt_inj unbroken other same).2.1

private theorem blanks_eq_of_printsAt : (left right : List Part) → left.length = right.length →
    (∀ name ∈ namesWithin left, '\n' ∉ name.toList) →
    (∀ name ∈ namesWithin right, '\n' ∉ name.toList) →
    (depth : Nat) → (rest later : List Char) →
    printsAt .schema depth left ++ rest = printsAt .schema depth right ++ later →
    blanks left = blanks right ∧ rest = later
  | [], [], _, _, _, _, _, _, same => ⟨rfl, same⟩
  | [], _ :: _, counts, _, _, _, _, _, _ | _ :: _, [], counts, _, _, _, _, _, _ => by cases counts
  | left :: leftRest, right :: rightRest, counts, unbroken, other, depth, rest, later, same => by
      simp only [namesWithin, List.mem_append, or_imp, forall_and] at unbroken other
      rw [printsAt, printsAt, List.append_assoc, List.append_assoc, List.cons_append,
        List.cons_append] at same
      obtain ⟨first, behindFirst⟩ :=
        blank_eq_of_printAt left right unbroken.1 other.1 depth _ _ same
      obtain ⟨further, ends⟩ := blanks_eq_of_printsAt leftRest rightRest (Nat.succ.inj counts)
        unbroken.2 other.2 depth rest later behindFirst
      exact ⟨by rw [blanks, blanks, first, further], ends⟩

end

mutual

/-- Values and sources are not printed. -/
private theorem printAt_blank : (part : Part) → (depth : Nat) →
    part.blank.printAt .schema depth = part.printAt .schema depth
  | .record name fields, depth => by
      rw [blank, printAt, printAt, blanks_length, printsAt_blanks fields]
  | .text name value source, depth => rfl
  | .number name value source, depth => rfl

private theorem printsAt_blanks : (parts : List Part) → (depth : Nat) →
    printsAt .schema depth (blanks parts) = printsAt .schema depth parts
  | [], _ => rfl
  | part :: rest, depth => by
      rw [blanks, printsAt, printsAt, printAt_blank part, printsAt_blanks rest]

end

private theorem print_blank (part : Part) : part.blank.print .schema = part.print .schema := by
  rw [print, printAt_blank, print]

/-- What is printed of a schema is the same for every tree of it, whatever it holds and wherever
its values come from. If the names keep to one line each, it is printed of no other tree. -/
theorem print_schema_identity :
    (∀ left right : Part, left.sameSchema right = true →
      left.print .schema = right.print .schema) ∧
    ∀ left right : Part, left.Unbroken → right.Unbroken →
      (left.print .schema = right.print .schema ↔ left.sameSchema right = true) := by
  have alike : ∀ left right : Part, left.sameSchema right = true →
      left.print .schema = right.print .schema := by
    intro left right same
    rw [← print_blank left, ← print_blank right, (sameSchema_iff_blank left right).mp same]
  refine ⟨alike, ?_⟩
  intro left right unbroken other
  refine ⟨?_, alike left right⟩
  intro same
  have texts : left.printAt .schema 0 ++ ['\n'] = right.printAt .schema 0 ++ ['\n'] := by
    rw [String.ofList_injective same]
  rw [sameSchema_iff_blank]
  exact (blank_eq_of_printAt left right unbroken other 0 [] [] texts).1

/-- Names that look like lines: with other values and no source the text is the same, without
two leading spaces in one name it is not. -/
theorem print_schema_identity_of_marks :
    let of (leaf : Part) := Part.record "m: record[2]\x7b" [leaf, .record "\x7d" []]
    let sourced := of (.text "  a:\tint8" "on" (some 3))
    let plain := of (.text "  a:\tint8" "" none)
    let other := of (.text "a:\tint8" "" none)
    sourced.Unbroken ∧ plain.Unbroken ∧ other.Unbroken ∧
      sourced.print .schema = plain.print .schema ∧
      plain.print .schema ≠ other.print .schema := by
  intro of sourced plain other
  have sourcedUnbroken : sourced.Unbroken := by unfold Unbroken; decide
  have plainUnbroken : plain.Unbroken := by unfold Unbroken; decide
  have otherUnbroken : other.Unbroken := by unfold Unbroken; decide
  obtain ⟨alike, identify⟩ := print_schema_identity
  refine ⟨sourcedUnbroken, plainUnbroken, otherUnbroken, alike sourced plain (by decide), ?_⟩
  intro same
  exact absurd ((identify plain other plainUnbroken otherUnbroken).mp same) (by decide)

end Telemetry.Part
