/-
What a decoder takes at all. A decoder accepts a form, a relation between bytes and
values, if it succeeds exactly where bytes of that form stand, with a value they have,
and goes on behind them. What stands further on never matters.

The form of a sequence is made of the forms of its parts, so a format that is read
step by step has its grammar for a form.
-/

import Telemetry.Proofs.Wire

namespace Telemetry

/-- The bytes between two places of one packet. -/
structure Cursor.Took (before : Cursor) (bytes : Bytes) (after : Cursor) : Prop where
  here : before.rest = bytes ++ after.rest
  place : after = before.advance bytes.length

namespace Cursor

theorem Took.of_rest {cursor : Cursor} {bytes rest : Bytes} (here : cursor.rest = bytes ++ rest) :
    cursor.Took bytes (cursor.advance bytes.length) := by
  refine ⟨?_, rfl⟩
  rw [rest_advance_append here]
  exact here

theorem Took.nothing (cursor : Cursor) : cursor.Took [] cursor := ⟨rfl, rfl⟩

theorem Took.trans {before middle after : Cursor} {front back : Bytes}
    (first : before.Took front middle) (second : middle.Took back after) :
    before.Took (front ++ back) after := by
  constructor
  · rw [first.here, second.here, List.append_assoc]
  · rw [second.place, first.place, advance_advance, List.length_append]

end Cursor

namespace Decoder

variable {α β : Type}

def Accepts (decoder : Decoder α) (form : Bytes → α → Prop) : Prop :=
  ∀ cursor value after, decoder cursor = (.ok value, after) ↔
    ∃ bytes, cursor.Took bytes after ∧ form bytes value

/-- Values of one form, one behind the other. -/
inductive Sequence (form : Bytes → α → Prop) : Bytes → List α → Prop where
  | nothing : Sequence form [] []
  | more {front back : Bytes} {value : α} {values : List α} (first : form front value)
      (later : Sequence form back values) : Sequence form (front ++ back) (value :: values)

theorem accepts_of {decoder : Decoder α} {form : Bytes → α → Prop}
    (sound : ∀ cursor value after, decoder cursor = (.ok value, after) →
      ∃ bytes, cursor.Took bytes after ∧ form bytes value)
    (complete : ∀ bytes value, form bytes value → decoder.Reads bytes value) :
    decoder.Accepts form := by
  intro cursor value after
  constructor
  · exact sound cursor value after
  · rintro ⟨bytes, took, formed⟩
    rw [took.place]
    exact complete bytes value formed cursor after.rest took.here

theorem Accepts.reads {decoder : Decoder α} {form : Bytes → α → Prop}
    (accepts : decoder.Accepts form) {bytes : Bytes} {value : α} (formed : form bytes value) :
    decoder.Reads bytes value :=
  fun cursor _ here =>
    (accepts cursor value (cursor.advance bytes.length)).mpr ⟨bytes, .of_rest here, formed⟩

theorem Accepts.congr {decoder : Decoder α} {form other : Bytes → α → Prop}
    (accepts : decoder.Accepts form) (same : ∀ bytes value, form bytes value ↔ other bytes value) :
    decoder.Accepts other := by
  intro cursor value after
  rw [accepts cursor value after]
  exact exists_congr fun bytes => and_congr_right fun _ => same bytes value

theorem accepts_pure (value : α) :
    (pure value : Decoder α).Accepts fun bytes found => bytes = [] ∧ found = value := by
  apply accepts_of
  · intro cursor found after read
    cases read
    exact ⟨[], .nothing cursor, rfl, rfl⟩
  · rintro bytes found ⟨rfl, rfl⟩
    exact reads_pure found

theorem accepts_fail (error : DecodeError) :
    (fail error : Decoder α).Accepts fun _ _ => False := by
  apply accepts_of
  · intro cursor value after read
    cases read
  · intro bytes value impossible
    exact impossible.elim

theorem Accepts.bind {first : Decoder α} {next : α → Decoder β} {form : Bytes → α → Prop}
    {further : α → Bytes → β → Prop} (acceptsFirst : first.Accepts form)
    (acceptsNext : ∀ value, (next value).Accepts (further value)) :
    (first >>= next).Accepts fun bytes result =>
      ∃ front value back, bytes = front ++ back ∧ form front value ∧ further value back result := by
  apply accepts_of
  · intro cursor result after read
    rw [bind_apply] at read
    split at read
    · next value middle begun =>
        obtain ⟨front, tookFront, formed⟩ := (acceptsFirst cursor value middle).mp begun
        obtain ⟨back, tookBack, continued⟩ := (acceptsNext value middle result after).mp read
        exact ⟨front ++ back, tookFront.trans tookBack, front, value, back, rfl, formed, continued⟩
    · cases read
  · rintro _ result ⟨front, value, back, rfl, formed, continued⟩
    exact (acceptsFirst.reads formed).bind ((acceptsNext value).reads continued)

theorem Accepts.map {first : Decoder α} {form : Bytes → α → Prop} (view : α → β)
    (accepts : first.Accepts form) :
    (first >>= fun found => pure (view found)).Accepts fun bytes result =>
      ∃ value, form bytes value ∧ result = view value := by
  apply (accepts.bind fun value => accepts_pure (view value)).congr
  intro bytes result
  constructor
  · rintro ⟨front, value, _, rfl, formed, rfl, same⟩
    rw [List.append_nil]
    exact ⟨value, formed, same⟩
  · rintro ⟨value, formed, same⟩
    exact ⟨bytes, value, [], (List.append_nil bytes).symm, formed, rfl, same⟩

theorem Accepts.times {decoder : Decoder α} {form : Bytes → α → Prop}
    (accepts : decoder.Accepts form) (count : Nat) :
    (decoder.times count).Accepts fun bytes values =>
      Sequence form bytes values ∧ values.length = count := by
  induction count with
  | zero =>
      apply (accepts_pure ([] : List α)).congr
      intro bytes values
      constructor
      · rintro ⟨rfl, rfl⟩
        exact ⟨.nothing, rfl⟩
      · rintro ⟨sequence, none⟩
        cases sequence with
        | nothing => exact ⟨rfl, rfl⟩
        | more first later => cases none
  | succ count ih =>
      apply (accepts.bind fun value => ih.map (value :: ·)).congr
      intro bytes values
      constructor
      · rintro ⟨front, value, back, rfl, formed, rest, ⟨sequence, sized⟩, rfl⟩
        exact ⟨.more formed sequence, congrArg (· + 1) sized⟩
      · rintro ⟨sequence, sized⟩
        cases sequence with
        | nothing => cases sized
        | more formed later =>
            exact ⟨_, _, _, rfl, formed, _, ⟨later, Nat.succ.inj sized⟩, rfl⟩

theorem accepts_take (count : Nat) :
    (take count).Accepts fun bytes found => bytes.length = count ∧ found = bytes := by
  apply accepts_of
  · intro cursor found after read
    unfold take at read
    split at read
    · cases read
    · next enough =>
        rw [Prod.mk.injEq, Except.ok.injEq] at read
        obtain ⟨same, place⟩ := read
        have sized : found.length = count := by
          rw [← same, List.length_take, Cursor.rest_length]
          omega
        refine ⟨found, ?_, sized, rfl⟩
        rw [← place]
        refine ⟨?_, by rw [sized]⟩
        rw [Cursor.advance_rest, ← same, List.take_append_drop]
  · rintro bytes found ⟨rfl, rfl⟩
    exact reads_take found

theorem accepts_byte : byte.Accepts fun bytes found => bytes = [found] := by
  apply accepts_of
  · intro cursor found after read
    unfold byte at read
    cases here : cursor.rest with
    | nil =>
        rw [here] at read
        cases read
    | cons first rest =>
        rw [here] at read
        cases read
        exact ⟨[found], .of_rest here, rfl⟩
  · rintro bytes found rfl
    exact reads_byte found

theorem accepts_wireType :
    Decoder.wireType.Accepts fun bytes found => bytes = [found.tag] := by
  apply accepts_of
  · intro cursor found after read
    unfold Decoder.wireType byte at read
    cases here : cursor.rest with
    | nil =>
        rw [here] at read
        cases read
    | cons tag rest =>
        rw [here] at read
        simp only at read
        split at read
        · next wireType known =>
            cases read
            refine ⟨[found.tag], ?_, rfl⟩
            rw [WireType.tag_of_ofTag? known]
            exact .of_rest here
        · cases read
  · rintro bytes found rfl
    exact reads_wireType found

/-- Bytes of which not all are in front of a zero byte hold one. -/
private theorem exists_behind_raw {bytes : Bytes}
    (inside : (bytes.takeWhile (· ≠ zeroByte)).length < bytes.length) :
    ∃ later, bytes = bytes.takeWhile (· ≠ zeroByte) ++ zeroByte :: later := by
  have whole := List.takeWhile_append_dropWhile
    (p := fun byte : UInt8 => decide (byte ≠ zeroByte)) (l := bytes)
  cases behind : bytes.dropWhile (fun byte => decide (byte ≠ zeroByte)) with
  | nil =>
      rw [behind, List.append_nil] at whole
      rw [whole] at inside
      exact absurd inside (Nat.lt_irrefl bytes.length)
  | cons next later =>
      have stops := List.head_dropWhile_not (fun byte : UInt8 => decide (byte ≠ zeroByte))
        (l := bytes) (behind ▸ List.cons_ne_nil next later)
      simp only [behind, List.head_cons, decide_eq_false_iff_not, Decidable.not_not] at stops
      rw [behind, stops] at whole
      exact ⟨later, whole.symm⟩

theorem accepts_text :
    text.Accepts fun bytes found =>
      ∃ raw, zeroByte ∉ raw ∧ bytes = raw ++ [zeroByte] ∧ found = Utf8.decode raw := by
  apply accepts_of
  · intro cursor found after read
    unfold text at read
    simp only at read
    split at read
    · next inside =>
        cases read
        rw [← Cursor.rest_length] at inside
        obtain ⟨later, here⟩ := exists_behind_raw inside
        have clean : zeroByte ∉ cursor.rest.takeWhile (· ≠ zeroByte) := by
          intro member
          have kept := List.all_eq_true.mp List.all_takeWhile zeroByte member
          exact of_decide_eq_true kept rfl
        have took : cursor.Took (cursor.rest.takeWhile (· ≠ zeroByte) ++ [zeroByte])
            (cursor.advance (cursor.rest.takeWhile (· ≠ zeroByte) ++ [zeroByte]).length) := by
          rw [List.append_cons] at here
          exact Cursor.Took.of_rest here
        rw [List.length_append, List.length_singleton] at took
        exact ⟨_, took, _, clean, rfl, rfl⟩
    · cases read
  · rintro _ _ ⟨raw, clean, rfl, rfl⟩
    exact reads_rawText clean

theorem accepts_number (kind : NumericKind) :
    (number kind).Accepts fun bytes found =>
      bytes.length = kind.size ∧ found = Number.ofBytes kind bytes := by
  apply ((accepts_take kind.size).map (Number.ofBytes kind)).congr
  intro bytes found
  constructor
  · rintro ⟨_, ⟨sized, rfl⟩, same⟩
    exact ⟨sized, same⟩
  · rintro ⟨sized, same⟩
    exact ⟨bytes, ⟨sized, rfl⟩, same⟩

theorem accepts_fieldCount :
    fieldCount.Accepts fun bytes found =>
      found < 256 ^ countSize ∧ bytes = littleEndian countSize found := by
  apply ((accepts_take countSize).map ofLittleEndian).congr
  intro bytes found
  constructor
  · rintro ⟨taken, ⟨sized, rfl⟩, rfl⟩
    have bound := ofLittleEndian_lt taken
    have same := littleEndian_ofLittleEndian taken
    rw [sized] at bound same
    exact ⟨bound, same.symm⟩
  · rintro ⟨bound, rfl⟩
    refine ⟨_, ⟨littleEndian_length countSize found, rfl⟩, ?_⟩
    rw [ofLittleEndian_littleEndian, Nat.mod_eq_of_lt bound]

end Decoder

end Telemetry
