/-
Bytes that are missing. A decoder consumes some bytes if it reads them wherever they stand
and cannot do without any of them: where only a beginning of them is left of a packet, it
fails because it wanted more than remained, and says so of the place where it stopped.

This carries over to sequences. The beginning that is left ends in one of the parts, the
parts before it are read as ever, and there the sequence stops. A single read that fails has
not moved, whatever bytes there are.
-/

import Mathlib.Data.List.TakeWhile
import Telemetry.Proofs.Wire

namespace Telemetry

/-- Reading stopped in this packet at a place where more was wanted than remained. -/
structure Shortage {α : Type} (packet : Bytes) (outcome : Except DecodeError α) (stop : Cursor) :
    Prop where
  within : stop.packet = packet
  wanting : ∃ wanted, outcome = .error (.outOfBounds wanted stop.position packet.length) ∧
    stop.remaining < wanted

namespace Decoder

variable {α β : Type}

/-- Where only a beginning of these bytes is left, the decoder misses the others. -/
def Needs (decoder : Decoder α) (bytes : Bytes) : Prop :=
  ∀ cursor missing, missing ≠ [] → cursor.rest ++ missing = bytes →
    Shortage cursor.packet (decoder cursor).1 (decoder cursor).2

structure Consumes (decoder : Decoder α) (bytes : Bytes) (value : α) : Prop where
  reads : decoder.Reads bytes value
  needs : decoder.Needs bytes

theorem needs_nil (decoder : Decoder α) : decoder.Needs [] := by
  intro cursor missing more here
  exact absurd (List.append_eq_nil_iff.mp here).2 more

theorem Needs.bind {first : Decoder α} {next : α → Decoder β} {front back : Bytes} {value : α}
    (consumes : first.Consumes front value) (needs : (next value).Needs back) :
    (first >>= next).Needs (front ++ back) := by
  intro cursor missing more here
  rw [bind_apply]
  by_cases inside : cursor.rest.length < front.length
  · -- The bytes end in the first part.
    obtain ⟨rest, split⟩ : cursor.rest <+: front :=
      List.prefix_of_prefix_length_le ⟨missing, here⟩ (List.prefix_append front back)
        (Nat.le_of_lt inside)
    have left : rest ≠ [] := by
      rintro rfl
      rw [List.append_nil] at split
      exact Nat.lt_irrefl _ (split ▸ inside)
    obtain ⟨within, wanted, failed, short⟩ := consumes.needs cursor rest left split
    split
    · next found after same =>
        rw [same] at failed
        cases failed
    · next error after same =>
        rw [same] at within failed short
        exact ⟨within, wanted, congrArg Except.error (Except.error.inj failed), short⟩
  · -- The first part is read, and the bytes end in the second.
    obtain ⟨rest, split⟩ : front <+: cursor.rest :=
      List.prefix_of_prefix_length_le (List.prefix_append front back) ⟨missing, here⟩
        (Nat.le_of_not_lt inside)
    rw [← split, List.append_assoc] at here
    have behind := List.append_cancel_left here
    rw [consumes.reads cursor rest split.symm]
    refine needs (cursor.advance front.length) missing more ?_
    rw [Cursor.rest_advance_append split.symm, behind]

theorem Consumes.bind {first : Decoder α} {next : α → Decoder β} {front back : Bytes} {value : α}
    {result : β} (consumes : first.Consumes front value)
    (further : (next value).Consumes back result) :
    (first >>= next).Consumes (front ++ back) result :=
  ⟨consumes.reads.bind further.reads, .bind consumes further.needs⟩

theorem Consumes.map {first : Decoder α} {bytes : Bytes} {value : α} (view : α → β)
    (consumes : first.Consumes bytes value) :
    (first >>= fun found => pure (view found)).Consumes bytes (view value) := by
  have needs : (first >>= fun found => pure (view found)).Needs (bytes ++ []) :=
    .bind consumes (needs_nil (pure (view value)))
  rw [List.append_nil] at needs
  exact ⟨consumes.reads.map view, needs⟩

private theorem remaining_lt_of_rest {cursor : Cursor} {missing bytes : Bytes} (more : missing ≠ [])
    (here : cursor.rest ++ missing = bytes) : cursor.remaining < bytes.length := by
  have positive := List.length_pos_iff.mpr more
  rw [← here, List.length_append, Cursor.rest_length]
  omega

private theorem consumes_take (bytes : Bytes) : (take bytes.length).Consumes bytes bytes := by
  refine ⟨reads_take bytes, ?_⟩
  intro cursor missing more here
  have short := remaining_lt_of_rest more here
  rw [take, if_pos short]
  exact ⟨rfl, bytes.length, rfl, short⟩

theorem consumes_wireType (wireType : WireType) :
    Decoder.wireType.Consumes [wireType.tag] wireType := by
  refine ⟨reads_wireType wireType, ?_⟩
  intro cursor missing more here
  have short := remaining_lt_of_rest more here
  have nothing : cursor.rest = [] := by
    rw [← List.length_eq_zero_iff, Cursor.rest_length]
    exact Nat.lt_one_iff.mp short
  have failed : Decoder.wireType cursor = (.error (cursor.outOfBounds 1), cursor) := by
    rw [Decoder.wireType, byte, nothing]
  rw [failed]
  exact ⟨rfl, 1, rfl, short⟩

theorem consumes_rawText {raw : Bytes} (clean : zeroByte ∉ raw) :
    text.Consumes (raw ++ [zeroByte]) (Utf8.decode raw) := by
  refine ⟨reads_rawText clean, ?_⟩
  intro cursor missing more here
  -- What is left ends in front of the zero byte.
  have short := remaining_lt_of_rest more here
  rw [List.length_append, List.length_singleton, ← Cursor.rest_length] at short
  have begins : cursor.rest <+: raw :=
    List.prefix_of_prefix_length_le ⟨missing, here⟩ (List.prefix_append raw [zeroByte])
      (Nat.le_of_lt_succ short)
  have whole : cursor.rest.takeWhile (· ≠ zeroByte) = cursor.rest := by
    apply List.takeWhile_eq_self_iff.mpr
    intro byte member
    exact decide_eq_true fun same => clean (begins.subset (same ▸ member))
  have ended : ¬ (cursor.rest.takeWhile (· ≠ zeroByte)).length < cursor.remaining := by
    rw [whole, Cursor.rest_length]
    exact Nat.lt_irrefl cursor.remaining
  rw [text, if_neg ended]
  exact ⟨rfl, cursor.remaining + 1, rfl, Nat.lt_succ_self cursor.remaining⟩

theorem consumes_number {kind : NumericKind} {bytes : Bytes} (sized : bytes.length = kind.size) :
    (number kind).Consumes bytes (Number.ofBytes kind bytes) := by
  have taken := consumes_take bytes
  rw [sized] at taken
  exact taken.map (Number.ofBytes kind)

theorem consumes_fieldCount {count : Nat} (bound : count < 256 ^ countSize) :
    fieldCount.Consumes (littleEndian countSize count) count := by
  have taken := consumes_take (littleEndian countSize count)
  rw [littleEndian_length] at taken
  have counted := taken.map ofLittleEndian
  rwa [ofLittleEndian_littleEndian, Nat.mod_eq_of_lt bound] at counted

/-- A read that fails stays where it is. -/
def Stays (decoder : Decoder α) : Prop :=
  ∀ cursor error after, decoder cursor = (.error error, after) → after = cursor

/-- A read that fails stays where it is, and fails because it wants more than remains. -/
def Waits (decoder : Decoder α) : Prop :=
  ∀ cursor error after, decoder cursor = (.error error, after) →
    after = cursor ∧ ∃ wanted, error = cursor.outOfBounds wanted ∧ cursor.remaining < wanted

/-- A read that fails stays where it is, and wants so many bytes, which is more than remain. -/
def Wants (decoder : Decoder α) (wanted : Cursor → Nat) : Prop :=
  ∀ cursor error after, decoder cursor = (.error error, after) →
    after = cursor ∧ error = cursor.outOfBounds (wanted cursor) ∧
      cursor.remaining < wanted cursor

theorem Wants.waits {decoder : Decoder α} {wanted : Cursor → Nat} (wants : decoder.Wants wanted) :
    decoder.Waits := by
  intro cursor error after failed
  obtain ⟨still, reported, short⟩ := wants cursor error after failed
  exact ⟨still, wanted cursor, reported, short⟩

theorem Wants.stays {decoder : Decoder α} {wanted : Cursor → Nat} (wants : decoder.Wants wanted) :
    decoder.Stays :=
  fun cursor error after failed => (wants cursor error after failed).1

/-- What is made of what was read fails only where the reading does. -/
theorem map_fails {first : Decoder α} {view : α → β} {cursor after : Cursor} {error : DecodeError}
    (failed : (first >>= fun found => pure (view found)) cursor = (.error error, after)) :
    first cursor = (.error error, after) := by
  rw [bind_apply] at failed
  split at failed
  · cases failed
  · next same =>
      cases failed
      exact same

theorem Wants.map {first : Decoder α} {wanted : Cursor → Nat} (wants : first.Wants wanted)
    (view : α → β) : (first >>= fun found => pure (view found)).Wants wanted :=
  fun cursor error after failed => wants cursor error after (map_fails failed)

theorem wants_take (count : Nat) : (take count).Wants fun _ => count := by
  intro cursor error after failed
  unfold take at failed
  split at failed
  · next short =>
      cases failed
      exact ⟨rfl, rfl, short⟩
  · cases failed

theorem wants_byte : byte.Wants fun _ => 1 := by
  intro cursor error after failed
  unfold byte at failed
  cases here : cursor.rest with
  | nil =>
      rw [here] at failed
      cases failed
      have nothing : cursor.remaining = 0 := by
        rw [← cursor.rest_length, here, List.length_nil]
      exact ⟨rfl, rfl, nothing ▸ Nat.one_pos⟩
  | cons first rest =>
      rw [here] at failed
      cases failed

theorem wants_text : text.Wants fun cursor => cursor.remaining + 1 := by
  intro cursor error after failed
  unfold text at failed
  simp only at failed
  split at failed
  · cases failed
  · cases failed
    exact ⟨rfl, rfl, Nat.lt_succ_self cursor.remaining⟩

theorem wants_number (kind : NumericKind) : (number kind).Wants fun _ => kind.size :=
  (wants_take kind.size).map (Number.ofBytes kind)

theorem wants_fieldCount : fieldCount.Wants fun _ => countSize :=
  (wants_take countSize).map ofLittleEndian

/-- A byte that is no tag is left where it is, too. -/
theorem wireType_fails {cursor after : Cursor} {error : DecodeError}
    (failed : Decoder.wireType cursor = (.error error, after)) :
    after = cursor ∧
      ((error = cursor.outOfBounds 1 ∧ cursor.remaining < 1) ∨
        ∃ tag rest, cursor.rest = tag :: rest ∧ WireType.ofTag? tag = none ∧
          error = .unknownType tag) := by
  unfold Decoder.wireType at failed
  cases read : byte cursor with
  | mk outcome behind =>
      rw [read] at failed
      cases outcome with
      | error reason =>
          cases failed
          obtain ⟨still, reported, short⟩ := wants_byte cursor error after read
          exact ⟨still, .inl ⟨reported, short⟩⟩
      | ok tag =>
          simp only at failed
          split at failed
          · cases failed
          · next free =>
              cases failed
              unfold byte at read
              cases here : cursor.rest with
              | nil =>
                  rw [here] at read
                  cases read
              | cons first rest =>
                  rw [here] at read
                  cases read
                  exact ⟨rfl, .inr ⟨tag, rest, rfl, free, rfl⟩⟩

theorem stays_wireType : Decoder.wireType.Stays :=
  fun _ _ _ failed => (wireType_fails failed).1

/-- Of a packet that was cut off inside the bytes, the decoder misses the others. -/
theorem Needs.cut {decoder : Decoder α} {bytes : Bytes} (needs : decoder.Needs bytes)
    {cursor : Cursor} {rest : Bytes} (here : cursor.rest = bytes ++ rest) {size : Nat}
    (reached : cursor.position ≤ size) (short : size < cursor.position + bytes.length) :
    (cursor.packet.take size).length = size ∧
      Shortage (cursor.packet.take size)
        (decoder ⟨cursor.packet.take size, cursor.position⟩).1
        (decoder ⟨cursor.packet.take size, cursor.position⟩).2 := by
  have whole := Cursor.remaining_of_rest here
  unfold Cursor.remaining at whole
  have left : (⟨cursor.packet.take size, cursor.position⟩ : Cursor).rest =
      bytes.take (size - cursor.position) := by
    have cutOff : (cursor.packet.take size).drop cursor.position =
        cursor.rest.take (size - cursor.position) := List.drop_take
    rw [here, List.take_append_of_le_length (by omega)] at cutOff
    exact cutOff
  refine ⟨?_, needs ⟨cursor.packet.take size, cursor.position⟩
    (bytes.drop (size - cursor.position)) ?_ ?_⟩
  · rw [List.length_take]
    omega
  · rw [← List.length_pos_iff, List.length_drop]
    omega
  · rw [left, List.take_append_drop]

end Decoder

end Telemetry
