/-
Reads from any position. Where the length of a packet leaves room for one word more, no read is
stuck, wherever it starts: what is added up and sliced has been compared with what remains. So
words make no difference to what is read.

A read takes the bytes in front of it that have its form, and nothing but these. If none have,
it stays where it is and says why. One read after the other never leaves the packet, unless it
began behind its end, and then it stays there.
-/

import Telemetry.Cursor.Word
import Telemetry.Proofs.Wire.Acceptance
import Telemetry.Proofs.Wire.Shortage

namespace Telemetry

namespace Word

private theorem add?_eq {left right : Nat} (fits : left + right < limit) :
    add? left right = some (left + right) := if_pos fits

private theorem slice?_eq {bytes : Bytes} {start stop : Nat} (ordered : start ≤ stop)
    (inside : stop ≤ bytes.length) :
    slice? bytes start stop = some ((bytes.drop start).take (stop - start)) :=
  if_pos ⟨ordered, inside⟩

private theorem slice?_whole {bytes : Bytes} {size : Nat} (sized : bytes.length = size) :
    slice? bytes 0 size = some bytes := by
  rw [slice?_eq (Nat.zero_le size) (Nat.le_of_eq sized.symm), List.drop_zero, Nat.sub_zero,
    ← sized, List.take_length]

end Word

namespace WordDecoder

open Word

variable {α β : Type}

/-- Where there is room in words, the decoder is not stuck and does what this one does. -/
def Follows (words : WordDecoder α) (decoder : Decoder α) : Prop :=
  ∀ cursor : Cursor, cursor.packet.length + 1 < limit → words cursor = some (decoder cursor)

/-- Nothing is taken of no bytes, since a slice of them behind the end would be outside. -/
private theorem follows_take {count : Nat} (positive : 0 < count) :
    (take? count).Follows (Decoder.take count) := by
  intro cursor room
  unfold take? Decoder.take
  by_cases short : cursor.remaining < count
  · rw [if_pos short, if_pos short]
  · have inside : cursor.position + count ≤ cursor.packet.length := by
      unfold Cursor.remaining at short
      omega
    rw [if_neg short, if_neg short, add?_eq (by omega)]
    simp only [Option.bind_eq_bind, Option.bind_some]
    rw [slice?_eq (Nat.le_add_right _ _) inside, Nat.add_sub_cancel_left]
    rfl

private theorem follows_byte : byte?.Follows Decoder.byte := by
  intro cursor room
  rw [byte?, follows_take Nat.one_pos cursor room]
  unfold Decoder.take Decoder.byte
  rw [← Cursor.rest_length]
  cases cursor.rest <;> rfl

private theorem follows_wireType : wireType?.Follows Decoder.wireType := by
  intro cursor room
  rw [wireType?, follows_byte cursor room]
  unfold Decoder.wireType Decoder.byte
  cases cursor.rest with
  | nil => rfl
  | cons tag rest =>
      simp only [Option.bind_eq_bind, Option.bind_some, ReadResult.andThen?]
      cases WireType.ofTag? tag <;> rfl

/-- The first place of a byte, if it stands anywhere, is behind all that differ from it. -/
private theorem idxOf?_eq (bytes : Bytes) (byte : UInt8) :
    bytes.idxOf? byte =
      if (bytes.takeWhile (· ≠ byte)).length < bytes.length
      then some (bytes.takeWhile (· ≠ byte)).length else none := by
  induction bytes with
  | nil => rfl
  | cons first rest ih =>
      rw [List.idxOf?_cons, ih]
      by_cases same : first = byte
      · subst same
        simp
      · simp [same]

/-- A position behind the end is moved back to it before the rest is sliced off. -/
private theorem slice?_rest (cursor : Cursor) :
    slice? cursor.packet (min cursor.position cursor.packet.length) cursor.packet.length =
      some cursor.rest := by
  rw [slice?_eq (Nat.min_le_right _ _) (Nat.le_refl _), Cursor.rest]
  rcases Nat.le_total cursor.position cursor.packet.length with inside | beyond
  · rw [Nat.min_eq_left inside, List.take_of_length_le (Nat.le_of_eq List.length_drop)]
  · rw [Nat.min_eq_right beyond, Nat.sub_self, List.take_zero, List.drop_of_length_le beyond]

private theorem follows_text : text?.Follows Decoder.text := by
  intro cursor room
  have whole := cursor.rest_length
  unfold Cursor.remaining at whole
  have within := (List.takeWhile_prefix (fun byte => decide (byte ≠ zeroByte))
    (l := cursor.rest)).length_le
  unfold text? Decoder.text
  simp only [slice?_rest, idxOf?_eq, Option.bind_eq_bind, Option.bind_some, ← cursor.rest_length]
  generalize raw : cursor.rest.takeWhile (fun byte => decide (byte ≠ zeroByte)) = front at within ⊢
  by_cases ended : front.length < cursor.rest.length
  · have enough : ¬ cursor.remaining < front.length + 1 := by
      rw [← cursor.rest_length]
      omega
    have taken : cursor.rest.take front.length = front := by
      rw [← raw, ← List.prefix_iff_eq_take.mp (List.takeWhile_prefix _)]
    simp only [if_pos ended, add?_eq (show front.length + 1 < limit by omega), Option.bind_some,
      follows_take (Nat.succ_pos _) cursor room, Decoder.take, if_neg enough, ReadResult.andThen?]
    rw [slice?_eq (Nat.zero_le _) (by rw [List.length_take]; omega), List.drop_zero, Nat.sub_zero,
      List.take_take, Nat.min_eq_left (Nat.le_succ _), taken]
    rfl
  · simp only [if_neg ended, add?_eq (show cursor.rest.length + 1 < limit by omega),
      Option.bind_some]

private theorem follows_fixed {size : Nat} (positive : 0 < size) (view : Bytes → α) :
    (fixed? size view).Follows (do pure (view (← Decoder.take size))) := by
  intro cursor room
  rw [fixed?, follows_take positive cursor room, Decoder.bind_apply]
  cases taken : Decoder.take size cursor with
  | mk outcome after =>
      cases outcome with
      | error error => rfl
      | ok bytes =>
          obtain ⟨found, _, sized, same⟩ := (Decoder.accepts_take size cursor bytes after).mp taken
          simp only [Option.bind_eq_bind, Option.bind_some, ReadResult.andThen?]
          rw [slice?_whole (same ▸ sized)]
          rfl

private theorem Follows.map {words : WordDecoder α} {decoder : Decoder α}
    (follows : words.Follows decoder)
    (view : α → β) : (words.map view).Follows (do pure (view (← decoder))) := by
  intro cursor room
  rw [WordDecoder.map, follows cursor room, Decoder.bind_apply]
  cases decoder cursor with
  | mk outcome after => cases outcome <;> rfl

end WordDecoder

namespace Read

/-- The bytes that a read takes, and what it finds in them. -/
inductive Form : Read → Bytes → Found → Prop where
  | byte (value : UInt8) : Form .byte [value] (.byte value)
  | wireType (value : WireType) : Form .wireType [value.tag] (.wireType value)
  | text {raw : Bytes} (clean : zeroByte ∉ raw) :
      Form .text (raw ++ [zeroByte]) (.text (Utf8.decode raw))
  | number (value : Number) : Form (.number value.kind) value.toBytes (.number value)
  | fieldCount {count : Nat} (bound : count < 256 ^ Decoder.countSize) :
      Form .fieldCount (littleEndian Decoder.countSize count) (.fieldCount count)

/-- How many bytes a read asks for where it finds too few. -/
def wanted (read : Read) (here : Cursor) : Nat :=
  match read with
  | .byte => 1
  | .wireType => 1
  | .text => here.remaining + 1
  | .number kind => kind.size
  | .fieldCount => Decoder.countSize

/-- What one read may answer. -/
inductive Step (read : Read) (before : Cursor) : ReadResult Found → Prop where
  /-- It has taken the bytes in front of it. -/
  | success {bytes : Bytes} {found : Found} {after : Cursor} (form : read.Form bytes found)
      (took : before.Took bytes after) : Step read before (.ok found, after)
  | unknown {tag : UInt8} {rest : Bytes} (typed : read = .wireType)
      (here : before.rest = tag :: rest) (free : ∀ wireType : WireType, wireType.tag ≠ tag) :
      Step read before (.error (.unknownType tag), before)
  | short (missing : ∀ bytes found, read.Form bytes found → ¬ bytes <+: before.rest)
      (wanting : before.remaining < read.wanted before) :
      Step read before
        (.error (.outOfBounds (read.wanted before) before.position before.packet.length), before)

/-- Answers to one read after the other. -/
inductive Steps : Cursor → List Read → List (ReadResult Found) → Prop where
  | nothing (here : Cursor) : Steps here [] []
  | more {here : Cursor} {read : Read} {answer : ReadResult Found} {rest : List Read}
      {later : List (ReadResult Found)} (step : read.Step here answer)
      (further : Steps answer.2 rest later) : Steps here (read :: rest) (answer :: later)

private theorem accepts_decoder (read : Read) : read.decoder.Accepts read.Form := by
  cases read with
  | byte =>
      apply (Decoder.accepts_byte.map Found.byte).congr
      intro bytes result
      constructor
      · rintro ⟨value, rfl, rfl⟩
        exact .byte value
      · intro form
        cases form with
        | byte value => exact ⟨value, rfl, rfl⟩
  | wireType =>
      apply (Decoder.accepts_wireType.map Found.wireType).congr
      intro bytes result
      constructor
      · rintro ⟨value, rfl, rfl⟩
        exact .wireType value
      · intro form
        cases form with
        | wireType value => exact ⟨value, rfl, rfl⟩
  | text =>
      apply (Decoder.accepts_text.map Found.text).congr
      intro bytes result
      constructor
      · rintro ⟨_, ⟨raw, clean, rfl, rfl⟩, rfl⟩
        exact .text clean
      · intro form
        cases form with
        | text clean => exact ⟨_, ⟨_, clean, rfl, rfl⟩, rfl⟩
  | number kind =>
      apply ((Decoder.accepts_number kind).map Found.number).congr
      intro bytes result
      constructor
      · rintro ⟨_, ⟨sized, rfl⟩, rfl⟩
        have form := Form.number (Number.ofBytes kind bytes)
        rwa [Number.toBytes_ofBytes sized] at form
      · intro form
        cases form with
        | number value => exact ⟨value, ⟨value.toBytes_length, value.ofBytes_toBytes.symm⟩, rfl⟩
  | fieldCount =>
      apply (Decoder.accepts_fieldCount.map Found.fieldCount).congr
      intro bytes result
      constructor
      · rintro ⟨count, ⟨bound, rfl⟩, rfl⟩
        exact .fieldCount bound
      · intro form
        cases form with
        | fieldCount bound => exact ⟨_, ⟨bound, rfl⟩, rfl⟩

theorem follows_decoder (read : Read) : read.wordDecoder.Follows read.decoder := by
  cases read with
  | byte => exact WordDecoder.follows_byte.map Found.byte
  | wireType => exact WordDecoder.follows_wireType.map Found.wireType
  | text => exact WordDecoder.follows_text.map Found.text
  | number kind =>
      have positive : 0 < kind.size := by cases kind <;> decide
      exact (WordDecoder.follows_fixed positive (Number.ofBytes kind)).map Found.number
  | fieldCount =>
      have positive : 0 < Decoder.countSize := by decide
      exact (WordDecoder.follows_fixed positive ofLittleEndian).map Found.fieldCount

private theorem wants_decoder {read : Read} (untyped : read ≠ .wireType) :
    read.decoder.Wants read.wanted := by
  cases read with
  | byte => exact Decoder.wants_byte.map Found.byte
  | wireType => exact absurd rfl untyped
  | text => exact Decoder.wants_text.map Found.text
  | number kind => exact (Decoder.wants_number kind).map Found.number
  | fieldCount => exact Decoder.wants_fieldCount.map Found.fieldCount

private theorem step (read : Read) (cursor : Cursor) : read.Step cursor (read.decoder cursor) := by
  cases answered : read.decoder cursor with
  | mk outcome after =>
      cases outcome with
      | ok found =>
          obtain ⟨bytes, took, form⟩ := (accepts_decoder read cursor found after).mp answered
          exact .success form took
      | error error =>
          have missing : ∀ bytes found, read.Form bytes found → ¬ bytes <+: cursor.rest := by
            rintro bytes found form ⟨rest, here⟩
            rw [(accepts_decoder read).reads form cursor rest here.symm] at answered
            cases answered
          by_cases typed : read = .wireType
          · subst typed
            have failed := Decoder.wireType_fails (Decoder.map_fails answered)
            obtain ⟨rfl, ⟨rfl, short⟩ | ⟨tag, rest, here, free, rfl⟩⟩ := failed
            · exact .short missing short
            · refine .unknown rfl here ?_
              rintro wireType rfl
              rw [WireType.ofTag?_tag] at free
              cases free
          · obtain ⟨rfl, rfl, short⟩ := wants_decoder typed cursor error after answered
            exact .short missing short

/-- Where a read may leave the cursor. -/
structure Within (before after : Cursor) : Prop where
  packet : after.packet = before.packet
  low : before.position ≤ after.position
  high : after.position ≤ max before.position before.packet.length

private theorem Within.refl (cursor : Cursor) : Within cursor cursor :=
  ⟨rfl, Nat.le_refl _, Nat.le_max_left _ _⟩

private theorem Within.trans {before middle after : Cursor} (first : Within before middle)
    (second : Within middle after) : Within before after := by
  have high := second.high
  rw [first.packet] at high
  refine ⟨second.packet.trans first.packet, Nat.le_trans first.low second.low, ?_⟩
  exact Nat.le_trans high (Nat.max_le.mpr ⟨first.high, Nat.le_max_right _ _⟩)

private theorem Step.within {read : Read} {before : Cursor} {answer : ReadResult Found}
    (step : read.Step before answer) : Within before answer.2 := by
  cases step with
  | success form took =>
      have inside := Cursor.remaining_of_rest took.here
      unfold Cursor.remaining at inside
      rw [took.place]
      refine ⟨rfl, Nat.le_add_right _ _, ?_⟩
      simp only [Cursor.advance]
      omega
  | unknown typed here free => exact .refl before
  | short missing wanting => exact .refl before

private theorem Steps.within {here : Cursor} {reads : List Read} {answers : List (ReadResult Found)}
    (steps : Steps here reads answers) : ∀ answer ∈ answers, Within here answer.2 := by
  induction steps with
  | nothing here =>
      intro answer member
      cases member
  | more step further ih =>
      rw [List.forall_mem_cons]
      exact ⟨step.within, fun answer member => step.within.trans (ih answer member)⟩

theorem steps_run (reads : List Read) (cursor : Cursor) :
    Steps cursor reads (run reads cursor) := by
  induction reads generalizing cursor with
  | nil => exact .nothing cursor
  | cons read rest ih => exact .more (read.step cursor) (ih (read.decoder cursor).2)

theorem follows_run (reads : List Read) (cursor : Cursor)
    (room : cursor.packet.length + 1 < Word.limit) :
    run? reads cursor = some (run reads cursor) := by
  induction reads generalizing cursor with
  | nil => rfl
  | cons read rest ih =>
      have same := (read.step cursor).within.packet
      rw [run?, follows_decoder read cursor room, run]
      simp only [Option.bind_eq_bind, Option.bind_some]
      rw [ih (read.decoder cursor).2 (by rw [same]; exact room)]
      rfl

/-- Whatever the packet, the position and the reads: with words no read is stuck, and the
answers are those without. Each read takes the bytes in front of it that have its form, or stays
where it is and says what it wanted or which byte is no tag. None leaves the packet, nor goes on
behind its end. -/
theorem run_safe (packet : Bytes) (start : Nat) (reads : List Read)
    (room : packet.length + 1 < Word.limit) :
    run? reads ⟨packet, start⟩ = some (run reads ⟨packet, start⟩) ∧
    Steps ⟨packet, start⟩ reads (run reads ⟨packet, start⟩) ∧
    ∀ answer ∈ run reads ⟨packet, start⟩,
      answer.2.packet = packet ∧ start ≤ answer.2.position ∧
        answer.2.position ≤ max start packet.length := by
  have steps := steps_run reads ⟨packet, start⟩
  refine ⟨follows_run reads ⟨packet, start⟩ room, steps, ?_⟩
  intro answer member
  have within := steps.within answer member
  exact ⟨within.packet, within.low, within.high⟩

/-- A tag and a text are read, the byte behind them is no tag, and two more are not there. Behind
the end there is nothing, and that is said of the place itself. -/
theorem run_safe_behind_end :
    let packet : Bytes := [1, 0x61, 0, 2]
    packet.length + 1 < Word.limit ∧
      run? [.wireType, .text, .wireType, .number .uint16, .byte, .text] ⟨packet, 0⟩ =
        some [(.ok (.wireType .text), ⟨packet, 1⟩), (.ok (.text "a"), ⟨packet, 3⟩),
          (.error (.unknownType 2), ⟨packet, 3⟩), (.error (.outOfBounds 2 3 4), ⟨packet, 3⟩),
          (.ok (.byte 2), ⟨packet, 4⟩), (.error (.outOfBounds 1 4 4), ⟨packet, 4⟩)] ∧
      run? [.text, .byte] ⟨packet, 9⟩ =
        some [(.error (.outOfBounds 1 9 4), ⟨packet, 9⟩),
          (.error (.outOfBounds 1 9 4), ⟨packet, 9⟩)] := by
  intro packet
  have room : packet.length + 1 < Word.limit := by decide
  have decoded : Utf8.decode [0x61] = "a" := Utf8.decode_encode "a"
  refine ⟨room, ?_, ?_⟩
  · rw [(run_safe packet 0 _ room).1, ← decoded]
    dsimp [packet]
    rfl
  · rw [(run_safe packet 9 _ room).1]
    rfl

end Read

end Telemetry
