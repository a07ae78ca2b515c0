/-
Reading back what was written. A decoder reads some bytes as a value if it does
so wherever they stand in a packet and whatever follows them, and takes exactly
these bytes; it rejects them if it then fails, and always in the same way. Both
carry over to sequences, so the laws of a format follow the format's own shape.

Writing is total on items that can be told from what follows them.
-/

import Telemetry.Cursor
import Telemetry.WireItem

namespace Telemetry

/-- A list is split in one way only at the first place where something stands. -/
theorem append_cons_inj {α : Type} {item : α} {front other rest later : List α}
    (clean : item ∉ front) (cleanOther : item ∉ other)
    (same : front ++ item :: rest = other ++ item :: later) : front = other ∧ rest = later := by
  induction front generalizing other with
  | nil =>
      cases other with
      | nil => exact ⟨rfl, (List.cons.inj same).2⟩
      | cons first others =>
          rw [List.nil_append, List.cons_append, List.cons.injEq] at same
          exact absurd (same.1 ▸ List.mem_cons_self) cleanOther
  | cons first fronts ih =>
      cases other with
      | nil =>
          rw [List.nil_append, List.cons_append, List.cons.injEq] at same
          exact absurd (same.1 ▸ List.mem_cons_self) clean
      | cons next others =>
          rw [List.cons_append, List.cons_append, List.cons.injEq] at same
          obtain ⟨fronts, rests⟩ := ih (List.not_mem_of_not_mem_cons clean)
            (List.not_mem_of_not_mem_cons cleanOther) same.2
          exact ⟨by rw [same.1, fronts], rests⟩

namespace WireItem

/-- What a list of items looks like on the wire. -/
def toWire (items : List WireItem) : Bytes := items.flatMap toBytes

def text? : WireItem → Option String
  | .fixed _ => none
  | .text content => some content

/-- The texts among the items, in order. -/
def texts (items : List WireItem) : List String := items.filterMap text?

theorem writable_iff_texts {items : List WireItem} :
    (∀ item ∈ items, item.isWritable = true) ↔ ∀ text ∈ texts items, isPlain text = true := by
  simp only [texts, List.mem_filterMap]
  constructor
  · rintro writable text ⟨item, member, same⟩
    cases item with
    | fixed bytes => cases same
    | text content =>
        cases same
        exact writable _ member
  · intro plain item member
    cases item with
    | fixed bytes => rfl
    | text content => exact plain content ⟨_, member, rfl⟩

@[simp] theorem toWire_append (front back : List WireItem) :
    toWire (front ++ back) = toWire front ++ toWire back :=
  List.flatMap_append

@[simp] theorem toWire_nil : toWire [] = [] := rfl

@[simp] theorem toWire_cons (item : WireItem) (rest : List WireItem) :
    toWire (item :: rest) = item.toBytes ++ toWire rest :=
  List.flatMap_cons

theorem write_of_writable {items : List WireItem}
    (writable : ∀ item ∈ items, item.isWritable = true) :
    write items = (toWire items, .ok ()) := by
  induction items with
  | nil => rfl
  | cons item rest ih =>
      have later := ih fun other member => writable other (List.mem_cons_of_mem item member)
      have first := writable item List.mem_cons_self
      cases item with
      | fixed bytes => rw [write, later, toWire_cons, toBytes]
      | text content =>
          have plain : isPlain content = true := first
          rw [write, if_pos plain, later, toWire_cons, toBytes, List.append_assoc,
            List.singleton_append]

private theorem writable_of_write {items : List WireItem} (written : (write items).2 = .ok ()) :
    ∀ item ∈ items, item.isWritable = true := by
  induction items with
  | nil =>
      intro item member
      cases member
  | cons item rest ih =>
      cases item with
      | fixed bytes =>
          rw [write] at written
          exact List.forall_mem_cons.mpr ⟨rfl, ih written⟩
      | text content =>
          rw [write] at written
          by_cases plain : isPlain content = true
          · rw [if_pos plain] at written
            exact List.forall_mem_cons.mpr ⟨plain, ih written⟩
          · rw [if_neg plain] at written
            cases written

/-- Items are encoded exactly if each can be told from what follows it, and then
one after the other. -/
theorem encode_eq_ok_iff {items : List WireItem} {bytes : Bytes} :
    encode items = .ok bytes ↔
      (∀ item ∈ items, item.isWritable = true) ∧ bytes = toWire items := by
  constructor
  · intro encoded
    cases outcome : (write items).2 with
    | error error =>
        simp [encode, outcome, Except.map] at encoded
    | ok done =>
        have writable := writable_of_write outcome
        refine ⟨writable, ?_⟩
        simp only [encode, write_of_writable writable, Except.map, Except.ok.injEq] at encoded
        exact encoded.symm
  · rintro ⟨writable, rfl⟩
    simp [encode, write_of_writable writable, Except.map]

/-- Writing stops at the first item that cannot be written. -/
private theorem write_of_unwritable {items : List WireItem}
    (unwritable : ¬ ∀ item ∈ items, item.isWritable = true) :
    ∃ front text back, items = front ++ .text text :: back ∧
      (∀ item ∈ front, item.isWritable = true) ∧ isPlain text = false ∧
      (write items).2 = .error (.embeddedNul text) := by
  induction items with
  | nil => exact absurd (fun item member => absurd member List.not_mem_nil) unwritable
  | cons item rest ih =>
      cases first : item.isWritable with
      | false =>
          cases item with
          | fixed bytes => cases first
          | text content =>
              have marked : isPlain content = false := first
              refine ⟨[], content, rest, rfl, fun _ member => absurd member List.not_mem_nil,
                marked, ?_⟩
              rw [write, marked, if_neg Bool.false_ne_true]
      | true =>
          have later : ¬ ∀ item ∈ rest, item.isWritable = true :=
            fun all => unwritable (List.forall_mem_cons.mpr ⟨first, all⟩)
          obtain ⟨front, text, back, parts, writable, marked, fails⟩ := ih later
          refine ⟨item :: front, text, back, ?_, List.forall_mem_cons.mpr ⟨first, writable⟩, marked,
            ?_⟩
          · rw [parts, List.cons_append]
          · cases item with
            | fixed bytes => rw [write, fails]
            | text content =>
                have plain : isPlain content = true := first
                rw [write, if_pos plain, fails]

theorem encode_of_unwritable {items : List WireItem}
    (unwritable : ¬ ∀ item ∈ items, item.isWritable = true) :
    ∃ front text back, items = front ++ .text text :: back ∧
      (∀ item ∈ front, item.isWritable = true) ∧ isPlain text = false ∧
      encode items = .error (.embeddedNul text) := by
  obtain ⟨front, text, back, parts, writable, marked, fails⟩ := write_of_unwritable unwritable
  refine ⟨front, text, back, parts, writable, marked, ?_⟩
  simp [encode, fails, Except.map]

end WireItem

theorem Utf8.zeroByte_notMem_encode {text : String} (plain : WireItem.isPlain text = true) :
    zeroByte ∉ Utf8.encode text := by
  intro member
  rw [WireItem.isPlain, List.contains_iff_mem.mpr member] at plain
  cases plain

namespace Cursor

theorem rest_advance_append {cursor : Cursor} {bytes rest : Bytes}
    (here : cursor.rest = bytes ++ rest) : (cursor.advance bytes.length).rest = rest := by
  rw [advance_rest, here, List.drop_left]

@[simp] theorem rest_start (packet : Bytes) : (start packet).rest = packet := List.drop_zero

theorem remaining_of_rest {cursor : Cursor} {bytes rest : Bytes}
    (here : cursor.rest = bytes ++ rest) : cursor.remaining = bytes.length + rest.length := by
  rw [← rest_length, here, List.length_append]

end Cursor

namespace Decoder

variable {α β : Type}

/-- Wherever these bytes stand, the decoder takes them, and no more, as this value. -/
def Reads (decoder : Decoder α) (bytes : Bytes) (value : α) : Prop :=
  ∀ cursor rest, cursor.rest = bytes ++ rest →
    decoder cursor = (.ok value, cursor.advance bytes.length)

/-- Wherever these bytes stand, the decoder fails on them in this way. -/
def Rejects (decoder : Decoder α) (bytes : Bytes) (error : DecodeError) : Prop :=
  ∀ cursor rest, cursor.rest = bytes ++ rest → (decoder cursor).1 = .error error

theorem reads_pure (value : α) : (pure value : Decoder α).Reads [] value := by
  intro cursor rest here
  rfl

theorem Reads.bind {first : Decoder α} {next : α → Decoder β} {front back : Bytes}
    {value : α} {result : β} (readsFirst : first.Reads front value)
    (readsNext : (next value).Reads back result) :
    (first >>= next).Reads (front ++ back) result := by
  intro cursor rest here
  rw [List.append_assoc] at here
  have beyond := Cursor.rest_advance_append here
  rw [bind_apply, readsFirst cursor (back ++ rest) here]
  simp only
  rw [readsNext (cursor.advance front.length) rest beyond, Cursor.advance_advance,
    List.length_append]

theorem Reads.map {first : Decoder α} {bytes : Bytes} {value : α} (view : α → β)
    (reads : first.Reads bytes value) :
    (first >>= fun found => pure (view found)).Reads bytes (view value) := by
  have both : (first >>= fun found => pure (view found)).Reads (bytes ++ []) (view value) :=
    reads.bind (reads_pure (view value))
  rwa [List.append_nil] at both

theorem rejects_fail (bytes : Bytes) (error : DecodeError) :
    (fail error : Decoder α).Rejects bytes error := by
  intro cursor rest here
  rfl

theorem Rejects.bind {first : Decoder α} {front : Bytes} {error : DecodeError}
    (rejects : first.Rejects front error) (next : α → Decoder β) (back : Bytes) :
    (first >>= next).Rejects (front ++ back) error := by
  intro cursor rest here
  rw [List.append_assoc] at here
  have failed := rejects cursor (back ++ rest) here
  rw [bind_apply]
  split
  · next value after same =>
      rw [same] at failed
      cases failed
  · next found after same =>
      rw [same] at failed
      exact congrArg Except.error (Except.error.inj failed)

theorem Reads.rejects_bind {first : Decoder α} {next : α → Decoder β} {front back : Bytes}
    {value : α} {error : DecodeError} (reads : first.Reads front value)
    (rejects : (next value).Rejects back error) :
    (first >>= next).Rejects (front ++ back) error := by
  intro cursor rest here
  rw [List.append_assoc] at here
  have beyond := Cursor.rest_advance_append here
  rw [bind_apply, reads cursor (back ++ rest) here]
  exact rejects (cursor.advance front.length) rest beyond

theorem reads_take (bytes : Bytes) : (take bytes.length).Reads bytes bytes := by
  intro cursor rest here
  have enough := Cursor.remaining_of_rest here
  rw [take, if_neg (by omega), here, List.take_left]

theorem reads_byte (value : UInt8) : byte.Reads [value] value := by
  intro cursor rest here
  rw [byte, here]
  rfl

theorem reads_wireType (wireType : WireType) :
    Decoder.wireType.Reads [wireType.tag] wireType := by
  intro cursor rest here
  rw [Decoder.wireType, reads_byte wireType.tag cursor rest here]
  simp

/-- A text is read up to its zero byte, whatever bytes it is made of. -/
theorem reads_rawText {raw : Bytes} (clean : zeroByte ∉ raw) :
    text.Reads (raw ++ [zeroByte]) (Utf8.decode raw) := by
  intro cursor rest here
  have enough := Cursor.remaining_of_rest here
  have length : (raw ++ [zeroByte]).length = raw.length + 1 := by
    rw [List.length_append, List.length_singleton]
  rw [List.append_assoc, List.singleton_append] at here
  have nonzero : ∀ byte ∈ raw, (decide (byte ≠ zeroByte)) = true :=
    fun byte member => decide_eq_true fun same => clean (same ▸ member)
  have front : cursor.rest.takeWhile (· ≠ zeroByte) = raw := by
    rw [here, List.takeWhile_append_of_pos nonzero,
      List.takeWhile_cons_of_neg (by decide), List.append_nil]
  rw [text, front, if_pos (by omega), length]

theorem reads_text {content : String} (plain : WireItem.isPlain content = true) :
    text.Reads (WireItem.text content).toBytes content := by
  have read := reads_rawText (Utf8.zeroByte_notMem_encode plain)
  rwa [Utf8.decode_encode] at read

theorem reads_number (value : Number) : (number value.kind).Reads value.toBytes value := by
  have taken := reads_take value.toBytes
  rw [Number.toBytes_length] at taken
  have read := taken.map (Number.ofBytes value.kind)
  rwa [Number.ofBytes_toBytes] at read

theorem reads_fieldCount {count : Nat} (bound : count < 256 ^ countSize) :
    fieldCount.Reads (littleEndian countSize count) count := by
  have taken := reads_take (littleEndian countSize count)
  rw [littleEndian_length] at taken
  have read := taken.map ofLittleEndian
  rwa [ofLittleEndian_littleEndian, Nat.mod_eq_of_lt bound] at read

theorem reads_times_zero (decoder : Decoder α) : (decoder.times 0).Reads [] [] :=
  reads_pure []

theorem reads_times_succ {decoder : Decoder α} {count : Nat} {front back : Bytes}
    {value : α} {values : List α} (first : decoder.Reads front value)
    (later : (decoder.times count).Reads back values) :
    (decoder.times (count + 1)).Reads (front ++ back) (value :: values) :=
  first.bind (later.map (value :: ·))

end Decoder

end Telemetry
