/-
Reading a packet from front to back. A cursor is a packet and a position in it,
which may lie past the end. A decoder takes a cursor and gives a result or an
error, and in both cases the cursor to go on from: a single read that fails
leaves it where it was, a sequence of reads leaves it where the first failure
left it.
-/

import Telemetry.Error
import Telemetry.Text.Utf8
import Telemetry.WireType

namespace Telemetry

structure Cursor where
  packet : Bytes
  position : Nat
  deriving DecidableEq, Repr

namespace Cursor

def start (packet : Bytes) : Cursor := ⟨packet, 0⟩

def rest (cursor : Cursor) : Bytes := cursor.packet.drop cursor.position

def remaining (cursor : Cursor) : Nat := cursor.packet.length - cursor.position

def advance (cursor : Cursor) (count : Nat) : Cursor :=
  { cursor with position := cursor.position + count }

@[simp]
theorem advance_packet (cursor : Cursor) (count : Nat) :
    (cursor.advance count).packet = cursor.packet :=
  rfl

@[simp]
theorem advance_position (cursor : Cursor) (count : Nat) :
    (cursor.advance count).position = cursor.position + count :=
  rfl

@[simp]
theorem advance_advance (cursor : Cursor) (first second : Nat) :
    (cursor.advance first).advance second = cursor.advance (first + second) := by
  simp [advance, Nat.add_assoc]

/-- What a read of `wanted` bytes from here fails with. -/
def outOfBounds (cursor : Cursor) (wanted : Nat) : DecodeError :=
  .outOfBounds wanted cursor.position cursor.packet.length

@[simp] theorem rest_length (cursor : Cursor) : cursor.rest.length = cursor.remaining :=
  List.length_drop

@[simp] theorem advance_rest (cursor : Cursor) (count : Nat) :
    (cursor.advance count).rest = cursor.rest.drop count := by
  simp [rest]

end Cursor

def Decoder (α : Type) : Type := Cursor → Except DecodeError α × Cursor

namespace Decoder

def succeed {α : Type} (value : α) : Decoder α := fun cursor => (.ok value, cursor)

def fail {α : Type} (error : DecodeError) : Decoder α := fun cursor => (.error error, cursor)

def andThen {α β : Type} (first : Decoder α) (next : α → Decoder β) : Decoder β :=
  fun cursor =>
    match first cursor with
    | (.ok value, after) => next value after
    | (.error error, after) => (.error error, after)

instance : Monad Decoder where
  pure := succeed
  bind := andThen

/-- A sequence goes on from where its first read ended, and ends there if that
read failed. -/
theorem bind_apply {α β : Type} (first : Decoder α) (next : α → Decoder β) (cursor : Cursor) :
    (first >>= next) cursor =
      match first cursor with
      | (.ok value, after) => next value after
      | (.error error, after) => (.error error, after) := rfl

def take (count : Nat) : Decoder Bytes := fun cursor =>
  if cursor.remaining < count then (.error (cursor.outOfBounds count), cursor)
  else (.ok (cursor.rest.take count), cursor.advance count)

def byte : Decoder UInt8 := fun cursor =>
  match cursor.rest with
  | [] => (.error (cursor.outOfBounds 1), cursor)
  | byte :: _ => (.ok byte, cursor.advance 1)

/-- A type tag. A byte that is no tag is not consumed. -/
def wireType : Decoder WireType := fun cursor =>
  match byte cursor with
  | (.error error, after) => (.error error, after)
  | (.ok tag, after) =>
      match WireType.ofTag? tag with
      | some wireType => (.ok wireType, after)
      | none => (.error (.unknownType tag), cursor)

def text : Decoder String := fun cursor =>
  let raw := cursor.rest.takeWhile (· ≠ zeroByte)
  if raw.length < cursor.remaining then (.ok (Utf8.decode raw), cursor.advance (raw.length + 1))
  else (.error (cursor.outOfBounds (cursor.remaining + 1)), cursor)

def number (kind : NumericKind) : Decoder Number := do
  let bytes ← take kind.size
  pure (Number.ofBytes kind bytes)

def countSize : Nat := 4

def fieldCount : Decoder Nat := do
  let bytes ← take countSize
  pure (ofLittleEndian bytes)

def times {α : Type} (decoder : Decoder α) : Nat → Decoder (List α)
  | 0 => pure []
  | count + 1 => do
      let first ← decoder
      let later ← decoder.times count
      pure (first :: later)

def finished : Decoder Unit := fun cursor =>
  if cursor.remaining = 0 then (.ok (), cursor)
  else (.error (.trailingBytes cursor.remaining), cursor)

end Decoder

end Telemetry
