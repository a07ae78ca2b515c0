/-
Reading with machine words. A position and a length are words here, and a packet is an array
that can be sliced. A sum that is no word and a slice that reaches outside its array are
impossible: a read that tries either is stuck, which is none, and is no failure that it could
report.
-/

import Telemetry.Cursor

namespace Telemetry

namespace Word

def bits : Nat := 64

/-- What no word reaches. No array comes near it: its length is at most half of this. -/
def limit : Nat := 2 ^ bits

def add? (left right : Nat) : Option Nat :=
  if left + right < limit then some (left + right) else none

/-- The bytes from `start` on, up to `stop`. -/
def slice? (bytes : Bytes) (start stop : Nat) : Option Bytes :=
  if start ≤ stop ∧ stop ≤ bytes.length then some ((bytes.drop start).take (stop - start))
  else none

end Word

/-- What a read ends with, and where. -/
abbrev ReadResult (α : Type) := Except DecodeError α × Cursor

/-- Goes on with what a read has found, if it has. -/
def ReadResult.andThen? {α β : Type} (answer : ReadResult α)
    (next : α → Cursor → Option (ReadResult β)) : Option (ReadResult β) :=
  match answer with
  | (.ok value, after) => next value after
  | (.error error, after) => some (.error error, after)

/-- A decoder that can be stuck. -/
abbrev WordDecoder (α : Type) := Cursor → Option (ReadResult α)

namespace WordDecoder

open Word (add? slice?)

def take? (count : Nat) : WordDecoder Bytes := fun cursor =>
  if cursor.remaining < count then some (.error (cursor.outOfBounds count), cursor)
  else do
    let stop ← add? cursor.position count
    let bytes ← slice? cursor.packet cursor.position stop
    some (.ok bytes, { cursor with position := stop })

def byte? : WordDecoder UInt8 := fun cursor => do
  (← take? 1 cursor).andThen? fun bytes after => do
    let byte ← bytes[0]?
    some (.ok byte, after)

/-- A byte that is no tag is given back. -/
def wireType? : WordDecoder WireType := fun cursor => do
  (← byte? cursor).andThen? fun tag after =>
    match WireType.ofTag? tag with
    | some wireType => some (.ok wireType, after)
    | none => some (.error (.unknownType tag), { after with position := cursor.position })

def text? : WordDecoder String := fun cursor => do
  let size := cursor.packet.length
  let rest ← slice? cursor.packet (min cursor.position size) size
  match rest.idxOf? zeroByte with
  | none => do
      let wanted ← add? rest.length 1
      some (.error (cursor.outOfBounds wanted), cursor)
  | some length => do
      let count ← add? length 1
      (← take? count cursor).andThen? fun bytes after => do
        let raw ← slice? bytes 0 length
        some (.ok (Utf8.decode raw), after)

/-- So many bytes, and what they come to. -/
def fixed? {α : Type} (size : Nat) (view : Bytes → α) : WordDecoder α := fun cursor => do
  (← take? size cursor).andThen? fun bytes after => do
    let whole ← slice? bytes 0 size
    some (.ok (view whole), after)

def number? (kind : NumericKind) : WordDecoder Number := fixed? kind.size (Number.ofBytes kind)

def fieldCount? : WordDecoder Nat := fixed? Decoder.countSize ofLittleEndian

def map {α β : Type} (view : α → β) (decoder : WordDecoder α) : WordDecoder β := fun cursor => do
  (← decoder cursor).andThen? fun value after => some (.ok (view value), after)

end WordDecoder

inductive Read where
  | byte
  | wireType
  | text
  | number (kind : NumericKind)
  | fieldCount
  deriving DecidableEq, Repr

namespace Read

inductive Found where
  | byte (value : UInt8)
  | wireType (value : WireType)
  | text (value : String)
  | number (value : Number)
  | fieldCount (value : Nat)
  deriving DecidableEq, Repr

def decoder : Read → Decoder Found
  | .byte => do pure (.byte (← Decoder.byte))
  | .wireType => do pure (.wireType (← Decoder.wireType))
  | .text => do pure (.text (← Decoder.text))
  | .number kind => do pure (.number (← Decoder.number kind))
  | .fieldCount => do pure (.fieldCount (← Decoder.fieldCount))

def wordDecoder : Read → WordDecoder Found
  | .byte => .map .byte WordDecoder.byte?
  | .wireType => .map .wireType WordDecoder.wireType?
  | .text => .map .text WordDecoder.text?
  | .number kind => .map .number (WordDecoder.number? kind)
  | .fieldCount => .map .fieldCount WordDecoder.fieldCount?

/-- The answers to one read after the other, each from where the one before ended. A read that
fails does not keep the next from being tried. -/
def run : List Read → Cursor → List (ReadResult Found)
  | [], _ => []
  | read :: rest, cursor => read.decoder cursor :: run rest (read.decoder cursor).2

def run? : List Read → Cursor → Option (List (ReadResult Found))
  | [], _ => some []
  | read :: rest, cursor => do
      let answer ← read.wordDecoder cursor
      let later ← run? rest answer.2
      some (answer :: later)

end Read

end Telemetry
