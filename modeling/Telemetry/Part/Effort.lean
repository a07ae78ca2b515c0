/-
What it takes to read a schema. A traced decoder gives, beside its result, the list of its
efforts on the way: it began an entry, or it set room aside for the fields of a record before it
had read any. The list of a reading that fails ends where the reading does.

The count of a record is not trusted with room. A field takes two bytes at least, so no room is
set aside for more fields than the bytes that are left could hold.
-/

import Telemetry.Part.Schema

namespace Telemetry

inductive Effort where
  /-- An entry is begun, also if no byte of it is there. -/
  | entry
  /-- Room for so many fields is set aside, with the cursor here. -/
  | room (fields : Nat) (here : Cursor)
  deriving DecidableEq, Repr

structure Trace (α : Type) where
  efforts : List Effort
  outcome : Except DecodeError α
  cursor : Cursor

def TracedDecoder (α : Type) : Type := Cursor → Trace α

namespace TracedDecoder

def succeed {α : Type} (value : α) : TracedDecoder α := fun cursor => ⟨[], .ok value, cursor⟩

def andThen {α β : Type} (first : TracedDecoder α) (next : α → TracedDecoder β) :
    TracedDecoder β :=
  fun cursor =>
    match first cursor with
    | ⟨efforts, .ok value, after⟩ =>
        let later := next value after
        ⟨efforts ++ later.efforts, later.outcome, later.cursor⟩
    | ⟨efforts, .error error, after⟩ => ⟨efforts, .error error, after⟩

instance : Monad TracedDecoder where
  pure := succeed
  bind := andThen

/-- A reading that takes no effort that is counted. -/
def free {α : Type} (decoder : Decoder α) : TracedDecoder α := fun cursor =>
  ⟨[], (decoder cursor).1, (decoder cursor).2⟩

def spend (effort : Cursor → Effort) : TracedDecoder Unit := fun cursor =>
  ⟨[effort cursor], .ok (), cursor⟩

def times {α : Type} (decoder : TracedDecoder α) : Nat → TracedDecoder (List α)
  | 0 => pure []
  | count + 1 => do
      let first ← decoder
      let later ← decoder.times count
      pure (first :: later)

/-- The reading without its efforts. -/
def plain {α : Type} (traced : TracedDecoder α) : Decoder α := fun cursor =>
  ((traced cursor).outcome, (traced cursor).cursor)

end TracedDecoder

namespace Part

open TracedDecoder (free spend)

/-- The tag of an entry and the zero byte of an empty name. -/
def leastEntrySize : Nat := 2

/-- Room for the fields of a record that claims so many. -/
def roomFor (count : Nat) (here : Cursor) : Effort :=
  .room (min count (here.remaining / leastEntrySize)) here

def traceSchemaWithin : Nat → TracedDecoder Part
  | 0 => do
      spend fun _ => .entry
      free (Decoder.fail (.tooDeep maxDepth))
  | levels + 1 => do
      spend fun _ => .entry
      let wireType ← free Decoder.wireType
      let name ← free Decoder.text
      match wireType with
      | .record =>
          let count ← free Decoder.fieldCount
          spend (roomFor count)
          let fields ← (traceSchemaWithin levels).times count
          pure (.record name fields)
      | .text => pure (.text name "" none)
      | .number kind => pure (.number name (.zero kind) none)

def traceSchema : TracedDecoder Part := traceSchemaWithin (maxDepth + 1)

end Part

end Telemetry
