/-
The type tags of the wire. Every entry of a schema starts with one byte that
says whether a record, a text or a number of some kind follows. The tag 2 and
those above 12 are free and mean nothing.
-/

import Telemetry.Number

namespace Telemetry

inductive WireType where
  | record
  | text
  | number (kind : NumericKind)
  deriving DecidableEq, Repr

namespace WireType

def tag : WireType → UInt8
  | .record => 0
  | .text => 1
  | .number .double => 3
  | .number .float => 4
  | .number .uint8 => 5
  | .number .uint16 => 6
  | .number .uint32 => 7
  | .number .uint64 => 8
  | .number .int8 => 9
  | .number .int16 => 10
  | .number .int32 => 11
  | .number .int64 => 12

def all : List WireType :=
  .record :: .text :: NumericKind.all.map .number

def ofTag? (tag : UInt8) : Option WireType := all.find? fun wireType => wireType.tag == tag

def name : WireType → String
  | .record => "record"
  | .text => "string"
  | .number kind => kind.name

def title : WireType → String
  | .record => "Record"
  | .text => "String"
  | .number kind => kind.title

@[simp] theorem ofTag?_tag (wireType : WireType) : ofTag? wireType.tag = some wireType := by
  cases wireType with
  | record => rfl
  | text => rfl
  | number kind => cases kind <;> rfl

theorem tag_of_ofTag? {tag : UInt8} {wireType : WireType}
    (hFound : ofTag? tag = some wireType) : wireType.tag = tag := by
  have hMatches := List.find?_some hFound
  simpa only [beq_iff_eq] using hMatches

end WireType

end Telemetry
