/-
The schema of a tree on the wire. An entry is the tag of a part and its name;
for a record the count of its fields and their entries follow. Reading an entry
gives a tree with empty values and without sources.

Records may lie `maxDepth` levels inside each other. An entry further in is
refused before a byte of it is read. A count is believed only as far as the
entries behind it are there.
-/

import Telemetry.Cursor
import Telemetry.Part
import Telemetry.WireItem

namespace Telemetry.Part

/-- How many records a part may lie in. -/
def maxDepth : Nat := 32

mutual

@[simp] def schemaItems : Part → List WireItem
  | .record name fields =>
      .fixed [WireType.record.tag] :: .text name ::
        .fixed (littleEndian Decoder.countSize fields.length) :: schemasItems fields
  | .text name _ _ => [.fixed [WireType.text.tag], .text name]
  | .number name value _ => [.fixed [(WireType.number value.kind).tag], .text name]

@[simp] def schemasItems : List Part → List WireItem
  | [] => []
  | part :: rest => part.schemaItems ++ schemasItems rest

end

/-- Reads an entry where `levels` levels are still allowed. -/
def readSchemaWithin : Nat → Decoder Part
  | 0 => Decoder.fail (.tooDeep maxDepth)
  | levels + 1 => do
      let wireType ← Decoder.wireType
      let name ← Decoder.text
      match wireType with
      | .record =>
          let count ← Decoder.fieldCount
          let fields ← (readSchemaWithin levels).times count
          pure (.record name fields)
      | .text => pure (.text name "" none)
      | .number kind => pure (.number name (.zero kind) none)

def readSchema : Decoder Part := readSchemaWithin (maxDepth + 1)

end Telemetry.Part
