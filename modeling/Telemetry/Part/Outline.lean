/-
The outline of a tree: every value in it, and of every leaf whether it has a
source, for whoever debugs a link.
-/

import Telemetry.Part
import Telemetry.Text.Outline

namespace Telemetry

def Number.outline (number : Number) : Outline :=
  .wrapped number.kind.title [.word (number.render Number.outlineStyle)]

namespace Part

def leafOutline (kind : String) (value : Outline) (source : Option SourceId) : Outline :=
  .structured kind [("value", value), ("fetcher", .flag source.isSome)]

def named (name : String) (content : Outline) : Outline :=
  .structured "Part" [("name", .text name), ("kind", content)]

mutual

def outline : Part → Outline
  | .record name fields => named name (.wrapped "Record" [.list (outlines fields)])
  | .text name value source => named name (leafOutline "StringLeaf" (.text value) source)
  | .number name value source => named name (leafOutline "NumberLeaf" value.outline source)

def outlines : List Part → List Outline
  | [] => []
  | part :: rest => part.outline :: outlines rest

end

end Part

end Telemetry
