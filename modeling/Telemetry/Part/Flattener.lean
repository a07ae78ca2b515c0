/-
Flattening as a visitor does it, which is told of one node after the other and not where it
is. It keeps the names of the records it is in: entering one adds its name, leaving one takes
the last name off again. Every leaf is noted down under what has been kept by then.
-/

import Telemetry.Part.Walk

namespace Telemetry.Part

structure Flattener where
  /-- The records around, the outermost first. -/
  path : List String := []
  entries : List (String × FlatValue) := []

namespace Flattener

def note (flattener : Flattener) (name : String) (value : FlatValue) : Flattener :=
  { flattener with entries := flattener.entries ++ [(pathOf flattener.path name, value)] }

def meet (flattener : Flattener) : Visit Number.Wide → Flattener
  | .enter name _ => { flattener with path := flattener.path ++ [name] }
  | .leave _ => { flattener with path := flattener.path.dropLast }
  | .text name value => flattener.note name (.text value)
  | .number name value => flattener.note name (.number value)

def run (part : Part) : Flattener := (part.walk Number.widest).foldl meet {}

end Flattener

end Telemetry.Part
