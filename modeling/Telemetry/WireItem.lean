/-
Writing to the wire. Whatever is written is first laid out as a list of items:
byte strings of a known width, and texts that a zero byte will end. A text that
holds a zero byte cannot be written, since nothing else would mark its end;
writing stops in front of the first such text.
-/

import Telemetry.Error
import Telemetry.Text.Utf8

namespace Telemetry

inductive WireItem where
  | fixed (bytes : Bytes)
  | text (content : String)
  deriving DecidableEq, Repr

namespace WireItem

/-- Whether a text can be told from what follows it. -/
def isPlain (content : String) : Bool := !(Utf8.encode content).contains zeroByte

@[simp] def isWritable : WireItem → Bool
  | .fixed _ => true
  | .text content => isPlain content

@[simp] def toBytes : WireItem → Bytes
  | .fixed bytes => bytes
  | .text content => Utf8.encode content ++ [zeroByte]

/-- The bytes of the items in front of the first that cannot be written, and what
that one fails with. -/
def write : List WireItem → Bytes × Except EncodeError Unit
  | [] => ([], .ok ())
  | .fixed bytes :: rest => (bytes ++ (write rest).1, (write rest).2)
  | .text content :: rest =>
      if isPlain content then
        (Utf8.encode content ++ zeroByte :: (write rest).1, (write rest).2)
      else ([], .error (.embeddedNul content))

def encode (items : List WireItem) : Except EncodeError Bytes :=
  let (bytes, outcome) := write items
  outcome.map fun _ => bytes

end WireItem

end Telemetry
