/-
The values of a tree on the wire: the leaves in order, a text with its zero
byte and a number in its width, with nothing between them. What the bytes mean
is known from the schema alone, so values are read into a tree.

A read that fails half way leaves the values it has read in the tree it gives
back, and the cursor behind them.
-/

import Telemetry.Cursor
import Telemetry.Part
import Telemetry.WireItem

namespace Telemetry.Part

mutual

@[simp] def dataItems : Part → List WireItem
  | .record _ fields => datasItems fields
  | .text _ value _ => [.text value]
  | .number _ value _ => [.fixed value.toBytes]

@[simp] def datasItems : List Part → List WireItem
  | [] => []
  | part :: rest => part.dataItems ++ datasItems rest

end

structure Filled (α : Type) where
  tree : α
  outcome : Except DecodeError Unit
  cursor : Cursor

def Filled.leaf {α : Type} (before : Part) (after : α → Part) :
    Except DecodeError α × Cursor → Filled Part
  | (.ok value, cursor) => ⟨after value, .ok (), cursor⟩
  | (.error error, cursor) => ⟨before, .error error, cursor⟩

mutual

def readData : Part → Cursor → Filled Part
  | .record name fields, cursor =>
      let filled := readDatas fields cursor
      ⟨.record name filled.tree, filled.outcome, filled.cursor⟩
  | .text name value source, cursor =>
      .leaf (.text name value source) (fun read => .text name read source) (Decoder.text cursor)
  | .number name value source, cursor =>
      .leaf (.number name value source) (fun read => .number name read source)
        (Decoder.number value.kind cursor)

def readDatas : List Part → Cursor → Filled (List Part)
  | [], cursor => ⟨[], .ok (), cursor⟩
  | part :: rest, cursor =>
      let filled := part.readData cursor
      match filled.outcome with
      | .error error => ⟨filled.tree :: rest, .error error, filled.cursor⟩
      | .ok _ =>
          let later := readDatas rest filled.cursor
          ⟨filled.tree :: later.tree, later.outcome, later.cursor⟩

end

end Telemetry.Part
