/-
Walking a tree. A walk is the list of what a visitor meets, in wire order: a
record with the count of its fields, what is in it, and its end; a text; a
number, in its own kind or, for a coarser visitor, in the widest.

Flattening is the walk that keeps only the leaves, each with its path: the
names of the records around it, joined by dots, and its own name behind them.
-/

import Telemetry.Part
import Telemetry.Text.Quoted

namespace Telemetry

/-- What a visitor meets; `α` is how it sees numbers. -/
inductive Visit (α : Type) where
  | enter (name : String) (fieldCount : Nat)
  | leave (name : String)
  | text (name : String) (value : String)
  | number (name : String) (value : α)
  deriving Repr

namespace Part

mutual

def walk {α : Type} (view : Number → α) : Part → List (Visit α)
  | .record name fields =>
      .enter name fields.length :: (walks view fields ++ [.leave name])
  | .text name value _ => [.text name value]
  | .number name value _ => [.number name (view value)]

def walks {α : Type} (view : Number → α) : List Part → List (Visit α)
  | [] => []
  | part :: rest => part.walk view ++ walks view rest

end

def glance {α : Type} (view : Number → α) (part : Part) : List (Visit α) :=
  (part.walk view).take 1

/-- How often a walk meets what: records, fields of records, texts, and numbers
by reading. -/
structure Census where
  records : Nat := 0
  fields : Nat := 0
  texts : Nat := 0
  floats : Nat := 0
  ints : Nat := 0
  uints : Nat := 0
  deriving DecidableEq, Repr

def Census.count (census : Census) : Visit Number.Wide → Census
  | .enter _ fieldCount =>
      { census with records := census.records + 1, fields := census.fields + fieldCount }
  | .leave _ => census
  | .text _ _ => { census with texts := census.texts + 1 }
  | .number _ (.float _) => { census with floats := census.floats + 1 }
  | .number _ (.int _) => { census with ints := census.ints + 1 }
  | .number _ (.uint _) => { census with uints := census.uints + 1 }

def census (part : Part) : Census :=
  (part.walk Number.widest).foldl Census.count {}

inductive FlatValue where
  | text (value : String)
  | number (value : Number.Wide)
  deriving DecidableEq, Repr

/-- The text of a flat value: texts are quoted, numbers are plain. -/
def FlatValue.render : FlatValue → String
  | .text value => Quoted.quote value
  | .number (.float pattern) => Number.plainStyle.render .double pattern
  | .number (.int value) => toString value
  | .number (.uint value) => toString value

/-- The path of a leaf: what stands around it, a dot if that is anything, its name. -/
def pathOf (around : List String) (name : String) : String :=
  let joined := String.intercalate "." around
  if joined.isEmpty then name else joined ++ "." ++ name

mutual

def flattenWithin (around : List String) : Part → List (String × FlatValue)
  | .record name fields => flattensWithin (around ++ [name]) fields
  | .text name value _ => [(pathOf around name, .text value)]
  | .number name value _ => [(pathOf around name, .number value.widest)]

def flattensWithin (around : List String) : List Part → List (String × FlatValue)
  | [] => []
  | part :: rest => part.flattenWithin around ++ flattensWithin around rest

end

def flatten (part : Part) : List (String × FlatValue) := part.flattenWithin []

end Part

end Telemetry
