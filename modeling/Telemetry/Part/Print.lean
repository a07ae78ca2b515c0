/-
Trees as indented text, for people. A record is written with its name and the
count of its fields on a line of its own, its fields one a line and two spaces
further in, and a closing brace. A leaf is written with its name and, in a
printed schema, its type, or, in printed data, its value as it is.
-/

import Telemetry.Part

namespace Telemetry.Part

/-- What is printed behind the name of a leaf. -/
inductive Printed where
  | schema
  | data
  deriving DecidableEq, Repr

def margin (depth : Nat) : List Char := List.replicate (2 * depth) ' '

def Printed.textLeaf (printed : Printed) (value : String) : List Char :=
  match printed with
  | .schema => ": string".toList
  | .data => ":\t".toList ++ value.toList

def Printed.numberLeaf (printed : Printed) (value : Number) : List Char :=
  match printed with
  | .schema => ":\t".toList ++ value.kind.name.toList
  | .data => ":\t".toList ++ value.text.toList

mutual

@[simp] def printAt (printed : Printed) (depth : Nat) : Part → List Char
  | .record name fields =>
      margin depth ++ name.toList ++ ": record[".toList ++ Nat.toDigits 10 fields.length ++
        "]\x7b\n".toList ++ printsAt printed (depth + 1) fields ++ margin depth ++
        "\x7d\n".toList
  | .text name value _ => margin depth ++ name.toList ++ printed.textLeaf value
  | .number name value _ => margin depth ++ name.toList ++ printed.numberLeaf value

@[simp] def printsAt (printed : Printed) (depth : Nat) : List Part → List Char
  | [] => []
  | part :: rest => part.printAt printed depth ++ '\n' :: printsAt printed depth rest

end

def print (printed : Printed) (part : Part) : String := String.ofList (part.printAt printed 0)

end Telemetry.Part
