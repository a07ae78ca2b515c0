/-
Outlines: the shape of a value for whoever reads a log. An outline is a word, a
labelled outline, or a bracketed group of outlines. It is written on one line,
or with one item of a group on each line, four spaces further in.
-/

import Telemetry.Text.Quoted

namespace Telemetry

inductive Outline where
  | word (text : String)
  | labelled (label : String) (value : Outline)
  /-- A group between `opening` and `closing`. On one line a spaced group keeps a
  space inside each bracket. -/
  | group (opening closing : String) (spaced : Bool) (items : List Outline)

namespace Outline

def text (value : String) : Outline := .word (Quoted.quote value)

def flag (value : Bool) : Outline := .word (if value then "true" else "false")

def number (value : Nat) : Outline := .word (toString value)

def structured (name : String) (fields : List (String × Outline)) : Outline :=
  .group (name ++ " \x7b") "\x7d" true (fields.map fun field => .labelled field.1 field.2)

def wrapped (name : String) (fields : List Outline) : Outline :=
  .group (name ++ "(") ")" false fields

def list (items : List Outline) : Outline := .group "[" "]" false items

def table (entries : List (String × Outline)) : Outline :=
  .group "\x7b" "\x7d" false (entries.map fun entry => .labelled entry.1 entry.2)

def bracketed (opening closing : String) (spaced : Bool) (items : List String) : String :=
  let space := if spaced then " " else ""
  if items.isEmpty then opening ++ closing
  else opening ++ space ++ String.intercalate ", " items ++ space ++ closing

mutual

def line : Outline → String
  | .word text => text
  | .labelled label value => label ++ ": " ++ value.line
  | .group opening closing spaced items =>
      bracketed opening closing spaced (lines items)

def lines : List Outline → List String
  | [] => []
  | item :: rest => item.line :: lines rest

end

def indentation (depth : Nat) : String := String.ofList (List.replicate (4 * depth) ' ')

mutual

/-- An outline over several lines, the first of which is already indented. -/
def block (depth : Nat) : Outline → String
  | .word text => text
  | .labelled label value => label ++ ": " ++ value.block depth
  | .group opening closing _ items =>
      match items with
      | [] => opening ++ closing
      | item :: rest =>
          opening ++ "\n" ++ blocks (depth + 1) (item :: rest) ++ indentation depth ++ closing

def blocks (depth : Nat) : List Outline → String
  | [] => ""
  | item :: rest => indentation depth ++ item.block depth ++ ",\n" ++ blocks depth rest

end

end Outline

end Telemetry
