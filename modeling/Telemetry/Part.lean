/-
The tree of a channel. A part is a record of further parts, a text or a number,
and has a name. One tree is at once the schema of a channel (names, types and
shape) and the values last seen on it.

A leaf may name a source to refresh its value from. A source is known to the
tree by number only, so copies of a tree share their sources, and no comparison
looks at them.
-/

import Telemetry.WireType

namespace Telemetry

/-- The number by which leaves know a source of values. -/
abbrev SourceId := Nat

inductive Part where
  | record (name : String) (fields : List Part)
  | text (name : String) (value : String) (source : Option SourceId)
  | number (name : String) (value : Number) (source : Option SourceId)
  deriving Repr

namespace Part

@[simp] def name : Part → String
  | .record name _ => name
  | .text name _ _ => name
  | .number name _ _ => name

@[simp] def wireType : Part → WireType
  | .record _ _ => .record
  | .text _ _ _ => .text
  | .number _ value _ => .number value.kind

/-- The fields of a record. A leaf has none. -/
@[simp] def fields : Part → List Part
  | .record _ fields => fields
  | _ => []

def isRecord : Part → Bool
  | .record _ _ => true
  | _ => false

def field? (part : Part) (name : String) : Option Part :=
  part.fields.find? fun field => field.name == name

def text? : Part → Option String
  | .text _ value _ => some value
  | _ => none

def number? : Part → Option Number
  | .number _ value _ => some value
  | _ => none

def value? (part : Part) (kind : NumericKind) : Option Number :=
  part.number?.filter fun value => value.kind == kind

def setFields? (fields : List Part) : Part → Option Part
  | .record name _ => some (.record name fields)
  | _ => none

def pushField? (field : Part) : Part → Option Part
  | .record name fields => some (.record name (fields ++ [field]))
  | _ => none

def setText? (value : String) : Part → Option Part
  | .text name _ source => some (.text name value source)
  | _ => none

/-- Replaces the value, if this is a number of the same kind. -/
def setNumber? (value : Number) : Part → Option Part
  | .number name old source =>
      if old.kind = value.kind then some (.number name value source) else none
  | _ => none

def actOnNamed {α : Type} (name : String) (act : Part → Except String (α × Part)) :
    List Part → Except String (α × List Part)
  | [] => .error name
  | part :: rest =>
      if part.name = name then (act part).map fun (result, changed) => (result, changed :: rest)
      else (actOnNamed name act rest).map fun (result, changed) => (result, part :: changed)

/-- Acts on the part at the end of a path of names. Fails with the first name that
is missing. -/
def actAt {α : Type} (act : Part → α × Part) : List String → Part → Except String (α × Part)
  | [], part => .ok (act part)
  | name :: path, .record own fields =>
      (actOnNamed name (actAt act path) fields).map fun (result, changed) =>
        (result, .record own changed)
  | name :: _, _ => .error name

mutual

/-- Whether two trees have the same names, types and shape. -/
@[simp] def sameSchema : Part → Part → Bool
  | .record left leftFields, .record right rightFields =>
      left == right && sameSchemas leftFields rightFields
  | .text left _ _, .text right _ _ => left == right
  | .number left leftValue _, .number right rightValue _ =>
      left == right && leftValue.kind == rightValue.kind
  | _, _ => false

@[simp] def sameSchemas : List Part → List Part → Bool
  | [], [] => true
  | left :: leftRest, right :: rightRest =>
      left.sameSchema right && sameSchemas leftRest rightRest
  | _, _ => false

end

mutual

/-- Whether two trees have the same schema and equal values. -/
@[simp] def equal : Part → Part → Bool
  | .record left leftFields, .record right rightFields =>
      left == right && equals leftFields rightFields
  | .text left leftValue _, .text right rightValue _ => left == right && leftValue == rightValue
  | .number left leftValue _, .number right rightValue _ =>
      left == right && leftValue.equal rightValue
  | _, _ => false

@[simp] def equals : List Part → List Part → Bool
  | [], [] => true
  | left :: leftRest, right :: rightRest => left.equal right && equals leftRest rightRest
  | _, _ => false

end

end Part

end Telemetry
