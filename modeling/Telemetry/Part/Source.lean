/-
Sources of values. A source answers each time it is called; what it answers may
depend on every call made before, its own and those of other sources. Refreshing
a tree calls the source of every leaf that has one, in wire order, and puts the
answers in place of the values. Leaves without a source keep theirs.
-/

import Telemetry.Part

namespace Telemetry

/-- All sources of one program, with the calls made so far, the latest first. -/
structure Sources where
  /-- What a source of texts answers after these calls. -/
  text : List SourceId → SourceId → String
  /-- What a source of numbers answers after these calls, in the kind asked for. -/
  number : List SourceId → SourceId → (kind : NumericKind) → BitVec (8 * kind.size)
  calls : List SourceId := []

namespace Sources

def callText (sources : Sources) (source : SourceId) : String × Sources :=
  (sources.text sources.calls source, { sources with calls := source :: sources.calls })

def callNumber (sources : Sources) (source : SourceId) (kind : NumericKind) : Number × Sources :=
  (⟨kind, sources.number sources.calls source kind⟩,
    { sources with calls := source :: sources.calls })

/-- Entry `turn` of a list of answers, or the last one when they have run out. -/
def turn? {α : Type} (answers : List α) (turn : Nat) : Option α :=
  answers[min turn (answers.length - 1)]?

/-- Sources that go through lists of answers and stay at the last. -/
def scripted (texts : List (SourceId × List String)) (numbers : List (SourceId × List Number)) :
    Sources where
  text calls source :=
    ((texts.lookup source).bind fun answers => turn? answers (calls.count source)).getD ""
  number calls source kind :=
    (((numbers.lookup source).bind fun answers => turn? answers (calls.count source)).bind
      fun number => number.asKind? kind).getD 0

def empty : Sources := scripted [] []

end Sources

namespace Part

mutual

def fetch : Part → Sources → Part × Sources
  | .record name fields, sources =>
      let (fetched, after) := fetches fields sources
      (.record name fetched, after)
  | .text name _ (some source), sources =>
      let (value, after) := sources.callText source
      (.text name value (some source), after)
  | .number name old (some source), sources =>
      let (value, after) := sources.callNumber source old.kind
      (.number name value (some source), after)
  | .text name value none, sources => (.text name value none, sources)
  | .number name value none, sources => (.number name value none, sources)

def fetches : List Part → Sources → List Part × Sources
  | [], sources => ([], sources)
  | part :: rest, sources =>
      let (first, after) := part.fetch sources
      let (later, final) := fetches rest after
      (first :: later, final)

end

mutual

@[simp] def sourceIds : Part → List SourceId
  | .record _ fields => sourcesIds fields
  | .text _ _ source => source.toList
  | .number _ _ source => source.toList

@[simp] def sourcesIds : List Part → List SourceId
  | [] => []
  | part :: rest => part.sourceIds ++ sourcesIds rest

end

end Part

end Telemetry
