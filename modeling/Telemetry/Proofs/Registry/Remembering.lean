/-
What a registry knows of its peer, read off the history of the run. A peer starts over
where an advertisement comes right behind values. A channel is known if it was advertised
since the peer last started over; it has the schema of its last advertisement, and the
values it was sent last since then, or none.

Each change of the registry adds to the history what keeps this reading true, so nothing
is forgotten that the history holds and nothing is kept that it does not.
-/

import Mathlib.Data.List.Chain
import Telemetry.Proofs.Part.Reading
import Telemetry.Proofs.Registry.Change
import Telemetry.Proofs.Registry.Receiving

namespace Telemetry

namespace Commit

/-- Whether the peer has started over between these two. -/
def startsOver : Commit → Commit → Bool
  | .filled _ _, .learned _ _ => true
  | _, _ => false

/-- The peer has not started over within these. -/
def Uninterrupted (commits : List Commit) : Prop :=
  commits.IsChain fun before after => startsOver before after = false

private theorem uninterrupted_concat {commits : List Commit} {next : Commit} :
    Uninterrupted (commits ++ [next]) ↔
      Uninterrupted commits ∧
        ∀ last, commits.getLast? = some last → startsOver last next = false := by
  unfold Uninterrupted
  rw [List.isChain_append]
  constructor
  · rintro ⟨whole, _, joint⟩
    exact ⟨whole, fun last ends => joint last ends next rfl⟩
  · rintro ⟨whole, joint⟩
    refine ⟨whole, .singleton next, ?_⟩
    intro last ends other same
    cases same
    exact joint last ends

/-- An advertisement, and all that was committed behind it. The peer has not started over
since. -/
structure Stands (history : List Commit) (id : ChannelId) (packet : Bytes)
    (later : List Commit) : Prop where
  place : ∃ earlier, history = earlier ++ .learned id packet :: later
  uninterrupted : Uninterrupted later

variable {history later : List Commit} {id : ChannelId} {packet : Bytes} {next : Commit}

private theorem Stands.concat (stands : Stands history id packet later)
    (continues : ∀ last, history.getLast? = some last → startsOver last next = false) :
    Stands (history ++ [next]) id packet (later ++ [next]) := by
  obtain ⟨earlier, place⟩ := stands.place
  refine ⟨⟨earlier, ?_⟩, uninterrupted_concat.mpr ⟨stands.uninterrupted, ?_⟩⟩
  · rw [place, List.append_assoc, List.cons_append]
  · intro last ends
    apply continues last
    rw [place, List.getLast?_append, List.getLast?_cons, ends]
    rfl

private theorem Stands.of_concat (stands : Stands (history ++ [next]) id packet later)
    (apart : next ≠ .learned id packet) :
    (∃ between, Stands history id packet between) ∧
      ∀ last, history.getLast? = some last → startsOver last next = false := by
  obtain ⟨⟨earlier, place⟩, whole⟩ := stands
  rcases List.eq_nil_or_concat later with nothing | ⟨between, last, ending⟩
  · rw [nothing, List.append_singleton_inj] at place
    exact absurd place.2 apart
  · rw [List.concat_eq_append] at ending
    rw [ending, ← List.cons_append, ← List.append_assoc, List.append_singleton_inj] at place
    rw [ending, ← place.2, uninterrupted_concat] at whole
    refine ⟨⟨between, ⟨earlier, place.1⟩, whole.1⟩, ?_⟩
    intro last ends
    rw [place.1, List.getLast?_append, List.getLast?_cons] at ends
    cases inBetween : between.getLast? with
    | none =>
        rw [inBetween] at ends
        cases ends
        rfl
    | some other =>
        rw [inBetween] at ends
        cases ends
        exact whole.2 other inBetween

private theorem not_mem_concat {commits : List Commit} {chosen : Bytes → Commit}
    (absent : ∀ packet, chosen packet ∉ commits) (apart : ∀ packet, chosen packet ≠ next) :
    ∀ packet, chosen packet ∉ commits ++ [next] := by
  intro packet member
  rcases List.mem_append.mp member with before | here
  · exact absent packet before
  · exact apart packet (List.mem_singleton.mp here)

end Commit

open Commit (Stands startsOver)

/-- The tree of a channel, after what was committed since its schema was learned. -/
inductive Holds (id : ChannelId) (schema : Part) (later : List Commit) : Part → Prop where
  | nothing (untouched : ∀ data, Commit.filled id data ∉ later) : Holds id schema later schema
  | values (middle last : List Commit) (data : Bytes) (payload : Cursor) (tree : Part)
      (place : later = middle ++ .filled id data :: last)
      (newest : ∀ other, Commit.filled id other ∉ last)
      (opened : Packet.opened? data = .ok ⟨⟨.data, .send⟩, id, payload⟩)
      (fills : Station.fill schema payload = .ok tree) : Holds id schema later tree

theorem Holds.clear {id : ChannelId} {schema tree : Part} {later : List Commit}
    (holds : Holds id schema later tree) : tree.clear = schema.clear := by
  cases holds with
  | nothing _ => rfl
  | values _ _ _ _ _ _ _ _ fills => exact Station.fill_clear fills

private theorem Holds.concat {id : ChannelId} {schema tree : Part} {later : List Commit}
    {next : Commit}
    (holds : Holds id schema later tree) (apart : ∀ data, Commit.filled id data ≠ next) :
    Holds id schema (later ++ [next]) tree := by
  cases holds with
  | nothing untouched => exact .nothing (Commit.not_mem_concat untouched apart)
  | values middle last data payload tree place newest opened fills =>
      refine .values middle (last ++ [next]) data payload tree ?_
        (Commit.not_mem_concat newest apart) opened fills
      rw [place, List.append_assoc, List.cons_append]

namespace Registry

def known? (registry : Registry) (id : ChannelId) : Option Part :=
  (registry.remote.get? id).map Channel.tree

theorem known?_of_get? {registry : Registry} {id : ChannelId} {channel : Channel}
    (stored : registry.remote.get? id = some channel) :
    registry.known? id = some channel.tree := by
  unfold known?
  rw [stored]
  rfl

@[simp]
theorem known?_setRemote (registry : Registry) (id wanted : ChannelId) (channel : Channel) :
    (registry.setRemote id channel).known? wanted =
      if wanted = id then some channel.tree else registry.known? wanted := by
  unfold known? setRemote
  simp only [ChannelTable.get?_insert]
  split <;> rfl

/-- Anything but the tree of a channel can change without a trace. -/
theorem known?_setRemote_of_tree {registry : Registry} {id : ChannelId}
    {channel replacement : Channel} (known : registry.remote.get? id = some channel)
    (same : replacement.tree = channel.tree) (wanted : ChannelId) :
    (registry.setRemote id replacement).known? wanted = registry.known? wanted := by
  rw [known?_setRemote]
  split
  · next here => rw [here, known?, known, Option.map_some, same]
  · rfl

@[simp]
theorem known?_startOver (registry : Registry) (id : ChannelId) :
    registry.startOver.known? id = if registry.dataMode then none else registry.known? id := by
  unfold startOver
  split <;> rfl

/-- A tree that is accounted for by the last advertisement of its channel and by what came
behind it. -/
def Accounted (history : List Commit) (id : ChannelId) (tree : Part) : Prop :=
  ∃ packet later schema, Stands history id packet later ∧
    (∀ other, Commit.learned id other ∉ later) ∧
    Packet.readBroadcast packet = .ok (id, schema) ∧ Holds id schema later tree

private theorem Accounted.concat {history : List Commit} {id : ChannelId} {tree : Part}
    {next : Commit} (accounted : Accounted history id tree)
    (continues : ∀ last, history.getLast? = some last → startsOver last next = false)
    (notLearned : ∀ packet, Commit.learned id packet ≠ next)
    (notFilled : ∀ data, Commit.filled id data ≠ next) :
    Accounted (history ++ [next]) id tree := by
  obtain ⟨packet, later, schema, stands, newest, read, holds⟩ := accounted
  exact ⟨packet, later ++ [next], schema, stands.concat continues,
    Commit.not_mem_concat newest notLearned, read, holds.concat notFilled⟩

/-- A registry that knows what this history says, and nothing else. -/
structure Remembers (history : List Commit) (registry : Registry) : Prop where
  dataMode : registry.dataMode = true ↔ ∃ id data, history.getLast? = some (.filled id data)
  kept : ∀ id packet later, Stands history id packet later → ∃ tree, registry.known? id = some tree
  stored : ∀ id tree, registry.known? id = some tree → Accounted history id tree

variable {history : List Commit} {before after : Registry}

private theorem Remembers.of_known (remembers : before.Remembers history)
    (dataMode : after.dataMode = before.dataMode)
    (known : ∀ id, after.known? id = before.known? id) : after.Remembers history := by
  refine ⟨?_, ?_, ?_⟩
  · rw [dataMode]
    exact remembers.dataMode
  · intro id packet later stands
    rw [known]
    exact remembers.kept id packet later stands
  · intro id tree stored
    rw [known] at stored
    exact remembers.stored id tree stored

/-- An advertisement starts the peer over exactly if data has come in. -/
private theorem Remembers.startsOver_learned_iff (remembers : before.Remembers history)
    (id : ChannelId) (packet : Bytes) :
    (∀ last, history.getLast? = some last → startsOver last (.learned id packet) = false) ↔
      ¬ before.dataMode = true := by
  rw [remembers.dataMode]
  constructor
  · rintro continues ⟨filled, data, ends⟩
    cases continues _ ends
  · intro settled last ends
    cases last with
    | learned _ _ => rfl
    | filled other data => exact absurd ⟨other, data, ends⟩ settled

private theorem Remembers.learning (remembers : before.Remembers history) {id : ChannelId}
    {packet : Bytes} {channel : Channel}
    (read : Packet.readBroadcast packet = .ok (id, channel.tree)) :
    (before.startOver.setRemote id channel).Remembers (history ++ [.learned id packet]) := by
  have startsOver_iff := remembers.startsOver_learned_iff id packet
  have known : ∀ wanted, (before.startOver.setRemote id channel).known? wanted =
      if wanted = id then some channel.tree
      else if before.dataMode then none else before.known? wanted := by
    intro wanted
    rw [known?_setRemote, known?_startOver]
  refine ⟨?_, ?_, ?_⟩
  · have off : (before.startOver.setRemote id channel).dataMode = false :=
      before.startOver_dataMode
    rw [off, List.getLast?_concat]
    constructor
    · intro impossible
      cases impossible
    · rintro ⟨_, _, impossible⟩
      cases impossible
  · intro wanted advertised later stands
    rw [known]
    by_cases same : wanted = id
    · rw [if_pos same]
      exact ⟨channel.tree, rfl⟩
    · have apart : Commit.learned id packet ≠ .learned wanted advertised := by
        intro impossible
        cases impossible
        exact same rfl
      obtain ⟨⟨between, earlier⟩, continues⟩ := stands.of_concat apart
      rw [if_neg same, if_neg (startsOver_iff.mp continues)]
      exact remembers.kept wanted advertised between earlier
  · intro wanted tree stored
    rw [known] at stored
    by_cases same : wanted = id
    · rw [if_pos same, Option.some.injEq] at stored
      subst same stored
      exact ⟨packet, [], channel.tree, ⟨⟨history, rfl⟩, .nil⟩, fun _ => List.not_mem_nil, read,
        .nothing fun _ => List.not_mem_nil⟩
    · rw [if_neg same] at stored
      by_cases mode : before.dataMode = true
      · rw [if_pos mode] at stored
        cases stored
      · rw [if_neg mode] at stored
        apply (remembers.stored wanted tree stored).concat (startsOver_iff.mpr mode)
        · intro other impossible
          cases impossible
          exact same rfl
        · intro other impossible
          cases impossible

private theorem Remembers.filling (remembers : before.Remembers history) {id : ChannelId}
    {data : Bytes} {payload : Cursor} {held : Part} {channel : Channel}
    (opened : Packet.opened? data = .ok ⟨⟨.data, .send⟩, id, payload⟩)
    (known : before.known? id = some held)
    (fills : Station.fill held payload = .ok channel.tree) :
    (before.fillRemote id channel).Remembers (history ++ [.filled id data]) := by
  have continues : ∀ last, history.getLast? = some last →
      startsOver last (.filled id data) = false := by
    intro last _
    cases last <;> rfl
  have knownAfter : ∀ wanted, (before.fillRemote id channel).known? wanted =
      if wanted = id then some channel.tree else before.known? wanted :=
    fun wanted => known?_setRemote before id wanted channel
  refine ⟨?_, ?_, ?_⟩
  · rw [List.getLast?_concat]
    exact ⟨fun _ => ⟨id, data, rfl⟩, fun _ => rfl⟩
  · intro wanted advertised later stands
    rw [knownAfter]
    by_cases same : wanted = id
    · rw [if_pos same]
      exact ⟨channel.tree, rfl⟩
    · obtain ⟨⟨between, earlier⟩, _⟩ := stands.of_concat Commit.noConfusion
      rw [if_neg same]
      exact remembers.kept wanted advertised between earlier
  · intro wanted tree stored
    rw [knownAfter] at stored
    by_cases same : wanted = id
    · rw [if_pos same, Option.some.injEq] at stored
      subst same stored
      obtain ⟨packet, later, schema, stands, newest, read, holds⟩ :=
        remembers.stored wanted held known
      have refills := Station.fill_of_clear_eq holds.clear fills
      refine ⟨packet, later ++ [.filled wanted data], schema, stands.concat continues,
        Commit.not_mem_concat newest fun _ => Commit.noConfusion, read, ?_⟩
      exact .values later [] data payload channel.tree rfl (fun _ => List.not_mem_nil) opened
        refills
    · rw [if_neg same] at stored
      apply (remembers.stored wanted tree stored).concat continues
      · intro other impossible
        cases impossible
      · intro other impossible
        cases impossible
        exact same rfl

theorem Remembers.change (remembers : before.Remembers history) {commits : List Commit}
    (change : before.Change commits after) : after.Remembers (history ++ commits) := by
  cases change with
  | opening tree room =>
      rw [List.append_nil]
      exact remembers.of_known rfl fun _ => rfl
  | rewriting id channel replacement found sameId acked =>
      rw [List.append_nil]
      exact remembers.of_known rfl fun _ => rfl
  | answering id channel scratch known =>
      rw [List.append_nil]
      exact remembers.of_known rfl (known?_setRemote_of_tree known rfl)
  | learning id packet tree scratch read => exact remembers.learning read
  | filling id packet payload stored tree opened known fills =>
      exact remembers.filling opened (known?_of_get? known) fills

theorem Remembers.changes {commits : List Commit} (changes : before.Changes commits after)
    {history : List Commit} (remembers : before.Remembers history) :
    after.Remembers (history ++ commits) := by
  induction changes generalizing history with
  | none registry =>
      rw [List.append_nil]
      exact remembers
  | more first _ ih =>
      rw [← List.append_assoc]
      exact ih (remembers.change first)

theorem remembers_nothing (acknowledges : Bool) :
    Remembers [] { acknowledges : Registry } := by
  refine ⟨?_, ?_, ?_⟩
  · constructor
    · intro impossible
      cases impossible
    · rintro ⟨_, _, impossible⟩
      cases impossible
  · rintro id packet later ⟨⟨earlier, impossible⟩, _⟩
    cases earlier <;> cases impossible
  · intro id tree impossible
    cases impossible

end Registry

namespace Node

variable {δ ρ : Type} [Device δ]

/-- In any run, whatever it asks and takes in, the history says what is known of the peer.
Data has come in last exactly if the history ends with values. A channel is known exactly
if it was advertised and the peer has not started over since. Its schema is the one
advertised last, and it holds nothing, or what the last values behind that fill it with. -/
theorem known_of_history (acknowledges : Bool) (sources : Sources) (device : δ)
    (steps : List (Turn δ ρ)) :
    let begun : Node δ ρ := fresh acknowledges sources device
    let history := begun.history steps
    let registry := (begun.turns steps).station.registry
    (registry.dataMode = true ↔ ∃ id data, history.getLast? = some (.filled id data)) ∧
    (∀ id, (∃ channel, registry.remote.get? id = some channel) ↔
      ∃ packet later, Stands history id packet later) ∧
    ∀ id channel, registry.remote.get? id = some channel →
      ∃ packet later schema, Stands history id packet later ∧
        (∀ other, Commit.learned id other ∉ later) ∧
        Packet.readBroadcast packet = .ok (id, schema) ∧
        channel.tree.sameSchema schema = true ∧
        (((∀ data, Commit.filled id data ∉ later) ∧
            ∀ value ∈ channel.tree.values, value.isUnset = true) ∨
          ∃ middle data last payload, later = middle ++ .filled id data :: last ∧
            (∀ other, Commit.filled id other ∉ last) ∧
            Packet.opened? data = .ok ⟨⟨.data, .send⟩, id, payload⟩ ∧
            Station.fill schema payload = .ok channel.tree) := by
  intro begun history registry
  have remembers : registry.Remembers history :=
    (Registry.remembers_nothing acknowledges).changes (begun.turns_changes steps)
  have accounted : ∀ id channel, registry.remote.get? id = some channel →
      Registry.Accounted history id channel.tree := by
    intro id channel stored
    exact remembers.stored id channel.tree (Registry.known?_of_get? stored)
  refine ⟨remembers.dataMode, ?_, ?_⟩
  · intro id
    constructor
    · rintro ⟨channel, stored⟩
      obtain ⟨packet, later, _, stands, _⟩ := accounted id channel stored
      exact ⟨packet, later, stands⟩
    · rintro ⟨packet, later, stands⟩
      obtain ⟨tree, known⟩ := remembers.kept id packet later stands
      obtain ⟨channel, stored, _⟩ := Option.map_eq_some_iff.mp known
      exact ⟨channel, stored⟩
  · intro id channel stored
    obtain ⟨packet, later, schema, stands, newest, read, holds⟩ := accounted id channel stored
    refine ⟨packet, later, schema, stands, newest, read, ?_, ?_⟩
    · rw [Part.sameSchema_iff_blank]
      exact Part.blank_eq_of_clear_eq holds.clear
    · cases holds with
      | nothing untouched =>
          left
          refine ⟨untouched, ?_⟩
          rw [← Packet.readBroadcast_blank read]
          exact Part.blank_values _
      | values middle last data payload tree place newestData opened fills =>
          exact Or.inr ⟨middle, data, last, payload, place, newestData, opened, fills⟩

/-- What a callback takes in comes behind what it was called for. -/
example :
    let advertised := fun id =>
      Packet.sealed (Packet.preamble .broadcast .send id ++ (Part.text "s" "" none).schemaBytes)
    let values := Packet.sealed (Packet.preamble .data .send 7 ++ [0x6F, 0x6E, 0])
    let begun : Node MemoryDevice Unit := fresh true .empty .sound
    let steps : List (Turn MemoryDevice Unit) :=
      [.install .data ⟨none, some (.receive (advertised 3))⟩, .ask (.receive (advertised 7)),
        .ask (.receive values)]
    begun.history steps =
        [.learned 7 (advertised 7), .filled 7 values, .learned 3 (advertised 3)] ∧
      (begun.turns steps).station.registry.remote.ids = [3] := by
  decide +kernel

end Node

end Telemetry
