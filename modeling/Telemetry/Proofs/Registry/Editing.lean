/-
Editing a channel while the registry goes on. An edit works on a copy, which is taken
before and stored behind all that the editing program asks of the registry meanwhile.
Only the tree of the copy is stored, and into the channel as it stands by then. What is
asked meanwhile therefore comes to what it would come to without the edit, and nothing of
it is lost but what it did to that one tree.

The program may go by all that it finds on its way. In the end it has made a list of
edits, and the list comes to what the program came to.
-/

import Telemetry.Proofs.Registry.Representation
import Telemetry.Proofs.Registry.Standing

namespace Telemetry

/-- A program that edits a copy of a channel. Each edit can depend on what came of those
before it. -/
inductive Editor (δ ρ : Type) where
  | finished
  | going (edit : Edit ρ) (further : Answer ρ → Channel → Node δ ρ → Editor δ ρ)

namespace Editor

variable {δ ρ : Type} [Device δ]

def run (react : Node.Reaction δ ρ) :
    Editor δ ρ → Channel → Node δ ρ → List (Answer ρ) × Channel × Node δ ρ
  | .finished, copy, node => ([], copy, node)
  | .going edit further, copy, node =>
      let (answer, changed, after) := Node.performEdit react edit copy node
      let (answers, final, last) := (further answer changed after).run react changed after
      (answer :: answers, final, last)

/-- The edits that are made, from the first to the last. -/
def edits (react : Node.Reaction δ ρ) : Editor δ ρ → Channel → Node δ ρ → List (Edit ρ)
  | .finished, _, _ => []
  | .going edit further, copy, node =>
      let (answer, changed, after) := Node.performEdit react edit copy node
      edit :: (further answer changed after).edits react changed after

theorem performEdits_edits (react : Node.Reaction δ ρ) (editor : Editor δ ρ) (copy : Channel)
    (node : Node δ ρ) :
    Node.performEdits react (editor.edits react copy node) copy node =
      editor.run react copy node := by
  induction editor generalizing copy node with
  | finished => rfl
  | going edit further ih =>
      rw [edits, Node.performEdits, run]
      simp [ih]

end Editor

/-- What is asked of the registry between the edits. -/
def Edit.asked {ρ : Type} : List (Edit ρ) → List (Operation ρ)
  | [] => []
  | .amend _ :: rest => asked rest
  | .ask operation :: rest => operation :: asked rest

namespace Registry

/-- Another tree stands in one channel, and nothing else has changed. -/
structure Stores (id : ChannelId) (tree : Part) (before after : Registry) : Prop where
  stored : ∃ held, before.opened? id = some held ∧ after.opened? id = some { held with tree }
  others : ∀ other, other ≠ id → after.opened? other = before.opened? other
  ids : after.opened.map Channel.id = before.opened.map Channel.id
  acked : after.opened.map Channel.acked = before.opened.map Channel.acked
  remote : after.remote = before.remote
  dataMode : after.dataMode = before.dataMode
  acknowledges : after.acknowledges = before.acknowledges

/-- The channel that gets another tree is none the worse for it. -/
private theorem Stores.retains {id : ChannelId} {tree : Part} {before after : Registry}
    (stores : before.Stores id tree after) : before.Retains after := by
  obtain ⟨held, found, now⟩ := stores.stored
  intro wanted channel holds
  by_cases same : wanted = id
  · rw [same, found, Option.some.injEq] at holds
    rw [same, ← holds]
    exact ⟨_, now, rfl, fun acked => acked⟩
  · refine ⟨channel, ?_, rfl, fun acked => acked⟩
    rw [stores.others wanted same]
    exact holds

private theorem stores_setOpened {registry : Registry} {id : ChannelId} {held : Channel}
    (found : registry.opened? id = some held) (tree : Part) :
    registry.Stores id tree (registry.setOpened id { held with tree }) where
  stored := by
    refine ⟨held, found, ?_⟩
    rw [opened?_setOpened found, if_pos rfl]
  others other different := by
    rw [opened?_setOpened found, if_neg different]
  ids := map_set_same found rfl
  acked := map_set_same found rfl
  remote := rfl
  dataMode := rfl
  acknowledges := rfl

end Registry

namespace Node

variable {δ ρ : Type} [Device δ]

/-- These operations are performed one after the other, and between them nothing changes but
what the sources will answer. -/
inductive Meanwhile : List (Operation ρ) → Node δ ρ → Node δ ρ → Prop where
  | nothing (node : Node δ ρ) : Meanwhile [] node node
  | drawing {operations : List (Operation ρ)} {node after : Node δ ρ} (sources : Sources)
      (later : Meanwhile operations (node.withStation { node.station with sources }) after) :
      Meanwhile operations node after
  | asking {operations : List (Operation ρ)} {node after : Node δ ρ} (operation : Operation ρ)
      (later : Meanwhile operations (node.run operation).2 after) :
      Meanwhile (operation :: operations) node after

theorem performEdits_meanwhile (edits : List (Edit ρ)) (copy : Channel) (node : Node δ ρ) :
    Meanwhile (Edit.asked edits) node
      (performEdits (Node.react occasionCount) edits copy node).2.2 := by
  induction edits generalizing copy node with
  | nil => exact .nothing node
  | cons edit rest ih =>
      cases edit with
      | amend act => exact .drawing _ (ih (act copy node.station.sources).2.1 _)
      | ask operation => exact .asking operation (ih copy (node.run operation).2)

theorem Meanwhile.changes {operations : List (Operation ρ)} {node after : Node δ ρ}
    (meanwhile : Meanwhile operations node after) :
    ∃ commits, node.station.registry.Changes commits after.station.registry := by
  induction meanwhile with
  | nothing node => exact ⟨[], .none node.station.registry⟩
  | drawing sources _ ih => exact ih
  | @asking _ node _ operation _ ih =>
      obtain ⟨commits, changes⟩ := ih
      exact ⟨_, (node.turn_changes (.ask operation)).trans changes⟩

private theorem performEdits_append (react : Reaction δ ρ) (front back : List (Edit ρ))
    (copy : Channel) (node : Node δ ρ) :
    (performEdits react (front ++ back) copy node).2 =
      (performEdits react back (performEdits react front copy node).2.1
        (performEdits react front copy node).2.2).2 := by
  induction front generalizing copy node with
  | nil => rfl
  | cons edit rest ih => exact ih (performEdit react edit copy node).2.1 _

/-- The channel is still there when its copy is done with, so the copy's tree is stored. -/
private theorem run_edit {node inner : Node δ ρ} {id : ChannelId} {channel copy : Channel}
    {edits : List (Edit ρ)} {answers : List (Answer ρ)}
    (opened : node.station.registry.opened? id = some channel)
    (performed : performEdits (Node.react occasionCount) edits channel node =
      (answers, copy, inner)) :
    ∃ registry, inner.station.registry.Stores id copy.tree registry ∧
      node.run (.edit id edits) =
        (.edited answers, inner.withStation (inner.station.withRegistry registry)) := by
  have meanwhile := performEdits_meanwhile edits channel node
  rw [performed] at meanwhile
  obtain ⟨commits, changes⟩ := meanwhile.changes
  obtain ⟨held, found, _, _⟩ := changes.retains id channel opened
  refine ⟨_, Registry.stores_setOpened found copy.tree, ?_⟩
  unfold run perform
  rw [opened]
  simp only [performed]
  unfold Station.storeTree
  rw [found]

/-- What there is at any moment of an edit is kept up to its end. -/
private theorem retains_of_moment {node inner : Node δ ρ} {copy last : Channel}
    {front back : List (Edit ρ)}
    (performed : (performEdits (Node.react occasionCount) (front ++ back) copy node).2 =
      (last, inner)) :
    (performEdits (Node.react occasionCount) front copy node).2.2.station.registry.Retains
      inner.station.registry := by
  have later := performEdits_append (Node.react occasionCount) front back copy node
  obtain ⟨commits, changes⟩ := (performEdits_meanwhile back
    (performEdits (Node.react occasionCount) front copy node).2.1
    (performEdits (Node.react occasionCount) front copy node).2.2).changes
  rw [← later, performed] at changes
  exact changes.retains

/-- An edit comes to what is asked of the registry meanwhile, with the tree of the copy stored
behind all of it. What was opened or acknowledged at any moment of the edit is so at its end.
Where there is no channel to edit nothing happens at all. -/
theorem editing_loses_nothing (node : Node δ ρ) (id : ChannelId) :
    (node.station.registry.opened? id = none →
      ∀ edits, node.run (.edit id edits) = (.absent, node)) ∧
    ∀ channel, node.station.registry.opened? id = some channel →
      ∀ editor : Editor δ ρ,
        let edits := editor.edits (Node.react occasionCount) channel node
        ∃ answers copy inner registry,
          editor.run (Node.react occasionCount) channel node = (answers, copy, inner) ∧
          Meanwhile (Edit.asked edits) node inner ∧
          inner.station.registry.Stores id copy.tree registry ∧
          node.run (.edit id edits) =
            (.edited answers, inner.withStation (inner.station.withRegistry registry)) ∧
          ∀ front back, edits = front ++ back →
            let moment := (performEdits (Node.react occasionCount) front channel node).2.2
            moment.station.registry.Retains registry := by
  constructor
  · intro absent edits
    unfold run perform
    rw [absent]
  · intro channel opened editor edits
    have performed := editor.performEdits_edits (Node.react occasionCount) channel node
    obtain ⟨⟨answers, copy, inner⟩, ran⟩ :
        ∃ ended, editor.run (Node.react occasionCount) channel node = ended := ⟨_, rfl⟩
    rw [ran] at performed
    have meanwhile := performEdits_meanwhile edits channel node
    rw [performed] at meanwhile
    obtain ⟨registry, stores, edited⟩ := run_edit opened performed
    refine ⟨answers, copy, inner, registry, ran, meanwhile, stores, edited, ?_⟩
    intro front back split
    have whole : (performEdits (Node.react occasionCount) (front ++ back) channel node).2 =
        (copy, inner) := by
      rw [← split, performed]
    exact (retains_of_moment whole).trans stores.retains

/-- An acknowledgement comes in while its channel is edited, and the editor goes by it: it
opens another channel and puts a channel of another number in place of its copy. -/
theorem editing_loses_nothing_around_acknowledgement :
    let own := Part.text "own" "old" (some 1)
    let other := Part.record "other" [.number "n" (.ofPattern .int8 5) none]
    let replace : Edit Unit := .amend fun _ sources => ((), .new 9 other, sources)
    let editor : Editor MemoryDevice Unit :=
      .going (.ask (.receive (Packet.acknowledge 0))) fun answer _ _ =>
        match answer with
        | .event (.acknowledged _) =>
            .going (.ask (.openChannels [own])) fun _ _ _ =>
              .going replace fun _ _ _ => .finished
        | _ => .finished
    let begun : Node MemoryDevice Unit := fresh true .empty .sound
    let node := begun.turns [.ask (.openChannels [own])]
    let edits := editor.edits (Node.react occasionCount) (.new 0 own) node
    let registry := (node.run (.edit 0 edits)).2.station.registry
    node.station.registry.opened? 0 = some (.new 0 own) ∧
      node.run (.edit 1 edits) = (.absent, node) ∧
      registry.isAcked 0 = true ∧ registry.opened.map Channel.id = [0, 1] ∧
      (registry.opened? 0).map (fun channel => channel.tree.values) =
        some [.number (.ofPattern .int8 5)] := by
  intro own other replace editor begun node edits registry
  have opened : node.station.registry.opened? 0 = some (.new 0 own) := rfl
  have missing : node.station.registry.opened? 1 = none := rfl
  have heard : (performEdits (Node.react occasionCount) (edits.take 1) (.new 0 own)
      node).2.2.station.registry.isAcked 0 = true := by
    decide +kernel
  have both : (editor.run (Node.react occasionCount) (.new 0 own)
      node).2.2.station.registry.opened.map Channel.id = [0, 1] := by
    decide +kernel
  have replaced : (editor.run (Node.react occasionCount) (.new 0 own) node).2.1.tree.values =
      [.number (.ofPattern .int8 5)] := by
    decide +kernel
  clear_value editor node
  obtain ⟨nothing, _⟩ := editing_loses_nothing node 1
  obtain ⟨_, edited⟩ := editing_loses_nothing node 0
  obtain ⟨answers, copy, inner, after, ran, _, stores, whole, kept⟩ := edited _ opened editor
  rw [ran] at both replaced
  have here : registry = after := by
    change (node.run (.edit 0 edits)).2.station.registry = after
    rw [whole]
    rfl
  obtain ⟨marked, found, acked⟩ := Registry.isAcked_iff.mp heard
  obtain ⟨last, foundLast, _, still⟩ :=
    kept _ _ (List.take_append_drop 1 edits).symm 0 marked found
  obtain ⟨held, _, now⟩ := stores.stored
  rw [here]
  refine ⟨opened, nothing missing edits, Registry.isAcked_iff.mpr ⟨last, foundLast, still acked⟩,
    stores.ids.trans both, ?_⟩
  rw [now, Option.map_some, replaced]

end Node

end Telemetry
