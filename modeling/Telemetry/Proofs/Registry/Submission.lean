/-
What comes of values that are submitted. They go the way of a packet: they are written,
opened again and read into the channel. A text that cannot be written stops them before the
channel is looked up, and a channel that is not known or has another schema stops them
before anything is read. Past that nothing can fail, so no submission is refused for how its
packet reads, and one that is taken in does what the packet does when it comes in.
-/

import Telemetry.Proofs.Registry.Calling
import Telemetry.Proofs.Registry.Receiving

namespace Telemetry

/-- The text that is complained about is the first that cannot be written. -/
private theorem Packet.data_of_marked {tree : Part} (marked : ¬ Part.PlainTexts tree.values)
    (id : ChannelId) :
    ∃ front text back, tree.values = front ++ .text text :: back ∧ Part.PlainTexts front ∧
      WireItem.isPlain text = false ∧ Packet.data id tree = .error (.embeddedNul text) := by
  rw [← Part.dataItems_writable_iff] at marked
  obtain ⟨items, text, later, parts, writable, unfit, fails⟩ := WireItem.encode_of_unwritable marked
  rw [Part.dataItems_eq_map, List.map_eq_append_iff] at parts
  obtain ⟨front, others, same, fronts, rest⟩ := parts
  obtain ⟨value, back, split, shown, _⟩ := List.map_eq_cons_iff.mp rest
  have meant : value = .text text := by
    cases value with
    | text other => exact congrArg Part.LeafValue.text (WireItem.text.inj shown)
    | number number => cases shown
  refine ⟨front, text, back, ?_, ?_, unfit, ?_⟩
  · rw [same, split, meant]
  · intro other member
    apply writable (.text other)
    rw [← fronts]
    exact List.mem_map_of_mem member
  · unfold data carrying
    rw [fails]
    rfl

namespace Station

variable {δ : Type} {station : Station δ} {id : ChannelId} {values : Part} {packet : Bytes}

private theorem submit_of_written (written : Packet.data id values = .ok packet)
    (station : Station δ) :
    station.submit id values =
      station.receiveData id (Packet.payloadStart .data .send id values.dataBytes)
        (some values) := by
  unfold submit
  rw [written]
  simp only
  rw [Packet.opened?_of_data written]

private theorem submit_unknown (written : Packet.data id values = .ok packet)
    (unknown : station.registry.remote.get? id = none) :
    station.submit id values = (.error (.unknownChannel id), station) := by
  rw [submit_of_written written]
  unfold receiveData
  rw [unknown]

variable {stored : Channel}

private theorem submit_mismatched (written : Packet.data id values = .ok packet)
    (known : station.registry.remote.get? id = some stored)
    (different : stored.tree.sameSchema values = false) :
    station.submit id values = (.error (.schemaMismatch id), station) := by
  rw [submit_of_written written]
  unfold receiveData
  rw [known]
  simp only [Option.all_some]
  rw [different, if_neg Bool.false_ne_true]

/-- What is expected of a channel that has it makes no difference. -/
theorem submit_eq_receive [Device δ] (written : Packet.data id values = .ok packet)
    (known : station.registry.remote.get? id = some stored)
    (same : stored.tree.sameSchema values = true) :
    station.submit id values = station.receive packet := by
  rw [submit_of_written written, receive_data written]
  unfold receiveData
  rw [known]
  simp only [Option.all_some, Option.all_none]
  rw [if_pos same, if_pos trivial]

end Station

namespace Node

variable {δ ρ : Type} [Device δ]

private theorem run_submit_refused {node : Node δ ρ} {id : ChannelId} {values : Part}
    {error : RegistryError}
    (submits : node.station.submit id values = (.error error, node.station)) :
    node.run (.submit id values) = (.failed error, node) := by
  rw [run_submit_eq, submits]
  rfl

private theorem run_submit_marked {values : Part} (marked : ¬ Part.PlainTexts values.values)
    (node : Node δ ρ) (id : ChannelId) :
    ∃ front text back, values.values = front ++ .text text :: back ∧ Part.PlainTexts front ∧
      WireItem.isPlain text = false ∧
      node.run (.submit id values) = (.failed (.encode (.embeddedNul text)), node) := by
  obtain ⟨front, text, back, parts, plain, unfit, fails⟩ := Packet.data_of_marked marked id
  refine ⟨front, text, back, parts, plain, unfit, run_submit_refused ?_⟩
  unfold Station.submit
  rw [fails]

/-- Values were taken in. In `after`, which is how the node is before anything is called, the
channel holds them as `tree`, and nothing else has changed. The data callback, if there is
one, was then called once, with the channel as it is stored. -/
structure TakesIn (node : Node δ ρ) (id : ChannelId) (values : Part) (stored : Channel)
    (received : Answer ρ × Node δ ρ) (tree : Part) (after : Node δ ρ) : Prop where
  answered : received.1 = .event (.dataReceived id)
  taken : tree.values = values.values
  kept : tree.clear = stored.tree.clear
  filled : after = node.withStation
    (node.station.withRegistry (node.station.registry.fillRemote id { stored with tree }))
  dataMode : after.station.registry.dataMode = true
  remote : ∀ other, after.station.registry.remote.get? other =
    if other = id then some { stored with tree } else node.station.registry.remote.get? other
  uncalled : node.onData = none → received.2 = after
  called : ∀ callback, node.onData = some callback →
    Called 1 .data callback { stored with tree } after received.2

private theorem takesIn_receive {node : Node δ ρ} {id : ChannelId} {values : Part} {packet : Bytes}
    {stored : Channel} (written : Packet.data id values = .ok packet)
    (known : node.station.registry.remote.get? id = some stored)
    (same : stored.tree.sameSchema values = true) :
    ∃ tree after, node.TakesIn id values stored (node.run (.receive packet)) tree after := by
  have alike : values.blank = stored.tree.blank :=
    ((Part.sameSchema_iff_blank _ _).mp same).symm
  obtain ⟨tree, taken, kept, receives⟩ := Station.receive_data_known written known alike
  let after := node.withStation
    (node.station.withRegistry (node.station.registry.fillRemote id { stored with tree }))
  have ran : node.run (.receive packet) =
      (.event (.dataReceived id), Node.react occasionCount .data { stored with tree } after) := by
    rw [run_receive_eq, receives]
    rfl
  rw [ran]
  refine ⟨tree, after, rfl, taken, kept, rfl, rfl, fun other => ChannelTable.get?_insert _ _ _ _,
    ?_, ?_⟩
  · intro absent
    have uninstalled : after.callback? .data = none := absent
    have idle : ∀ callback, after.callback? .data = some callback → callback.pending = none := by
      intro callback installed
      cases uninstalled.symm.trans installed
    simp only
    rw [react_idle idle, uninstalled]
  · intro callback installed
    have due : after.callback? .data = some callback := installed
    exact react_called due 1 _

private theorem run_submit_fit {node : Node δ ρ} {id : ChannelId} {values : Part} {stored : Channel}
    (plain : Part.PlainTexts values.values)
    (known : node.station.registry.remote.get? id = some stored)
    (same : stored.tree.sameSchema values = true) :
    ∃ packet tree after, Packet.data id values = .ok packet ∧
      node.run (.submit id values) = node.run (.receive packet) ∧
      node.TakesIn id values stored (node.run (.submit id values)) tree after := by
  obtain ⟨packet, written⟩ := Packet.data_of_plain plain id
  obtain ⟨tree, after, takes⟩ := takesIn_receive written known same
  have alike : node.run (.submit id values) = node.run (.receive packet) := by
    unfold run perform
    rw [Station.submit_eq_receive written known same]
  rw [← alike] at takes
  exact ⟨packet, tree, after, written, alike, takes⟩

/-- What comes of submitted values, in the order in which it is found out. It is never that
their packet cannot be read. -/
theorem submission (node : Node δ ρ) (id : ChannelId) (values : Part) :
    let registry := node.station.registry
    let received := node.run (.submit id values)
    (¬ Part.PlainTexts values.values →
      ∃ front text back, values.values = front ++ .text text :: back ∧ Part.PlainTexts front ∧
        WireItem.isPlain text = false ∧
        received = (.failed (.encode (.embeddedNul text)), node)) ∧
    (Part.PlainTexts values.values →
      (registry.remote.get? id = none → received = (.failed (.unknownChannel id), node)) ∧
      ∀ stored, registry.remote.get? id = some stored →
        (stored.tree.sameSchema values = false →
          received = (.failed (.schemaMismatch id), node)) ∧
        (stored.tree.sameSchema values = true →
          ∃ packet tree after, Packet.data id values = .ok packet ∧
            received = node.run (.receive packet) ∧
            node.TakesIn id values stored received tree after)) ∧
    ∀ error, received.1 ≠ .failed (.decode error) := by
  intro registry received
  have unknown : Part.PlainTexts values.values → registry.remote.get? id = none →
      received = (.failed (.unknownChannel id), node) := by
    intro plain absent
    obtain ⟨packet, written⟩ := Packet.data_of_plain plain id
    exact run_submit_refused (Station.submit_unknown written absent)
  have mismatched : ∀ stored, Part.PlainTexts values.values →
      registry.remote.get? id = some stored → stored.tree.sameSchema values = false →
      received = (.failed (.schemaMismatch id), node) := by
    intro stored plain known different
    obtain ⟨packet, written⟩ := Packet.data_of_plain plain id
    exact run_submit_refused (Station.submit_mismatched written known different)
  refine ⟨fun marked => run_submit_marked marked node id, ?_, ?_⟩
  · intro plain
    refine ⟨unknown plain, ?_⟩
    intro stored known
    exact ⟨mismatched stored plain known, run_submit_fit plain known⟩
  · intro error failed
    by_cases plain : Part.PlainTexts values.values
    · cases known : registry.remote.get? id with
      | none =>
          rw [unknown plain known] at failed
          cases failed
      | some stored =>
          cases same : stored.tree.sameSchema values with
          | false =>
              rw [mismatched stored plain known same] at failed
              cases failed
          | true =>
              obtain ⟨_, _, _, _, _, takes⟩ := run_submit_fit plain known same
              cases takes.answered.symm.trans failed
    · obtain ⟨_, _, _, _, _, _, fails⟩ := run_submit_marked plain node id
      cases (congrArg Prod.fst fails).symm.trans failed

/-- A text that cannot be written, for a channel that is not known either; values for the
same channel; values of another schema; and values that fit, which the callback sends back. -/
theorem submission_of_each_kind :
    let schema := Part.record "m" [.number "v" (.zero .uint16) none, .text "s" "" none]
    let values := Part.record "m"
      [.number "v" (.ofPattern .uint16 0x1234) none, .text "s" "on" none]
    let marked := Part.text "s" "o\x00n" none
    let registry : Registry := { remote := .insert .empty 7 (.new 7 schema) }
    let node : Node MemoryDevice Unit :=
      { station := { registry, sources := .empty, device := .sound }
        onData := some ⟨none, some (.sendRemoteData 7)⟩ }
    node.run (.submit 3 marked) = (.failed (.encode (.embeddedNul "o\x00n")), node) ∧
      node.run (.submit 3 values) = (.failed (.unknownChannel 3), node) ∧
      node.run (.submit 7 (.text "s" "on" none)) = (.failed (.schemaMismatch 7), node) ∧
      ∃ tree after,
        node.TakesIn 7 values (.new 7 schema) (node.run (.submit 7 values)) tree after := by
  intro schema values marked registry node
  have known : registry.remote.get? 7 = some (.new 7 schema) := rfl
  have unfit : ¬ Part.PlainTexts marked.values := by
    intro plain
    exact absurd (plain "o\x00n" List.mem_cons_self) (by decide +kernel)
  have plain : Part.PlainTexts values.values := by
    rw [← Part.dataItems_writable_iff]
    decide +kernel
  have alone : Part.PlainTexts (Part.text "s" "on" none).values := by
    rw [← Part.dataItems_writable_iff]
    decide +kernel
  obtain ⟨refuses, _, _⟩ := submission node 3 marked
  obtain ⟨_, looksUp, _⟩ := submission node 3 values
  obtain ⟨_, compares, _⟩ := submission node 7 (.text "s" "on" none)
  obtain ⟨_, takes, _⟩ := submission node 7 values
  obtain ⟨front, text, back, parts, _, _, failed⟩ := refuses unfit
  obtain ⟨_, tree, after, _, _, taken⟩ :=
    ((takes plain).2 _ known).2 (by decide +kernel)
  have first : text = "o\x00n" := by
    have member : Part.LeafValue.text text ∈ marked.values := by
      rw [parts]
      exact List.mem_append_right front List.mem_cons_self
    exact Part.LeafValue.text.inj (List.mem_singleton.mp member)
  rw [first] at failed
  exact ⟨failed, (looksUp plain).1 rfl, ((compares alone).2 _ known).1 (by decide +kernel),
    tree, after, taken⟩

end Node

end Telemetry
