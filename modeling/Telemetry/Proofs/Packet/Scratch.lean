/-
A packet is written whole or not at all, into whatever buffer. What a writer appends does not
depend on what is there, so writing item after item comes to the items a tree is laid out
as, and stops at the first text among them that cannot be written. For a schema these texts
are the names, for values the texts that the leaves hold, each in wire order.

A packet that fails leaves an empty buffer and one that succeeds leaves itself, so the
buffer never tells what was written into it before.
-/

import Telemetry.Packet.Scratch
import Telemetry.Proofs.Packet.Contents
import Telemetry.Proofs.Text.Lossy

namespace Telemetry

namespace WireItem

private theorem writable_iff_clean {items : List WireItem} :
    (∀ item ∈ items, item.isWritable = true) ↔ ∀ text ∈ texts items, '\x00' ∉ text.toList := by
  simp only [writable_iff_texts, Utf8.isPlain_iff]

private theorem write_append (front back : List WireItem) :
    write (front ++ back) =
      match write front with
      | (bytes, .ok _) => (bytes ++ (write back).1, (write back).2)
      | (bytes, .error error) => (bytes, .error error) := by
  induction front with
  | nil => rfl
  | cons item rest ih =>
      cases item with
      | fixed bytes =>
          rw [List.cons_append, write, ih, write]
          rcases write rest with ⟨written, error | done⟩ <;> simp
      | text content =>
          rw [List.cons_append, write, write]
          split
          · rw [ih]
            rcases write rest with ⟨written, error | done⟩ <;>
              simp
          · rfl

end WireItem

namespace Part

def LeafValue.text? : LeafValue → Option String
  | .text value => some value
  | .number _ => none

/-- The texts that the leaves hold, in wire order. -/
def texts (part : Part) : List String := part.values.filterMap LeafValue.text?

@[simp]
theorem texts_dataItems (part : Part) : WireItem.texts part.dataItems = part.texts := by
  rw [WireItem.texts, dataItems_eq_map, List.filterMap_map, texts]
  congr 1
  funext value
  cases value <;> rfl

end Part

namespace PacketWriter

private theorem on_bind {α : Type} (first : PacketWriter α) (next : α → PacketWriter Unit)
    (buffer : Bytes) :
    (first >>= next).on buffer =
      match first.on buffer with
      | (.ok value, after) => (next value).on after
      | (.error error, after) => (.error error, after) := by
  change (fun pair : Except EncodeError α × Bytes =>
    StateT.run (ExceptT.bindCont next pair.1) pair.2) (first.on buffer) = _
  cases first.on buffer with
  | mk outcome after => cases outcome <;> rfl

/-- Whatever is in the buffer, the writer appends these items, up to the first that cannot be
written. -/
def Appends (writer : PacketWriter Unit) (items : List WireItem) : Prop :=
  ∀ buffer, writer.on buffer = ((WireItem.write items).2, buffer ++ (WireItem.write items).1)

private theorem appends_nothing : Appends (pure ()) [] := by
  intro buffer
  rw [WireItem.write, List.append_nil]
  rfl

private theorem appends_put (bytes : Bytes) : Appends (put bytes) [.fixed bytes] := by
  intro buffer
  rw [WireItem.write, WireItem.write, List.append_nil]
  rfl

private theorem Appends.bind {first : PacketWriter Unit} {next : Unit → PacketWriter Unit}
    {front back : List WireItem} (appends : Appends first front)
    (later : Appends (next ()) back) : Appends (first >>= next) (front ++ back) := by
  intro buffer
  rw [on_bind, appends buffer, WireItem.write_append]
  rcases WireItem.write front with ⟨written, error | done⟩
  · rfl
  · simp only
    rw [later, List.append_assoc]

private theorem appends_putText (content : String) : Appends (putText content) [.text content] := by
  intro buffer
  by_cases marked : (Utf8.encode content).contains zeroByte = true
  · have unwritable : ¬ WireItem.isPlain content = true := by
      rw [WireItem.isPlain, marked]
      exact Bool.false_ne_true
    rw [putText, if_pos marked, WireItem.write, if_neg unwritable, List.append_nil]
    rfl
  · have plain : WireItem.isPlain content = true := by
      rw [WireItem.isPlain, Bool.eq_false_iff.mpr marked]
      rfl
    have both : Appends (do put (Utf8.encode content); put [zeroByte])
        [.fixed (Utf8.encode content), .fixed [zeroByte]] :=
      (appends_put _).bind (appends_put _)
    have wrote : WireItem.write [.text content] =
        (Utf8.encode content ++ [zeroByte], .ok ()) := by
      rw [WireItem.write, if_pos plain]
      rfl
    rw [putText, if_neg marked, both buffer, wrote]
    rfl

mutual

theorem appends_putSchema : (part : Part) → Appends (putSchema part) part.schemaItems
  | .record name fields => by
      rw [putSchema, Part.schemaItems]
      exact (appends_put _).bind ((appends_putText name).bind
        ((appends_put _).bind (appends_putSchemas fields)))
  | .text name _ _ => by
      rw [putSchema, Part.schemaItems]
      exact (appends_put _).bind (appends_putText name)
  | .number name value _ => by
      rw [putSchema, Part.schemaItems]
      exact (appends_put _).bind (appends_putText name)

private theorem appends_putSchemas : (parts : List Part) →
    Appends (putSchemas parts) (Part.schemasItems parts)
  | [] => appends_nothing
  | part :: rest => by
      rw [putSchemas, Part.schemasItems]
      exact (appends_putSchema part).bind (appends_putSchemas rest)

end

mutual

theorem appends_putData : (part : Part) → Appends (putData part) part.dataItems
  | .record name fields => by
      rw [putData, Part.dataItems]
      exact appends_putDatas fields
  | .text _ value _ => by
      rw [putData, Part.dataItems]
      exact appends_putText value
  | .number _ value _ => by
      rw [putData, Part.dataItems]
      exact appends_put value.toBytes

private theorem appends_putDatas : (parts : List Part) →
    Appends (putDatas parts) (Part.datasItems parts)
  | [] => appends_nothing
  | part :: rest => by
      rw [putDatas, Part.datasItems]
      exact (appends_putData part).bind (appends_putDatas rest)

end

private theorem preamble_on (packetType : PacketType) (function : PacketFunction) (id : ChannelId)
    (buffer : Bytes) : (preamble packetType function id).on buffer =
      (.ok (), Packet.preamble packetType function id) := rfl

@[simp]
theorem putSeal_on (buffer : Bytes) : putSeal.on buffer = (.ok (), Packet.sealed buffer) := rfl

private theorem on_tryCatch (writer : PacketWriter Unit) (handler : EncodeError → PacketWriter Unit)
    (buffer : Bytes) :
    (tryCatch writer handler).on buffer =
      match writer.on buffer with
      | (.ok done, after) => (.ok done, after)
      | (.error error, after) => (handler error).on after := by
  simp only [on, tryCatch, tryCatchThe, MonadExceptOf.tryCatch, ExceptT.tryCatch, ExceptT.run,
    ExceptT.mk, StateT.run_bind]
  rcases StateT.run writer buffer with ⟨error | done, after⟩ <;> rfl

private theorem carrying_on {payload : PacketWriter Unit} {items : List WireItem}
    (appends : Appends payload items) (packetType : PacketType) (id : ChannelId)
    (buffer : Bytes) :
    (carrying packetType id payload).on buffer =
      ((Packet.carrying packetType id items).map fun _ => (),
        (Packet.carrying packetType id items).toOption.getD []) := by
  rw [carrying, on_bind, preamble_on]
  simp only
  rw [on_bind, on_tryCatch, appends, Packet.carrying, WireItem.encode]
  cases WireItem.write items with
  | mk written outcome => cases outcome <;> rfl

@[simp]
theorem broadcast_on (id : ChannelId) (tree : Part) (buffer : Bytes) :
    (broadcast id tree).on buffer =
      ((Packet.broadcast id tree).map fun _ => (), (Packet.broadcast id tree).toOption.getD []) :=
  carrying_on (appends_putSchema tree) .broadcast id buffer

@[simp]
theorem data_on (id : ChannelId) (tree : Part) (buffer : Bytes) :
    (data id tree).on buffer =
      ((Packet.data id tree).map fun _ => (), (Packet.data id tree).toOption.getD []) :=
  carrying_on (appends_putData tree) .data id buffer

@[simp]
theorem acknowledge_on (id : ChannelId) (buffer : Bytes) :
    (acknowledge id).on buffer = (.ok (), Packet.acknowledge id) := by
  rw [acknowledge, on_bind, preamble_on]
  exact putSeal_on _

/-- What a writer has come to and left in the buffer. It failed exactly if one of these texts
holds a zero character, and then for the first that does, with nothing in the buffer. Else
what is there is the body and its seal. -/
structure WholeOrNothing (texts : List String) (body : Bytes)
    (written : Except EncodeError Unit × Bytes) : Prop where
  fails_iff : (∃ error, written.1 = .error error) ↔ ∃ text ∈ texts, '\x00' ∈ text.toList
  nothing : ∀ error, written.1 = .error error →
    written.2 = [] ∧ ∃ front text back, texts = front ++ text :: back ∧
      (∀ earlier ∈ front, '\x00' ∉ earlier.toList) ∧ '\x00' ∈ text.toList ∧
      error = .embeddedNul text
  whole : written.1 = .ok () →
    written.2 = body ++ Checksum.trailer body ∧ Packet.validity written.2 = .valid

theorem carrying_whole_or_nothing {payload : PacketWriter Unit} {items : List WireItem}
    (appends : Appends payload items) (packetType : PacketType) (id : ChannelId)
    (buffer : Bytes) :
    WholeOrNothing (WireItem.texts items)
      (Packet.preamble packetType .send id ++ WireItem.toWire items)
      ((carrying packetType id payload).on buffer) := by
  rw [carrying_on appends]
  by_cases writable : ∀ item ∈ items, item.isWritable = true
  · have clean := WireItem.writable_iff_clean.mp writable
    have encoded := WireItem.encode_eq_ok_iff.mpr ⟨writable, rfl⟩
    rw [Packet.carrying_eq_ok_iff.mpr ⟨_, encoded, rfl⟩]
    refine ⟨?_, ?_, ?_⟩
    · constructor
      · rintro ⟨error, impossible⟩
        cases impossible
      · rintro ⟨text, member, marked⟩
        exact absurd marked (clean text member)
    · intro error impossible
      cases impossible
    · intro _
      exact ⟨rfl, Packet.validity_sealed (Packet.preamble_ne_nil packetType .send id _)⟩
  · obtain ⟨front, text, back, parts, before, marked, fails⟩ :=
      WireItem.encode_of_unwritable writable
    have nul : '\x00' ∈ text.toList := by
      refine Decidable.byContradiction fun clean => ?_
      rw [Utf8.isPlain_iff.mpr clean] at marked
      cases marked
    have split : WireItem.texts items =
        WireItem.texts front ++ text :: WireItem.texts back := by
      rw [parts, WireItem.texts, List.filterMap_append]
      rfl
    rw [Packet.carrying, fails]
    refine ⟨?_, ?_, ?_⟩
    · refine ⟨fun _ => ⟨text, ?_, nul⟩, fun _ => ⟨_, rfl⟩⟩
      rw [split]
      exact List.mem_append_right _ List.mem_cons_self
    · rintro error ⟨rfl⟩
      exact ⟨rfl, _, text, _, split, WireItem.writable_iff_clean.mp before, nul, rfl⟩
    · intro impossible
      cases impossible

private theorem broadcast_whole_or_nothing (id : ChannelId) (tree : Part) (buffer : Bytes) :
    WholeOrNothing tree.names ([0x00, id] ++ tree.schemaBytes) ((broadcast id tree).on buffer) := by
  have written := carrying_whole_or_nothing (appends_putSchema tree) .broadcast id buffer
  rw [Part.texts_schemaItems] at written
  exact written

private theorem data_whole_or_nothing (id : ChannelId) (tree : Part) (buffer : Bytes) :
    WholeOrNothing tree.texts ([0x80, id] ++ tree.dataBytes) ((data id tree).on buffer) := by
  have written := carrying_whole_or_nothing (appends_putData tree) .data id buffer
  rw [Part.texts_dataItems] at written
  exact written

@[simp]
theorem acknowledge_length (id : ChannelId) : (Packet.acknowledge id).length = 6 := by
  rw [Packet.acknowledge, Packet.sealed_length]
  rfl

end PacketWriter

namespace Channel

open PacketWriter (WholeOrNothing)

/-- What the buffer held does not matter, so a write is the packet it is for, and that is kept. -/
private theorem write_eq_keep (channel : Channel) (kind : PacketKind) :
    channel.write kind = channel.keep (kind.packet channel.id channel.tree) := by
  cases kind with
  | broadcast =>
      rw [write, writer, PacketWriter.broadcast_on, PacketKind.packet]
      cases Packet.broadcast channel.id channel.tree <;> rfl
  | data =>
      rw [write, writer, PacketWriter.data_on, PacketKind.packet]
      cases Packet.data channel.id channel.tree <;> rfl
  | acknowledge =>
      rw [write, writer, PacketWriter.acknowledge_on, PacketKind.packet]
      rfl

theorem writeAll_eq_map (channel : Channel) (orders : List Order) :
    channel.writeAll orders = orders.map fun order =>
      let packet := order.kind.packet channel.id order.tree
      (packet, packet.toOption.getD []) := by
  induction orders generalizing channel with
  | nil => rfl
  | cons order rest ih =>
      rw [writeAll, write_eq_keep, List.map_cons]
      exact congrArg (List.cons _) (ih _)

/-- Whatever was in the buffer, an advertisement fails if and only if a name in the tree holds
a zero character, and a data packet if and only if a text value does. It fails for the first,
and the buffer is empty. If it does not fail, the buffer holds the packet, which number and
tree determine. So packets that are written one after the other over the same buffer are those
that would be written without one. -/
theorem packets_whole_or_nothing (id : ChannelId) (tree : Part) (buffer : Bytes) :
    WholeOrNothing tree.names ([0x00, id] ++ tree.schemaBytes)
      ((PacketWriter.broadcast id tree).on buffer) ∧
    WholeOrNothing tree.texts ([0x80, id] ++ tree.dataBytes)
      ((PacketWriter.data id tree).on buffer) ∧
    (∃ packet, (PacketWriter.acknowledge id).on buffer = (.ok (), packet) ∧
      packet = [0x40, id] ++ Checksum.trailer [0x40, id] ∧ packet.length = 6 ∧
      Packet.validity packet = .valid) ∧
    (∀ other,
      (PacketWriter.broadcast id tree).on other = (PacketWriter.broadcast id tree).on buffer ∧
      (PacketWriter.data id tree).on other = (PacketWriter.data id tree).on buffer ∧
      (PacketWriter.acknowledge id).on other = (PacketWriter.acknowledge id).on buffer) ∧
    ∀ acked orders,
      Channel.writeAll { id, tree, acked, scratch := buffer } orders =
        orders.map fun order =>
          let packet := order.kind.packet id order.tree
          (packet, packet.toOption.getD []) := by
  refine ⟨PacketWriter.broadcast_whole_or_nothing id tree buffer,
    PacketWriter.data_whole_or_nothing id tree buffer, ?_, ?_,
    fun acked orders => writeAll_eq_map _ orders⟩
  · exact ⟨Packet.acknowledge id, PacketWriter.acknowledge_on id buffer, rfl,
      PacketWriter.acknowledge_length id, Packet.validity_sealed (List.cons_ne_nil _ _)⟩
  · intro other
    simp

-- The second text is met when the first is already in the buffer. The name is not written.
example :
    let tree : Part := .record "r\x00" [.text "a" "on" none, .record "in" [
      .text "b" "o\x00" none, .text "c" "\x00" none]]
    (PacketWriter.data 7 tree).on [1, 2, 3] = (.error (.embeddedNul "o\x00"), []) :=
  rfl

end Channel

end Telemetry
