/-
What can be read out of an advertisement, whatever tree it was written from: the channel
it is for and the blank tree, or nothing. This holds without a bound on the size of
records. A count that is too large for its four bytes loses its high bytes, and then a
reader finds fewer nodes than there are; it never finds another tree instead.

A schema is laid out as one head a node. A head ends where its bytes say, so bytes have one
division into heads, and a tree has one node more than the counts in its heads come to.
Where what was written is also a whole entry, the counts as declared come to as much as the
counts as they are, so none has lost anything.
-/

import Mathlib.Algebra.GroupWithZero.Nat
import Mathlib.Algebra.Order.BigOperators.Group.List
import Mathlib.Algebra.Order.Group.Nat
import Telemetry.Proofs.Part.Recognition
import Telemetry.Proofs.Part.Splitting

namespace Telemetry

namespace Part

/-- What is written for one node. A leaf counts no fields. -/
structure Head where
  wireType : WireType
  name : Bytes
  count : Nat := 0

namespace Head

def countBytes (head : Head) : Bytes :=
  match head.wireType with
  | .record => littleEndian Decoder.countSize head.count
  | _ => []

def bytes (head : Head) : Bytes :=
  [head.wireType.tag] ++ ((head.name ++ [zeroByte]) ++ head.countBytes)

/-- The count a reader finds. -/
def declared (head : Head) : Nat := ofLittleEndian head.countBytes

private theorem declared_record (name : Bytes) (count : Nat) :
    declared ⟨.record, name, count⟩ = count % 256 ^ Decoder.countSize :=
  ofLittleEndian_littleEndian Decoder.countSize count

private theorem declared_le (head : Head) : head.declared ≤ head.count := by
  obtain ⟨wireType, name, count⟩ := head
  cases wireType with
  | record =>
      rw [declared_record]
      exact Nat.mod_le count _
  | text => exact Nat.zero_le count
  | number kind => exact Nat.zero_le count

private theorem declared_lt (head : Head) : head.declared < 256 ^ Decoder.countSize := by
  obtain ⟨wireType, name, count⟩ := head
  have positive : 0 < 256 ^ Decoder.countSize := by decide
  cases wireType with
  | record =>
      rw [declared_record]
      exact Nat.mod_lt count positive
  | text => exact positive
  | number kind => exact positive

private theorem countBytes_length {head other : Head} (same : head.wireType = other.wireType) :
    head.countBytes.length = other.countBytes.length := by
  unfold countBytes
  rw [same]
  split
  · rw [littleEndian_length, littleEndian_length]
  · rfl

/-- Where a head ends is plain from the bytes alone. -/
private theorem unique {head other : Head} {rest later : Bytes} (clean : zeroByte ∉ head.name)
    (cleanOther : zeroByte ∉ other.name) (same : head.bytes ++ rest = other.bytes ++ later) :
    head.declared = other.declared ∧ rest = later := by
  unfold bytes at same
  simp only [List.cons_append, List.nil_append, List.cons.injEq,
    List.append_assoc _ _ rest, List.append_assoc _ _ later] at same
  obtain ⟨sameTag, sameBehind⟩ := same
  have known := congrArg WireType.ofTag? sameTag
  rw [WireType.ofTag?_tag, WireType.ofTag?_tag, Option.some.injEq] at known
  obtain ⟨_, sameCounted⟩ := raw_unique clean cleanOther sameBehind
  obtain ⟨sameCount, sameRest⟩ := List.append_inj sameCounted (countBytes_length known)
  exact ⟨congrArg ofLittleEndian sameCount, sameRest⟩

private theorem bytes_ne_nil (head : Head) : head.bytes ≠ [] := List.cons_ne_nil _ _

/-- Two divisions of the same bytes into heads declare the same counts. -/
private theorem declared_unique {heads others : List Head}
    (clean : ∀ head ∈ heads, zeroByte ∉ head.name)
    (cleanOthers : ∀ head ∈ others, zeroByte ∉ head.name)
    (same : heads.flatMap bytes = others.flatMap bytes) :
    heads.map declared = others.map declared := by
  induction heads generalizing others with
  | nil =>
      cases others with
      | nil => rfl
      | cons other _ => exact absurd (List.append_eq_nil_iff.mp same.symm).1 other.bytes_ne_nil
  | cons head heads ih =>
      cases others with
      | nil => exact absurd (List.append_eq_nil_iff.mp same).1 head.bytes_ne_nil
      | cons other others =>
          rw [List.forall_mem_cons] at clean cleanOthers
          rw [List.flatMap_cons, List.flatMap_cons] at same
          obtain ⟨here, rest⟩ := unique clean.1 cleanOthers.1 same
          rw [List.map_cons, List.map_cons, here, ih clean.2 cleanOthers.2 rest]

end Head

/-- These bytes are these heads, and the heads are those of so many trees. -/
structure Laid (bytes : Bytes) (heads : List Head) (roots : Nat) : Prop where
  bytes : bytes = heads.flatMap Head.bytes
  clean : ∀ head ∈ heads, zeroByte ∉ head.name
  sized : heads.length = (heads.map Head.count).sum + roots

namespace Laid

private theorem nothing : Laid [] [] 0 := by
  refine ⟨rfl, ?_, rfl⟩
  intro head member
  cases member

private theorem append {front back : Bytes} {heads later : List Head} {roots further : Nat}
    (laid : Laid front heads roots) (behind : Laid back later further) :
    Laid (front ++ back) (heads ++ later) (roots + further) := by
  refine ⟨?_, List.forall_mem_append.mpr ⟨laid.clean, behind.clean⟩, ?_⟩
  · rw [List.flatMap_append, ← laid.bytes, ← behind.bytes]
  · have sized := laid.sized
    have sizedBehind := behind.sized
    rw [List.map_append, List.sum_append, List.length_append]
    omega

private theorem node {head : Head} {inside : Bytes} {heads : List Head}
    (clean : zeroByte ∉ head.name)
    (within : Laid inside heads head.count) : Laid (head.bytes ++ inside) (head :: heads) 1 := by
  refine ⟨?_, List.forall_mem_cons.mpr ⟨clean, within.clean⟩, ?_⟩
  · rw [List.flatMap_cons, ← within.bytes]
  · have sized := within.sized
    rw [List.map_cons, List.sum_cons, List.length_cons]
    omega

private theorem record {name inside : Bytes} {count : Nat} {heads : List Head}
    (clean : zeroByte ∉ name) (within : Laid inside heads count) :
    Laid
      ([WireType.record.tag] ++ ((name ++ [zeroByte]) ++
        (littleEndian Decoder.countSize count ++ inside)))
      (⟨.record, name, count⟩ :: heads) 1 := by
  have laid : Laid (Head.bytes ⟨.record, name, count⟩ ++ inside)
      (⟨.record, name, count⟩ :: heads) 1 := node clean within
  rw [Head.bytes, List.append_assoc, List.append_assoc] at laid
  exact laid

private theorem leaf {name : Bytes} {wireType : WireType} (clean : zeroByte ∉ name)
    (ends : Head.countBytes ⟨wireType, name, 0⟩ = []) :
    Laid ([wireType.tag] ++ (name ++ [zeroByte])) [⟨wireType, name, 0⟩] 1 := by
  have laid : Laid (Head.bytes ⟨wireType, name, 0⟩ ++ []) [⟨wireType, name, 0⟩] 1 :=
    node clean nothing
  rw [Head.bytes, ends, List.append_nil, List.append_nil] at laid
  exact laid

end Laid

mutual

theorem exists_heads : (part : Part) → (∀ name ∈ part.names, WireItem.isPlain name = true) →
    ∃ heads, Laid part.schemaBytes heads 1 ∧
      ∀ count ∈ part.fieldCounts, ∃ head ∈ heads, head.count = count
  | .record name fields, plain => by
      rw [names, List.forall_mem_cons] at plain
      obtain ⟨heads, laid, counts⟩ := exists_headsWithin fields plain.2
      let head : Head := ⟨.record, Utf8.encode name, fields.length⟩
      refine ⟨head :: heads, ?_, ?_⟩
      · rw [schemaBytes_record]
        exact .record (Utf8.zeroByte_notMem_encode plain.1) laid
      · rw [fieldCounts, List.forall_mem_cons]
        refine ⟨⟨head, List.mem_cons_self, rfl⟩, ?_⟩
        intro count member
        obtain ⟨found, inside, same⟩ := counts count member
        exact ⟨found, List.mem_cons_of_mem head inside, same⟩
  | .text name value source, plain => by
      rw [schemaBytes_text]
      have clean := Utf8.zeroByte_notMem_encode (plain name List.mem_cons_self)
      exact ⟨_, .leaf clean rfl, fun _ member => absurd member List.not_mem_nil⟩
  | .number name value source, plain => by
      rw [schemaBytes_number]
      have clean := Utf8.zeroByte_notMem_encode (plain name List.mem_cons_self)
      exact ⟨_, .leaf clean rfl, fun _ member => absurd member List.not_mem_nil⟩

private theorem exists_headsWithin : (parts : List Part) →
    (∀ name ∈ namesWithin parts, WireItem.isPlain name = true) →
    ∃ heads, Laid (schemasBytes parts) heads parts.length ∧
      ∀ count ∈ fieldCountsWithin parts, ∃ head ∈ heads, head.count = count
  | [], _ => ⟨[], .nothing, fun _ member => absurd member List.not_mem_nil⟩
  | part :: rest, plain => by
      rw [namesWithin, List.forall_mem_append] at plain
      obtain ⟨heads, laid, counts⟩ := exists_heads part plain.1
      obtain ⟨later, laidLater, countsLater⟩ := exists_headsWithin rest plain.2
      refine ⟨heads ++ later, ?_, ?_⟩
      · rw [schemasBytes_cons, List.length_cons, Nat.add_comm]
        exact laid.append laidLater
      · rw [fieldCountsWithin, List.forall_mem_append]
        constructor
        · intro count member
          obtain ⟨head, inside, same⟩ := counts count member
          exact ⟨head, List.mem_append_left later inside, same⟩
        · intro count member
          obtain ⟨head, inside, same⟩ := countsLater count member
          exact ⟨head, List.mem_append_right heads inside, same⟩

end

mutual

theorem Derives.exists_heads : (entry : Entry) → {depth : Nat} → {bytes : Bytes} →
    Derives depth bytes entry →
    ∃ heads, Laid bytes heads 1 ∧ ∀ head ∈ heads, head.declared = head.count
  | .record name fields, _, _, derives => by
      cases derives with
      | record allowed clean countable each =>
          obtain ⟨heads, laid, exact⟩ := DerivesAll.exists_heads fields each
          refine ⟨_, .record clean laid, List.forall_mem_cons.mpr ⟨?_, exact⟩⟩
          rw [Head.declared_record, Nat.mod_eq_of_lt countable]
  | .text name, _, _, derives => by
      cases derives with
      | text allowed clean => exact ⟨_, .leaf clean rfl, List.forall_mem_singleton.mpr rfl⟩
  | .number name kind, _, _, derives => by
      cases derives with
      | number allowed clean => exact ⟨_, .leaf clean rfl, List.forall_mem_singleton.mpr rfl⟩

private theorem DerivesAll.exists_heads : (entries : List Entry) → {depth : Nat} → {bytes : Bytes} →
    DerivesAll depth bytes entries →
    ∃ heads, Laid bytes heads entries.length ∧ ∀ head ∈ heads, head.declared = head.count
  | [], _, _, derives => by
      cases derives
      exact ⟨[], .nothing, fun _ member => absurd member List.not_mem_nil⟩
  | entry :: rest, _, _, derives => by
      cases derives with
      | more first later =>
          obtain ⟨heads, laid, exact⟩ := Derives.exists_heads entry first
          obtain ⟨further, laidFurther, exactFurther⟩ := DerivesAll.exists_heads rest later
          refine ⟨heads ++ further, ?_, List.forall_mem_append.mpr ⟨exact, exactFurther⟩⟩
          rw [List.length_cons, Nat.add_comm]
          exact laid.append laidFurther

end

/-- What is a whole entry was written from records that can be counted. -/
private theorem countable_of_derives {part : Part} {depth : Nat} {entry : Entry}
    (plain : ∀ name ∈ part.names, WireItem.isPlain name = true)
    (derives : Derives depth part.schemaBytes entry) :
    ∀ count ∈ part.fieldCounts, count < 256 ^ Decoder.countSize := by
  obtain ⟨heads, laid, counts⟩ := exists_heads part plain
  obtain ⟨others, laidOthers, exact⟩ := Derives.exists_heads entry derives
  -- Written and read, these are the same bytes, and what was read declares no false count.
  have declared : heads.map Head.declared = others.map Head.count := by
    rw [Head.declared_unique laid.clean laidOthers.clean
      (laid.bytes.symm.trans laidOthers.bytes)]
    exact List.map_congr_left exact
  have sums : (heads.map Head.declared).sum = (heads.map Head.count).sum := by
    have lengths := congrArg List.length declared
    rw [List.length_map, List.length_map] at lengths
    have sized := laid.sized
    have sizedOthers := laidOthers.sized
    rw [declared]
    omega
  intro count member
  obtain ⟨head, inside, same⟩ := counts count member
  -- A count that is too large is declared as less, and no head declares more than it has.
  by_contra large
  have loses : head.declared < head.count := by
    rw [same]
    exact Nat.lt_of_lt_of_le head.declared_lt (Nat.le_of_not_lt large)
  have short := List.sum_lt_sum Head.declared Head.count (fun other _ => other.declared_le)
    ⟨head, inside, loses⟩
  exact absurd sums (Nat.ne_of_lt short)

end Part

namespace Packet

/-- Only an advertisement is read as one. -/
theorem opened?_of_readBroadcast {packet : Bytes} {id : ChannelId} {tree : Part}
    (read : readBroadcast packet = .ok (id, tree)) :
    ∃ payload, opened? packet = .ok ⟨⟨.broadcast, .send⟩, id, payload⟩ ∧
      (schemaPayload payload).1 = .ok tree := by
  unfold readBroadcast at read
  unfold opened?
  split at read
  · cases read
  · next cursor sound =>
      have whole : advertised cursor = (.ok (id, tree), (advertised cursor).2) := Prod.ext read rfl
      obtain ⟨found, afterHeader, headed, rest⟩ := Decoder.bind_eq_ok whole
      split at rest
      · cases rest
      · next same =>
          obtain ⟨number, payload, numbered, last⟩ := Decoder.bind_eq_ok rest
          obtain ⟨schema, after, learned, given⟩ := Decoder.bind_eq_ok last
          cases given
          refine ⟨payload, ?_, ?_⟩
          · simp only [headed, numbered]
            rw [Classical.not_not.mp same]
          · rw [learned]

theorem schemaPayload_derives {payload : Cursor} {tree : Part}
    (read : (schemaPayload payload).1 = .ok tree) :
    ∃ entry, Part.Derives 0 payload.rest entry := by
  have whole : schemaPayload payload = (.ok tree, (schemaPayload payload).2) := Prod.ext read rfl
  obtain ⟨found, middle, schema, rest⟩ := Decoder.bind_eq_ok whole
  obtain ⟨_, last, finished, given⟩ := Decoder.bind_eq_ok rest
  obtain ⟨bytes, took, entry, derives, _⟩ := (Part.accepts_readSchema payload found middle).mp schema
  refine ⟨entry, ?_⟩
  have nothing : middle.rest = [] :=
    Station.finished_eq_ok_iff.mp (congrArg Prod.fst finished)
  rw [took.here, nothing, List.append_nil]
  exact derives

/-- What is learned of an advertisement is what was advertised, for every tree. -/
theorem readBroadcast_of_broadcast {id other : ChannelId} {tree learned : Part} {packet : Bytes}
    (written : broadcast id tree = .ok packet)
    (read : readBroadcast packet = .ok (other, learned)) : other = id ∧ learned = tree.blank := by
  obtain ⟨plain, same⟩ := broadcast_eq_ok_iff.mp written
  rw [same, readBroadcast_sealed] at read
  have here := payloadStart_rest .broadcast .send id tree.schemaBytes
  cases schema : (schemaPayload (payloadStart .broadcast .send id tree.schemaBytes)).1 with
  | error error =>
      rw [schema] at read
      cases read
  | ok found =>
      rw [schema] at read
      cases read
      obtain ⟨entry, derives⟩ := schemaPayload_derives schema
      rw [here] at derives
      have countable := Part.countable_of_derives plain derives
      refine ⟨rfl, ?_⟩
      by_cases shallow : tree.height ≤ Part.maxDepth
      · rw [schemaPayload_of_shallow plain countable shallow here] at schema
        exact (Except.ok.inj schema).symm
      · rw [schemaPayload_of_deep plain countable (Nat.lt_of_not_le shallow) here] at schema
        cases schema

end Packet

end Telemetry
