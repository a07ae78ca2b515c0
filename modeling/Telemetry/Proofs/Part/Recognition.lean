/-
What reading a schema comes to, for all bytes there are. It succeeds exactly where an
entry of the grammar stands, and stops behind it. The tree it gives can be advertised
again, and is then learned as it is; it is written as the bytes it was read from if
these held nothing but valid text.
-/

import Telemetry.Proofs.Part.Grammar

namespace Telemetry.Part

mutual

theorem Entry.tree_blank : (entry : Entry) → entry.tree.blank = entry.tree
  | .record name fields => by rw [tree, blank, trees_blanks fields]
  | .text name => rfl
  | .number name kind => rfl

private theorem Entry.trees_blanks : (entries : List Entry) → blanks (trees entries) = trees entries
  | [] => rfl
  | entry :: rest => by rw [trees, blanks, tree_blank entry, trees_blanks rest]

end

/-- Parts that can be advertised within a tree, so many levels below its root. -/
structure AdvertisableAt (depth : Nat) (names : List String) (fieldCounts : List Nat)
    (height : Nat) : Prop where
  plainNames : ∀ name ∈ names, WireItem.isPlain name = true
  countable : ∀ count ∈ fieldCounts, count < 256 ^ Decoder.countSize
  shallow : depth + height ≤ maxDepth

mutual

private theorem Derives.advertisableAt : (entry : Entry) → {depth : Nat} → {bytes : Bytes} →
    Derives depth bytes entry →
    AdvertisableAt depth entry.tree.names entry.tree.fieldCounts entry.tree.height
  | .record name fields, _, _, derives => by
      cases derives with
      | record allowed clean countable each =>
          have below := DerivesAll.advertisableAt fields allowed each
          rw [Entry.tree, Part.names, fieldCounts, height]
          refine ⟨?_, ?_, below.shallow⟩
          · exact List.forall_mem_cons.mpr ⟨Utf8.isPlain_decode clean, below.plainNames⟩
          · rw [Entry.trees_length]
            exact List.forall_mem_cons.mpr ⟨countable, below.countable⟩
  | .text name, _, _, derives => by
      cases derives with
      | text allowed clean =>
          refine ⟨?_, fun count member => absurd member List.not_mem_nil, allowed⟩
          exact List.forall_mem_singleton.mpr (Utf8.isPlain_decode clean)
  | .number name kind, _, _, derives => by
      cases derives with
      | number allowed clean =>
          refine ⟨?_, fun count member => absurd member List.not_mem_nil, allowed⟩
          exact List.forall_mem_singleton.mpr (Utf8.isPlain_decode clean)

/-- Seen from the record around them, which lies one level further out. -/
private theorem DerivesAll.advertisableAt : (entries : List Entry) → {depth : Nat} →
    {bytes : Bytes} → depth ≤ maxDepth → DerivesAll (depth + 1) bytes entries →
    AdvertisableAt depth (namesWithin (Entry.trees entries))
      (fieldCountsWithin (Entry.trees entries)) (heightWithin (Entry.trees entries))
  | [], _, _, allowed, _ =>
      ⟨fun _ member => absurd member List.not_mem_nil,
        fun _ member => absurd member List.not_mem_nil, allowed⟩
  | entry :: rest, depth, _, allowed, derives => by
      cases derives with
      | more first later =>
          have here := Derives.advertisableAt entry first
          have further := DerivesAll.advertisableAt rest allowed later
          rw [Entry.trees, namesWithin, fieldCountsWithin, heightWithin]
          refine ⟨?_, ?_, ?_⟩
          · exact List.forall_mem_append.mpr ⟨here.plainNames, further.plainNames⟩
          · exact List.forall_mem_append.mpr ⟨here.countable, further.countable⟩
          · have hereDeep := here.shallow
            have furtherDeep := further.shallow
            omega

end

theorem Derives.advertisable {bytes : Bytes} {entry : Entry} (derives : Derives 0 bytes entry) :
    entry.tree.Advertisable := by
  have fit := derives.advertisableAt
  exact ⟨fit.plainNames, fit.countable, Nat.zero_add entry.tree.height ▸ fit.shallow⟩

/-- Whatever schema is learned can be passed on. -/
theorem advertisable_of_readBroadcast {packet : Bytes} {id : ChannelId} {tree : Part}
    (read : Packet.readBroadcast packet = .ok (id, tree)) : tree.Advertisable := by
  obtain ⟨cursor, after, schema⟩ := Packet.readSchema_of_readBroadcast read
  obtain ⟨_, _, entry, derives, rfl⟩ := (accepts_readSchema cursor tree after).mp schema
  exact derives.advertisable

private theorem toBytes_text_decode {raw : Bytes} (valid : raw.toByteArray.IsValidUTF8) :
    (WireItem.text (Utf8.decode raw)).toBytes = raw ++ [zeroByte] := by
  rw [WireItem.toBytes, Utf8.encode_decode valid]

mutual

theorem Derives.schemaBytes_tree : (entry : Entry) → {depth : Nat} → {bytes : Bytes} →
    Derives depth bytes entry → (∀ name ∈ entry.names, name.toByteArray.IsValidUTF8) →
    entry.tree.schemaBytes = bytes
  | .record name fields, _, _, derives, valid => by
      rw [Entry.names, List.forall_mem_cons] at valid
      cases derives with
      | record _ _ _ each =>
          rw [Entry.tree, schemaBytes_record, toBytes_text_decode valid.1, Entry.trees_length,
            DerivesAll.schemasBytes_trees fields each valid.2]
  | .text name, _, _, derives, valid => by
      cases derives with
      | text _ _ =>
          rw [Entry.tree, schemaBytes_text, toBytes_text_decode (valid name List.mem_cons_self)]
  | .number name kind, _, _, derives, valid => by
      cases derives with
      | number _ _ =>
          rw [Entry.tree, schemaBytes_number, toBytes_text_decode (valid name List.mem_cons_self)]
          rfl

private theorem DerivesAll.schemasBytes_trees : (entries : List Entry) → {depth : Nat} →
    {bytes : Bytes} → DerivesAll depth bytes entries →
    (∀ name ∈ Entry.namesWithin entries, name.toByteArray.IsValidUTF8) →
    schemasBytes (Entry.trees entries) = bytes
  | [], _, _, derives, _ => by
      cases derives
      rfl
  | entry :: rest, _, _, derives, valid => by
      rw [Entry.namesWithin, List.forall_mem_append] at valid
      cases derives with
      | more first later =>
          rw [Entry.trees, schemasBytes_cons, Derives.schemaBytes_tree entry first valid.1,
            DerivesAll.schemasBytes_trees rest later valid.2]

end

theorem Derives.rereads {bytes : Bytes} {entry : Entry} (derives : Derives 0 bytes entry) :
    readSchema.Reads entry.tree.schemaBytes entry.tree := by
  have fit := derives.advertisable
  have read := reads_schema entry.tree (maxDepth + 1) fit.plainNames fit.countable
    (Nat.lt_succ_of_le fit.shallow)
  rwa [entry.tree_blank] at read

/-- Reading a schema recognises the grammar. It succeeds on a packet, from any position,
exactly if an entry stands there, gives the blank tree of that entry, and stops behind
it. There is one such entry at most, and what follows it makes no difference. The tree
can be written and is read back as it is, and what is written is what was read if all
names are valid text. -/
theorem recognition :
    (∀ (packet : Bytes) (start stop : Nat) (tree : Part),
      readSchema ⟨packet, start⟩ = (.ok tree, ⟨packet, stop⟩) ↔
        start ≤ stop ∧ stop ≤ packet.length ∧
          ∃ entry, Derives 0 (packet.extract start stop) entry ∧ tree = entry.tree) ∧
    (∀ front other rest later entry rival, Derives 0 front entry → Derives 0 other rival →
      front ++ rest = other ++ later → front = other ∧ entry = rival) ∧
    ∀ bytes entry, Derives 0 bytes entry →
      readSchema.Reads bytes entry.tree ∧
      (∀ value ∈ entry.tree.values, value.isUnset = true) ∧
      entry.tree.sourceIds = [] ∧
      ∃ written, WireItem.encode entry.tree.schemaItems = .ok written ∧
        readSchema.Reads written entry.tree ∧
        ((∀ name ∈ entry.names, name.toByteArray.IsValidUTF8) → written = bytes) := by
  refine ⟨?_, ?_, ?_⟩
  · intro packet start stop tree
    rw [accepts_readSchema ⟨packet, start⟩ tree ⟨packet, stop⟩]
    constructor
    · rintro ⟨bytes, took, entry, derives, same⟩
      obtain ⟨forward, inside, here⟩ := (Cursor.took_iff_extract derives.ne_nil).mp took
      rw [← here] at derives
      exact ⟨forward, inside, entry, derives, same⟩
    · rintro ⟨forward, inside, entry, derives, same⟩
      have took := (Cursor.took_iff_extract derives.ne_nil).mpr ⟨forward, inside, rfl⟩
      exact ⟨packet.extract start stop, took, entry, derives, same⟩
  · intro front other rest later entry rival derives derivesOther same
    obtain ⟨sameEntry, sameRest⟩ := Derives.unique entry rival derives derivesOther same
    rw [sameRest] at same
    exact ⟨List.append_cancel_right same, sameEntry⟩
  · intro bytes entry derives
    have blankValues := blank_values entry.tree
    have blankSources := blank_sourceIds entry.tree
    rw [entry.tree_blank] at blankValues blankSources
    exact ⟨accepts_readSchema.reads ⟨entry, derives, rfl⟩, blankValues, blankSources,
      entry.tree.schemaBytes, encode_schemaItems derives.advertisable.plainNames,
      derives.rereads, derives.schemaBytes_tree entry⟩

/-- A record whose name is no text, between other bytes. Its name grows when written. -/
theorem recognition_of_damaged_name :
    let packet : Bytes := [0xEE, 0, 0xFF, 0, 1, 0, 0, 0, 5, 0x61, 0, 9]
    let entry : Entry := .record [0xFF] [.number [0x61] .uint8]
    let tree : Part := .record "\ufffd" [.number "a" (.zero .uint8) none]
    Derives 0 (packet.extract 1 11) entry ∧
      readSchema ⟨packet, 1⟩ = (.ok tree, ⟨packet, 11⟩) ∧
      ∃ written, WireItem.encode tree.schemaItems = .ok written ∧
        readSchema.Reads written tree ∧
        written = [0, 0xEF, 0xBF, 0xBD, 0, 1, 0, 0, 0, 5, 0x61, 0] := by
  intro packet entry tree
  have field : Derives 1 [5, 0x61, 0] (.number [0x61] .uint8) :=
    @Derives.number 1 [0x61] .uint8 (by decide) (by decide)
  have derives : Derives 0 (packet.extract 1 11) entry :=
    @Derives.record 0 [0xFF] [5, 0x61, 0] _ (by decide) (by decide) (by decide)
      (.more field .none)
  have names : Utf8.decode [0xFF] = "\ufffd" ∧ Utf8.decode [0x61] = "a" := by decide +kernel
  have same : entry.tree = tree := by
    simp [entry, tree, Entry.tree, Entry.trees, names]
  obtain ⟨accepts, _, tells⟩ := recognition
  have read := (accepts packet 1 11 tree).mpr ⟨by decide, by decide, entry, derives, same.symm⟩
  obtain ⟨_, _, _, written, encoded, rereads, _⟩ := tells _ entry derives
  rw [same] at encoded rereads
  refine ⟨derives, read, written, encoded, rereads, ?_⟩
  rw [(WireItem.encode_eq_ok_iff.mp encoded).2]
  decide +kernel

end Telemetry.Part
