/-
The grammar of schemas. An entry is a tag, the bytes of a name and a zero byte; behind
the name of a record stand the count of its fields and as many entries, one level
further in. Names are bytes of any kind but zero, and an entry lies at most `maxDepth`
levels inside others.

Reading accepts this grammar and nothing else, and gives the tree an entry describes,
with its names read as text. No two entries start the same bytes, so what is read
depends on nothing that stands behind it. What was read can always be written, and
reads as itself; the bytes are the same again unless a name was no valid text.
-/

import Telemetry.Proofs.Part.Reading
import Telemetry.Proofs.Text.Lossy
import Telemetry.Proofs.Wire.Acceptance
import Telemetry.Proofs.Wire.Shortage

namespace Telemetry

/-- Filled bytes are taken between two positions exactly if they are what lies there. -/
theorem Cursor.took_iff_extract {packet bytes : Bytes} {start stop : Nat} (filled : bytes ≠ []) :
    Cursor.Took ⟨packet, start⟩ bytes ⟨packet, stop⟩ ↔
      start ≤ stop ∧ stop ≤ packet.length ∧ packet.extract start stop = bytes := by
  have positive := List.length_pos_iff.mpr filled
  rw [List.extract_eq_take_drop]
  constructor
  · rintro ⟨here, place⟩
    have moved : stop = start + bytes.length := congrArg Cursor.position place
    have whole : packet.drop start = bytes ++ packet.drop stop := here
    have lengths := congrArg List.length whole
    rw [List.length_append, List.length_drop, List.length_drop] at lengths
    refine ⟨by omega, by omega, ?_⟩
    rw [whole, moved, Nat.add_sub_cancel_left, List.take_left]
  · rintro ⟨forward, inside, same⟩
    have length : bytes.length = stop - start := by
      rw [← same, List.length_take, List.length_drop]
      omega
    constructor
    · have beyond : packet.drop stop = (packet.drop start).drop (stop - start) := by
        rw [List.drop_drop, Nat.add_sub_cancel' forward]
      change packet.drop start = bytes ++ packet.drop stop
      rw [← same, beyond, List.take_append_drop]
    · rw [Cursor.advance, length, Nat.add_sub_cancel' forward]

/-- Where a name without a zero byte ends is plain from the bytes alone. -/
theorem raw_unique {raw other rest later : Bytes} (clean : zeroByte ∉ raw)
    (cleanOther : zeroByte ∉ other)
    (same : (raw ++ [zeroByte]) ++ rest = (other ++ [zeroByte]) ++ later) :
    raw = other ∧ rest = later := by
  rw [List.append_assoc, List.append_assoc] at same
  exact append_cons_inj clean cleanOther same

namespace Part

/-- A part of a schema with its name as it stands on the wire. -/
inductive Entry where
  | record (name : Bytes) (fields : List Entry)
  | text (name : Bytes)
  | number (name : Bytes) (kind : NumericKind)

namespace Entry

mutual

/-- The names of all nodes, the root first. -/
def names : Entry → List Bytes
  | .record name fields => name :: namesWithin fields
  | .text name => [name]
  | .number name _ => [name]

def namesWithin : List Entry → List Bytes
  | [] => []
  | entry :: rest => entry.names ++ namesWithin rest

end

mutual

/-- The tree an entry describes, with its names read as text. -/
def tree : Entry → Part
  | .record name fields => .record (Utf8.decode name) (trees fields)
  | .text name => .text (Utf8.decode name) "" none
  | .number name kind => .number (Utf8.decode name) (.zero kind) none

def trees : List Entry → List Part
  | [] => []
  | entry :: rest => entry.tree :: trees rest

end

@[simp]
theorem trees_length (entries : List Entry) : (trees entries).length = entries.length := by
  induction entries with
  | nil => rfl
  | cons entry rest ih => rw [trees, List.length_cons, List.length_cons, ih]

end Entry

mutual

/-- These bytes are this entry, and it lies at this depth. -/
inductive Derives : Nat → Bytes → Entry → Prop where
  | record {depth : Nat} {name inside : Bytes} {fields : List Entry} (allowed : depth ≤ maxDepth)
      (clean : zeroByte ∉ name) (countable : fields.length < 256 ^ Decoder.countSize)
      (each : DerivesAll (depth + 1) inside fields) :
      Derives depth
        ([WireType.record.tag] ++ ((name ++ [zeroByte]) ++
          (littleEndian Decoder.countSize fields.length ++ inside)))
        (.record name fields)
  | text {depth : Nat} {name : Bytes} (allowed : depth ≤ maxDepth) (clean : zeroByte ∉ name) :
      Derives depth ([WireType.text.tag] ++ (name ++ [zeroByte])) (.text name)
  | number {depth : Nat} {name : Bytes} {kind : NumericKind} (allowed : depth ≤ maxDepth)
      (clean : zeroByte ∉ name) :
      Derives depth ([(WireType.number kind).tag] ++ (name ++ [zeroByte])) (.number name kind)

/-- These bytes are these entries, one behind the other. -/
inductive DerivesAll : Nat → Bytes → List Entry → Prop where
  | none {depth : Nat} : DerivesAll depth [] []
  | more {depth : Nat} {front back : Bytes} {entry : Entry} {rest : List Entry}
      (first : Derives depth front entry) (later : DerivesAll depth back rest) :
      DerivesAll depth (front ++ back) (entry :: rest)

end

theorem Derives.ne_nil {depth : Nat} {bytes : Bytes} {entry : Entry}
    (derives : Derives depth bytes entry) : bytes ≠ [] := by
  cases derives <;> exact List.cons_ne_nil _ _

private theorem Derives.allowed {depth : Nat} {bytes : Bytes} {entry : Entry}
    (derives : Derives depth bytes entry) : depth ≤ maxDepth := by
  cases derives <;> assumption

/-- What reading one entry at this depth accepts. -/
def EntryForm (depth : Nat) (bytes : Bytes) (tree : Part) : Prop :=
  ∃ entry, Derives depth bytes entry ∧ tree = entry.tree

private theorem sequence_entries_iff {depth : Nat} {bytes : Bytes} {trees : List Part} :
    Decoder.Sequence (EntryForm depth) bytes trees ↔
      ∃ entries, DerivesAll depth bytes entries ∧ trees = Entry.trees entries := by
  constructor
  · intro sequence
    induction sequence with
    | nothing => exact ⟨[], .none, rfl⟩
    | more first _ ih =>
        obtain ⟨entry, derives, same⟩ := first
        obtain ⟨entries, derivesLater, sameLater⟩ := ih
        refine ⟨entry :: entries, .more derives derivesLater, ?_⟩
        rw [same, sameLater, Entry.trees]
  · rintro ⟨entries, derives, rfl⟩
    induction entries generalizing bytes with
    | nil =>
        cases derives
        exact .nothing
    | cons entry rest ih =>
        cases derives with
        | more first later => exact .more ⟨entry, first, rfl⟩ (ih later)

private theorem consumes_times {decoder : Decoder Part} {depth : Nat}
    (each : ∀ bytes entry, Derives depth bytes entry → decoder.Consumes bytes entry.tree)
    (entries : List Entry) : ∀ bytes, DerivesAll depth bytes entries →
      (decoder.times entries.length).Consumes bytes (Entry.trees entries) := by
  induction entries with
  | nil =>
      intro bytes derives
      cases derives
      exact ⟨Decoder.reads_times_zero decoder, Decoder.needs_nil _⟩
  | cons entry rest ih =>
      intro bytes derives
      cases derives with
      | more first later =>
          exact (each _ entry first).bind ((ih _ later).map (entry.tree :: ·))

/-- Every byte of an entry is needed to read it. -/
theorem consumes_readSchemaWithin (levels : Nat) : ∀ depth, depth + levels = maxDepth + 1 →
    ∀ bytes entry, Derives depth bytes entry →
      (readSchemaWithin levels).Consumes bytes entry.tree := by
  induction levels with
  | zero =>
      intro depth whole bytes entry derives
      have allowed := derives.allowed
      omega
  | succ levels ih =>
      intro depth whole bytes entry derives
      have within := ih (depth + 1) (by omega)
      cases derives with
      | @record _ name inside fields _ clean countable each =>
          have below := consumes_times within fields inside each
          exact (Decoder.consumes_wireType .record).bind ((Decoder.consumes_rawText clean).bind
            ((Decoder.consumes_fieldCount countable).bind
              (below.map (Part.record (Utf8.decode name)))))
      | text _ clean =>
          exact (Decoder.consumes_wireType .text).bind
            ((Decoder.consumes_rawText clean).map fun name => Part.text name "" none)
      | @number _ _ kind _ clean =>
          exact (Decoder.consumes_wireType (.number kind)).bind
            ((Decoder.consumes_rawText clean).map fun name => Part.number name (.zero kind) none)

/-- Where the reader has levels left, the grammar has depths, and no others. -/
theorem accepts_readSchemaWithin (levels : Nat) : ∀ depth, depth + levels = maxDepth + 1 →
    (readSchemaWithin levels).Accepts (EntryForm depth) := by
  induction levels with
  | zero =>
      intro depth whole
      apply (Decoder.accepts_fail (.tooDeep maxDepth)).congr
      intro bytes tree
      refine ⟨False.elim, ?_⟩
      rintro ⟨entry, derives, _⟩
      have allowed := derives.allowed
      omega
  | succ levels ih =>
      intro depth whole
      have within := ih (depth + 1) (by omega)
      have allowed : depth ≤ maxDepth := by omega
      apply Decoder.accepts_of
      · intro cursor tree after read
        obtain ⟨wireType, afterTag, readTag, named⟩ := Decoder.bind_eq_ok read
        obtain ⟨name, afterName, readName, rest⟩ := Decoder.bind_eq_ok named
        obtain ⟨_, tookTag, rfl⟩ := (Decoder.accepts_wireType _ _ _).mp readTag
        obtain ⟨_, tookName, raw, clean, rfl, rfl⟩ := (Decoder.accepts_text _ _ _).mp readName
        cases wireType with
        | record =>
            obtain ⟨count, afterCount, readCount, inside⟩ := Decoder.bind_eq_ok rest
            obtain ⟨fields, last, readFields, whole⟩ := Decoder.bind_eq_ok inside
            cases whole
            obtain ⟨_, tookCount, bound, rfl⟩ := (Decoder.accepts_fieldCount _ _ _).mp readCount
            obtain ⟨_, tookFields, sequence, sized⟩ := (within.times count _ _ _).mp readFields
            obtain ⟨entries, each, rfl⟩ := sequence_entries_iff.mp sequence
            rw [Entry.trees_length] at sized
            subst sized
            exact ⟨_, tookTag.trans (tookName.trans (tookCount.trans tookFields)),
              .record raw entries, .record allowed clean bound each, rfl⟩
        | text =>
            cases rest
            exact ⟨_, tookTag.trans tookName, .text raw, .text allowed clean, rfl⟩
        | number kind =>
            cases rest
            exact ⟨_, tookTag.trans tookName, .number raw kind, .number allowed clean, rfl⟩
      · rintro bytes tree ⟨entry, derives, rfl⟩
        exact (consumes_readSchemaWithin (levels + 1) depth whole bytes entry derives).reads

theorem accepts_readSchema : readSchema.Accepts (EntryForm 0) :=
  accepts_readSchemaWithin (maxDepth + 1) 0 (Nat.zero_add (maxDepth + 1))

mutual

/-- Bytes start with one entry at most. -/
theorem Derives.unique : (entry rival : Entry) → {depth deep : Nat} →
    {front other rest later : Bytes} → Derives depth front entry → Derives deep other rival →
    front ++ rest = other ++ later → entry = rival ∧ rest = later
  | .record name fields, .record rival rivals, _, _, _, _, rest, later, derives, derivesOther,
      same => by
      cases derives with
      | @record _ _ inside _ _ clean countable each =>
          cases derivesOther with
          | @record _ _ insideOther _ _ cleanOther countableOther eachOther =>
              simp only [List.cons_append, List.cons.injEq, true_and,
                List.append_assoc _ _ rest, List.append_assoc _ _ later] at same
              obtain ⟨sameName, sameBehind⟩ := raw_unique clean cleanOther same
              have sized : (littleEndian Decoder.countSize fields.length).length =
                  (littleEndian Decoder.countSize rivals.length).length := by
                rw [littleEndian_length, littleEndian_length]
              obtain ⟨sameCount, sameFields⟩ := List.append_inj sameBehind sized
              have counts := congrArg ofLittleEndian sameCount
              rw [ofLittleEndian_littleEndian, ofLittleEndian_littleEndian,
                Nat.mod_eq_of_lt countable, Nat.mod_eq_of_lt countableOther] at counts
              obtain ⟨sameEach, sameRest⟩ :=
                DerivesAll.unique fields rivals each eachOther counts sameFields
              rw [sameName, sameEach]
              exact ⟨rfl, sameRest⟩
  | .text name, .text rival, _, _, _, _, rest, later, derives, derivesOther, same => by
      cases derives with
      | text _ clean =>
          cases derivesOther with
          | text _ cleanOther =>
              obtain ⟨sameName, sameRest⟩ :=
                raw_unique clean cleanOther (List.cons.inj same).2
              rw [sameName]
              exact ⟨rfl, sameRest⟩
  | .number name kind, .number rival kindOther, _, _, _, _, rest, later, derives, derivesOther,
      same => by
      cases derives with
      | number _ clean =>
          cases derivesOther with
          | number _ cleanOther =>
              obtain ⟨sameTag, sameBehind⟩ := List.cons.inj same
              obtain ⟨sameName, sameRest⟩ := raw_unique clean cleanOther sameBehind
              have known := congrArg WireType.ofTag? sameTag
              rw [WireType.ofTag?_tag, WireType.ofTag?_tag, Option.some.injEq,
                WireType.number.injEq] at known
              rw [sameName, known]
              exact ⟨rfl, sameRest⟩
  | .record _ _, .text _, _, _, _, _, _, _, derives, derivesOther, same
  | .text _, .record _ _, _, _, _, _, _, _, derives, derivesOther, same => by
      cases derives
      cases derivesOther
      cases (List.cons.inj same).1
  | .record _ _, .number _ kind, _, _, _, _, _, _, derives, derivesOther, same
  | .text _, .number _ kind, _, _, _, _, _, _, derives, derivesOther, same
  | .number _ kind, .record _ _, _, _, _, _, _, _, derives, derivesOther, same
  | .number _ kind, .text _, _, _, _, _, _, _, derives, derivesOther, same => by
      cases derives
      cases derivesOther
      cases kind <;> cases (List.cons.inj same).1

private theorem DerivesAll.unique : (entries rivals : List Entry) → {depth deep : Nat} →
    {front other rest later : Bytes} → DerivesAll depth front entries →
    DerivesAll deep other rivals → entries.length = rivals.length →
    front ++ rest = other ++ later → entries = rivals ∧ rest = later
  | [], [], _, _, _, _, _, _, derives, derivesOther, _, same => by
      cases derives
      cases derivesOther
      exact ⟨rfl, same⟩
  | [], _ :: _, _, _, _, _, _, _, _, _, sized, _ | _ :: _, [], _, _, _, _, _, _, _, _, sized, _ => by
      cases sized
  | entry :: entries, rival :: rivals, _, _, _, _, rest, later, derives, derivesOther, sized,
      same => by
      cases derives with
      | more first further =>
          cases derivesOther with
          | more firstOther furtherOther =>
              rw [List.append_assoc, List.append_assoc] at same
              obtain ⟨sameEntry, sameBehind⟩ := Derives.unique entry rival first firstOther same
              obtain ⟨sameEntries, sameRest⟩ := DerivesAll.unique entries rivals further
                furtherOther (Nat.succ.inj sized) sameBehind
              rw [sameEntry, sameEntries]
              exact ⟨rfl, sameRest⟩

end

end Part

end Telemetry
