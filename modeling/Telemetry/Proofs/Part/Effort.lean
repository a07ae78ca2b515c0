/-
The effort of reading a schema is bounded by the bytes that are there, whatever counts they
claim. An entry that is read to the end of its name has used two bytes, and behind one that is
not nothing more is read. So the bytes left pay for every entry that is begun but the last.

What is read costs what it must: one entry for each node of the tree.
-/

import Telemetry.Part.Effort
import Telemetry.Proofs.Part.Recognition

namespace Telemetry

/-- A place in the same packet, here or further on. -/
structure Cursor.Reaches (before after : Cursor) : Prop where
  packet : after.packet = before.packet
  forward : before.position ≤ after.position

namespace Cursor

private theorem Reaches.here (cursor : Cursor) : cursor.Reaches cursor := ⟨rfl, Nat.le_refl _⟩

theorem Reaches.trans {before middle after : Cursor} (first : before.Reaches middle)
    (second : middle.Reaches after) : before.Reaches after :=
  ⟨second.packet.trans first.packet, Nat.le_trans first.forward second.forward⟩

private theorem Reaches.remaining_le {before after : Cursor} (reaches : before.Reaches after) :
    after.remaining ≤ before.remaining := by
  have forward := reaches.forward
  unfold remaining
  rw [reaches.packet]
  omega

private theorem Took.reaches {before after : Cursor} {bytes : Bytes}
    (took : before.Took bytes after) : before.Reaches after := by
  rw [took.place]
  exact ⟨rfl, Nat.le_add_right _ _⟩

private theorem Took.remaining {before after : Cursor} {bytes : Bytes}
    (took : before.Took bytes after) : before.remaining = bytes.length + after.remaining := by
  rw [remaining_of_rest took.here, rest_length]

end Cursor

private theorem Decoder.Accepts.reaches {α : Type} {decoder : Decoder α} {form : Bytes → α → Prop}
    (accepts : decoder.Accepts form) (stays : decoder.Stays) (cursor : Cursor) :
    cursor.Reaches (decoder cursor).2 := by
  cases read : decoder cursor with
  | mk outcome after =>
      cases outcome with
      | error error =>
          rw [stays cursor error after read]
          exact .here cursor
      | ok value =>
          obtain ⟨bytes, took, _⟩ := (accepts cursor value after).mp read
          exact took.reaches

namespace TracedDecoder

variable {α β : Type}

private theorem bind_of_ok {first : TracedDecoder α} (next : α → TracedDecoder β)
    {cursor after : Cursor}
    {efforts : List Effort} {value : α} (read : first cursor = ⟨efforts, .ok value, after⟩) :
    (first >>= next) cursor =
      ⟨efforts ++ (next value after).efforts, (next value after).outcome,
        (next value after).cursor⟩ := by
  change andThen first next cursor = _
  rw [andThen, read]

private theorem bind_of_error {first : TracedDecoder α} (next : α → TracedDecoder β)
    {cursor after : Cursor} {efforts : List Effort} {error : DecodeError}
    (failed : first cursor = ⟨efforts, .error error, after⟩) :
    (first >>= next) cursor = ⟨efforts, .error error, after⟩ := by
  change andThen first next cursor = _
  rw [andThen, failed]

/-- A sequence succeeds only if its parts do, and its efforts are theirs. -/
private theorem bind_eq_ok {first : TracedDecoder α} {next : α → TracedDecoder β}
    {cursor after : Cursor} {efforts : List Effort} {value : β}
    (read : (first >>= next) cursor = ⟨efforts, .ok value, after⟩) :
    ∃ early found middle late, first cursor = ⟨early, .ok found, middle⟩ ∧
      next found middle = ⟨late, .ok value, after⟩ ∧ efforts = early ++ late := by
  cases begun : first cursor with
  | mk early outcome middle =>
      cases outcome with
      | error error =>
          rw [bind_of_error next begun] at read
          cases read
      | ok found =>
          rw [bind_of_ok next begun, Trace.mk.injEq] at read
          obtain ⟨rfl, ends, place⟩ := read
          exact ⟨early, found, middle, (next found middle).efforts, rfl, by rw [← ends, ← place],
            rfl⟩

private theorem plain_bind (first : TracedDecoder α) (next : α → TracedDecoder β) :
    (first >>= next).plain = first.plain >>= fun value => (next value).plain := by
  funext cursor
  rw [Decoder.bind_apply]
  unfold plain
  cases read : first cursor with
  | mk efforts outcome after =>
      cases outcome with
      | error error => rw [bind_of_error next read]
      | ok value => rw [bind_of_ok next read]

private theorem efforts_of_free {decoder : Decoder α} {cursor after : Cursor}
    {efforts : List Effort}
    {outcome : Except DecodeError α} (read : free decoder cursor = ⟨efforts, outcome, after⟩) :
    efforts = [] :=
  (congrArg Trace.efforts read).symm

private theorem plain_spend (effort : Cursor → Effort) (next : Unit → TracedDecoder α) :
    (spend effort >>= next).plain = (next ()).plain := plain_bind (spend effort) next

private theorem plain_times (decoder : TracedDecoder α) (count : Nat) :
    (decoder.times count).plain = decoder.plain.times count := by
  induction count with
  | zero => rfl
  | succ count ih =>
      rw [times, plain_bind, Decoder.times]
      congr 1
      funext first
      rw [plain_bind, ih]
      rfl

end TracedDecoder

/-- What a reading owes where it ends. It is in the middle of an entry if it failed. -/
def Trace.owed {α : Type} (trace : Trace α) : Nat :=
  match trace.outcome with
  | .ok _ => 0
  | .error _ => 2

/-- Behind this cursor, two bytes were used for every entry that is not owed, and room was never
made for more fields than two bytes each were left for. -/
structure Trace.Sparing {α : Type} (trace : Trace α) (cursor : Cursor) : Prop where
  reaches : cursor.Reaches trace.cursor
  entries : 2 * trace.efforts.count .entry + trace.cursor.remaining ≤
    cursor.remaining + trace.owed
  rooms : ∀ fields here, .room fields here ∈ trace.efforts →
    cursor.Reaches here ∧ fields ≤ here.remaining / 2

/-- A reading that ends inside the first entry owes it. -/
private theorem Trace.sparing_unfinished {α : Type} {cursor after : Cursor}
    (reaches : cursor.Reaches after)
    (error : DecodeError) : Trace.Sparing (⟨[.entry], .error error, after⟩ : Trace α) cursor := by
  refine ⟨reaches, ?_, ?_⟩
  · have less := reaches.remaining_le
    rw [owed, List.count_singleton_self]
    simp only
    omega
  · intro fields here member
    cases List.mem_singleton.mp member

/-- Two bytes pay for an entry. -/
private theorem Trace.Sparing.entry {α : Type} {trace : Trace α} {cursor after : Cursor}
    {head : Bytes}
    (sparing : trace.Sparing after) (took : cursor.Took head after) (enough : 2 ≤ head.length) :
    Trace.Sparing ⟨.entry :: trace.efforts, trace.outcome, trace.cursor⟩ cursor := by
  obtain ⟨reaches, entries, rooms⟩ := sparing
  refine ⟨took.reaches.trans reaches, ?_, ?_⟩
  · have used := took.remaining
    unfold owed at entries ⊢
    rw [List.count_cons_self]
    simp only at entries ⊢
    omega
  · intro fields here member
    have within := (List.mem_cons.mp member).resolve_left Effort.noConfusion
    obtain ⟨reached, few⟩ := rooms fields here within
    exact ⟨took.reaches.trans reached, few⟩

namespace TracedDecoder

variable {α β : Type}

def Sparing (traced : TracedDecoder α) : Prop := ∀ cursor, (traced cursor).Sparing cursor

private theorem sparing_free {decoder : Decoder α}
    (reaches : ∀ cursor : Cursor, cursor.Reaches (decoder cursor).2) : (free decoder).Sparing := by
  intro cursor
  refine ⟨reaches cursor, ?_, fun _ _ member => absurd member List.not_mem_nil⟩
  have less := (reaches cursor).remaining_le
  unfold free
  rw [List.count_nil]
  simp only
  omega

private theorem sparing_pure (value : α) : (pure value : TracedDecoder α).Sparing := by
  have stays : ∀ cursor : Cursor, cursor.Reaches ((pure value : Decoder α) cursor).2 :=
    Cursor.Reaches.here
  exact sparing_free stays

private theorem sparing_room (count : Nat) : (spend (Part.roomFor count)).Sparing := by
  intro cursor
  refine ⟨.here cursor, ?_, ?_⟩
  · have none : [Part.roomFor count cursor].count .entry = 0 := rfl
    unfold spend
    rw [none]
    simp only
    omega
  · intro fields here member
    cases List.mem_singleton.mp member
    exact ⟨.here cursor, Nat.min_le_right count _⟩

private theorem Sparing.bind {first : TracedDecoder α} {next : α → TracedDecoder β}
    (sparing : first.Sparing) (further : ∀ value, (next value).Sparing) :
    (first >>= next).Sparing := by
  intro cursor
  obtain ⟨reaches, entries, rooms⟩ := sparing cursor
  cases read : first cursor with
  | mk efforts outcome after =>
      rw [read] at reaches entries rooms
      cases outcome with
      | error error =>
          rw [bind_of_error next read]
          exact ⟨reaches, entries, rooms⟩
      | ok value =>
          obtain ⟨reachesLater, entriesLater, roomsLater⟩ := further value after
          rw [bind_of_ok next read]
          refine ⟨reaches.trans reachesLater, ?_, ?_⟩
          · unfold Trace.owed at entries entriesLater ⊢
            rw [List.count_append]
            simp only at entries entriesLater ⊢
            omega
          · intro fields here member
            rcases List.mem_append.mp member with early | late
            · exact rooms fields here early
            · obtain ⟨reached, few⟩ := roomsLater fields here late
              exact ⟨reaches.trans reached, few⟩

private theorem Sparing.times {decoder : TracedDecoder α} (sparing : decoder.Sparing)
    (count : Nat) : (decoder.times count).Sparing := by
  induction count with
  | zero => exact sparing_pure []
  | succ count ih =>
      exact sparing.bind fun first => ih.bind fun later => sparing_pure (first :: later)

/-- An entry has paid for itself where its name ends. -/
private theorem sparing_entry {rest : WireType → String → TracedDecoder α}
    (further : ∀ wireType name, (rest wireType name).Sparing) :
    (spend (fun _ => .entry) >>= fun _ => free Decoder.wireType >>= fun wireType =>
      free Decoder.text >>= fun name => rest wireType name).Sparing := by
  intro cursor
  have begun : spend (fun _ => .entry) cursor = ⟨[.entry], .ok (), cursor⟩ := rfl
  rw [bind_of_ok _ begun]
  cases readTag : Decoder.wireType cursor with
  | mk tagOutcome afterTag =>
      have tagged : free Decoder.wireType cursor = ⟨[], tagOutcome, afterTag⟩ := by
        rw [free, readTag]
      cases tagOutcome with
      | error error =>
          rw [bind_of_error _ tagged, Decoder.stays_wireType cursor error afterTag readTag]
          exact Trace.sparing_unfinished (.here cursor) error
      | ok wireType =>
          obtain ⟨_, tookTag, rfl⟩ := (Decoder.accepts_wireType _ _ _).mp readTag
          rw [bind_of_ok _ tagged]
          cases readName : Decoder.text afterTag with
          | mk nameOutcome afterName =>
              have named : free Decoder.text afterTag = ⟨[], nameOutcome, afterName⟩ := by
                rw [free, readName]
              cases nameOutcome with
              | error error =>
                  rw [bind_of_error _ named,
                    Decoder.wants_text.stays afterTag error afterName readName]
                  exact Trace.sparing_unfinished tookTag.reaches error
              | ok name =>
                  obtain ⟨_, tookName, raw, _, rfl, _⟩ := (Decoder.accepts_text _ _ _).mp readName
                  rw [bind_of_ok _ named]
                  refine (further wireType name afterName).entry (tookTag.trans tookName) ?_
                  rw [List.length_append, List.length_append, List.length_singleton,
                    List.length_singleton]
                  omega

end TracedDecoder

namespace Part

open TracedDecoder (free spend)

theorem plain_traceSchemaWithin (levels : Nat) :
    (traceSchemaWithin levels).plain = readSchemaWithin levels := by
  induction levels with
  | zero => rfl
  | succ levels ih =>
      rw [traceSchemaWithin, readSchemaWithin, TracedDecoder.plain_spend, TracedDecoder.plain_bind]
      congr 1
      funext wireType
      rw [TracedDecoder.plain_bind]
      congr 1
      funext name
      cases wireType with
      | record =>
          simp only
          rw [TracedDecoder.plain_bind]
          congr 1
          funext count
          rw [TracedDecoder.plain_spend, TracedDecoder.plain_bind, TracedDecoder.plain_times, ih]
          rfl
      | text => rfl
      | number kind => rfl

theorem sparing_traceSchemaWithin (levels : Nat) : (traceSchemaWithin levels).Sparing := by
  induction levels with
  | zero => exact fun cursor => Trace.sparing_unfinished (.here cursor) (.tooDeep maxDepth)
  | succ levels ih =>
      apply TracedDecoder.sparing_entry
      intro wireType name
      cases wireType with
      | record =>
          have counted := TracedDecoder.sparing_free
            (Decoder.accepts_fieldCount.reaches Decoder.wants_fieldCount.stays)
          exact counted.bind fun count => (TracedDecoder.sparing_room count).bind fun _ =>
            (ih.times count).bind fun fields => TracedDecoder.sparing_pure (Part.record name fields)
      | text => exact TracedDecoder.sparing_pure _
      | number kind => exact TracedDecoder.sparing_pure _

/-- These efforts are one entry for each of so many nodes, and room for each of so many records. -/
structure Spent (efforts : List Effort) (nodes records : Nat) : Prop where
  entries : efforts.count .entry = nodes
  all : efforts.length = nodes + records

private theorem Spent.append {efforts later : List Effort}
    {nodes records further furtherRecords : Nat}
    (spent : Spent efforts nodes records) (behind : Spent later further furtherRecords) :
    Spent (efforts ++ later) (nodes + further) (records + furtherRecords) := by
  have all := spent.all
  have allBehind := behind.all
  constructor
  · rw [List.count_append, spent.entries, behind.entries]
  · rw [List.length_append]
    omega

private theorem spent_room {count : Nat} {cursor after : Cursor} {efforts : List Effort}
    {outcome : Except DecodeError Unit}
    (reserved : spend (roomFor count) cursor = ⟨efforts, outcome, after⟩) : Spent efforts 0 1 := by
  cases reserved
  exact ⟨rfl, rfl⟩

private theorem spent_times {decoder : TracedDecoder Part}
    (each : ∀ cursor efforts tree after, decoder cursor = ⟨efforts, .ok tree, after⟩ →
      Spent efforts tree.names.length tree.fieldCounts.length) (count : Nat) :
    ∀ cursor efforts trees after, decoder.times count cursor = ⟨efforts, .ok trees, after⟩ →
      Spent efforts (namesWithin trees).length (fieldCountsWithin trees).length := by
  induction count with
  | zero =>
      intro cursor efforts trees after read
      cases read
      exact ⟨rfl, rfl⟩
  | succ count ih =>
      intro cursor efforts trees after read
      obtain ⟨_, tree, middle, _, first, behind, rfl⟩ := TracedDecoder.bind_eq_ok read
      obtain ⟨_, later, last, _, rest, whole, rfl⟩ := TracedDecoder.bind_eq_ok behind
      cases whole
      rw [namesWithin, fieldCountsWithin, List.length_append, List.length_append, List.append_nil]
      exact (each _ _ _ _ first).append (ih _ _ _ _ rest)

theorem spent_traceSchemaWithin (levels : Nat) :
    ∀ cursor efforts tree after, traceSchemaWithin levels cursor = ⟨efforts, .ok tree, after⟩ →
      Spent efforts tree.names.length tree.fieldCounts.length := by
  induction levels with
  | zero =>
      intro cursor efforts tree after read
      cases read
  | succ levels ih =>
      intro cursor efforts tree after read
      obtain ⟨_, _, _, _, begun, tagged, rfl⟩ := TracedDecoder.bind_eq_ok read
      obtain ⟨_, wireType, _, _, readTag, named, rfl⟩ := TracedDecoder.bind_eq_ok tagged
      obtain ⟨_, name, _, _, readName, rest, rfl⟩ := TracedDecoder.bind_eq_ok named
      cases begun
      cases TracedDecoder.efforts_of_free readTag
      cases TracedDecoder.efforts_of_free readName
      have entry : Spent [.entry] 1 0 := ⟨rfl, rfl⟩
      cases wireType with
      | record =>
          obtain ⟨_, count, _, _, readCount, inside, rfl⟩ := TracedDecoder.bind_eq_ok rest
          obtain ⟨_, _, _, _, reserved, within, rfl⟩ := TracedDecoder.bind_eq_ok inside
          obtain ⟨_, fields, _, _, readFields, whole, rfl⟩ := TracedDecoder.bind_eq_ok within
          cases TracedDecoder.efforts_of_free readCount
          cases whole
          have below := spent_times ih count _ _ _ _ readFields
          have all := entry.append ((spent_room reserved).append below)
          rw [names, fieldCounts, List.length_cons, List.length_cons, List.append_nil]
          rw [Nat.zero_add, Nat.zero_add, Nat.add_comm 1, Nat.add_comm 1] at all
          exact all
      | text =>
          cases rest
          exact entry
      | number kind =>
          cases rest
          exact entry

mutual

/-- A node takes two bytes on the wire, and the count of a record four more. -/
theorem Derives.least_length : (entry : Entry) → {depth : Nat} → {bytes : Bytes} →
    Derives depth bytes entry →
    2 * entry.tree.names.length + 4 * entry.tree.fieldCounts.length ≤ bytes.length
  | .record name fields, _, _, derives => by
      cases derives with
      | record allowed clean countable each =>
          have below := DerivesAll.least_length fields each
          rw [Entry.tree, names, fieldCounts, List.length_cons, List.length_cons]
          simp only [List.length_append, List.length_singleton, littleEndian_length]
          have size : Decoder.countSize = 4 := rfl
          omega
  | .text name, _, _, derives => by
      cases derives
      simp [Entry.tree, names, fieldCounts]
  | .number name kind, _, _, derives => by
      cases derives
      simp [Entry.tree, names, fieldCounts]

private theorem DerivesAll.least_length : (entries : List Entry) → {depth : Nat} → {bytes : Bytes} →
    DerivesAll depth bytes entries →
    2 * (namesWithin (Entry.trees entries)).length +
      4 * (fieldCountsWithin (Entry.trees entries)).length ≤ bytes.length
  | [], _, _, _ => Nat.zero_le _
  | entry :: rest, _, _, derives => by
      cases derives with
      | more first later =>
          have here := Derives.least_length entry first
          have further := DerivesAll.least_length rest later
          rw [Entry.trees, namesWithin, fieldCountsWithin]
          simp only [List.length_append]
          omega

end

/-- Tracing changes nothing about a reading. For the bytes that are left it begins one entry for
every two of them and one more at most, and no room is larger than half the bytes left when it is
set aside. If it succeeds, it has begun an entry for each node and set room aside for each record,
the tree has 33 levels at most, and the bytes it was read from are two for each node and four
more for each record at least. -/
theorem effort_bounded (cursor : Cursor) :
    let trace := traceSchema cursor
    readSchema cursor = (trace.outcome, trace.cursor) ∧
      trace.efforts.count .entry ≤ cursor.remaining / 2 + 1 ∧
      (∀ fields here, .room fields here ∈ trace.efforts →
        here.packet = cursor.packet ∧ cursor.position ≤ here.position ∧
          fields ≤ here.remaining / 2) ∧
      ∀ tree, trace.outcome = .ok tree →
        trace.efforts.count .entry = tree.names.length ∧
        trace.efforts.length = tree.names.length + tree.fieldCounts.length ∧
        tree.height + 1 ≤ 33 ∧
        ∃ bytes, cursor.Took bytes trace.cursor ∧
          2 * tree.names.length + 4 * tree.fieldCounts.length ≤ bytes.length := by
  intro trace
  have same : readSchema cursor = (trace.outcome, trace.cursor) :=
    congrFun (plain_traceSchemaWithin (maxDepth + 1)).symm cursor
  have sparing := sparing_traceSchemaWithin (maxDepth + 1) cursor
  refine ⟨same, ?_, ?_, ?_⟩
  · have owed : trace.owed ≤ 2 := by
      unfold Trace.owed
      split <;> decide
    have paid : 2 * trace.efforts.count .entry + trace.cursor.remaining ≤
      cursor.remaining + trace.owed := sparing.entries
    omega
  · intro fields here member
    obtain ⟨reached, few⟩ := sparing.rooms fields here member
    exact ⟨reached.packet, reached.forward, few⟩
  · intro tree read
    have spent := spent_traceSchemaWithin (maxDepth + 1) cursor trace.efforts tree trace.cursor
      (by rw [← read]; rfl)
    rw [read] at same
    obtain ⟨bytes, took, entry, derives, rfl⟩ := (accepts_readSchema _ _ _).mp same
    have fit := derives.advertisable
    exact ⟨spent.entries, spent.all, Nat.succ_le_succ fit.shallow, bytes, took,
      derives.least_length⟩

/-- Two records and a text, all without names, take no byte more than they must. Where the same
counts are false there is room for three fields only, although each claims more than four billion,
and the reading ends at the third entry. -/
theorem effort_bounded_whatever_is_claimed :
    let full : Bytes := [0, 0, 2, 0, 0, 0, 0, 0, 0, 0, 0, 0, 1, 0]
    let hollow : Bytes := [0, 0, 255, 255, 255, 255, 0, 0, 255, 255, 255, 255]
    let trace := traceSchema (.start full)
    let broken := traceSchema (.start hollow)
    (∃ tree, trace.outcome = .ok tree ∧ trace.efforts.count .entry = tree.names.length ∧
      tree.height + 1 ≤ 33 ∧
      2 * tree.names.length + 4 * tree.fieldCounts.length = full.length) ∧
    .room 3 ⟨hollow, 6⟩ ∈ broken.efforts ∧ 3 ≤ (⟨hollow, 6⟩ : Cursor).remaining / 2 ∧
    broken.cursor = ⟨hollow, 12⟩ ∧ broken.efforts.count .entry = 3 := by
  intro full hollow trace broken
  obtain ⟨same, _, _, succeeds⟩ := effort_bounded (.start full)
  obtain ⟨_, _, rooms, _⟩ := effort_bounded (.start hollow)
  obtain ⟨tree, after, read, size⟩ : ∃ tree after, readSchema (.start full) = (.ok tree, after) ∧
      2 * tree.names.length + 4 * tree.fieldCounts.length = full.length := ⟨_, _, rfl, rfl⟩
  rw [read, Prod.mk.injEq] at same
  have learned : trace.outcome = .ok tree := same.1.symm
  have reserved : .room 3 ⟨hollow, 6⟩ ∈ broken.efforts := by decide +kernel
  obtain ⟨entries, _, levels, _⟩ := succeeds tree learned
  obtain ⟨_, _, few⟩ := rooms 3 ⟨hollow, 6⟩ reserved
  exact ⟨⟨tree, learned, entries, levels, size⟩, reserved, few, by decide +kernel,
    by decide +kernel⟩

end Part

end Telemetry
