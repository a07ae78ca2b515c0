/-
Delivery over a line. Whatever a framer was fed before, the delimiter in front of
the next frame closes what was left open, and from there on every packet sent
comes out, in order and unharmed, however the line cuts the bytes into chunks.

A framer is followed along two facts: the run it holds is what was pushed last,
and at every delimiter it is as it was when it began, but for its count.
-/

import Telemetry.Device.Serial
import Telemetry.Proofs.Frame.Layout

namespace Telemetry

theorem SerialDevice.framedSize_eq {packet : Bytes} (filled : packet ≠ []) :
    framedSize packet = (Frame.body packet).length := by
  rw [framedSize, Frame.encode_eq filled, List.length_cons, List.length_append]
  rfl

namespace Framer

/-- Feeds chunks one after the other, collecting all frames they complete. -/
def pushAll (framer : Framer) : List Bytes → Framer × List Bytes
  | [] => (framer, [])
  | chunk :: rest =>
      let (fed, frames) := framer.push chunk
      let (last, later) := fed.pushAll rest
      (last, frames ++ later)

theorem pushAll_eq_push (framer : Framer) (chunks : List Bytes) :
    framer.pushAll chunks = framer.push chunks.flatten := by
  induction chunks generalizing framer with
  | nil => rfl
  | cons chunk rest ih =>
      rw [pushAll, List.flatten_cons, push_append]
      simp [ih]

/-- What a standard framer can have become, with all bytes pushed on the way. -/
inductive Reached : Bytes → Framer → Prop where
  | standard : Reached [] standard
  | push {earlier : Bytes} {framer : Framer} (before : Reached earlier framer) (chunk : Bytes) :
      Reached (earlier ++ chunk) (framer.push chunk).1
  | reset {earlier : Bytes} {framer : Framer} (before : Reached earlier framer) :
      Reached earlier framer.reset

/-- The run a framer holds is the end of what was pushed, and the limit is standard. -/
structure Holds (earlier : Bytes) (framer : Framer) : Prop where
  limit : framer.limit = standardLimit
  recent : framer.held.toList <:+ earlier
  skipped : framer.skipping = true → framer.held = #[]

private theorem Holds.reset {earlier : Bytes} {framer : Framer} (holds : Holds earlier framer) :
    Holds earlier framer.reset :=
  ⟨holds.limit, List.nil_suffix, fun _ => rfl⟩

private theorem Holds.extend {earlier : Bytes} {framer : Framer} (holds : Holds earlier framer)
    (byte : UInt8) : Holds (earlier ++ [byte]) (framer.extend byte) := by
  unfold Framer.extend
  by_cases skips : framer.skipping = true
  · rw [if_pos skips]
    refine ⟨holds.limit, ?_, holds.skipped⟩
    rw [holds.skipped skips]
    exact List.nil_suffix
  · rw [if_neg skips]
    by_cases room : framer.held.size < framer.limit
    · rw [if_pos room]
      obtain ⟨front, same⟩ := holds.recent
      refine ⟨holds.limit, ⟨front, ?_⟩, fun skipping => absurd skipping skips⟩
      rw [Array.toList_push, ← List.append_assoc, same]
    · rw [if_neg room]
      exact ⟨holds.limit, List.nil_suffix, fun _ => rfl⟩

private theorem Holds.step {earlier : Bytes} {framer : Framer} (holds : Holds earlier framer)
    (byte : UInt8) : Holds (earlier ++ [byte]) (framer.step byte).1 := by
  unfold Framer.step
  by_cases isDelimiter : byte = Frame.delimiter
  · rw [if_pos isDelimiter]
    exact ⟨holds.limit, List.nil_suffix, fun _ => rfl⟩
  · rw [if_neg isDelimiter]
    exact holds.extend byte

private theorem Holds.push {earlier : Bytes} {framer : Framer} (holds : Holds earlier framer)
    (chunk : Bytes) : Holds (earlier ++ chunk) (framer.push chunk).1 := by
  induction chunk generalizing earlier framer with
  | nil =>
      rw [List.append_nil]
      exact holds
  | cons byte rest ih =>
      have later := ih (holds.step byte)
      rw [List.append_assoc, List.singleton_append] at later
      exact later

theorem Reached.holds {earlier : Bytes} {framer : Framer} (reached : Reached earlier framer) :
    Holds earlier framer := by
  induction reached with
  | standard => exact ⟨rfl, List.nil_suffix, fun _ => rfl⟩
  | push before chunk ih => exact ih.push chunk
  | reset before ih => exact ih.reset

/-- A framer that has taken these bytes since the last delimiter, and has room for
them. -/
def holding (framer : Framer) (run : Bytes) : Framer := { framer.reset with held := run.toArray }

@[simp]
theorem holding_nil (framer : Framer) : framer.holding [] = framer.reset := rfl

private theorem holding_step {framer : Framer} {run : Bytes} {byte : UInt8}
    (different : byte ≠ Frame.delimiter) (room : run.length < framer.limit) :
    (framer.holding run).step byte = (framer.holding (run ++ [byte]), none) := by
  have roomHere : (framer.holding run).held.size < (framer.holding run).limit := room
  have still : ¬ (framer.holding run).skipping = true := Bool.false_ne_true
  unfold step extend
  rw [if_neg different, if_neg still, if_pos roomHere]
  simp [holding]

private theorem holding_push (framer : Framer) (run more : Bytes) (clean : Frame.delimiter ∉ more)
    (fits : run.length + more.length ≤ framer.limit) :
    (framer.holding run).push more = (framer.holding (run ++ more), []) := by
  induction more generalizing run with
  | nil => rw [push, List.append_nil]
  | cons byte rest ih =>
      obtain ⟨different, cleanRest⟩ := List.ne_and_not_mem_of_not_mem_cons clean
      rw [List.length_cons] at fits
      have room : run.length < framer.limit := by omega
      have later := ih (run ++ [byte]) cleanRest (by
        rw [List.length_append, List.length_singleton]
        omega)
      rw [List.append_assoc, List.singleton_append] at later
      rw [push, holding_step different.symm room]
      simp [later]

/-- The frame that a delimiter would complete now. -/
def openFrame (framer : Framer) : List Bytes := framer.close.2.toList

private theorem holding_openFrame (framer : Framer) {run : Bytes} (filled : run ≠ []) :
    (framer.holding run).openFrame = [run] := by
  cases run with
  | nil => exact absurd rfl filled
  | cons byte rest => rfl

@[simp]
theorem reset_reset (framer : Framer) : framer.reset.reset = framer.reset := rfl

@[simp]
theorem reset_openFrame (framer : Framer) : framer.reset.openFrame = [] := rfl

theorem push_delimiter (framer : Framer) (rest : Bytes) :
    framer.push (Frame.delimiter :: rest) =
      ((framer.reset.push rest).1, framer.openFrame ++ (framer.reset.push rest).2) := by
  rw [push, step, if_pos rfl]
  rfl

/-- One frame on the line completes what was open, and then itself. -/
theorem push_encode {framer : Framer} {packet : Bytes} (filled : packet ≠ [])
    (fits : SerialDevice.framedSize packet ≤ framer.limit) :
    framer.push (Frame.encode packet) =
      (framer.reset, framer.openFrame ++ [Frame.body packet]) := by
  have layout := Frame.layout_body packet
  obtain ⟨first, tail, begins, _⟩ := layout.begins
  have begun : Frame.body packet ≠ [] := begins ▸ List.cons_ne_nil first tail
  have size : ([] : Bytes).length + (Frame.body packet).length ≤ framer.limit := by
    rw [SerialDevice.framedSize_eq filled] at fits
    rw [List.length_nil, Nat.zero_add]
    exact fits
  have body := holding_push framer [] (Frame.body packet) layout.clean size
  rw [Frame.encode_eq filled, push_delimiter, push_append, ← holding_nil, body, List.nil_append,
    push_delimiter, holding_openFrame framer begun]
  rfl

theorem reset_push_encodes {framer : Framer} {packets : List Bytes}
    (sendable : ∀ packet ∈ packets,
      packet ≠ [] ∧ SerialDevice.framedSize packet ≤ framer.limit) :
    framer.reset.push (packets.flatMap Frame.encode) =
      (framer.reset, packets.map Frame.body) := by
  induction packets with
  | nil => rfl
  | cons packet rest ih =>
      obtain ⟨⟨filled, fits⟩, later⟩ := List.forall_mem_cons.mp sendable
      have fitsHere : SerialDevice.framedSize packet ≤ framer.reset.limit := fits
      rw [List.flatMap_cons, push_append, push_encode filled fitsHere, reset_reset, ih later,
        reset_openFrame, List.nil_append, List.singleton_append, List.map_cons]

private theorem push_encodes {framer : Framer} {packet : Bytes} {rest : List Bytes}
    (sendable : ∀ other ∈ packet :: rest,
      other ≠ [] ∧ SerialDevice.framedSize other ≤ framer.limit) :
    framer.push ((packet :: rest).flatMap Frame.encode) =
      (framer.reset, framer.openFrame ++ (packet :: rest).map Frame.body) := by
  obtain ⟨⟨filled, fits⟩, later⟩ := List.forall_mem_cons.mp sendable
  rw [List.flatMap_cons, push_append, push_encode filled fits, reset_push_encodes later,
    List.append_assoc, List.singleton_append, List.map_cons]

private theorem openFrame_recent {earlier : Bytes} {framer : Framer}
    (holds : Holds earlier framer) :
    framer.openFrame.length ≤ 1 ∧ ∀ frame ∈ framer.openFrame, frame <:+ earlier := by
  unfold openFrame close
  split
  · exact ⟨Nat.zero_le 1, fun frame member => absurd member List.not_mem_nil⟩
  · refine ⟨Nat.le_refl 1, fun frame member => ?_⟩
    rw [Option.toList_some, List.mem_singleton] at member
    rw [member]
    exact holds.recent

/-- A line delivers. After any noise, and whatever the chunks, the packets sent come
out in order; in front of them stands at most one frame, which is the end of the
noise, and nothing is given up. -/
theorem delivery {earlier : Bytes} {framer : Framer} (reached : Reached earlier framer)
    {packets : List Bytes}
    (sendable : ∀ packet ∈ packets,
      packet ≠ [] ∧ SerialDevice.framedSize packet ≤ standardLimit)
    {chunks : List Bytes} (cut : chunks.flatten = packets.flatMap Frame.encode) :
    ∃ stale frames, (framer.pushAll chunks).2 = stale ++ frames ∧
      frames.map Frame.decode = packets ∧
      stale.length ≤ 1 ∧ (∀ frame ∈ stale, frame <:+ earlier) ∧
      (framer.pushAll chunks).1.dropped = framer.dropped := by
  have holds := reached.holds
  rw [← holds.limit] at sendable
  rw [pushAll_eq_push, cut]
  cases packets with
  | nil =>
      refine ⟨[], [], rfl, rfl, Nat.zero_le 1, ?_, rfl⟩
      intro frame member
      cases member
  | cons packet rest =>
      obtain ⟨single, recent⟩ := openFrame_recent holds
      rw [push_encodes sendable]
      refine ⟨framer.openFrame, (packet :: rest).map Frame.body, rfl, ?_, single, recent, rfl⟩
      rw [List.map_map]
      calc (packet :: rest).map (Frame.decode ∘ Frame.body)
          = (packet :: rest).map id := List.map_congr_left fun other _ => Frame.decode_body other
        _ = packet :: rest := List.map_id (packet :: rest)

/-- Two packets, cut in three places, behind a byte that noise left open. -/
theorem delivery_behind_noise :
    let framer := (standard.push [9, 0, 7]).1
    let packets : List Bytes := [[0x11, 0, 0x22], [0]]
    let chunks : List Bytes := [[0, 2], [0x11, 2, 0x22, 0, 0], [1, 1, 0]]
    Reached [9, 0, 7] framer ∧
      (∀ packet ∈ packets,
        packet ≠ [] ∧ SerialDevice.framedSize packet ≤ standardLimit) ∧
      chunks.flatten = packets.flatMap Frame.encode ∧
      ∃ stale frames, (framer.pushAll chunks).2 = stale ++ frames ∧
        frames.map Frame.decode = packets ∧ stale.length ≤ 1 := by
  intro framer packets chunks
  have reached : Reached [9, 0, 7] framer := Reached.standard.push [9, 0, 7]
  have sendable : ∀ packet ∈ packets,
      packet ≠ [] ∧ SerialDevice.framedSize packet ≤ standardLimit := by
    decide +kernel
  have cut : chunks.flatten = packets.flatMap Frame.encode := by decide +kernel
  obtain ⟨stale, frames, pushed, decoded, single, _⟩ := delivery reached sendable cut
  exact ⟨reached, sendable, cut, stale, frames, pushed, decoded, single⟩

end Framer

end Telemetry
