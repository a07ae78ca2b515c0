/-
What becomes of the packets a serial device takes. Programs send, the writer writes, the
reader reads and the line changes under them, in any order; at some time the device is
dropped, and then only the writer goes on.

As long as the writer has not given up on the line, the packets that were taken are those
whose frames are written and behind them those whose frames wait, in the order they were
taken. A packet that is refused has no part in this, whatever it is refused for.
-/

import Telemetry.Device.Line

namespace Telemetry

namespace SerialDevice

/-- All that can come of handing a packet over. -/
inductive Sending (device : SerialDevice) (packet : Bytes) :
    Except DeviceError Unit × SerialDevice → Prop where
  | taken (room : device.queue.length < device.capacity) :
      Sending device packet (.ok (), { device with queue := device.queue ++ [Frame.encode packet] })
  | tooLarge (long : Framer.standardLimit < framedSize packet) :
      Sending device packet (.error (.frameTooLarge (framedSize packet)), device)
  | closed (stopped : device.stopped = true) : Sending device packet (.error .closed, device)
  | full (noRoom : device.capacity ≤ device.queue.length) :
      Sending device packet (.error .queueFull, device)

variable {device : SerialDevice} {packet : Bytes}

theorem send_sending (device : SerialDevice) (packet : Bytes) :
    device.Sending packet (device.send packet) := by
  unfold send
  by_cases long : Framer.standardLimit < framedSize packet
  · rw [if_pos long]
    exact .tooLarge long
  · rw [if_neg long]
    by_cases stopped : device.stopped = true
    · rw [if_pos stopped]
      exact .closed stopped
    · rw [if_neg stopped]
      by_cases room : device.queue.length < device.capacity
      · rw [if_pos room]
        exact .taken room
      · rw [if_neg room]
        exact .full (Nat.le_of_not_lt room)

theorem Sending.refused {result : Except DeviceError Unit × SerialDevice}
    (sending : device.Sending packet result) {error : DeviceError}
    (failed : result.1 = .error error) : result.2 = device := by
  cases sending with
  | taken room => cases failed
  | tooLarge long => rfl
  | closed stopped => rfl
  | full noRoom => rfl

private theorem Sending.noRoom {result : Except DeviceError Unit × SerialDevice}
    (sending : device.Sending packet result) (failed : result.1 = .error .queueFull) :
    device.capacity ≤ device.queue.length := by
  cases sending with
  | taken room => cases failed
  | tooLarge long => cases failed
  | closed stopped => cases failed
  | full noRoom => exact noRoom

end SerialDevice

/-- A line on which nothing that is written fails. -/
structure Line.Carries (line : Line) : Prop where
  writes : line.writesFail = false
  flushes : line.flushesFail = false
  heard : line.peerClosed = false

private theorem Line.Carries.writeFrame {line : Line} (carries : line.Carries) (frame : Bytes) :
    line.writeFrame frame = (true, { line with written := line.written ++ frame }) := by
  obtain ⟨incoming, written, readFaults, writesFail, flushesFail, peerClosed⟩ := line
  obtain ⟨rfl, rfl, rfl⟩ := carries
  unfold Line.writeFrame Line.put?
  cases frame with
  | nil => simp
  | cons byte rest => rfl

/-- A writer that ran into a fault has given up. -/
private theorem Line.writeFrame_of_sound {line : Line} {frame : Bytes}
    (sound : (line.writeFrame frame).1 = true) :
    (line.writeFrame frame).2.written = line.written ++ frame := by
  unfold Line.writeFrame Line.put? at sound ⊢
  cases frame with
  | nil => simp
  | cons byte rest =>
      simp only [List.isEmpty_cons, Bool.false_eq_true, if_false] at sound ⊢
      split at sound
      · cases sound
      · next after put =>
          split at put
          · cases put
          · cases put
            rfl

namespace Terminal

/-- Reading leaves alone what is written and what waits to be. -/
private theorem runReader_same (terminal : Terminal) :
    terminal.runReader.device = terminal.device ∧
      terminal.runReader.line.written = terminal.line.written := by
  unfold runReader
  split
  · exact ⟨rfl, rfl⟩
  · split
    · exact ⟨rfl, rfl⟩
    · exact ⟨rfl, rfl⟩

/-- The terminal with so many of the frames that wait written. -/
def behind (terminal : Terminal) (count : Nat) : Terminal :=
  { terminal with
    device := { terminal.device with queue := terminal.device.queue.drop count }
    line :=
      { terminal.line with
        written := terminal.line.written ++ (terminal.device.queue.take count).flatten } }

@[simp]
theorem behind_queue (terminal : Terminal) (count : Nat) :
    (terminal.behind count).device.queue = terminal.device.queue.drop count :=
  rfl

@[simp]
theorem behind_written (terminal : Terminal) (count : Nat) :
    (terminal.behind count).line.written =
      terminal.line.written ++ (terminal.device.queue.take count).flatten :=
  rfl

@[simp]
theorem behind_stopped (terminal : Terminal) (count : Nat) :
    (terminal.behind count).device.stopped = terminal.device.stopped :=
  rfl

@[simp]
theorem behind_zero (terminal : Terminal) : terminal.behind 0 = terminal := by simp [behind]

private theorem behind_carries {terminal : Terminal} (carries : terminal.line.Carries)
    (count : Nat) : (terminal.behind count).line.Carries :=
  ⟨carries.writes, carries.flushes, carries.heard⟩

@[simp]
theorem behind_behind (terminal : Terminal) (first second : Nat) :
    (terminal.behind first).behind second = terminal.behind (first + second) := by
  simp [behind, List.take_add]

private theorem writeNext_carried {terminal : Terminal} (carries : terminal.line.Carries) :
    terminal.writeNext = terminal.behind 1 := by
  obtain ⟨⟨depth, queue, stopped, dropped⟩, line, framer, reading, listener, received⟩ := terminal
  unfold writeNext SerialDevice.takeFrame? behind
  cases queue with
  | nil => simp
  | cons frame rest => simp [carries.writeFrame frame]

/-- On a line that carries them, frames are written one a step. -/
theorem repeat_writeNext {terminal : Terminal} (carries : terminal.line.Carries) (steps : Nat) :
    Nat.repeat writeNext steps terminal = terminal.behind steps := by
  induction steps with
  | zero => simp [Nat.repeat]
  | succ steps ih =>
      rw [Nat.repeat, ih, writeNext_carried (behind_carries carries steps), behind_behind]

end Terminal

/-- A device at work, with the packets it has taken, the oldest first. -/
structure Transmission where
  terminal : Terminal
  taken : List Bytes := []

namespace Transmission

def send (transmission : Transmission) (packet : Bytes) : Transmission :=
  let result := transmission.terminal.device.send packet
  { terminal := { transmission.terminal with device := result.2 }
    taken :=
      match result.1 with
      | .ok _ => transmission.taken ++ [packet]
      | .error _ => transmission.taken }

/-- What was written stays written. Otherwise a line can change at any time: bytes come in,
faults come and go, the peer closes its end. -/
inductive Step (transmission : Transmission) : Transmission → Prop where
  | send (packet : Bytes) (owned : transmission.terminal.device.dropped = false) :
      Step transmission (transmission.send packet)
  | write : Step transmission { transmission with terminal := transmission.terminal.writeNext }
  | read : Step transmission { transmission with terminal := transmission.terminal.runReader }
  | drift (line : Line) (kept : line.written = transmission.terminal.line.written) :
      Step transmission { transmission with terminal := { transmission.terminal with line } }
  | drop : Step transmission { transmission with terminal := transmission.terminal.drop }

inductive Reachable (depth : Nat) : Transmission → Prop where
  | start (line : Line) (blank : line.written = []) :
      Reachable depth { terminal := { Terminal.opened depth with line } }
  | step {before after : Transmission} (earlier : Reachable depth before)
      (step : Step before after) : Reachable depth after

/-- Every packet that was taken is either written or waits, and those that wait came later. -/
structure Conserves (depth : Nat) (transmission : Transmission) : Prop where
  depth : transmission.terminal.device.depth = depth
  bounded : transmission.terminal.device.queue.length ≤ transmission.terminal.device.capacity
  parted : transmission.terminal.device.stopped = false →
    ∃ done waiting, transmission.taken = done ++ waiting ∧
      transmission.terminal.line.written = done.flatMap Frame.encode ∧
      transmission.terminal.device.queue = waiting.map Frame.encode

variable {depth : Nat} {transmission after : Transmission}

private theorem Conserves.send (conserves : transmission.Conserves depth) (packet : Bytes) :
    (transmission.send packet).Conserves depth := by
  have sending := transmission.terminal.device.send_sending packet
  unfold Transmission.send
  generalize transmission.terminal.device.send packet = result at sending
  cases sending with
  | taken room =>
      refine ⟨conserves.depth, ?_, ?_⟩
      · simpa using Nat.succ_le_of_lt room
      · intro running
        obtain ⟨done, waiting, parts, written, queued⟩ := conserves.parted running
        exact ⟨done, waiting ++ [packet], by simp [parts], written, by simp [queued]⟩
  | tooLarge long => exact conserves
  | closed stopped => exact conserves
  | full noRoom => exact conserves

private theorem Conserves.write (conserves : transmission.Conserves depth) :
    Conserves depth { transmission with terminal := transmission.terminal.writeNext } := by
  unfold Terminal.writeNext SerialDevice.takeFrame?
  cases queue : transmission.terminal.device.queue with
  | nil => exact conserves
  | cons frame rest =>
      have bounded := conserves.bounded
      rw [queue, List.length_cons] at bounded
      simp only
      cases sound : (transmission.terminal.line.writeFrame frame).1 with
      | false =>
          refine ⟨conserves.depth, Nat.zero_le _, ?_⟩
          intro impossible
          cases impossible
      | true =>
          refine ⟨conserves.depth, Nat.le_of_succ_le bounded, ?_⟩
          intro running
          obtain ⟨done, waiting, parts, written, queued⟩ := conserves.parted running
          rw [queue] at queued
          cases waiting with
          | nil => cases queued
          | cons packet later =>
              rw [List.map_cons, List.cons.injEq] at queued
              refine ⟨done ++ [packet], later, by simp [parts], ?_, queued.2⟩
              rw [Line.writeFrame_of_sound sound]
              simp [written, queued.1]

/-- Nothing but sending and writing touches the queue or what is written. -/
private theorem Conserves.of_same (conserves : transmission.Conserves depth)
    (taken : after.taken = transmission.taken)
    (written : after.terminal.line.written = transmission.terminal.line.written)
    (device : ∃ dropped, after.terminal.device = { transmission.terminal.device with dropped }) :
    after.Conserves depth := by
  obtain ⟨dropped, same⟩ := device
  refine ⟨?_, ?_, ?_⟩
  · rw [same]
    exact conserves.depth
  · rw [same]
    exact conserves.bounded
  · rw [same, taken, written]
    exact conserves.parted

private theorem Conserves.step (conserves : transmission.Conserves depth)
    (step : transmission.Step after) : after.Conserves depth := by
  cases step with
  | send packet owned => exact conserves.send packet
  | write => exact conserves.write
  | read =>
      have same := transmission.terminal.runReader_same
      exact conserves.of_same rfl same.2 ⟨_, same.1⟩
  | drift line kept => exact conserves.of_same rfl kept ⟨_, rfl⟩
  | drop => exact conserves.of_same rfl rfl ⟨true, rfl⟩

theorem Reachable.conserves (reachable : Reachable depth transmission) :
    transmission.Conserves depth := by
  induction reachable with
  | start line blank => exact ⟨rfl, Nat.zero_le _, fun _ => ⟨[], [], rfl, blank, rfl⟩⟩
  | step _ step ih => exact ih.step step

/-- The writer does not give up on a line that carries what it writes. -/
theorem Step.running (step : transmission.Step after) (carries : transmission.terminal.line.Carries)
    (running : transmission.terminal.device.stopped = false) :
    after.terminal.device.stopped = false := by
  cases step with
  | send packet owned =>
      have sending := transmission.terminal.device.send_sending packet
      unfold Transmission.send
      generalize transmission.terminal.device.send packet = result at sending
      cases sending with
      | taken room => exact running
      | tooLarge long => exact running
      | closed stopped => exact running
      | full noRoom => exact running
  | write =>
      simp only
      rw [Terminal.writeNext_carried carries]
      exact running
  | read =>
      simp only
      rw [transmission.terminal.runReader_same.1]
      exact running
  | drift line kept => exact running
  | drop => exact running

/-- No more frames wait than there is room for, a packet is refused for lack of room only if
there is none, and one that is refused leaves the device as it is. As long as the writer has
not given up, which it does only when the line fails it, what is written and what waits are
the frames of the packets that were taken, in their order. Once the device has been dropped,
the writer writes all that waits, by as many steps as frames wait, and has nothing left to
do. -/
theorem conservation (reachable : Reachable depth transmission) :
    let terminal := transmission.terminal
    let device := terminal.device
    let capacity := max depth 1
    device.queue.length ≤ capacity ∧
    (∀ packet, (device.send packet).1 = .error .queueFull → device.queue.length = capacity) ∧
    (∀ packet error, (device.send packet).1 = .error error → (device.send packet).2 = device) ∧
    (device.stopped = false →
      terminal.line.written ++ device.queue.flatten = transmission.taken.flatMap Frame.encode ∧
      (∃ done waiting, transmission.taken = done ++ waiting ∧
        terminal.line.written = done.flatMap Frame.encode ∧
        device.queue = waiting.map Frame.encode) ∧
      (terminal.line.Carries →
        (∀ after, transmission.Step after → after.terminal.device.stopped = false) ∧
        (device.dropped = true → ∀ steps, device.queue.length ≤ steps →
          let last := Nat.repeat Terminal.writeNext steps terminal
          last.line.written = transmission.taken.flatMap Frame.encode ∧
            last.device.queue = [] ∧ last.device.writerEnded = true))) := by
  intro terminal device capacity
  have conserves := reachable.conserves
  have room : device.capacity = capacity := by
    unfold capacity SerialDevice.capacity
    rw [conserves.depth]
  have bounded : device.queue.length ≤ capacity := room ▸ conserves.bounded
  refine ⟨bounded, ?_, ?_, ?_⟩
  · intro packet failed
    have noRoom := (device.send_sending packet).noRoom failed
    rw [room] at noRoom
    exact Nat.le_antisymm bounded noRoom
  · intro packet error failed
    exact (device.send_sending packet).refused failed
  · intro running
    obtain ⟨done, waiting, parts, written, queued⟩ := conserves.parted running
    have whole : terminal.line.written ++ device.queue.flatten =
        transmission.taken.flatMap Frame.encode := by
      rw [written, queued, parts, List.flatMap_append, ← List.flatMap_def]
    refine ⟨whole, ⟨done, waiting, parts, written, queued⟩, ?_⟩
    intro carries
    refine ⟨fun after step => step.running carries running, ?_⟩
    intro dropped steps enough
    rw [Terminal.repeat_writeNext carries steps]
    have drained : (terminal.behind steps).device.queue = [] := List.drop_eq_nil_of_le enough
    refine ⟨?_, drained, ?_⟩
    · rw [Terminal.behind_written, ← whole, List.take_of_length_le enough]
    · have gone : (terminal.behind steps).device.dropped = true := dropped
      simpa [SerialDevice.writerEnded, gone] using Or.inr enough

/-- With room for one frame, a packet is refused and has no part in what is written; another
waits when the device is dropped. -/
theorem conservation_behind_refusal :
    let begun : Transmission := { terminal := Terminal.opened 0 }
    let crowded := begun.send [1, 0, 2]
    let refused := crowded.send [3]
    let written := { refused with terminal := refused.terminal.writeNext }
    let refilled := written.send [4]
    let dropped := { refilled with terminal := refilled.terminal.drop }
    Reachable 0 dropped ∧
      (crowded.terminal.device.send [3]).1 = .error .queueFull ∧
      crowded.terminal.device.queue.length = 1 ∧
      dropped.taken = [[1, 0, 2], [4]] ∧
      (Nat.repeat Terminal.writeNext 1 dropped.terminal).line.written =
        dropped.taken.flatMap Frame.encode := by
  intro begun crowded refused written refilled dropped
  have beginning : Reachable 0 begun := .start {} rfl
  have crowding : Reachable 0 crowded := beginning.step (.send [1, 0, 2] rfl)
  have short : ¬ Framer.standardLimit < SerialDevice.framedSize [3] := by decide +kernel
  have listening : ¬ crowded.terminal.device.stopped = true := by decide +kernel
  have noneFree : ¬ crowded.terminal.device.queue.length < crowded.terminal.device.capacity := by
    decide +kernel
  have full : (crowded.terminal.device.send [3]).1 = .error .queueFull := by
    rw [SerialDevice.send, if_neg short, if_neg listening, if_neg noneFree]
  have owned : crowded.terminal.device.dropped = false ∧
      written.terminal.device.dropped = false := by
    decide +kernel
  obtain ⟨owning, owningStill⟩ := owned
  have refilling : Reachable 0 refilled :=
    ((crowding.step (.send [3] owning)).step .write).step (.send [4] owningStill)
  have dropping : Reachable 0 dropped := refilling.step .drop
  have last : dropped.taken = [[1, 0, 2], [4]] ∧ dropped.terminal.device.stopped = false ∧
      dropped.terminal.device.dropped = true ∧ dropped.terminal.device.queue.length ≤ 1 ∧
      dropped.terminal.line.writesFail = false ∧ dropped.terminal.line.flushesFail = false ∧
      dropped.terminal.line.peerClosed = false := by
    decide +kernel
  obtain ⟨taken, running, gone, waiting, writes, flushes, heard⟩ := last
  obtain ⟨_, noRoom, _⟩ := conservation crowding
  obtain ⟨_, _, _, kept⟩ := conservation dropping
  obtain ⟨_, _, carried⟩ := kept running
  obtain ⟨_, drains⟩ := carried ⟨writes, flushes, heard⟩
  exact ⟨dropping, full, noRoom [3] full, taken, (drains gone 1 waiting).1⟩

end Transmission

end Telemetry
