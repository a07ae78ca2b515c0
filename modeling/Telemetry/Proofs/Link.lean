/-
A line between two nodes comes to rest. Whatever the two programs asked, as many waves as are
allowed leave no frame waiting at either end, so nothing is cut off when they are over.

What a wave can set off grows less. A packet that is taken in is answered with an
acknowledgement, if at all, unless it calls a callback that has an operation left; that
operation may hand over anything, but it is gone. So a wave leaves fewer operations behind,
or only acknowledgements on the line, and these set off nothing.
-/

import Telemetry.Link
import Telemetry.Proofs.Registry.Answering

namespace Telemetry

variable {ρ : Type}

namespace LinkEnd

/-- No frame is half read here, and what waits are the frames of these packets. -/
structure Holds (side : LinkEnd ρ) (packets : List Bytes) : Prop where
  limit : side.framer.limit = Framer.standardLimit
  unread : side.framer.reset = side.framer
  queue : side.node.station.device.queue = packets.map Frame.encode
  sendable : ∀ packet ∈ packets, SerialDevice.Sendable packet

variable {side : LinkEnd ρ} {packets arriving : List Bytes}

private theorem holds_start (acknowledges : Bool) (depth : Nat) (sources : Sources) :
    (start acknowledges depth sources : LinkEnd ρ).Holds [] :=
  ⟨rfl, rfl, rfl, List.forall_mem_nil _⟩

private theorem Holds.isIdle_iff (holds : side.Holds packets) :
    side.isIdle = true ↔ packets = [] := by
  simp [isIdle, holds.queue]

private theorem Holds.run (holds : side.Holds packets) (operation : Operation ρ) :
    ∃ more, Holds { side with node := (side.node.run operation).2 } more := by
  obtain ⟨later, queues⟩ := (side.node.run_extends operation).queues
  refine ⟨packets ++ later, holds.limit, holds.unread, ?_, ?_⟩
  · simp [queues.queue, holds.queue]
  · exact List.forall_mem_append.mpr ⟨holds.sendable, queues.sendable⟩

private theorem Holds.install (holds : side.Holds packets) (occasion : Occasion)
    (callback : Callback ρ) :
    Holds { side with node := side.node.install occasion callback } packets :=
  ⟨holds.limit, holds.unread, by simp [holds.queue], holds.sendable⟩

private theorem Holds.emptied (holds : side.Holds packets) :
    side.emptied.1 = packets.flatMap Frame.encode ∧ side.emptied.2.Holds [] := by
  refine ⟨?_, holds.limit, holds.unread, rfl, List.forall_mem_nil _⟩
  rw [List.flatMap_def, ← holds.queue]
  rfl

/-- Whole frames that come in are taken in packet by packet. -/
private theorem Holds.takeIn (holds : side.Holds packets)
    (sendable : ∀ packet ∈ arriving, SerialDevice.Sendable packet) :
    side.takeIn (arriving.flatMap Frame.encode) =
      { side with node := (side.node.runAll (arriving.map .receive)).2 } := by
  have pushed : side.framer.push (arriving.flatMap Frame.encode) =
      (side.framer, arriving.map Frame.body) := by
    unfold SerialDevice.Sendable at sendable
    rw [← holds.limit] at sendable
    rw [← holds.unread]
    exact Framer.reset_push_encodes sendable
  unfold LinkEnd.takeIn
  rw [pushed]
  simp [Function.comp_def]

/-- What a wave leaves behind at one end. As long as its callbacks keep their operations it
answers with acknowledgements, and acknowledgements it does not answer. -/
private theorem Holds.wave (holds : side.Holds packets)
    (sendable : ∀ packet ∈ arriving, SerialDevice.Sendable packet) :
    let after := side.emptied.2.takeIn (arriving.flatMap Frame.encode)
    ∃ answers, after.Holds answers ∧ after.node.pendingCount ≤ side.node.pendingCount ∧
      (after.node.pendingCount = side.node.pendingCount →
        ∀ answer ∈ answers, Packet.IsAcknowledgement answer) ∧
      ((∀ packet ∈ arriving, Packet.IsAcknowledgement packet) → answers = []) := by
  obtain ⟨_, empty⟩ := holds.emptied
  intro after
  have taken : after = { side.emptied.2 with
      node := (side.emptied.2.node.runAll (arriving.map .receive)).2 } := empty.takeIn sendable
  have count : side.emptied.2.node.pendingCount = side.node.pendingCount :=
    side.node.pendingCount_withStation _
  have answered := side.emptied.2.node.runAll_receive_answers arriving
  rw [taken, ← count]
  obtain ⟨answers, queues, only⟩ := answered.queues
  have queue := queues.queue
  rw [empty.queue, List.map_nil, List.nil_append] at queue
  refine ⟨answers, ⟨empty.limit, empty.unread, queue, queues.sendable⟩, answered.pending, only, ?_⟩
  · intro only
    have device := side.emptied.2.node.runAll_acknowledgements_device only
    rw [device, empty.queue] at queue
    exact List.map_eq_nil_iff.mp queue.symm

/-- What a program does at its end between two waves. Its sources can change at any time, and
it need not keep the records of what was called and sent. -/
inductive Step (side : LinkEnd ρ) : LinkEnd ρ → Prop where
  | ask (operation : Operation ρ) : Step side { side with node := (side.node.run operation).2 }
  | install (occasion : Occasion) (callback : Callback ρ) :
      Step side { side with node := side.node.install occasion callback }
  | drift (sources : Sources) (sent : List Bytes) (log : List (Call ρ)) :
      Step side
        { side with
          node := { side.node with station := { side.node.station with sources, sent }, log } }

private theorem Holds.step {after : LinkEnd ρ} (holds : side.Holds packets)
    (step : side.Step after) : ∃ waiting, after.Holds waiting := by
  cases step with
  | ask operation => exact holds.run operation
  | install occasion callback => exact ⟨packets, holds.install occasion callback⟩
  | drift sources sent log =>
      exact ⟨packets, holds.limit, holds.unread, holds.queue, holds.sendable⟩

end LinkEnd

namespace Link

variable {link : Link ρ} {fromFirst fromSecond : List Bytes}

/-- Whether no frame waits at either end. -/
def IsIdle (link : Link ρ) : Prop := link.first.isIdle = true ∧ link.second.isIdle = true

/-- How many operations the callbacks of both ends have left. -/
def pendingCount (link : Link ρ) : Nat :=
  link.first.node.pendingCount + link.second.node.pendingCount

/-- Nothing is half way over the line, and the frames of these packets wait at its ends. -/
structure Holds (link : Link ρ) (fromFirst fromSecond : List Bytes) : Prop where
  first : link.first.Holds fromFirst
  second : link.second.Holds fromSecond

/-- Only acknowledgements wait at the ends of the line. -/
def Acknowledges (link : Link ρ) : Prop :=
  ∃ fromFirst fromSecond, link.Holds fromFirst fromSecond ∧
    ∀ packet ∈ fromFirst ++ fromSecond, Packet.IsAcknowledgement packet

private theorem Holds.wave (holds : link.Holds fromFirst fromSecond) :
    (∃ answers others, link.wave.Holds answers others) ∧
      (link.wave.pendingCount < link.pendingCount ∨ link.wave.Acknowledges) := by
  obtain ⟨answers, first, fewerFirst, onlyFirst, _⟩ := holds.first.wave holds.second.sendable
  obtain ⟨others, second, fewerSecond, onlySecond, _⟩ := holds.second.wave holds.first.sendable
  rw [← holds.second.emptied.1] at first fewerFirst onlyFirst
  rw [← holds.first.emptied.1] at second fewerSecond onlySecond
  have waved : link.wave.Holds answers others := ⟨first, second⟩
  refine ⟨⟨answers, others, waved⟩, ?_⟩
  by_cases fewer : link.wave.pendingCount < link.pendingCount
  · exact Or.inl fewer
  · -- No operation was asked at either end.
    unfold pendingCount at fewer
    change ¬ (link.first.emptied.2.takeIn link.second.emptied.1).node.pendingCount +
      (link.second.emptied.2.takeIn link.first.emptied.1).node.pendingCount < _ at fewer
    refine Or.inr ⟨answers, others, waved, ?_⟩
    exact List.forall_mem_append.mpr ⟨onlyFirst (by omega), onlySecond (by omega)⟩

private theorem Acknowledges.wave (acknowledges : link.Acknowledges) : link.wave.IsIdle := by
  obtain ⟨fromFirst, fromSecond, holds, only⟩ := acknowledges
  obtain ⟨onlyFirst, onlySecond⟩ := List.forall_mem_append.mp only
  obtain ⟨answers, first, _, _, silent⟩ := holds.first.wave holds.second.sendable
  obtain ⟨others, second, _, _, silentToo⟩ := holds.second.wave holds.first.sendable
  rw [← holds.second.emptied.1] at first
  rw [← holds.first.emptied.1] at second
  exact ⟨first.isIdle_iff.mpr (silent onlySecond), second.isIdle_iff.mpr (silentToo onlyFirst)⟩

private theorem runWaves_idle (idle : link.IsIdle) (waves : Nat) : runWaves waves link = link := by
  cases waves with
  | zero => rfl
  | succ waves => rw [runWaves, idle.1, idle.2, Bool.and_self, if_pos rfl]

private theorem runWaves_busy (busy : ¬ link.IsIdle) (waves : Nat) :
    runWaves (waves + 1) link = runWaves waves link.wave := by
  rw [runWaves, if_neg]
  rwa [Bool.and_eq_true]

private theorem Acknowledges.runWaves_isIdle (acknowledges : link.Acknowledges) (waves : Nat) :
    (runWaves (waves + 1) link).IsIdle := by
  by_cases idle : link.IsIdle
  · rw [runWaves_idle idle]
    exact idle
  · rw [runWaves_busy idle, runWaves_idle acknowledges.wave]
    exact acknowledges.wave

/-- The first wave takes in what the programs sent and the last one acknowledgements. Each one
between them is there for an operation that is gone. -/
theorem Holds.runWaves_isIdle {waves : Nat} (holds : link.Holds fromFirst fromSecond)
    (enough : link.pendingCount + 2 ≤ waves) : (runWaves waves link).IsIdle := by
  induction waves generalizing link fromFirst fromSecond with
  | zero => exact absurd enough (Nat.not_succ_le_zero _)
  | succ waves ih =>
      by_cases idle : link.IsIdle
      · rw [runWaves_idle idle]
        exact idle
      · rw [runWaves_busy idle]
        obtain ⟨⟨answers, others, waved⟩, fewer | acknowledges⟩ := holds.wave
        · exact ih waved (by omega)
        · obtain ⟨more, rfl⟩ := Nat.exists_eq_succ_of_ne_zero (show waves ≠ 0 by omega)
          exact acknowledges.runWaves_isIdle more

/-- The links there are. Both programs go on as they like, also before the line is idle. -/
inductive Reachable : Link ρ → Prop where
  | start (acknowledges acknowledgesToo : Bool) (depth depthToo : Nat)
      (sources sourcesToo : Sources) :
      Reachable
        { first := .start acknowledges depth sources
          second := .start acknowledgesToo depthToo sourcesToo }
  | first {link : Link ρ} {first : LinkEnd ρ} (earlier : Reachable link)
      (step : link.first.Step first) : Reachable { link with first }
  | second {link : Link ρ} {second : LinkEnd ρ} (earlier : Reachable link)
      (step : link.second.Step second) : Reachable { link with second }
  | wave {link : Link ρ} (earlier : Reachable link) : Reachable link.wave

private theorem Reachable.holds (reachable : link.Reachable) :
    ∃ fromFirst fromSecond, link.Holds fromFirst fromSecond := by
  induction reachable with
  | start =>
      exact ⟨[], [], LinkEnd.holds_start _ _ _, LinkEnd.holds_start _ _ _⟩
  | first earlier step ih =>
      obtain ⟨_, fromSecond, holds⟩ := ih
      obtain ⟨waiting, here⟩ := holds.first.step step
      exact ⟨waiting, fromSecond, here, holds.second⟩
  | second earlier step ih =>
      obtain ⟨fromFirst, _, holds⟩ := ih
      obtain ⟨waiting, here⟩ := holds.second.step step
      exact ⟨fromFirst, waiting, holds.first, here⟩
  | wave earlier ih =>
      obtain ⟨_, _, holds⟩ := ih
      exact holds.wave.1

private theorem Reachable.runWaves (reachable : link.Reachable) (waves : Nat) :
    (Link.runWaves waves link).Reachable := by
  induction waves generalizing link with
  | zero => exact reachable
  | succ waves ih =>
      rw [Link.runWaves]
      split
      · exact reachable
      · exact ih reachable.wave

/-- Between two steps of its programs a link comes to rest, and the waves that are allowed are
enough for that. -/
theorem Reachable.settle (reachable : link.Reachable) :
    link.settle.Reachable ∧ link.settle.IsIdle := by
  obtain ⟨fromFirst, fromSecond, holds⟩ := reachable.holds
  have first := link.first.node.pendingCount_le
  have second := link.second.node.pendingCount_le
  have enough : link.pendingCount + 2 ≤ waveLimit := by
    unfold pendingCount waveLimit Node.occasionCount
    unfold Node.occasionCount at first second
    omega
  exact ⟨reachable.runWaves waveLimit, holds.runWaves_isIdle enough⟩

end Link

end Telemetry
