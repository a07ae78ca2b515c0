/-
The calls a node makes. What is entered into the log stays there, whatever is asked of the
node and however deep callbacks and edits lie inside each other. So a call that is due is
entered once, and what is entered behind it before the callback is done was called for by
the operation it asked.
-/

import Telemetry.Proofs.Registry.Moving

namespace Telemetry.Node

variable {δ ρ : Type}

private theorem modify_behind {α : Type} (f : α → α) (earlier later : List α) (x : α) :
    (earlier ++ x :: later).modify earlier.length f = earlier ++ f x :: later := by
  induction earlier with
  | nil => rfl
  | cons y earlier ih => exact congrArg (y :: ·) ih

/-- Only the entry meant is touched. -/
private theorem noteAnswer_log {node : Node δ ρ} {earlier later : List (Call ρ)} {call : Call ρ}
    (place : node.log = earlier ++ call :: later) (answer : Answer ρ) :
    (node.noteAnswer earlier.length answer).log =
      earlier ++ { call with answer := some answer } :: later := by
  unfold noteAnswer
  rw [place]
  exact modify_behind (fun call => { call with answer := some answer }) earlier later call

/-- A reaction that takes nothing out of the log. -/
def Chronicles (react : Reaction δ ρ) : Prop :=
  ∀ occasion channel node, node.log <+: (react occasion channel node).log

variable {react : Reaction δ ρ}

variable [Device δ]

theorem Chronicles.perform (chronicles : Chronicles react) (operation : Operation ρ)
    (node : Node δ ρ) : node.log <+: (perform react operation node).2.log := by
  have spans : Spans react fun before after => before.log <+: after.log :=
    { refl := fun node => List.prefix_refl node.log
      trans := fun first later => first.trans later
      moving := fun node _ _ => List.prefix_refl node.log
      reacting := chronicles }
  exact spans.perform operation (.inr fun node _ => List.prefix_refl node.log) node

/-- One call, and what is left of it. A callback with an operation asks it with the operation
gone and the call entered, and the answer is noted at the call. -/
inductive Called (depth : Nat) (occasion : Occasion) (callback : Callback ρ) (channel : Channel)
    (node after : Node δ ρ) : Prop where
  | idle (pending : callback.pending = none)
      (recorded : after = node.record (node.callOf occasion callback channel))
  | asking (operation : Operation ρ) (pending : callback.pending = some operation)
      (asked : Answer ρ × Node δ ρ)
      (performed : asked = perform (Node.react depth) operation
        ((node.record (node.callOf occasion callback channel)).install occasion
          { callback with pending := none }))
      (later : List (Call ρ))
      (entered : asked.2.log = node.log ++ node.callOf occasion callback channel :: later)
      (noted : after = asked.2.noteAnswer node.log.length asked.1)
      (log : after.log = node.log ++
        { node.callOf occasion callback channel with answer := some asked.1 } :: later)

/-- Behind the call there are the calls that its operation led to. -/
private theorem Chronicles.calling (chronicles : Chronicles react) (node : Node δ ρ)
    (occasion : Occasion) (callback : Callback ρ) (operation : Operation ρ) (channel : Channel) :
    ∃ later, (Node.perform react operation (node.calling occasion callback channel)).2.log =
      node.log ++ node.callOf occasion callback channel :: later := by
  obtain ⟨later, entered⟩ :=
    chronicles.perform operation (node.calling occasion callback channel)
  rw [calling_log, List.append_assoc, List.singleton_append] at entered
  exact ⟨later, entered.symm⟩

theorem react_chronicles (depth : Nat) : Chronicles (Node.react depth : Reaction δ ρ) := by
  refine react_induction (motive := fun before after => before.log <+: after.log)
    (fun node => List.prefix_refl node.log) (fun _ _ => List.prefix_append _ _) ?_ depth
  intro react chronicles node occasion callback operation channel _ _ asked
  obtain ⟨later, entered⟩ :=
    Chronicles.calling chronicles node occasion callback operation channel
  rw [noteAnswer_log entered]
  exact List.prefix_append _ _

/-- A callback that is installed is called once when it is due. -/
theorem react_called {node : Node δ ρ} {occasion : Occasion} {callback : Callback ρ}
    (installed : node.callback? occasion = some callback) (depth : Nat) (channel : Channel) :
    Called depth occasion callback channel node
      (Node.react (depth + 1) occasion channel node) := by
  cases waits : callback.pending with
  | none => exact .idle waits (react_recorded installed waits _ channel)
  | some operation =>
      obtain ⟨later, entered⟩ :=
        (react_chronicles depth).calling node occasion callback operation channel
      have reacts := react_asking installed waits depth channel
      refine .asking operation waits _ rfl later entered reacts ?_
      rw [reacts]
      exact noteAnswer_log entered _

end Telemetry.Node
