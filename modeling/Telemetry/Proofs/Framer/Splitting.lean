/-
What a framer makes of a stream, told from the stream alone. Delimiters and resets cut it
into segments, the last of which is still open. The frames are the segments that a
delimiter closes, if they hold something and are not too long; every segment that is too
long has been counted, whatever it ended with and even before it ends. Where the stream is
cut into chunks makes no difference but for when a frame is handed out.

The framer takes the stream byte by byte. Between two bytes it is what the open segment and
the count of those before it make it.
-/

import Telemetry.Framer

namespace Telemetry.Framer

inductive Call where
  | push (chunk : Bytes)
  | reset
  deriving DecidableEq, Repr

def feed (framer : Framer) : Call → Framer × List Bytes
  | .push chunk => framer.push chunk
  | .reset => (framer.reset, [])

/-- Makes calls one after the other, and collects the frames they return. -/
def feedAll (framer : Framer) : List Call → Framer × List Bytes
  | [] => (framer, [])
  | call :: rest =>
      let (fed, frames) := framer.feed call
      let (last, later) := fed.feedAll rest
      (last, frames ++ later)

/-- A call in its smallest parts. -/
inductive Mark where
  | byte (byte : UInt8)
  | reset
  deriving DecidableEq, Repr

def Call.marks : Call → List Mark
  | .push chunk => chunk.map .byte
  | .reset => [.reset]

def stream (calls : List Call) : List Mark := calls.flatMap Call.marks

inductive Ending where
  | closed
  | forgotten
  | unfinished
  deriving DecidableEq, Repr

def Ending.marks : Ending → List Mark
  | .closed => [.byte Frame.delimiter]
  | .forgotten => [.reset]
  | .unfinished => []

structure Segment where
  bytes : Bytes
  ending : Ending
  deriving DecidableEq, Repr

namespace Segment

def behind (front : Bytes) (segment : Segment) : Segment :=
  { segment with bytes := front ++ segment.bytes }

/-- What a segment was cut out of the stream with. -/
def marks (segment : Segment) : List Mark := segment.bytes.map .byte ++ segment.ending.marks

def isFrame (limit : Nat) (segment : Segment) : Bool :=
  segment.ending = .closed ∧ segment.bytes ≠ [] ∧ segment.bytes.length ≤ limit

def isOverlong (limit : Nat) (segment : Segment) : Bool := limit < segment.bytes.length

end Segment

/-- Cuts a stream at its delimiters and resets. -/
def segments : List Mark → List Segment
  | [] => [⟨[], .unfinished⟩]
  | .reset :: rest => ⟨[], .forgotten⟩ :: segments rest
  | .byte byte :: rest =>
      if byte = Frame.delimiter then ⟨[], .closed⟩ :: segments rest
      else (segments rest).modifyHead (.behind [byte])

def frames (limit : Nat) (cut : List Segment) : List Bytes :=
  (cut.filter (Segment.isFrame limit)).map Segment.bytes

private theorem segments_ne_nil (marks : List Mark) : segments marks ≠ [] := by
  induction marks with
  | nil => exact List.cons_ne_nil _ _
  | cons mark rest ih =>
      cases mark with
      | reset => exact List.cons_ne_nil _ _
      | byte byte =>
          obtain ⟨first, later, begins⟩ := List.exists_cons_of_ne_nil ih
          rw [segments, begins]
          split <;> exact List.cons_ne_nil _ _

/-- Nothing of the stream is lost by cutting it. -/
theorem flatMap_marks_segments (marks : List Mark) :
    (segments marks).flatMap Segment.marks = marks := by
  induction marks with
  | nil => rfl
  | cons mark rest ih =>
      cases mark with
      | reset =>
          rw [segments, List.flatMap_cons, ih]
          rfl
      | byte byte =>
          rw [segments]
          split
          · next isDelimiter =>
              rw [List.flatMap_cons, ih, isDelimiter]
              rfl
          · obtain ⟨first, later, begins⟩ := List.exists_cons_of_ne_nil (segments_ne_nil rest)
            rw [begins, List.flatMap_cons] at ih
            rw [begins, List.modifyHead_cons, List.flatMap_cons, ← ih]
            rfl

private theorem clean_of_mem_segments {marks : List Mark} {segment : Segment}
    (member : segment ∈ segments marks) : Frame.delimiter ∉ segment.bytes := by
  induction marks generalizing segment with
  | nil =>
      rw [List.mem_singleton.mp member]
      exact List.not_mem_nil
  | cons mark rest ih =>
      cases mark with
      | reset =>
          rcases List.mem_cons.mp member with here | later
          · rw [here]
            exact List.not_mem_nil
          · exact ih later
      | byte byte =>
          rw [segments] at member
          split at member
          · rcases List.mem_cons.mp member with here | later
            · rw [here]
              exact List.not_mem_nil
            · exact ih later
          · next different =>
              obtain ⟨first, later, begins⟩ := List.exists_cons_of_ne_nil (segments_ne_nil rest)
              rw [begins, List.modifyHead_cons] at member
              rw [begins] at ih
              rcases List.mem_cons.mp member with here | further
              · rw [here]
                exact List.not_mem_cons_of_ne_of_not_mem (Ne.symm different)
                  (ih List.mem_cons_self)
              · exact ih (List.mem_cons_of_mem first further)

/-- A framer that has given up so many segments and taken these bytes since. -/
def standing (limit dropped : Nat) (run : Bytes) : Framer :=
  if run.length ≤ limit then { limit, held := run.toArray, dropped }
  else { limit, skipping := true, dropped := dropped + 1 }

variable {limit dropped : Nat} {run : Bytes}

theorem standing_nil : standing limit dropped [] = { limit, dropped } := by
  exact if_pos (Nat.zero_le limit)

private theorem standing_held : (standing limit dropped run).held.size ≤ limit := by
  unfold standing
  split
  · next fits => exact fits
  · exact Nat.zero_le limit

private theorem standing_dropped (ending : Ending) :
    (standing limit dropped run).dropped =
      dropped + [(⟨run, ending⟩ : Segment)].countP (Segment.isOverlong limit) := by
  unfold standing
  by_cases fits : run.length ≤ limit
  · rw [if_pos fits, List.countP_singleton, Segment.isOverlong,
      decide_eq_false (Nat.not_lt.mpr fits)]
    rfl
  · rw [if_neg fits, List.countP_singleton, Segment.isOverlong,
      decide_eq_true (Nat.lt_of_not_le fits)]
    rfl

@[simp]
theorem standing_extend (byte : UInt8) :
    (standing limit dropped run).extend byte = standing limit dropped (run ++ [byte]) := by
  have longer : (run ++ [byte]).length = run.length + 1 := List.length_append
  unfold standing
  by_cases fits : run.length ≤ limit
  · rw [if_pos fits, extend, if_neg Bool.false_ne_true]
    simp only [List.size_toArray]
    by_cases room : run.length < limit
    · rw [if_pos room, if_pos (by omega), List.push_toArray]
    · rw [if_neg room, if_neg (by omega)]
  · rw [if_neg fits, extend, if_pos rfl, if_neg (by omega)]

private theorem standing_reset (ending : Ending) :
    (standing limit dropped run).reset =
      standing limit (dropped + [(⟨run, ending⟩ : Segment)].countP (Segment.isOverlong limit))
        [] := by
  rw [← standing_dropped ending, standing_nil]
  unfold standing
  split <;> rfl

private theorem standing_close (limit dropped : Nat) (run : Bytes) :
    (standing limit dropped run).close.2.toList = frames limit [⟨run, .closed⟩] := by
  unfold standing frames
  by_cases fits : run.length ≤ limit
  · rw [if_pos fits]
    cases run with
    | nil => rfl
    | cons byte rest =>
        have isFrame : Segment.isFrame limit ⟨byte :: rest, .closed⟩ = true :=
          decide_eq_true ⟨rfl, List.cons_ne_nil byte rest, fits⟩
        rw [List.filter_cons_of_pos isFrame]
        rfl
  · have notFrame : ¬ Segment.isFrame limit ⟨run, .closed⟩ = true :=
      fun isFrame => fits (of_decide_eq_true isFrame).2.2
    rw [if_neg fits, List.filter_cons_of_neg notFrame]
    rfl

def take (framer : Framer) : Mark → Framer × List Bytes
  | .byte byte => ((framer.step byte).1, (framer.step byte).2.toList)
  | .reset => (framer.reset, [])

def takeAll (framer : Framer) : List Mark → Framer × List Bytes
  | [] => (framer, [])
  | mark :: rest =>
      (((framer.take mark).1.takeAll rest).1,
        (framer.take mark).2 ++ ((framer.take mark).1.takeAll rest).2)

theorem takeAll_append (framer : Framer) (front back : List Mark) :
    framer.takeAll (front ++ back) =
      (((framer.takeAll front).1.takeAll back).1,
        (framer.takeAll front).2 ++ ((framer.takeAll front).1.takeAll back).2) := by
  induction front generalizing framer with
  | nil => rfl
  | cons mark rest ih => simp [takeAll, ih]

private theorem feed_eq_takeAll (framer : Framer) (call : Call) :
    framer.feed call = framer.takeAll call.marks := by
  cases call with
  | reset => rfl
  | push chunk =>
      induction chunk generalizing framer with
      | nil => rfl
      | cons byte rest ih =>
          have later : (framer.step byte).1.push rest = _ := ih (framer.step byte).1
          simp only [feed, push, later]
          rfl

theorem feedAll_eq_takeAll (framer : Framer) (calls : List Call) :
    framer.feedAll calls = framer.takeAll (stream calls) := by
  induction calls generalizing framer with
  | nil => rfl
  | cons call rest ih =>
      rw [feedAll, stream, List.flatMap_cons, takeAll_append, ← feed_eq_takeAll]
      simp only [ih]
      rfl

private theorem frames_cons (limit : Nat) (segment : Segment) (rest : List Segment) :
    frames limit (segment :: rest) = frames limit [segment] ++ frames limit rest := by
  unfold frames
  rw [← List.map_append, ← List.filter_append, List.singleton_append]

@[simp]
private theorem modifyHead_behind_nil (cut : List Segment) : cut.modifyHead (.behind []) = cut := by
  cases cut <;> rfl

/-- What is still to come extends the open segment first. -/
theorem takeAll_standing (limit : Nat) (marks : List Mark) (dropped : Nat) (run : Bytes) :
    let cut := (segments marks).modifyHead (.behind run)
    let taken := (standing limit dropped run).takeAll marks
    taken.2 = frames limit cut ∧
      taken.1.dropped = dropped + cut.countP (Segment.isOverlong limit) ∧
      taken.1.held.size ≤ limit := by
  induction marks generalizing dropped run with
  | nil =>
      have still : [(⟨run, .unfinished⟩ : Segment)] =
          (segments []).modifyHead (.behind run) := by
        rw [segments, List.modifyHead_cons, Segment.behind, List.append_nil]
      rw [← still]
      exact ⟨rfl, standing_dropped .unfinished, standing_held⟩
  | cons mark rest ih =>
      -- Where the open segment ends, the next one starts from nothing.
      have ends : ∀ ending, let cut := ⟨run, ending⟩ :: segments rest
          let taken := (standing limit dropped run).reset.takeAll rest
          frames limit [⟨run, ending⟩] ++ taken.2 = frames limit cut ∧
            taken.1.dropped = dropped + cut.countP (Segment.isOverlong limit) ∧
            taken.1.held.size ≤ limit := by
        intro ending cut taken
        have later := ih (dropped + [(⟨run, ending⟩ : Segment)].countP (Segment.isOverlong limit)) []
        rw [modifyHead_behind_nil, ← standing_reset ending] at later
        obtain ⟨returned, counted, held⟩ := later
        refine ⟨?_, ?_, held⟩
        · rw [returned]
          exact (frames_cons limit _ _).symm
        · rw [counted, Nat.add_assoc, ← List.countP_append, List.singleton_append]
      cases mark with
      | reset =>
          have forgotten := ends .forgotten
          rw [segments, List.modifyHead_cons, Segment.behind, List.append_nil]
          exact forgotten
      | byte byte =>
          by_cases isDelimiter : byte = Frame.delimiter
          · have closed := ends .closed
            rw [← standing_close limit dropped run] at closed
            have closing : (standing limit dropped run).take (.byte byte) =
                ((standing limit dropped run).reset,
                  (standing limit dropped run).close.2.toList) := by
              rw [take, step, if_pos isDelimiter]
              rfl
            rw [segments, if_pos isDelimiter, List.modifyHead_cons, Segment.behind,
              List.append_nil, takeAll, closing]
            exact closed
          · have later := ih dropped (run ++ [byte])
            have growing : (standing limit dropped run).take (.byte byte) =
                (standing limit dropped (run ++ [byte]), []) := by
              rw [take, step, if_neg isDelimiter, standing_extend]
              rfl
            have same : (segments rest).modifyHead (.behind (run ++ [byte])) =
                ((segments rest).modifyHead (.behind [byte])).modifyHead (.behind run) := by
              cases segments rest with
              | nil => rfl
              | cons first further =>
                  simp [Segment.behind]
            rw [same] at later
            rw [segments, if_neg isDelimiter, takeAll, growing]
            exact later

/-- The last clause but two says which call returns a frame: the one that has its closing
delimiter. -/
theorem feedAll_eq_splitting (limit : Nat) (calls : List Call) :
    let cut := segments (stream calls)
    let fed := (empty limit).feedAll calls
    cut.flatMap Segment.marks = stream calls ∧
      (∀ segment ∈ cut, Frame.delimiter ∉ segment.bytes) ∧
      fed.2 = frames limit cut ∧
      (∀ call, frames limit (segments (stream (calls ++ [call]))) =
        frames limit cut ++ (fed.1.feed call).2) ∧
      fed.1.dropped = cut.countP (Segment.isOverlong limit) ∧
      fed.1.held.size ≤ limit := by
  have whole : ∀ marks, let taken := (empty limit).takeAll marks
      taken.2 = frames limit (segments marks) ∧
        taken.1.dropped = (segments marks).countP (Segment.isOverlong limit) ∧
        taken.1.held.size ≤ limit := by
    intro marks
    have all := takeAll_standing limit marks 0 []
    simp only [modifyHead_behind_nil, standing_nil, Nat.zero_add] at all
    exact all
  intro cut fed
  have taken : fed = (empty limit).takeAll (stream calls) := feedAll_eq_takeAll _ calls
  obtain ⟨returned, counted, bounded⟩ := whole (stream calls)
  rw [← taken] at returned counted bounded
  refine ⟨flatMap_marks_segments _, fun segment => clean_of_mem_segments, returned, ?_,
    counted, bounded⟩
  intro call
  have longer : stream (calls ++ [call]) = stream calls ++ call.marks := by
    rw [stream, List.flatMap_append, List.flatMap_singleton]
    rfl
  rw [longer, ← (whole _).1, takeAll_append, ← taken, returned, feed_eq_takeAll]

/-- An overlong run that a reset ends is counted, and what follows it is a run of its own. -/
example : (empty 2).feedAll
      [.push [1, 2, 0, 3], .push [4, 5], .reset, .push [6, 0, 0, 7]] =
    ({ limit := 2, held := #[7], dropped := 1 }, [[1, 2], [6]]) := by decide

end Telemetry.Framer
