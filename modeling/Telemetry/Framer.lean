/-
Cutting the byte stream of a line into frames. Bytes arrive in chunks of any
size; a frame is the non-empty run of bytes between two delimiters, and it is
handed on, without them, when the second one arrives. A run longer than the
limit is given up and counted once, and the next delimiter starts afresh.

The framer holds the open run only. What a frame contains is no concern of it.
-/

import Telemetry.Frame

namespace Telemetry

structure Framer where
  /-- The longest run that is still a frame. -/
  limit : Nat
  /-- The open run so far, empty while an overlong run is being skipped. -/
  held : Array UInt8 := #[]
  /-- Whether the open run is already longer than the limit. -/
  skipping : Bool := false
  /-- How many overlong runs were given up. -/
  dropped : Nat := 0
  deriving DecidableEq, Repr

namespace Framer

/-- The longest frame body a peer takes. -/
def standardLimit : Nat := 4096

def empty (limit : Nat) : Framer := { limit }

def standard : Framer := empty standardLimit

def reset (framer : Framer) : Framer :=
  { framer with held := #[], skipping := false }

/-- A delimiter: the open run, if there is one, is a frame. -/
def close (framer : Framer) : Framer × Option Bytes :=
  (framer.reset,
    if framer.skipping || framer.held.isEmpty then none else some framer.held.toList)

/-- Any other byte: it joins the open run, or shows it to be too long. -/
def extend (framer : Framer) (byte : UInt8) : Framer :=
  if framer.skipping then framer
  else if framer.held.size < framer.limit then { framer with held := framer.held.push byte }
  else { framer with held := #[], skipping := true, dropped := framer.dropped + 1 }

def step (framer : Framer) (byte : UInt8) : Framer × Option Bytes :=
  if byte = Frame.delimiter then framer.close else (framer.extend byte, none)

def push (framer : Framer) : Bytes → Framer × List Bytes
  | [] => (framer, [])
  | byte :: rest =>
      let (stepped, frame) := framer.step byte
      let (fed, frames) := stepped.push rest
      (fed, frame.toList ++ frames)

theorem push_append (framer : Framer) (front back : Bytes) :
    framer.push (front ++ back) =
      (((framer.push front).1.push back).1,
        (framer.push front).2 ++ ((framer.push front).1.push back).2) := by
  induction front generalizing framer with
  | nil => rfl
  | cons byte rest ih => simp [push, ih]

end Framer

end Telemetry
