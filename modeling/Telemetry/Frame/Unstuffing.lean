/-
A frame as it is read, byte by byte, into a buffer that is made before the first byte is
seen. A machine is told every byte and says what it comes to: nothing as yet, a byte of the
packet, or that the frame has ended, be it where it should or inside a group. It does not
mind delimiters as long as no frame has begun.

One delimiter more than there is on the line is told at the end, so that a frame that lacks
its own is ended by that one. If the machine never says that a frame has ended, none has
begun, and nothing was read.
-/

import Telemetry.Frame.Stuffing

namespace Telemetry.Frame

namespace Unstuffing

inductive Event where
  | silent
  | data (byte : UInt8)
  | complete
  | broken
  deriving DecidableEq, Repr

def feed : Progress → UInt8 → Event × Progress
  | .waiting, byte =>
      if byte = delimiter then (.silent, .waiting) else (.silent, .opened byte)
  | .group 0 closes, byte =>
      if byte = delimiter then (.complete, .waiting)
      else (if closes then .data delimiter else .silent, .opened byte)
  | .group (owed + 1) closes, byte =>
      if byte = delimiter then (.broken, .waiting) else (.data byte, .group owed closes)

structure Reader where
  progress : Progress
  buffer : Bytes
  written : Nat
  deriving DecidableEq, Repr

def start (size : Nat) : Reader :=
  { progress := .waiting, buffer := List.replicate size 0, written := 0 }

inductive Answer where
  | further (reader : Reader)
  | ended (packet : Bytes)
  deriving DecidableEq, Repr

/-- Writing outside the buffer is refused. -/
def Reader.hear? (reader : Reader) (byte : UInt8) : Option Answer :=
  match feed reader.progress byte with
  | (.silent, progress) => some (.further { reader with progress := progress })
  | (.data byte, progress) => do
      let buffer ← Stuffing.put? reader.buffer reader.written byte
      some (.further ⟨progress, buffer, reader.written + 1⟩)
  | (.complete, _) => some (.ended (reader.buffer.take reader.written))
  | (.broken, _) => some (.ended (reader.buffer.take reader.written))

def Reader.run? (reader : Reader) : Bytes → Option Bytes
  | [] => some []
  | byte :: rest => do
      match ← reader.hear? byte with
      | .further after => after.run? rest
      | .ended packet => some packet

def read? (frame : Bytes) : Option Bytes :=
  (start (withoutLead frame).length).run? (withoutLead frame ++ [delimiter])

end Unstuffing

end Telemetry.Frame
