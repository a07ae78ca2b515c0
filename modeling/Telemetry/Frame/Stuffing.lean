/-
The body of a frame as it is written in one pass, into a buffer that is made before the
first byte is seen. The code of a group stands in front of it and is known only behind
it, so its place is left open and filled in when the group ends.

A group that is full ends at its last byte, before it is known whether more follows. If
nothing does, an empty group stands behind it, unless the buffer has no room for that.
It is dropped from what was written.
-/

import Telemetry.Frame

namespace Telemetry.Frame

namespace Stuffing

/-- The size of the buffer for a packet of this size. -/
def room (size : Nat) : Nat :=
  size + size / groupLimit + if size % groupLimit = 0 then 0 else 1

structure Writer where
  buffer : Bytes
  /-- Where the next byte goes. -/
  next : Nat
  /-- Where the code of the open group goes. -/
  codeAt : Nat
  /-- The code of the open group, should it end here. -/
  code : Nat
  deriving DecidableEq, Repr

def start (size : Nat) : Writer :=
  { buffer := List.replicate (room size) 0, next := 1, codeAt := 0, code := 1 }

def put? (buffer : Bytes) (place : Nat) (byte : UInt8) : Option Bytes :=
  if place < buffer.length then some (buffer.set place byte) else none

/-- Writing outside the buffer is refused. -/
def push? (writer : Writer) (byte : UInt8) : Option Writer :=
  if byte = delimiter then do
    let buffer ← put? writer.buffer writer.codeAt (UInt8.ofNat writer.code)
    some ⟨buffer, writer.next + 1, writer.codeAt + writer.code, 1⟩
  else if writer.code + 1 = fullCode.toNat then do
    let coded ← put? writer.buffer writer.codeAt fullCode
    let buffer ← put? coded writer.next byte
    some ⟨buffer, writer.next + 2, writer.codeAt + (writer.code + 1), 1⟩
  else do
    let buffer ← put? writer.buffer writer.next byte
    some ⟨buffer, writer.next + 1, writer.codeAt, writer.code + 1⟩

/-- The last code is left out if there is no place for it. -/
def Writer.finish (writer : Writer) : Bytes :=
  (writer.buffer.set writer.codeAt (UInt8.ofNat writer.code)).take writer.next

def write? (packet : Bytes) : Option Bytes :=
  (packet.foldlM push? (start packet.length)).map Writer.finish

end Stuffing

/-- Walks the groups by their codes, with so many bytes of one still to come, and drops the
last if it is empty and lies behind a full one. -/
def trimAfter (before : Option UInt8) : Nat → Bytes → Bytes
  | _, [] => []
  | owed + 1, byte :: rest => byte :: trimAfter before owed rest
  | 0, code :: rest =>
      if before = some fullCode ∧ code = 1 ∧ rest = [] then []
      else code :: trimAfter (some code) (code.toNat - 1) rest

def withoutEmptyGroup (body : Bytes) : Bytes := trimAfter none 0 body

end Telemetry.Frame
