/-
The cyclic redundancy check that seals a packet: 32 bits, polynomial
0x04C11DB7 taken least significant bit first, register started at all ones
and complemented at the end. Serial, Ethernet and archive formats share it.

The register is a bit vector and the check is stated one bit at a time, so it
is linear in exclusive or by inspection. No table is kept.
-/

import Telemetry.Bytes

namespace Telemetry.Checksum

/-- The generator with its bits reversed, the top coefficient left out. -/
def polynomial : BitVec 32 := 0xEDB88320#32

/-- Divides the register by the generator for one bit. -/
def bitStep (register : BitVec 32) : BitVec 32 :=
  if register.getLsbD 0 then (register >>> 1) ^^^ polynomial else register >>> 1

def byteStep (register : BitVec 32) (byte : UInt8) : BitVec 32 :=
  Nat.repeat bitStep 8 (register ^^^ byte.toBitVec.setWidth 32)

def register (start : BitVec 32) (bytes : Bytes) : BitVec 32 :=
  bytes.foldl byteStep start

def ofBytes (bytes : Bytes) : BitVec 32 :=
  ~~~(register (BitVec.allOnes 32) bytes)

def size : Nat := 4

def trailer (bytes : Bytes) : Bytes :=
  littleEndian size (ofBytes bytes).toNat

theorem register_append (start : BitVec 32) (front back : Bytes) :
    register start (front ++ back) = register (register start front) back :=
  List.foldl_append

@[simp]
theorem trailer_length (bytes : Bytes) : (trailer bytes).length = size :=
  littleEndian_length size _

/-- The check value of the standard: the digits one to nine give cbf43926. -/
example :
    ofBytes [0x31, 0x32, 0x33, 0x34, 0x35, 0x36, 0x37, 0x38, 0x39] = 0xCBF43926#32 := by
  decide +kernel

end Telemetry.Checksum
