/-
The first byte of a packet. Its top bit tells data from advertisements and the
bit below it tells acknowledgements from what they acknowledge. The six bits
below those are written as zero and mean nothing when read.
-/

import Telemetry.Text.Outline

namespace Telemetry

inductive PacketType where
  | broadcast
  | data
  deriving DecidableEq, Repr

inductive PacketFunction where
  | send
  | acknowledge
  deriving DecidableEq, Repr

structure Header where
  packetType : PacketType
  function : PacketFunction
  deriving DecidableEq, Repr

namespace Header

def dataBit : UInt8 := 0x80

def acknowledgeBit : UInt8 := 0x40

def toByte (header : Header) : UInt8 :=
  (match header.packetType with
    | .broadcast => 0
    | .data => dataBit) |||
  (match header.function with
    | .send => 0
    | .acknowledge => acknowledgeBit)

def ofByte (byte : UInt8) : Header :=
  { packetType := if byte &&& dataBit = 0 then .broadcast else .data
    function := if byte &&& acknowledgeBit = 0 then .send else .acknowledge }

@[simp]
theorem ofByte_toByte (header : Header) : ofByte header.toByte = header := by
  cases header with
  | mk packetType function => cases packetType <;> cases function <;> decide

end Header

def PacketType.name : PacketType → String
  | .broadcast => "Broadcast"
  | .data => "Data"

def PacketFunction.name : PacketFunction → String
  | .send => "Send"
  | .acknowledge => "Acknowledge"

def Header.outline (header : Header) : Outline :=
  .structured "PacketHeader"
    [("packet_type", .word header.packetType.name), ("function", .word header.function.name)]

end Telemetry
