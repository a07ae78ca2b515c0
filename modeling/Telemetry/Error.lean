/-
What can go wrong, by cause. Reading fails on bytes that are missing, unknown
or left over; writing fails on a text that holds the byte that would end it; a
device fails to take a packet; and a registry fails for one of these reasons or
because it was asked for a channel it does not have.

Every cause has one message. A registry's failure that stems from another keeps
that one as its source.
-/

import Telemetry.Packet.Header
import Telemetry.Packet.Seal

namespace Telemetry

abbrev ChannelId := UInt8

inductive DecodeError where
  /-- A read of `wanted` bytes at `position` would run past the `size` bytes there are. -/
  | outOfBounds (wanted position size : Nat)
  | unknownType (tag : UInt8)
  /-- Records lie more than this many levels inside each other. -/
  | tooDeep (levels : Nat)
  | trailingBytes (count : Nat)
  | invalid (validity : Validity)
  | unexpectedHeader (header : Header)
  deriving DecidableEq, Repr

inductive EncodeError where
  | embeddedNul (text : String)
  deriving DecidableEq, Repr

inductive DeviceError where
  | inputOutput
  | driver
  | queueFull
  | frameTooLarge (size : Nat)
  | closed
  deriving DecidableEq, Repr

inductive RegistryError where
  | decode (error : DecodeError)
  | encode (error : EncodeError)
  | device (error : DeviceError)
  | unknownChannel (id : ChannelId)
  /-- Every one of this many channel numbers is taken. -/
  | tooManyChannels (limit : Nat)
  | schemaMismatch (id : ChannelId)
  deriving DecidableEq, Repr

def DecodeError.message : DecodeError → String
  | .outOfBounds wanted position size =>
      "Reading " ++ toString wanted ++ " byte(s) at position " ++ toString position ++
        " would read past a buffer of size " ++ toString size
  | .unknownType tag => "Unknown type tag 0x" ++ hexNumber 2 tag.toNat
  | .tooDeep levels => "Schema nesting is deeper than " ++ toString levels ++ " levels"
  | .trailingBytes count => toString count ++ " byte(s) left over after decoding the payload"
  | .invalid validity => "Invalid packet: " ++ validity.name
  | .unexpectedHeader header => "Unexpected packet header " ++ header.outline.line

def EncodeError.message : EncodeError → String
  | .embeddedNul text => "String \"" ++ text ++ "\" contains a NUL byte and cannot be sent"

def DeviceError.message : DeviceError → String
  | .inputOutput => "IO Error"
  | .driver => "Serialport Error"
  | .queueFull => "Transmit queue is full"
  | .frameTooLarge size =>
      "Encoded frame of " ++ toString size ++ " byte(s) is longer than the peer will accept"
  | .closed => "Device is closed"

def RegistryError.message : RegistryError → String
  | .decode _ => "Decode Error"
  | .encode _ => "Encode Error"
  | .device _ => "Device Error"
  | .unknownChannel id => "No channel with id " ++ toString id.toNat ++ " is known"
  | .tooManyChannels limit => "All " ++ toString limit ++ " channel ids are already in use"
  | .schemaMismatch id =>
      "Tree does not match the schema learned for channel " ++ toString id.toNat

end Telemetry
