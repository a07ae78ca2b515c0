/-
Opening a received packet. Nothing in it is trusted before size and seal are
checked, not even the header; after that the payload is what lies between the
channel's number and the seal.
-/

import Telemetry.Packet.Seal
import Telemetry.Part.Schema

namespace Telemetry.Packet

def checked (packet : Bytes) : Except DecodeError Cursor :=
  match validity packet with
  | .valid => .ok (.start (body packet))
  | refused => .error (.invalid refused)

def header : Decoder Header := do
  let byte ← Decoder.byte
  pure (Header.ofByte byte)

/-- A valid packet's header, channel, and payload to read on from. -/
structure Opened where
  header : Header
  id : ChannelId
  payload : Cursor
  deriving DecidableEq, Repr

def opened? (packet : Bytes) : Except DecodeError Opened :=
  match checked packet with
  | .error error => .error error
  | .ok cursor =>
      match header cursor with
      | (.error error, _) => .error error
      | (.ok header, afterHeader) =>
          match Decoder.byte afterHeader with
          | (.error error, _) => .error error
          | (.ok id, payload) => .ok ⟨header, id, payload⟩

/-- A payload that is one schema and nothing else. -/
def schemaPayload : Decoder Part := do
  let tree ← Part.readSchema
  Decoder.finished
  pure tree

def advertised : Decoder (ChannelId × Part) := do
  let found ← header
  if found ≠ ⟨.broadcast, .send⟩ then
    Decoder.fail (.unexpectedHeader found)
  else
    let id ← Decoder.byte
    let tree ← schemaPayload
    pure (id, tree)

/-- The channel and tree of an advertisement, and of no other packet. -/
def readBroadcast (packet : Bytes) : Except DecodeError (ChannelId × Part) :=
  match checked packet with
  | .error error => .error error
  | .ok cursor => (advertised cursor).1

end Telemetry.Packet
