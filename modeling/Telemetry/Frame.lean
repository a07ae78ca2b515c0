/-
Frames. A packet is recoded so that it holds no zero byte, and one zero byte
before and one after it mark it off on the line. The recoding cuts the packet
into groups: a code byte followed by code - 1 bytes that are not zero. A group
of fewer than 254 bytes stands for its bytes and a zero, except at the end of
the packet; a group of 254 bytes (code 255) stands for its bytes alone.

Writing is total and canonical: a packet that ends with a full group gets no
empty group behind it. Reading never fails. It stops at the first delimiter
after the frame has begun and returns what it has rebuilt; damage is for the
checksum to notice.
-/

import Telemetry.Bytes

namespace Telemetry.Frame

def delimiter : UInt8 := zeroByte

def groupLimit : Nat := 254

def fullCode : UInt8 := 0xFF

/-- The bytes of the next group: up to the first zero, and no more than fit. -/
def nextGroup (packet : Bytes) : Bytes :=
  (packet.take groupLimit).takeWhile (· ≠ delimiter)

def body (packet : Bytes) : Bytes :=
  let group := nextGroup packet
  let rest :=
    match _ : packet.drop group.length with
    | [] => []
    | next :: later =>
        if group.length = groupLimit then body (next :: later) else body later
  UInt8.ofNat (group.length + 1) :: (group ++ rest)
termination_by packet.length
decreasing_by
  · rename_i hDrop hFull
    have hLength := congrArg List.length hDrop
    have hLimit : groupLimit = 254 := rfl
    simp only [List.length_drop, List.length_cons] at hLength ⊢
    simp only [group] at hFull hLength
    omega
  · rename_i hDrop _
    have hLength := congrArg List.length hDrop
    simp only [List.length_drop, List.length_cons] at hLength ⊢
    omega

/-- A packet as it stands on the line. The empty packet has no frame. -/
def encode (packet : Bytes) : Bytes :=
  match packet with
  | [] => []
  | _ :: _ => delimiter :: (body packet ++ [delimiter])

/--
Where a reader stands: before the first code byte, or inside a group with
`owed` bytes still to come, which stands for a zero behind them if `closes`.
-/
inductive Progress where
  | waiting
  | group (owed : Nat) (closes : Bool)
  deriving DecidableEq, Repr

def Progress.opened (code : UInt8) : Progress :=
  .group (code.toNat - 1) (code != fullCode)

/-- The bytes a reader rebuilds, up to a delimiter or the end. -/
def rebuild : Progress → Bytes → Bytes
  | _, [] => []
  | .waiting, byte :: rest =>
      if byte = delimiter then rebuild .waiting rest else rebuild (.opened byte) rest
  | .group owed closes, byte :: rest =>
      if byte = delimiter then []
      else
        match owed with
        | 0 => (if closes then [delimiter] else []) ++ rebuild (.opened byte) rest
        | owed + 1 => byte :: rebuild (.group owed closes) rest

def withoutLead : Bytes → Bytes
  | [] => []
  | byte :: rest => if byte = delimiter then rest else byte :: rest

/-- The packet a frame stands for, or as much of it as could be rebuilt. -/
def decode (frame : Bytes) : Bytes :=
  rebuild .waiting (withoutLead frame)

end Telemetry.Frame
