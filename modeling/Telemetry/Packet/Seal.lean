/-
The seal of a packet: the checksum of everything before it, as its last four
bytes. A packet is worth reading only if it is long enough to hold a header and
a seal, and if the seal is that of its body.
-/

import Telemetry.Checksum

namespace Telemetry

inductive Validity where
  | valid
  | badChecksum
  | tooSmall
  deriving DecidableEq, Repr

namespace Validity

def name : Validity → String
  | .valid => "Ok"
  | .badChecksum => "BadChecksum"
  | .tooSmall => "TooSmall"

end Validity

namespace Packet

/-- A header byte and a seal. -/
def minimumSize : Nat := 1 + Checksum.size

def sealed (body : Bytes) : Bytes := body ++ Checksum.trailer body

def body (packet : Bytes) : Bytes := packet.take (packet.length - Checksum.size)

def trailer (packet : Bytes) : Bytes := packet.drop (packet.length - Checksum.size)

def validity (packet : Bytes) : Validity :=
  if packet.length < minimumSize then .tooSmall
  else if Checksum.ofBytes (body packet) = BitVec.ofNat 32 (ofLittleEndian (trailer packet)) then
    .valid
  else .badChecksum

@[simp]
theorem sealed_length (content : Bytes) :
    (sealed content).length = content.length + Checksum.size := by
  rw [sealed, List.length_append, Checksum.trailer_length]

@[simp]
theorem body_sealed (content : Bytes) : body (sealed content) = content := by
  rw [body, sealed_length, Nat.add_sub_cancel, sealed, List.take_left]

@[simp]
theorem trailer_sealed (content : Bytes) :
    trailer (sealed content) = Checksum.trailer content := by
  rw [trailer, sealed_length, Nat.add_sub_cancel, sealed, List.drop_left]

theorem validity_sealed {content : Bytes} (hContent : content ≠ []) :
    validity (sealed content) = .valid := by
  have hLength : ¬ (sealed content).length < minimumSize := by
    have hPositive := List.length_pos_iff.mpr hContent
    have hSize : Checksum.size = 4 := rfl
    rw [sealed_length, minimumSize]
    omega
  have hSeal : BitVec.ofNat 32 (ofLittleEndian (Checksum.trailer content)) =
      Checksum.ofBytes content := by
    have hPower : 256 ^ Checksum.size = 2 ^ 32 := by decide
    rw [Checksum.trailer, ofLittleEndian_littleEndian, hPower,
      Nat.mod_eq_of_lt (Checksum.ofBytes content).isLt, BitVec.ofNat_toNat, BitVec.setWidth_eq]
  rw [validity, if_neg hLength, body_sealed, trailer_sealed, hSeal, if_pos rfl]

end Packet

end Telemetry
