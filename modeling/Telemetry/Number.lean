/-
The numbers a channel can carry. A number is a kind and a pattern of exactly
that kind's bits; what the pattern means depends on the kind. On the wire it is
the pattern, least significant byte first, so every number survives the trip
bit for bit, the ones that are not numbers included.

Two numbers are equal if they have one kind and denote one value. For floating
point that is the standard's comparison, not the identity of patterns.
-/

import Telemetry.Bytes
import Telemetry.Decimal.Text

namespace Telemetry

inductive NumericKind where
  | float
  | double
  | uint8
  | uint16
  | uint32
  | uint64
  | int8
  | int16
  | int32
  | int64
  deriving DecidableEq, Repr

inductive Reading where
  | floating (format : BinaryFormat)
  | unsigned
  | signed
  deriving DecidableEq, Repr

namespace NumericKind

def all : List NumericKind :=
  [.float, .double, .uint8, .uint16, .uint32, .uint64, .int8, .int16, .int32, .int64]

def size : NumericKind → Nat
  | .uint8 | .int8 => 1
  | .uint16 | .int16 => 2
  | .float | .uint32 | .int32 => 4
  | .double | .uint64 | .int64 => 8

def reading : NumericKind → Reading
  | .float => .floating .single
  | .double => .floating .double
  | .uint8 | .uint16 | .uint32 | .uint64 => .unsigned
  | .int8 | .int16 | .int32 | .int64 => .signed

def name : NumericKind → String
  | .float => "float"
  | .double => "double"
  | .uint8 => "uint8"
  | .uint16 => "uint16"
  | .uint32 => "uint32"
  | .uint64 => "uint64"
  | .int8 => "int8"
  | .int16 => "int16"
  | .int32 => "int32"
  | .int64 => "int64"

def title : NumericKind → String
  | .float => "Float"
  | .double => "Double"
  | .uint8 => "Uint8"
  | .uint16 => "Uint16"
  | .uint32 => "Uint32"
  | .uint64 => "Uint64"
  | .int8 => "Int8"
  | .int16 => "Int16"
  | .int32 => "Int32"
  | .int64 => "Int64"

end NumericKind

structure Number where
  kind : NumericKind
  bits : BitVec (8 * kind.size)
  deriving DecidableEq, Repr

namespace Number

def zero (kind : NumericKind) : Number := ⟨kind, 0⟩

def ofPattern (kind : NumericKind) (pattern : Nat) : Number := ⟨kind, BitVec.ofNat _ pattern⟩

def pattern (number : Number) : Nat := number.bits.toNat

def asKind? (kind : NumericKind) (number : Number) : Option (BitVec (8 * kind.size)) :=
  if h : number.kind = kind then some (h ▸ number.bits) else none

def toBytes (number : Number) : Bytes := littleEndian number.kind.size number.pattern

def ofBytes (kind : NumericKind) (bytes : Bytes) : Number := ofPattern kind (ofLittleEndian bytes)

def equal (left right : Number) : Bool :=
  left.kind == right.kind &&
    match left.kind.reading with
    | .floating format => (format.decode left.pattern).equal (format.decode right.pattern)
    | _ => left.pattern == right.pattern

/-- A number in the widest kind of its reading. -/
inductive Wide where
  /-- A double precision pattern. -/
  | float (pattern : Nat)
  | int (value : Int)
  | uint (value : Nat)
  deriving DecidableEq, Repr

def widest (number : Number) : Wide :=
  match number.kind.reading with
  | .floating format => .float (if format = .single then widen number.pattern else number.pattern)
  | .signed => .int number.bits.toInt
  | .unsigned => .uint number.pattern

/-- Readers see plain positional numbers, whatever their size. -/
def plainStyle : FloatStyle := ⟨"", none⟩

/-- In outlines a floating point number can be told from an integer, and one
below a ten-thousandth or from ten to the sixteenth on is scientific. -/
def outlineStyle : FloatStyle := ⟨".0", some (-4, 16)⟩

def render (style : FloatStyle) (number : Number) : String :=
  match number.kind.reading with
  | .floating format => style.render format number.pattern
  | .signed => toString number.bits.toInt
  | .unsigned => toString number.pattern

def text (number : Number) : String := number.render plainStyle

theorem pattern_lt (number : Number) : number.pattern < 256 ^ number.kind.size := by
  have hBits := number.bits.isLt
  rw [Nat.pow_mul] at hBits
  exact hBits

@[simp] theorem toBytes_length (number : Number) : number.toBytes.length = number.kind.size :=
  littleEndian_length _ _

@[simp]
theorem ofPattern_pattern (number : Number) : ofPattern number.kind number.pattern = number := by
  cases number with
  | mk kind bits => simp [ofPattern, pattern]

@[simp]
theorem ofBytes_toBytes (number : Number) : ofBytes number.kind number.toBytes = number := by
  rw [ofBytes, toBytes, ofLittleEndian_littleEndian, Nat.mod_eq_of_lt number.pattern_lt,
    ofPattern_pattern]

theorem toBytes_ofBytes {kind : NumericKind} {bytes : Bytes} (sized : bytes.length = kind.size) :
    (ofBytes kind bytes).toBytes = bytes := by
  have bound : ofLittleEndian bytes < 2 ^ (8 * kind.size) := by
    have small := ofLittleEndian_lt bytes
    rw [sized] at small
    rw [Nat.pow_mul]
    exact small
  have pattern : (ofBytes kind bytes).pattern = ofLittleEndian bytes := by
    rw [ofBytes, ofPattern, Number.pattern, BitVec.toNat_ofNat, Nat.mod_eq_of_lt bound]
  rw [toBytes, pattern]
  change littleEndian kind.size (ofLittleEndian bytes) = bytes
  rw [← sized, littleEndian_ofLittleEndian]

end Number

end Telemetry
