/-
Decimals as text. A decimal is written positionally, with as many zeros as its
exponent asks for, or scientifically, with one digit before the point and the
exponent behind an "e". A style says where the one ends and the other begins
and whether a whole number keeps a point.
-/

import Telemetry.Decimal.Shortest

namespace Telemetry

structure FloatStyle where
  /-- What follows a whole number that is written positionally. -/
  wholeSuffix : String
  /-- The exponents of the leading digit, first and one past the last, for which
  a number is written positionally; without bounds every number is. -/
  positional : Option (Int × Int)
  deriving DecidableEq, Repr

namespace Decimal

def digits (decimal : Decimal) : List Char := Nat.toDigits 10 decimal.coefficient

def leading (decimal : Decimal) : Int :=
  decimal.digits.length - 1 + decimal.exponent

def pointed (digits : List Char) (places : Nat) : List Char :=
  if places < digits.length then
    digits.take (digits.length - places) ++ '.' :: digits.drop (digits.length - places)
  else
    '0' :: '.' :: (List.replicate (places - digits.length) '0' ++ digits)

def positional (wholeSuffix : String) (decimal : Decimal) : List Char :=
  if 0 ≤ decimal.exponent then
    decimal.digits ++ List.replicate decimal.exponent.toNat '0' ++ wholeSuffix.toList
  else
    pointed decimal.digits (-decimal.exponent).toNat

def scientific (decimal : Decimal) : List Char :=
  let exponent := 'e' :: (toString decimal.leading).toList
  match decimal.digits with
  | first :: second :: rest => first :: '.' :: second :: rest ++ exponent
  | few => few ++ exponent

end Decimal

namespace FloatStyle

/-- A decimal in the notation its size asks for. Zero is positional. -/
def decimal (style : FloatStyle) (decimal : Decimal) : List Char :=
  match style.positional with
  | some (first, past) =>
      if decimal.coefficient ≠ 0 ∧ (decimal.leading < first ∨ past ≤ decimal.leading) then
        decimal.scientific
      else decimal.positional style.wholeSuffix
  | none => decimal.positional style.wholeSuffix

def signed (negative : Bool) (magnitude : List Char) : String :=
  String.ofList (if negative then '-' :: magnitude else magnitude)

def render (style : FloatStyle) (format : BinaryFormat) (pattern : Nat) : String :=
  match format.decode pattern with
  | .notANumber => "NaN"
  | .infinite negative => signed negative "inf".toList
  | .finite negative significand exponent =>
      signed negative (style.decimal (Decimal.shortest format significand exponent))

end FloatStyle

end Telemetry
