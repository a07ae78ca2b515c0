/-
Packets in logs: rows of sixteen bytes, each byte as two hexadecimal digits and
one space between neighbours in a row.
-/

import Telemetry.Bytes

namespace Telemetry.Packet

def rowSize : Nat := 16

def rows : Bytes → List Bytes
  | [] => []
  | byte :: rest =>
      (byte :: rest.take (rowSize - 1)) :: rows (rest.drop (rowSize - 1))
termination_by packet => packet.length
decreasing_by
  simp only [List.length_drop, List.length_cons]
  omega

def rowText : Bytes → List Char
  | [] => []
  | [byte] => hexDigits byte
  | byte :: next :: rest => hexDigits byte ++ ' ' :: rowText (next :: rest)

def dumpRows : List Bytes → List Char
  | [] => []
  | [row] => rowText row
  | row :: next :: rest => rowText row ++ '\n' :: dumpRows (next :: rest)

def dump (packet : Bytes) : String := String.ofList (dumpRows (rows packet))

end Telemetry.Packet
