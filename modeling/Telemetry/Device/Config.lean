/-
How serial lines are found and opened: the settings of a line, and the text that
offers a line to whoever has to choose one.
-/

import Telemetry.Bytes
import Telemetry.Text.Outline

namespace Telemetry

structure SerialConfig where
  lineName : String := ""
  baudRate : Nat := 230400
  timeoutSeconds : Nat := 3
  queueDepth : Nat := 64
  deriving DecidableEq, Repr

def SerialConfig.outline (config : SerialConfig) : Outline :=
  .structured "SerialConfig"
    [("port_name", .text config.lineName), ("baud_rate", .number config.baudRate),
      ("timeout", .word (toString config.timeoutSeconds ++ "s")),
      ("queue_depth", .number config.queueDepth)]

structure CandidateLine where
  lineName : String
  vendor : UInt16
  product : UInt16
  productName : Option String := none
  manufacturer : Option String := none
  deriving DecidableEq, Repr

def CandidateLine.text (candidate : CandidateLine) : String :=
  candidate.lineName ++ " [" ++ hexNumber 4 candidate.vendor.toNat ++ ":" ++
    hexNumber 4 candidate.product.toNat ++ "]" ++
    (match candidate.productName with
      | some name => " " ++ name
      | none => "") ++
    (match candidate.manufacturer with
      | some name => " (" ++ name ++ ")"
      | none => "")

end Telemetry
