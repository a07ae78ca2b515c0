/-
What a registry needs of a device: a way to hand over one packet, which the
device takes or refuses. Receiving is not asked for here; whoever runs a device
gives what it receives to the registry.
-/

import Telemetry.Error

namespace Telemetry

class Device (δ : Type) where
  /-- Hands over one packet, without framing. -/
  send : Bytes → δ → Except DeviceError Unit × δ

end Telemetry
