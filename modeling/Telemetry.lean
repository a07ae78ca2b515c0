import Telemetry.Device.Config
import Telemetry.Device.Line
import Telemetry.Device.Memory
import Telemetry.Main
import Telemetry.Proofs.Device.Queue
import Telemetry.Proofs.Frame.Canonical
import Telemetry.Proofs.Frame.RoundTrip
import Telemetry.Proofs.Framer.Delivery
import Telemetry.Proofs.Framer.Splitting
import Telemetry.Proofs.Link
import Telemetry.Proofs.Network.Agreement
import Telemetry.Proofs.Network.Duplex
import Telemetry.Proofs.Network.Editing
import Telemetry.Proofs.Network.Joined
import Telemetry.Proofs.Network.Round
import Telemetry.Proofs.Network.WriteBack
import Telemetry.Proofs.Packet.Advertisement
import Telemetry.Proofs.Packet.Burst
import Telemetry.Proofs.Registry.Filling
import Telemetry.Proofs.Registry.Learning
import Telemetry.Proofs.Registry.Moving
import Telemetry.Proofs.Registry.Representation
import Telemetry.Proofs.Registry.Submission
import Telemetry.Proofs.Device.Limit
import Telemetry.Proofs.Part.SchemaIdentity
import Telemetry.Proofs.Registry.Editing
import Telemetry.Proofs.Part.Truncation
import Telemetry.Proofs.Part.Effort
import Telemetry.Proofs.Part.Stopping
import Telemetry.Proofs.Frame.Lenient
import Telemetry.Proofs.Part.Flattening
import Telemetry.Proofs.Packet.Scratch
import Telemetry.Proofs.Registry.Bulk
import Telemetry.Proofs.Packet.Dump
import Telemetry.Proofs.Cursor.Safety
import Telemetry.Proofs.Part.Printing
import Telemetry.Proofs.Part.Equality
