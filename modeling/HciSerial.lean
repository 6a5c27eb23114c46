import HciSerial.Packet.Encoding
import HciSerial.Framing.Grammar
import HciSerial.Transport.Queues
import HciSerial.Host.Simulated
import HciSerial.Command.Reset
import HciSerial.Main
import HciSerial.Proofs.Framing.ReceiveBuffer
import HciSerial.Proofs.Framing.Segment
import HciSerial.Proofs.Framing.Simulation
import HciSerial.Proofs.Framing.Feed
import HciSerial.Proofs.Line.Memory
import HciSerial.Proofs.Transport.Polling
import HciSerial.Proofs.Transport.Reception
import HciSerial.Proofs.Command.Decode
import HciSerial.Proofs.Packet.RoundTrip
import HciSerial.Proofs.Transport.Session
import HciSerial.Proofs.Transport.Requests
import HciSerial.Proofs.Transport.SendAccounting
import HciSerial.Proofs.Framing.Safety
import HciSerial.Proofs.Transport.Overlap
import HciSerial.Proofs.Host.Tap
import HciSerial.Proofs.Line.Terminal
import HciSerial.Proofs.Line.Calls
import HciSerial.Proofs.Line.Conservation
import HciSerial.Proofs.Transport.InStep
import HciSerial.Proofs.Transport.Agreement
import HciSerial.Proofs.Line.Tap
import HciSerial.Proofs.Line.Pipe
import HciSerial.Proofs.Host.Alike
import HciSerial.Proofs.Line.Alike
import HciSerial.Proofs.Line.Failures
import HciSerial.Proofs.Transport.Queues
import HciSerial.Proofs.Packet.Delivery
import HciSerial.Proofs.Transport.SentNotices
import HciSerial.Proofs.Transport.Baudrate
import HciSerial.Proofs.Transport.Failures
import HciSerial.Proofs.Packet.Encoding
import HciSerial.Proofs.Packet.Outgoing
import HciSerial.Proofs.Command.Send
import HciSerial.Proofs.Transport.Quiescence
import HciSerial.Proofs.Command.HexInput
import HciSerial.Proofs.Command.Monitor
import HciSerial.Proofs.Framing.StaleBytes
import HciSerial.Proofs.Framing.Edits
import HciSerial.Proofs.Framing.Allocation
import HciSerial.Proofs.Text.Decimal
import HciSerial.Proofs.Text.Duration
import HciSerial.Proofs.Command.Timeout
import HciSerial.Proofs.Command.DecodeOutput
