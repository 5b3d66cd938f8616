import Ichabod.Lib.Interleaving
import Ichabod.Horseman.Receiver
import Ichabod.Proofs.Horseman.Stream
import Ichabod.Horseman.Threads
import Ichabod.Proofs.Horseman.Transition
import Ichabod.Proofs.Horseman.WorkCount
import Ichabod.Lib.Fifo
import Ichabod.Proofs.Horseman.Order
import Ichabod.Proofs.Horseman.Close
import Ichabod.Proofs.Horseman.Dismiss
import Ichabod.Control.Send
import Ichabod.Control.Receive
import Ichabod.Proofs.Control.Send
import Ichabod.Proofs.Control.Receive
import Ichabod.Proofs.Relay.RtpRelay
import Ichabod.Lib.Base64
import Ichabod.Media.Base64
import Ichabod.Proofs.Media.Base64
import Ichabod.Media.ScreencastSrc
import Ichabod.Proofs.Media.FrameRoundTrip
import Ichabod.Bin.Attach
import Ichabod.Proofs.Bin.Attach
import Ichabod.Control.Lifecycle
import Ichabod.Horseman.Lifecycle
import Ichabod.Proofs.Relay.RtpConfig
import Ichabod.Proofs.Uv.Lifecycle
import Ichabod.Lib.Decimal
import Ichabod.Proofs.Horseman.Malformed
import Ichabod.Proofs.Relay.MissingParts
import Ichabod.Proofs.Relay.MLineIndex
import Ichabod.Proofs.Media.Undecodable
import Ichabod.Proofs.Horseman.DrainBound
import Ichabod.Proofs.Media.Timestamps
import Ichabod.Horseman.Ledger
import Ichabod.Proofs.Horseman.Ledger
import Ichabod.Media.PushCalls
import Ichabod.Proofs.Media.PushCalls
import Ichabod.Lib.Lines
import Ichabod.Lib.CellWriter
import Ichabod.Media.Base64Buffers
import Ichabod.Proofs.Media.Base64Encode
import Ichabod.Proofs.Media.Base64Buffers
import Ichabod.Proofs.Horseman.Jobs
import Ichabod.Proofs.Horseman.Quiescence
import Ichabod.Proofs.Horseman.Entry
import Ichabod.Proofs.Horseman.EndToEnd
import Ichabod.Bin.Pipeline
import Ichabod.Lib.FlowGraph
import Ichabod.Lib.Mutex
import Ichabod.Bin.Preroll
import Ichabod.Proofs.Bin.Preroll
import Ichabod.Proofs.Bin.Flows
import Ichabod.Control.Ledger
import Ichabod.Proofs.Control.Ledger
import Ichabod.Main.Options
import Ichabod.Proofs.Main.Options
import Ichabod.Proofs.Media.PushedOnce
import Ichabod.Proofs.Relay.Signals
import Ichabod.Bin.Requests
import Ichabod.Proofs.Bin.Requests
import Ichabod.Proofs.Horseman.StreamTimes
import Ichabod.Proofs.Relay.Streams
