import PcmStream.Bench.SoftStream
import PcmStream.Bench.ScriptedStream
import PcmStream.Bench.SoftDuplex
import PcmStream.Bench.Handoff
import PcmStream.Proofs.View.Silence
import PcmStream.Proofs.Callback.SilenceGuard
import PcmStream.Proofs.Stream.Turn
import PcmStream.Proofs.Device.Usage
import PcmStream.Proofs.Device.Negotiation
import PcmStream.Proofs.Stream.Protocol
import PcmStream.Proofs.Stream.Life
import PcmStream.Proofs.Stream.Standing
import PcmStream.Proofs.SoftDevice.Settling
import PcmStream.Proofs.SoftDevice.LockStep
import PcmStream.Proofs.SoftDevice.Rig
import PcmStream.Proofs.Stream.Failures
import PcmStream.Proofs.Duplex.Sessions
import PcmStream.Proofs.Duplex.Failures
import PcmStream.Proofs.View.Cells
import PcmStream.Proofs.Queue.Frames
import PcmStream.Proofs.Queue.Capture
import PcmStream.Proofs.Queue.Delivery
import PcmStream.Proofs.Queue.Steps
import PcmStream.Proofs.Queue.Interleaving
import PcmStream.Proofs.SoftDevice.Period
import PcmStream.Proofs.SoftDevice.Captured
import PcmStream.Proofs.SoftDevice.Rendered
import PcmStream.Proofs.SoftDevice.Playback
import PcmStream.Proofs.Device.Simulation
import PcmStream.Proofs.Stream.Simulation
import PcmStream.Proofs.Device.Transcript
import PcmStream.Proofs.SoftDevice.Nearest
import PcmStream.Proofs.SoftDevice.Negotiated
import PcmStream.Proofs.SoftDevice.Renegotiated
import PcmStream.Proofs.SoftDevice.Retry
import PcmStream.Proofs.Clock.Shift
import PcmStream.Proofs.Clock.Words
import PcmStream.Proofs.Clock.WriteOnce
import PcmStream.Proofs.Clock.Alignment
import PcmStream.Proofs.Duplex.Rig
import PcmStream.Proofs.Duplex.Offset
import PcmStream.Proofs.View.Tail
import PcmStream.Proofs.View.Platform
import PcmStream.Proofs.View.Matrix
import PcmStream.Proofs.View.Copies
import PcmStream.Proofs.View.Layouts
import PcmStream.Proofs.Callback.Layouts
import PcmStream.Proofs.SoftDevice.Layouts
import PcmStream.Proofs.Bench.Layouts
import PcmStream.Proofs.Duplex.Course
import PcmStream.Proofs.Duplex.Release
import PcmStream.Proofs.Bench.Disconnection
import PcmStream.Proofs.Duplex.Rollback
import PcmStream.Proofs.SoftDevice.Statistics
import PcmStream.Proofs.SoftDevice.Projection
import PcmStream.Proofs.SoftDevice.AnyOrder
import PcmStream.Proofs.Queue.Refusals
import PcmStream.Proofs.Clock.Latency
