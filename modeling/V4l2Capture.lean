import V4l2Capture.Library.LittleEndian
import V4l2Capture.Protocol.FrameHeader
import V4l2Capture.Protocol.Validation
import V4l2Capture.Protocol.AcceptedHeaders
import V4l2Capture.Fixture.ProtocolFixture
import V4l2Capture.Library.Framing
import V4l2Capture.Library.Socket
import V4l2Capture.Protocol.WireFrame
import V4l2Capture.Protocol.WireLayout
import V4l2Capture.Library.ShiftRegister
import V4l2Capture.Library.CyclicCode
import V4l2Capture.Protocol.Crc
import V4l2Capture.Receiver.ReadExact
import V4l2Capture.Stats.Latency
import V4l2Capture.Library.Traced
import V4l2Capture.Stats.AtomicFile
import V4l2Capture.Receiver.Session
import V4l2Capture.Receiver.Counters
import V4l2Capture.Receiver.AcceptLoop
import V4l2Capture.Receiver.SavePayload
import V4l2Capture.Receiver.RoundTrip
import V4l2Capture.Receiver.FrameBoundary
import V4l2Capture.Receiver.BurstErrors
import V4l2Capture.Library.BlockLoop
import V4l2Capture.Image.Yuyv
import V4l2Capture.Diagnostics.HostLayout
import V4l2Capture.Diagnostics.ReadInterruptible
import V4l2Capture.Diagnostics.HandleClient
import V4l2Capture.Diagnostics.HeaderMisalignment
import V4l2Capture.Diagnostics.ReceiverLoop
import V4l2Capture.Diagnostics.YuyvConversion
import V4l2Capture.Diagnostics.PublishFrame
import V4l2Capture.Pipeline.Frame
import V4l2Capture.Library.DropQueue
import V4l2Capture.Pipeline.RingBuffer
import V4l2Capture.Library.Calls
import V4l2Capture.Pipeline.RingSimulation
import V4l2Capture.Library.Transition
import V4l2Capture.Camera.Capture
import V4l2Capture.Image.SaveFrame
import V4l2Capture.Library.Ledger
import V4l2Capture.Camera.Device
import V4l2Capture.Camera.Ownership
import V4l2Capture.Camera.Operations
import V4l2Capture.Camera.Lifetime
import V4l2Capture.Camera.Streaming
import V4l2Capture.Camera.Fourcc
import V4l2Capture.Library.Streaks
import V4l2Capture.Pipeline.Recovery
import V4l2Capture.Pipeline.Shared
import V4l2Capture.Pipeline.Producer
import V4l2Capture.Pipeline.Consumer
import V4l2Capture.Pipeline.SendAll
import V4l2Capture.Pipeline.Sender
import V4l2Capture.Pipeline.Run
import V4l2Capture.Pipeline.Accounting
import V4l2Capture.Pipeline.Wire
import V4l2Capture.Library.History
import V4l2Capture.Pipeline.RecoveryBudget
import V4l2Capture.Pipeline.CaptureErrors
import V4l2Capture.Pipeline.LastError
import V4l2Capture.Pipeline.Timeouts
import V4l2Capture.Pipeline.Rebuilds
import V4l2Capture.Pipeline.SendUntil
import V4l2Capture.Pipeline.SendCalls
import V4l2Capture.Camera.BufferQueue
import V4l2Capture.Library.LastWriter
import V4l2Capture.Config.AppConfig
import V4l2Capture.Config.Settings
import V4l2Capture.Config.KeyValue
import V4l2Capture.Config.CommandLine
import V4l2Capture.Config.KeysAndFlags
import V4l2Capture.Library.TextLines
import V4l2Capture.Config.ConfigFile
import V4l2Capture.Config.Rendering
import V4l2Capture.Config.Validate
import V4l2Capture.Config.Load
import V4l2Capture.Library.Interpolation
import V4l2Capture.Stats.LatencySummary
import V4l2Capture.Library.Descriptors
import V4l2Capture.Diagnostics.SocketInterrupt
import V4l2Capture.Library.JsonString
import V4l2Capture.Stats.JsonEscape
import V4l2Capture.Library.Numerals
import V4l2Capture.Config.UnsignedArguments
import V4l2Capture.Receiver.Streams
import V4l2Capture.TcpSender.TestFrames
import V4l2Capture.TcpSender.Run
import V4l2Capture.TcpSender.Received
import V4l2Capture.Pipeline.Received
import V4l2Capture.Library.Decimals
import V4l2Capture.Library.JsonDocument
import V4l2Capture.Stats.Documents
import V4l2Capture.Receiver.StatsFile
import V4l2Capture.Pipeline.Connect
import V4l2Capture.Pipeline.Latencies
import V4l2Capture.Pipeline.StatsFile
import V4l2Capture.Library.Sampling
import V4l2Capture.Diagnostics.Accesses
import V4l2Capture.Diagnostics.Reports
import V4l2Capture.Diagnostics.PublishedReports
import V4l2Capture.Diagnostics.ThroughputFile
import V4l2Capture.Diagnostics.ImageThroughput
