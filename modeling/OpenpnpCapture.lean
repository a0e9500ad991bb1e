import OpenpnpCapture.Lib.Run
import OpenpnpCapture.Lib.Bytes
import OpenpnpCapture.Lib.Mailbox
import OpenpnpCapture.Common.MjpegHelper
import OpenpnpCapture.Common.Stream
import OpenpnpCapture.Common.Context
import OpenpnpCapture.Common.DecodeFrame
import OpenpnpCapture.Common.RawFrames
import OpenpnpCapture.Common.ContextStep
import OpenpnpCapture.Common.ContextInvariant
import OpenpnpCapture.Common.StreamIds
import OpenpnpCapture.Common.Ownership
import OpenpnpCapture.Common.Libmain
import OpenpnpCapture.Common.UnknownIds
import OpenpnpCapture.Lib.Binary32
import OpenpnpCapture.Win.DirectShow
import OpenpnpCapture.Win.PlatformContext
import OpenpnpCapture.Win.FormatSearch
import OpenpnpCapture.Win.ListedFormats
import OpenpnpCapture.Lib.Lease
import OpenpnpCapture.Win.PlatformStream
import OpenpnpCapture.Win.ComLifecycle
import OpenpnpCapture.Lib.Access
import OpenpnpCapture.Linux.YuvConverters
import OpenpnpCapture.Linux.PlatformStream
import OpenpnpCapture.Linux.FrameBounds
import OpenpnpCapture.Win.SubmitBuffer
import OpenpnpCapture.Win.NegotiatedSize
import OpenpnpCapture.Common.NewFrame
import OpenpnpCapture.Linux.CapturedImage
import OpenpnpCapture.Linux.DeviceRun
import OpenpnpCapture.Linux.EagerDecode
import OpenpnpCapture.Linux.RawNegotiation
import OpenpnpCapture.Linux.CaptureThread
import OpenpnpCapture.Linux.ListedModes
import OpenpnpCapture.Win.WrittenInterval
import OpenpnpCapture.Common.IssuedIds
import OpenpnpCapture.Common.Isolation
import OpenpnpCapture.Common.RawClient
import OpenpnpCapture.Lib.Handover
import OpenpnpCapture.Linux.BufferHandover
import OpenpnpCapture.Win.DeviceIdentity
import OpenpnpCapture.Linux.DescriptorLifecycle
import OpenpnpCapture.Linux.UniqueIds
import OpenpnpCapture.Linux.ColourAgreement
import OpenpnpCapture.Common.ProbePolling
import OpenpnpCapture.Lib.Loop
import OpenpnpCapture.Mac.UvcCtrl
import OpenpnpCapture.Win.SampleBounds
import OpenpnpCapture.Lib.Checked
import OpenpnpCapture.Linux.FormatBlocks
import OpenpnpCapture.Linux.ImageSizes
import OpenpnpCapture.Linux.PlanarConversion
import OpenpnpCapture.Common.RawGrowth
import OpenpnpCapture.Win.NearestRate
import OpenpnpCapture.Mac.PlatformStream
import OpenpnpCapture.Mac.RowLength
import OpenpnpCapture.Common.ProbeEffects
import OpenpnpCapture.Lib.Gather
import OpenpnpCapture.Win.FlipInvolution
import OpenpnpCapture.Lib.LittleEndian
import OpenpnpCapture.Mac.ProcessingUnit
import OpenpnpCapture.Mac.PropertyStore
import OpenpnpCapture.Linux.ColourAccuracy
import OpenpnpCapture.Mac.FrameCount
import OpenpnpCapture.Common.FirstElement
import OpenpnpCapture.Common.Registry
import OpenpnpCapture.Common.ContextRefinement
import OpenpnpCapture.Linux.BufferMappings
import OpenpnpCapture.Linux.ClosingThread
import OpenpnpCapture.Common.ControlPanel
import OpenpnpCapture.Common.PortableProperties
import OpenpnpCapture.Mac.AutoProperties
import OpenpnpCapture.Common.Feed
import OpenpnpCapture.Common.PortablePictures
import OpenpnpCapture.Common.PortableRawFrames
import OpenpnpCapture.Win.Availability
import OpenpnpCapture.Lib.Text
import OpenpnpCapture.Mac.ControlInterface
import OpenpnpCapture.Mac.StreamLedger
import OpenpnpCapture.Win.ReferenceLedger
import OpenpnpCapture.Win.SetFrameRate
