import AirportRtw88.Interleave.Guarantee
import AirportRtw88.Interleave.Pool
import AirportRtw88.Interleave.Discipline
import AirportRtw88.Interleave.Trace
import AirportRtw88.Crypto
import AirportRtw88.Frame
import AirportRtw88.RxReorder
import AirportRtw88.RxReorderInvariant
import AirportRtw88.RxReorderRuns
import AirportRtw88.State
import AirportRtw88.Keys
import AirportRtw88.Transmit
import AirportRtw88.Scan
import AirportRtw88.Handshake
import AirportRtw88.Connect
import AirportRtw88.Receive
import AirportRtw88.System
import AirportRtw88.BlockAck
import AirportRtw88.Control
import AirportRtw88.RxSteps
import AirportRtw88.ScanSteps
import AirportRtw88.ConnectSteps
import AirportRtw88.CancelSteps
import AirportRtw88.Steps
import AirportRtw88.Cancellation
import AirportRtw88.Retry
import AirportRtw88.Driven
import AirportRtw88.Deadlines
import AirportRtw88.Link
import AirportRtw88.Steady
import AirportRtw88.Protection
import AirportRtw88.Downgrade
import AirportRtw88.Deliveries
import AirportRtw88.HeaderFields
import AirportRtw88.AwdlData
import AirportRtw88.DataEncapsulation
import AirportRtw88.DataDelivery
import AirportRtw88.Aggregates
import AirportRtw88.AggregateDelivery
import AirportRtw88.EapolKey
import AirportRtw88.Plaintext
import AirportRtw88.Interleave.Alone
import AirportRtw88.LinkSteps
import AirportRtw88.Walks
import AirportRtw88.RxWalks
import AirportRtw88.LinkStatus
import AirportRtw88.HandshakeOrder
import AirportRtw88.IdleClean
import AirportRtw88.TxAgreement
import AirportRtw88.Interleave.Machine
import AirportRtw88.ThreadCall
import AirportRtw88.Napi
import AirportRtw88.Workqueue
import AirportRtw88.WorkqueueSafety
import AirportRtw88.WorkCancellation
import AirportRtw88.Timers
import AirportRtw88.ReceiveFilter
import AirportRtw88.ScanCache
import AirportRtw88.Sha1Digest
import AirportRtw88.ReplayCounters
import AirportRtw88.Interleave.Ownership
import AirportRtw88.BufferLedger
import AirportRtw88.BufferOwnership
import AirportRtw88.RxReorderMap
import AirportRtw88.Interleave.Emission
import AirportRtw88.DeliveryOrder
import AirportRtw88.Access
import AirportRtw88.CheckedFrame
import AirportRtw88.CheckedData
import AirportRtw88.Interleave.Attempt
import AirportRtw88.CheckedReceive
import AirportRtw88.BoundsSafety
import AirportRtw88.Hash.Blocks
import AirportRtw88.Hash.Hmac
import AirportRtw88.Hash.Sha1
import AirportRtw88.Heap.Chain
import AirportRtw88.DmaStore
import AirportRtw88.DmaStoreSafety
import AirportRtw88.StreamingDmaSafety
import AirportRtw88.AesCipher
import AirportRtw88.Iteration
import AirportRtw88.KeyDerivation
import AirportRtw88.KeyWrap
import AirportRtw88.RsnGrammar
import AirportRtw88.InfoElements
import AirportRtw88.BeaconElements
import AirportRtw88.BeaconCopy
import AirportRtw88.AssocRequest
import AirportRtw88.ConnectedChannel
import AirportRtw88.SequenceNumbers
import AirportRtw88.CapabilityAgreement
import AirportRtw88.Queue.Tape
import AirportRtw88.Queue.Ring
import AirportRtw88.LogRing
import AirportRtw88.Words.BitField
import AirportRtw88.BitFields
import AirportRtw88.Averages
import AirportRtw88.PciConfig
import AirportRtw88.FirmwareBlobs
import AirportRtw88.Completions
import AirportRtw88.BssListFormat
import AirportRtw88.Interleave.Attended
import AirportRtw88.KeyInstallation
import AirportRtw88.ScanRefusals
import AirportRtw88.RsnFreshness
import AirportRtw88.HandshakeAgreement
import AirportRtw88.Words.Search
import AirportRtw88.BitmapSearch
import AirportRtw88.GroupKeyData
import AirportRtw88.PoweredStates
import AirportRtw88.Heap.Ring
import AirportRtw88.Service
import AirportRtw88.ListHead
import AirportRtw88.SkbQueue
import AirportRtw88.WorkqueueLists
import AirportRtw88.Slab
import AirportRtw88.SkbData
import AirportRtw88.Semaphores
import AirportRtw88.Custody
import AirportRtw88.Lifecycle
import AirportRtw88.LifecycleParts
import AirportRtw88.LifecycleRuns
import AirportRtw88.PollLoop
import AirportRtw88.Polling
import AirportRtw88.ListCursor
import AirportRtw88.ScanResults
import AirportRtw88.ObjectLife
import AirportRtw88.ObjectLifeParts
import AirportRtw88.ObjectLifeRuns
import AirportRtw88.Segments
import AirportRtw88.AwdlOutput
import AirportRtw88.TxBackpressure
import AirportRtw88.VirtualInterfaces
import AirportRtw88.ChannelLists
