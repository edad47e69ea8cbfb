import OdsMod2.S4.RingBuffer.Occupancy
import OdsMod2.S4.PurgeMedia.Evidence
import OdsMod2.S4.Race.Audit
import OdsMod2.S4.Race.Extraction
import OdsMod2.S4.Race.SessionSwitch
import OdsMod2.S4.InMemoryRepository
import OdsMod2.S4.Integrity
import OdsMod2.S4.Atomicity
import OdsMod2.S4.SqliteRepository
import OdsMod2.S4.PointsText
import OdsMod2.S4.PurgeMedia.Quota
import OdsMod2.S4.Retention.QuotaSelection
import OdsMod2.S4.PurgeMedia.Deadline
import OdsMod2.S4.PurgeMedia.Accounting
import OdsMod2.S4.PurgeMedia.Isolation
import OdsMod2.S4.Media.BoxWalk
import OdsMod2.S4.Media.Container
import OdsMod2.S4.Media.BoxTree
import OdsMod2.S4.Media.GstReferences
import OdsMod2.S4.Media.Timeline
import OdsMod2.S5.RollupCounts
import OdsMod2.S5.VisitMetrics
import OdsMod2.S5.PeakConcurrency
import OdsMod2.S5.RollupGaps
import OdsMod2.S5.EventFilter
import OdsMod2.S5.GridDensity
import OdsMod2.S5.HeatmapStore
import OdsMod2.S5.GenerateHeatmap
import OdsMod2.S5.RollupTree
import OdsMod2.S5.ConsecutiveMinutes
import OdsMod2.B6.DragTarget
import OdsMod2.B6.DragGesture
import OdsMod2.B6.Intersection
import OdsMod2.B6.OverlayPlayer
import OdsMod2.B6.RightClick
import OdsMod2.S4.Retention.JsonLinesPurgeLog
import OdsMod2.S4.Retention.PurgeDaemon
import OdsMod2.S4.RingBuffer.FrameLog
import OdsMod2.S4.RingBuffer.Decodability
import OdsMod2.S4.RingBuffer.Lifecycle
import OdsMod2.S4.RingBuffer.Accounting
import OdsMod2.S4.RingBuffer.SegmentAnswer
import OdsMod2.S4.RingBuffer.FailedWrite
import OdsMod2.S4.RingBuffer.ClockAnchor
import OdsMod2.S4.RingBuffer.PostEventWait
import OdsMod2.S4.RingBuffer.SyntheticSource
import OdsMod2.S4.RingBuffer.SharedMemory
import OdsMod2.S4.RingBuffer.Replay
import OdsMod2.S4.RingBuffer.Admission
import OdsMod2.S4.RingBuffer.MediaReaders
import OdsMod2.S4.Http.EventFields
import OdsMod2.S4.Http.EventHandler
import OdsMod2.S4.Http.JsonResponse
import OdsMod2.S4.Http.ClipDescriptor
import OdsMod2.S4.DemoScenario
