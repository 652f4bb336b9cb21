import FrameGraph.Text.Quoted
import FrameGraph.Gpu.CommandBuffer
import FrameGraph.Gpu.Timeline
import FrameGraph.Resource.Registry
import FrameGraph.Dependency.Order
import FrameGraph.Dependency.Analysis
import FrameGraph.Sync.Hazard
import FrameGraph.Compilation.Cache
import FrameGraph.Compilation.Listing
import FrameGraph.Frame.Schedule
import FrameGraph.Recording.Basic
import FrameGraph.Session.Basic
import FrameGraph.Proofs.Edges
import FrameGraph.Proofs.Placement
import FrameGraph.Proofs.CompiledOrder
import FrameGraph.Proofs.Tracking
import FrameGraph.Proofs.Batches
import FrameGraph.Proofs.Scope
import FrameGraph.Proofs.Window
import FrameGraph.Proofs.Coverage
import FrameGraph.Proofs.Protocol
import FrameGraph.Proofs.Steps
import FrameGraph.Proofs.Stream
import FrameGraph.Proofs.Settle
import FrameGraph.Proofs.Parts
import FrameGraph.Proofs.Reported
import FrameGraph.Proofs.Recorded
import FrameGraph.Proofs.LayoutChain
import FrameGraph.Proofs.Due
import FrameGraph.Proofs.Realised
import FrameGraph.Proofs.IdlePasses
import FrameGraph.Proofs.Sessions
import FrameGraph.Proofs.Replay
import FrameGraph.Proofs.SessionRuns
import FrameGraph.Proofs.Skipping
import FrameGraph.Proofs.HandedBack
import FrameGraph.Proofs.DeclaredUses
import FrameGraph.Proofs.Guarded
import FrameGraph.Proofs.SharedPass
import FrameGraph.Proofs.CacheRuns
import FrameGraph.Proofs.Work
import FrameGraph.Proofs.PendingHazards
import FrameGraph.Proofs.DeviceLoss
import FrameGraph.Proofs.Requests
import FrameGraph.Proofs.Countdown
import FrameGraph.Proofs.LeastOrder
import FrameGraph.Proofs.Stuck
import FrameGraph.Proofs.Recompiled
import FrameGraph.Proofs.Scheduled
import FrameGraph.Proofs.ExactEdges
import FrameGraph.Proofs.BatchRuns
import FrameGraph.Proofs.RecordingOrder
import FrameGraph.Proofs.SwapchainRun
import FrameGraph.Proofs.Rescheduled
import FrameGraph.Proofs.Buckets
import FrameGraph.Proofs.DealtOnce
import FrameGraph.Proofs.Restarts
import FrameGraph.Proofs.ClosingPass
import FrameGraph.Proofs.PoolCalls
import FrameGraph.Proofs.Lookups
import FrameGraph.Proofs.Entries
import FrameGraph.Proofs.HazardCover
import FrameGraph.Proofs.Signatures
import FrameGraph.Proofs.KindsApart
import FrameGraph.Proofs.MixedUses
import FrameGraph.Proofs.ReservedIndex
import FrameGraph.Proofs.TimelineRuns
import FrameGraph.Proofs.StreamCustody
import FrameGraph.Proofs.FailedRecordings
import FrameGraph.Proofs.Aspects
import FrameGraph.Proofs.Handles
import FrameGraph.Proofs.KeptEdges
