import RoboticsLab.Lib.Runs
import RoboticsLab.Servo.ReplayProtection
import RoboticsLab.Servo.LeaseExclusive
import RoboticsLab.Lib.Fifo
import RoboticsLab.Servo.CommandBuffer
import RoboticsLab.Servo.BufferDeadman
import RoboticsLab.Servo.StopDelivery
import RoboticsLab.Control.QueueSync
import RoboticsLab.Servo.LeaseReadback
import RoboticsLab.Control.QueueSyncLock
import RoboticsLab.Control.SetpointInterpolator
import RoboticsLab.Control.AsyncSupervision
import RoboticsLab.Control.ArmWorker
import RoboticsLab.Control.SupervisionLatch
import RoboticsLab.Control.WireSuppression
import RoboticsLab.Control.SafetyFilter
import RoboticsLab.Control.SafetyEnvelope
import RoboticsLab.Preview.ExecutionCursor
import RoboticsLab.Camera.ShmRing
import RoboticsLab.Camera.Seqlock
import RoboticsLab.Camera.FrameIdentity
import RoboticsLab.Lib.SlotBank
import RoboticsLab.Preview.Mailbox
import RoboticsLab.Preview.MailboxSafety
import RoboticsLab.Preview.MailboxOrder
import RoboticsLab.Chunk.SegmentCore
import RoboticsLab.Chunk.Window
import RoboticsLab.Chunk.Follower
import RoboticsLab.Chunk.RefusedFrame
import RoboticsLab.Chunk.SegmentShift
import RoboticsLab.Chunk.ForceFold
import RoboticsLab.Preview.LiveExecution
import RoboticsLab.Preview.Authority
import RoboticsLab.Preview.AuthorityRuns
import RoboticsLab.Preview.StoppingClock
import RoboticsLab.Preview.PlanOrigin
import RoboticsLab.Preview.RetiredAuthority
import RoboticsLab.Camera.BundleSoundness
import RoboticsLab.Camera.SlotSnapshot
import RoboticsLab.Camera.CameraManager
import RoboticsLab.Camera.LiveIdentity
import RoboticsLab.Lib.PyValue
import RoboticsLab.Lib.Raising
import RoboticsLab.Recording.EpisodeBuffer
import RoboticsLab.Recording.FrameEffect
import RoboticsLab.Recording.RowAlignment
import RoboticsLab.Recording.FailedFrames
import RoboticsLab.ArmInit.OverrideController
import RoboticsLab.ArmInit.LatchSteps
import RoboticsLab.ArmInit.PolicySuspension
import RoboticsLab.ArmInit.CancelEffect
import RoboticsLab.ArmInit.LatchRelease
import RoboticsLab.Stream.ChunkStream
import RoboticsLab.Stream.Dispatcher
import RoboticsLab.Stream.Interleavings
import RoboticsLab.Stream.RowTiming
import RoboticsLab.Stream.DispatcherRuns
import RoboticsLab.Control.UnderrunEvents
import RoboticsLab.Servo.RejectedPackets
import RoboticsLab.Servo.ShorthandPackets
import RoboticsLab.Teleop.MuxOwnership
import RoboticsLab.Gripper.GripperServer
import RoboticsLab.Gripper.StaleHold
import RoboticsLab.ServoHistory.CommandHistory
import RoboticsLab.ServoHistory.RecordSteps
import RoboticsLab.ServoHistory.Uninterrupted
import RoboticsLab.ServoHistory.CausalWindow
import RoboticsLab.Ensemble.ChunkEnsemble
import RoboticsLab.Ensemble.Telescoping
import RoboticsLab.Ensemble.EnsembleStream
import RoboticsLab.Ensemble.WholeWindows
import RoboticsLab.Ensemble.KickWalls
import RoboticsLab.Recovery.PreviewSource
import RoboticsLab.Recovery.BlockedAuthority
import RoboticsLab.Chunk.RateBudget
import RoboticsLab.Control.AccelerationBound
import RoboticsLab.Control.JointSmd
import RoboticsLab.Control.QueueSyncBounds
import RoboticsLab.Control.ShortestPath
import RoboticsLab.Chunk.PlanClock
import RoboticsLab.Lib.Quadratic
import RoboticsLab.Preview.ContactConstraint
import RoboticsLab.Preview.ContactEnvelope
import RoboticsLab.Preview.ResultTransport
import RoboticsLab.Preview.BrakeStart
import RoboticsLab.Preview.BrakeBounds
import RoboticsLab.Preview.ReadyBrake
import RoboticsLab.Preview.ContactSlew
import RoboticsLab.Preview.SlewTube
import RoboticsLab.Preview.SlewKnots
import RoboticsLab.Preview.SlewGrid
import RoboticsLab.Preview.SlewFeasible
import RoboticsLab.Control.ProjectionRelease
import RoboticsLab.Chunk.ChunkFrameReceiver
import RoboticsLab.Chunk.FrameAcceptance
import RoboticsLab.Camera.MasterConservation
import RoboticsLab.Camera.BundleChoice
import RoboticsLab.Camera.BundlePruning
import RoboticsLab.Lib.Layout
import RoboticsLab.Camera.ShmSegment
import RoboticsLab.Camera.ShmBounds
import RoboticsLab.Camera.AppConfig
import RoboticsLab.Camera.ShmCreate
import RoboticsLab.Camera.ShmLayout
import RoboticsLab.Camera.ShmWrite
import RoboticsLab.Camera.StreamRings
import RoboticsLab.Lib.Nesting
import RoboticsLab.Telemetry.IntactFrames
import RoboticsLab.Pose.NoJumps
import RoboticsLab.SpaceMouse.Assignments
import RoboticsLab.JointLimit.StallReports
import RoboticsLab.Gripper.GripVerdict
import RoboticsLab.Ensemble.LateAnchors
import RoboticsLab.Ensemble.BlendSeams
import RoboticsLab.Lib.Pacer
import RoboticsLab.Stream.RowPacing
import RoboticsLab.Ensemble.RowRate
import RoboticsLab.Gripper.SinkAgreement
import RoboticsLab.Lib.Rotation3
import RoboticsLab.SpaceMouse.LeadClamp
import RoboticsLab.SpaceMouse.PoseTargetSource
import RoboticsLab.SpaceMouse.SideRecords
import RoboticsLab.SpaceMouse.NeutralGate
import RoboticsLab.Pose.SampledRuns
import RoboticsLab.Camera.FrameStats
import RoboticsLab.Camera.StreamTrack
import RoboticsLab.Camera.DropAccounting
import RoboticsLab.Chunk.WindowBookkeeping
import RoboticsLab.Lib.Occurrences
import RoboticsLab.Rbpodo.RbackResponses
import RoboticsLab.Rbpodo.MotionReadiness
import RoboticsLab.Camera.BundleClient
import RoboticsLab.Camera.NewestUsable
import RoboticsLab.Camera.MetadataRoundTrip
import RoboticsLab.InitMotion.Configuration
import RoboticsLab.InitMotion.NearestNode
import RoboticsLab.InitMotion.RrtTree
import RoboticsLab.InitMotion.PlanReturns
import RoboticsLab.Collision.BarrierRuns
