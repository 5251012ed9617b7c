import SegmentSync.Main
import SegmentSync.Configuration.Writer
import SegmentSync.Simulation.Terminal
import SegmentSync.Simulation.Trial
import SegmentSync.Simulation.Watch
import SegmentSync.Proofs.Client.Admission
import SegmentSync.Proofs.Client.Agreement
import SegmentSync.Proofs.Client.Gate
import SegmentSync.Proofs.Client.Judgement
import SegmentSync.Proofs.Client.Replies
import SegmentSync.Proofs.Client.Usability
import SegmentSync.Proofs.Configuration.Acceptance
import SegmentSync.Proofs.Configuration.Endpoints
import SegmentSync.Proofs.Program.Trace
import SegmentSync.Proofs.Protocol.Layout
import SegmentSync.Proofs.Protocol.Records
import SegmentSync.Proofs.Replication.Concurrency
import SegmentSync.Proofs.Replication.Confinement
import SegmentSync.Proofs.Replication.Convergence
import SegmentSync.Proofs.Replication.Exactness
import SegmentSync.Proofs.Replication.Frame
import SegmentSync.Proofs.Replication.Freeze
import SegmentSync.Proofs.Replication.Handshake
import SegmentSync.Proofs.Replication.Progress
import SegmentSync.Proofs.Replication.Safety
import SegmentSync.Proofs.Replication.Unrelated
import SegmentSync.Proofs.Service.Look
import SegmentSync.Proofs.Session.Acknowledgement
import SegmentSync.Proofs.Session.Attempts
import SegmentSync.Proofs.Session.Bracket
import SegmentSync.Proofs.Session.Course
import SegmentSync.Proofs.Session.Cursors
import SegmentSync.Proofs.Session.Delays
import SegmentSync.Proofs.Session.Errands
import SegmentSync.Proofs.Session.Failures
import SegmentSync.Proofs.Session.Finality
import SegmentSync.Proofs.Session.Logins
import SegmentSync.Proofs.Session.Retries
import SegmentSync.Proofs.Session.Retry
import SegmentSync.Proofs.Session.Stop
import SegmentSync.Proofs.Session.Upkeep
import SegmentSync.Proofs.Session.Values
import SegmentSync.Proofs.Session.Verdicts
import SegmentSync.Proofs.Session.Writes
import SegmentSync.Proofs.Store.Cursors
import SegmentSync.Proofs.Store.Keys
import SegmentSync.Proofs.Store.SingleUse
import SegmentSync.Proofs.Store.Transfer
import SegmentSync.Proofs.Wire.Frames
