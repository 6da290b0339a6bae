import AdapterRuntime.Lib.Machine
import AdapterRuntime.Lib.Store
import AdapterRuntime.Lib.Blocks
import AdapterRuntime.Lib.Sha256
import AdapterRuntime.Lib.Wire
import AdapterRuntime.Model.Text
import AdapterRuntime.Model.Messages
import AdapterRuntime.Model.Config
import AdapterRuntime.Model.Client
import AdapterRuntime.Model.Queue
import AdapterRuntime.Model.Stream
import AdapterRuntime.Model.Dispatch
import AdapterRuntime.Model.Spec
import AdapterRuntime.Model.Session
import AdapterRuntime.Model.Threads
import AdapterRuntime.Model.Control
import AdapterRuntime.Model.System
import AdapterRuntime.Proof.Frames
import AdapterRuntime.Proof.Sections
import AdapterRuntime.Proof.SourceSections
import AdapterRuntime.Proof.Worker
import AdapterRuntime.Proof.Reader
import AdapterRuntime.Proof.Helm
import AdapterRuntime.Proof.Supervision
import AdapterRuntime.Proof.Moves
import AdapterRuntime.Proof.Release
import AdapterRuntime.Proof.Shape
import AdapterRuntime.Proof.LedgerMoves
import AdapterRuntime.Proof.Ledger
import AdapterRuntime.Proof.Plane
import AdapterRuntime.Proof.Jobs
import AdapterRuntime.Proof.Replay
import AdapterRuntime.Model.Deployment
import AdapterRuntime.Model.Digest
import AdapterRuntime.Proof.Ownership
import AdapterRuntime.Proof.Identity
import AdapterRuntime.Proof.Single
import AdapterRuntime.Proof.Rerun
import AdapterRuntime.Proof.Terminals
import AdapterRuntime.Proof.Course
import AdapterRuntime.Proof.Transaction
import AdapterRuntime.Proof.ControlPlane
import AdapterRuntime.Proof.Standing
import AdapterRuntime.Proof.Revisions
import AdapterRuntime.Proof.ReadyGate
import AdapterRuntime.Proof.Statuses
import AdapterRuntime.Proof.Epochs
import AdapterRuntime.Proof.PairLife
import AdapterRuntime.Proof.Opening
import AdapterRuntime.Proof.Invocations
import AdapterRuntime.Proof.Drain
import AdapterRuntime.Proof.SourceMoves
import AdapterRuntime.Proof.Tombstones
import AdapterRuntime.Proof.Limits
import AdapterRuntime.Proof.Credit
import AdapterRuntime.Proof.SourceLedger
import AdapterRuntime.Proof.Acknowledgement
import AdapterRuntime.Proof.Atomicity
import AdapterRuntime.Proof.Digest
import AdapterRuntime.Proof.Outbound
import AdapterRuntime.Proof.Preflight
import AdapterRuntime.Proof.Streams
import AdapterRuntime.Proof.Inbound
import AdapterRuntime.Proof.Grants
import AdapterRuntime.Proof.Answers
import AdapterRuntime.Proof.Recognizers
import AdapterRuntime.Proof.Timing
import AdapterRuntime.Proof.Duties
import AdapterRuntime.Proof.Lifecycle
import AdapterRuntime.Proof.Queues
import AdapterRuntime.Proof.Workload
import AdapterRuntime.Proof.Retries
import AdapterRuntime.Proof.SessionEnd
import AdapterRuntime.Proof.Budgets
import AdapterRuntime.Proof.Cancellation
import AdapterRuntime.Proof.Screening
import AdapterRuntime.Proof.ReadyFailure
import AdapterRuntime.Proof.Attachment
import AdapterRuntime.Proof.Notices
import AdapterRuntime.Proof.Exclusion
import AdapterRuntime.Proof.Burden
import AdapterRuntime.Lib.Progress
import AdapterRuntime.Proof.Shutdown
import AdapterRuntime.Proof.Bootstrap
