import Registrar.Calendar.Instant
import Registrar.CommandLine.Run
import Registrar.Directory.Run
import Registrar.Evaluation.Run
import Registrar.Host.Memory
import Registrar.Main
import Registrar.Ordered
import Registrar.Proofs.Directory.Again
import Registrar.Proofs.Directory.Batching
import Registrar.Proofs.Directory.Convergence
import Registrar.Proofs.Directory.Session
import Registrar.Proofs.Evaluation.Merge
import Registrar.Proofs.Sheet.RoundTrip
import Registrar.Settings.Text
import Registrar.Sheet.Coordinates
import Registrar.Tape.File
import Registrar.Text.Quoted
import Registrar.Text.Word
import Registrar.World.Memory
import Registrar.Proofs.Path
import Registrar.Proofs.World.Exchanges
import Registrar.Proofs.World.Folder
import Registrar.Proofs.Directory.Load
import Registrar.Proofs.Directory.Run
import Registrar.Proofs.Directory.Submission
import Registrar.Proofs.Directory.CachedRun
import Registrar.Proofs.Directory.Redo
import Registrar.Proofs.Directory.Seeding
import Registrar.Proofs.Directory.Inactivation
import Registrar.Proofs.Evaluation.Splitting
import Registrar.Proofs.Evaluation.IssueLog
import Registrar.Proofs.Evaluation.Conflicts
import Registrar.Proofs.Evaluation.Separation
import Registrar.Proofs.Evaluation.SubmissionOrder
import Registrar.Proofs.Tape.Replay
import Registrar.Proofs.Directory.Authorisation
import Registrar.Proofs.Evaluation.IssueKeys
import Registrar.Proofs.Evaluation.References
import Registrar.Proofs.Sheet.Entering
import Registrar.Proofs.Evaluation.Publication
import Registrar.Proofs.Directory.Coherence
import Registrar.Proofs.SisId
import Registrar.Proofs.Evaluation.Supervision
import Registrar.Proofs.Evaluation.CarryOver
import Registrar.Proofs.Evaluation.Republication
import Registrar.Proofs.Directory.Withholding
import Registrar.Proofs.Evaluation.ConflictReport
import Registrar.Proofs.Evaluation.BackfillReference
import Registrar.Proofs.Evaluation.Suffixing
import Registrar.Proofs.Evaluation.Attendance
import Registrar.Proofs.Evaluation.InstructorRecord
import Registrar.Proofs.Tape.Queues
import Registrar.Proofs.Evaluation.Integrity
import Registrar.Proofs.Evaluation.Hierarchy
import Registrar.Proofs.Directory.Stamp
import Registrar.Proofs.Directory.Selection
import Registrar.Proofs.Evaluation.Threshold
import Registrar.Proofs.Evaluation.CourseName
import Registrar.Proofs.Directory.ItemByItem
import Registrar.Proofs.Directory.Polling
import Registrar.Proofs.Evaluation.IssueJoin
import Registrar.Proofs.Sheet.Edits
import Registrar.Proofs.Sheet.LeadingRows
import Registrar.Proofs.Sheet.Coordinates
import Registrar.Proofs.Sheet.Overlay
