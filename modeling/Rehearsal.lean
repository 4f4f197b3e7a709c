import Rehearsal.Main
import Rehearsal.Proofs.Script.Collapse
import Rehearsal.Proofs.Script.Escape
import Rehearsal.Proofs.Archive.Comment
import Rehearsal.Proofs.Archive.ByLine
import Rehearsal.Proofs.Frontmatter
import Rehearsal.Proofs.Script.LineNumber
import Rehearsal.Proofs.Files.Clean
import Rehearsal.Proofs.Files.Glob
import Rehearsal.Proofs.Run.WorkDirectory
import Rehearsal.Proofs.Environment
import Rehearsal.Proofs.Files.Growth
import Rehearsal.Proofs.Files.Laying
import Rehearsal.Proofs.Script.Workplace
import Rehearsal.Proofs.Archive.Reading
import Rehearsal.Proofs.Command.Compare
import Rehearsal.Proofs.Script.FixedPoint
import Rehearsal.Proofs.Script.Deferred
import Rehearsal.Proofs.Script.Reachable
import Rehearsal.Proofs.Command.Modifier
import Rehearsal.Proofs.Words
import Rehearsal.Proofs.Command.Beside
import Rehearsal.Proofs.Script.Background
import Rehearsal.Proofs.Command.Contents
import Rehearsal.Proofs.Script.Spelling
import Rehearsal.Proofs.Http.Order
import Rehearsal.Proofs.Http.Clients
import Rehearsal.Proofs.Command.Existence
import Rehearsal.Proofs.Command.Waiting
import Rehearsal.Proofs.Script.Guard
import Rehearsal.Proofs.Http.Retry
import Rehearsal.Proofs.Http.Form
import Rehearsal.Proofs.Duration.Exact
import Rehearsal.Proofs.Settings.Start
import Rehearsal.Proofs.Settings.Precedence
import Rehearsal.Proofs.Run.Verdict
import Rehearsal.Proofs.Run.Selection
import Rehearsal.Proofs.Files.Removal
import Rehearsal.Proofs.Script.SingleName
