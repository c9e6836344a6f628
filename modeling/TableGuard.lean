import TableGuard.Main
import TableGuard.Tree
import TableGuard.Proofs.Gate
import TableGuard.Proofs.Rerun
import TableGuard.Proofs.RoundTrip
import TableGuard.Proofs.Course
import TableGuard.Proofs.Forecast
import TableGuard.Proofs.Fault
import TableGuard.Proofs.Abort
import TableGuard.Proofs.CommandLine
import TableGuard.Proofs.Verbosity
import TableGuard.Proofs.Findings
import TableGuard.Proofs.Reapply
import TableGuard.Proofs.Holes
import TableGuard.Proofs.Validation
import TableGuard.Proofs.NewFile
import TableGuard.Proofs.Setup
import TableGuard.Proofs.Rewriting
import TableGuard.Proofs.Accounting
import TableGuard.Proofs.Extension
import TableGuard.Proofs.Caret
import TableGuard.Proofs.Glob
import TableGuard.Proofs.Selection
import TableGuard.Proofs.Ancestors
import TableGuard.Proofs.Lookup
import TableGuard.Proofs.SourceDir
import TableGuard.Proofs.Preparation
import TableGuard.Proofs.Summary
import TableGuard.Proofs.Overlap
import TableGuard.Proofs.Gutter
