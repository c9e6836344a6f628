import TableGuard.Error
import TableGuard.Path
import TableGuard.Text.Basic

/-!
# Scanning a directory

The candidates of a scan are the files directly inside a directory, in the order of their names,
with one of the given extensions and a name that no ignore glob describes. A link to a file is a
candidate like the file itself.

* `Candidate` : the name of a file and the path under which it was found;
* `candidates` : the candidates among names in a directory;
* `listNames`, `scan` : the names in a directory, and its candidates.
-/

namespace TableGuard

/-- A file to be analyzed. -/
structure Candidate where
  name : RawText
  path : RawText
deriving DecidableEq

def parseIgnores : List String → Except Error (List Glob)
  | [] => .ok []
  | text :: texts => do
    let glob ← attempt (.parsingIgnore text) .badGlob (Glob.parse text)
    return glob :: (← parseIgnores texts)

/-- Whether a name has one of the extensions and is not ignored. An extension has to be a text, while
globs are asked about the name as it is shown. -/
def isWanted (extensions : List String) (ignores : List Glob) (name : RawText) : Bool :=
  (match (Path.extension? name).bind RawText.text? with
    | some e => extensions.contains e
    | none => false) &&
  !ignores.any fun glob => glob.covers name.lossy

variable {m : Type → Type} [Monad m]

/-- The candidates among names in a directory: those that are wanted and lead to files. -/
def candidates (disk : Disk m) (dir : RawText) (extensions : List String) (ignores : List Glob) :
    List RawText → m (List Candidate)
  | [] => return []
  | name :: names => do
    let path := Path.join dir name
    let rest := candidates disk dir extensions ignores names
    if isWanted extensions ignores name then
      if ← disk.isFile path then return ⟨name, path⟩ :: (← rest) else rest
    else rest

/-- The globs that are to be ignored, and the names in a directory in order. The directory is looked
at first, the globs after that, and the names last. -/
def listNames (disk : Disk m) (dir : RawText) (ignores : List String) :
    m (Except Error (List Glob × List RawText)) := do
  match ← disk.kind dir with
  | .error e => return .error ⟨[.openingSource dir], .disk e⟩
  | .ok .directory =>
    match parseIgnores ignores with
    | .error e => return .error e
    | .ok globs =>
      match ← disk.names dir with
      | .error fault => return .error ⟨[.scanning], .listing fault⟩
      | .ok names => return .ok (globs, sortDistinct names)
  | .ok _ => return .error (.plain (.notDirectory dir))

def scan (disk : Disk m) (dir : RawText) (extensions ignores : List String) :
    m (Except Error (List Candidate)) := do
  match ← listNames disk dir ignores with
  | .error e => return .error e
  | .ok (globs, names) => return .ok (← candidates disk dir extensions globs names)

end TableGuard
