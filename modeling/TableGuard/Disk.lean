import TableGuard.Text.Raw

/-!
# Access to files

The program asks a disk for what a path leads to, the names in a directory and the bytes of a file,
and writes whole files; nothing else touches the outside. All requests follow symbolic links.

* `DiskError` : the ways in which a request fails;
* `ListingFault` : why the names in a directory cannot be told;
* `Disk` : the requests, in whatever monad they are carried out.
-/

namespace TableGuard

/-- The ways in which a request to a disk fails. -/
inductive DiskError where
  | notFound
  | accessDenied
  | notDirectory
  | isDirectory
  | tooManyLinks
  /-- A name, or a path as a whole, is too long. -/
  | nameTooLong
  /-- There is a NUL in a path. -/
  | nulInPath
  /-- The bytes that were read are no text. -/
  | notText
  /-- Any other failure, in the words of the system. -/
  | other (description : String)
deriving DecidableEq

def DiskError.message : DiskError → String
  | .notFound => "No such file or directory (os error 2)"
  | .accessDenied => "Permission denied (os error 13)"
  | .notDirectory => "Not a directory (os error 20)"
  | .isDirectory => "Is a directory (os error 21)"
  | .tooManyLinks => "Too many levels of symbolic links (os error 40)"
  | .nameTooLong => "File name too long (os error 36)"
  | .nulInPath => "file name contained an unexpected NUL byte"
  | .notText => "stream did not contain valid UTF-8"
  | .other description => description

/-- A failure to tell the names in a directory: at the path of the directory or of an entry, or
between two entries, where there is no path to name. -/
structure ListingFault where
  path : Option RawText
  error : DiskError
deriving DecidableEq

/-- The wording of a fault, followed by that of the failure behind it. -/
def ListingFault.message (fault : ListingFault) : String :=
  (match fault.path with
    | some path => s!"IO error for operation on {path.lossy}: {fault.error.message}"
    | none => fault.error.message) ++ s!": {fault.error.message}"

/-- What a path leads to. -/
inductive FileKind where
  | file
  | directory
  /-- Something else, such as a pipe. -/
  | special
deriving DecidableEq

/-- The requests to a disk. -/
structure Disk (m : Type → Type) where
  /-- What a path leads to. -/
  kind : RawText → m (Except DiskError FileKind)
  /-- The names in a directory, in any order. One entry that cannot be told is enough to fail. -/
  names : RawText → m (Except ListingFault (List RawText))
  /-- The bytes of a file. -/
  read : RawText → m (Except DiskError (List UInt8))
  /-- Makes the bytes the content of a file, which is created if need be. -/
  write : RawText → List UInt8 → m (Except DiskError Unit)

namespace Disk

variable {m : Type → Type} [Monad m]

def present (disk : Disk m) (path : RawText) : m Bool := do
  match ← disk.kind path with
  | .ok _ => return true
  | .error _ => return false

def isFile (disk : Disk m) (path : RawText) : m Bool := do
  match ← disk.kind path with
  | .ok .file => return true
  | _ => return false

end Disk

end TableGuard
