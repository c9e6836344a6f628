import TableGuard.Command

/-!
# The program

The command line, carried out on the files of the machine. Colours are used on a terminal, unless
the environment asks for none.
-/

namespace TableGuard

def DiskError.ofSystem : IO.Error → DiskError
  | .noFileOrDirectory _ _ _ => .notFound
  | .permissionDenied _ 13 _ => .accessDenied
  | .inappropriateType _ 20 _ => .notDirectory
  | .inappropriateType _ 21 _ => .isDirectory
  | .invalidArgument _ 36 _ => .nameTooLong
  | .invalidArgument _ 40 _ => .tooManyLinks
  | e => .other e.toString

/-- A request to the system, with its failure as a value. -/
def request {α : Type} (action : IO α) : IO (Except DiskError α) := do
  try
    return .ok (← action)
  catch e =>
    return .error (.ofSystem e)

/-- What a path leads to. The system is asked by texts, so a path that is none leads nowhere. -/
def systemKind (path : RawText) : IO (Except DiskError FileKind) := do
  match ← request do (← IO.FS.realPath path.lossy).metadata with
  | .error e => return .error e
  | .ok found =>
    match found.type with
    | .dir => return .ok .directory
    | .file => return .ok .file
    | _ => return .ok .special

def systemNames (path : RawText) : IO (Except ListingFault (List RawText)) := do
  match ← request do (← IO.FS.realPath path.lossy).readDir with
  | .ok found => return .ok (found.toList.map fun entry => .ofString entry.fileName)
  | .error e => return .error ⟨some path, e⟩

def systemDisk : Disk IO where
  kind := systemKind
  names := systemNames
  read path := request do return (← IO.FS.readBinFile path.lossy).toList
  write path bytes := request (IO.FS.writeBinFile path.lossy ⟨bytes.toArray⟩)

def printBoth (out err : String) : IO Unit := do
  (← IO.getStderr).putStr err
  (← IO.getStdout).putStr out

end TableGuard

open TableGuard in
def main (args : List String) : IO UInt32 := do
  let color := (← (← IO.getStdout).isTty) && (← IO.getEnv "NO_COLOR").isNone
  match ← execute .plain systemDisk color (args.map .ofString) with
  | .exit status out err =>
    printBoth out err
    return status.toUInt32
  | .broken out err =>
    printBoth out err
    return 101
