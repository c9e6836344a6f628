import TableGuard.Command.Help
import TableGuard.Config.Lookup
import TableGuard.Config.Printer
import TableGuard.Report

/-!
# Carrying out a command

* `Finish` : how a command ends, and what it has printed;
* `runCommand` : checks or fixes a project;
* `initCommand` : writes a configuration file;
* `execute` : carries out a command line.
-/

namespace TableGuard

/-- How a command ends, with the text for the two outputs. -/
inductive Finish where
  | exit (status : Nat) (out err : String)
  /-- In the middle of a report that cannot be written. -/
  | broken (out err : String)
deriving DecidableEq

namespace Finish

def printed (text : String) : Finish := .exit 0 text ""

def failed (wording : Wording) (notes : String) (e : Error) : Finish :=
  .exit 2 "" (notes ++ s!"Error: {e.message wording}\n")

end Finish

variable {m : Type → Type} [Monad m]

/-- A note, unless it is not wanted. -/
def noteIf (wanted : Bool) (text : String) : String := if wanted then text else ""

/-- The exit status of a run without errors: a check fails when it has found something. -/
def Summary.status (s : Summary) : Nat :=
  if s.mode = .check && 0 < s.problemFiles then 1 else 0

/-- The job of a command line, from the settings that were loaded. A source root on the command line
comes in the place of theirs, as a text. -/
def Options.job (options : Options) (config : Config) : Except Error Job :=
  let source := (options.sourceRoot.map RawText.lossy).getD config.sourceRoot
  Job.make { config with sourceRoot := source } options.root

/-- How a run ends, given the notes that come before its own. -/
def RunResult.finish (wording : Wording) (color verbose : Bool) (notes : String)
    (result : RunResult) : Finish :=
  let notes := notes ++ noteIf verbose (Report.skipNotes color result.summary)
  match result.error with
  | some e => .failed wording notes e
  | none =>
    match Report.render color result.summary with
    | some text => .exit result.summary.status text notes
    | none => .broken (Report.begun color result.summary.files) notes

def runCommand (wording : Wording) (disk : Disk m) (color : Bool) (mode : Mode)
    (options : Options) : m Finish := do
  match ← Config.load disk options.root with
  | .error e => return .failed wording "" (e.within (.loadingConfig options.root))
  | .ok loaded =>
    let notes := noteIf (options.verbose && !loaded.fromFile) (Report.standardNote color)
    match options.job loaded.config with
    | .error e => return .failed wording notes e
    | .ok job => return (← job.run disk mode).finish wording color options.verbose notes

def initCommand (wording : Wording) (disk : Disk m) (color : Bool) : m Finish := do
  if ← disk.present configName then
    return .exit 1 "" s!"Error: {configName} already exists\n"
  else
    match ← disk.write configName (Utf8.encode Config.standard.render.toList) with
    | .error e => return .failed wording "" ⟨[.writingConfig], .disk e⟩
    | .ok () =>
      return .printed <| Report.unlines
        [paint color [.green] Report.successMark ++ " " ++
          paint color [.green] s!"Created {configName}"]

def Request.execute (wording : Wording) (disk : Disk m) (color : Bool) : Request → m Finish
  | .help topic => return .printed (Report.unlines topic.lines)
  | .version => return .printed (versionLine ++ "\n")
  | .run mode options => runCommand wording disk color mode options
  | .init => initCommand wording disk color

def execute (wording : Wording) (disk : Disk m) (color : Bool) (args : List RawText) : m Finish :=
  match Request.parse args with
  | .error _ => return .exit 2 "" (wording.usage args)
  | .ok request => request.execute wording disk color

end TableGuard
