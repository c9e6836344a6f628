import TableGuard.Config
import TableGuard.Fix
import TableGuard.Scan

/-!
# A run over a directory

A run takes the names in a directory one after another. A candidate is read, analyzed and fixed in
memory, and in fix mode written back, before the next name is looked at. The first error ends the
run, and files that were written stay written.

* `Job`, `Job.make`, `Job.sourceDir` : settings that have been checked, with the project they apply
  to;
* `Verdict`, `Analyzer.inspect` : what is found in one file, from its bytes alone;
* `Summary` : what a run has found so far;
* `Job.run` : the run.
-/

namespace TableGuard

/-! ## Jobs -/

/-- Settings and the root of the project they apply to. -/
structure Job where
  config : Config
  root : RawText
  extensions : List String
  registry : Registry

namespace Job

def make (config : Config) (root : RawText) : Except Error Job := do
  config.validate
  return ⟨config, root, config.normalExtensions, config.registry⟩

/-- The directory to scan: the source root, below the project root unless it is absolute or the
project root is the working directory. -/
def sourceDir (job : Job) : RawText :=
  let source : RawText := job.config.sourceRoot
  if Path.isAbsolute source || Path.isCurrent job.root then source
  else Path.join job.root ((Path.withoutCurrent? source).getD source)

end Job

/-! ## One file -/

/-- What is found in one file. -/
inductive Verdict where
  /-- The binding attribute is not mentioned. -/
  | notApplicable
  /-- There are bindings and no issues. -/
  | clean
  /-- There are issues; the outcome is the file once they are fixed. -/
  | flawed (issues : List Issue) (outcome : Outcome)

def Analyzer.judge (analyzer : Analyzer) (content : String) : Except Error Verdict := do
  match ← analyzer.analyze content with
  | .notApplicable => return .notApplicable
  | .applicable _ [] => return .clean
  | .applicable _ issues => return .flawed issues (← fixContent content issues)

/-- What is found in a file, given its bytes. -/
def Analyzer.inspect (analyzer : Analyzer) (path : RawText) (bytes : List UInt8) :
    Except Error Verdict := do
  let text ← attempt (.decodingFile path) .badUtf8 (Utf8.decode bytes)
  analyzer.judge (String.ofList text)

/-! ## Summaries -/

/-- Whether files are only looked at, or changed. -/
inductive Mode where
  | check
  | fix
deriving DecidableEq

/-- A file with issues, under its name as it is shown. In check mode the changes are those that fixing
would make. -/
structure FileReport where
  name : String
  path : RawText
  issues : List Issue
  changes : List Change
deriving DecidableEq

def FileReport.isChanged (report : FileReport) : Bool := !report.changes.isEmpty

/-- What a run has found. -/
structure Summary where
  mode : Mode
  sourceDir : RawText
  /-- The number of files read. -/
  scanned : Nat
  /-- The number of files that mention the binding attribute. -/
  binding : Nat
  /-- The paths of the files that do not, in order. -/
  skipped : List RawText
  /-- The files with issues, in order. -/
  files : List FileReport
deriving DecidableEq

namespace Summary

def start (mode : Mode) (sourceDir : RawText) : Summary := ⟨mode, sourceDir, 0, 0, [], []⟩

def problemFiles (s : Summary) : Nat := s.files.length

def issueCount (s : Summary) : Nat := (s.files.flatMap FileReport.issues).length

def fixedFiles (s : Summary) : Nat := s.files.countP FileReport.isChanged

def add (s : Summary) (c : Candidate) : Verdict → Summary
  | .notApplicable => { s with scanned := s.scanned + 1, skipped := s.skipped ++ [c.path] }
  | .clean => { s with scanned := s.scanned + 1, binding := s.binding + 1 }
  | .flawed issues outcome =>
    { s with
      scanned := s.scanned + 1
      binding := s.binding + 1
      files := s.files ++ [⟨c.name.lossy, c.path, issues, outcome.changes⟩] }

end Summary

/-- How a run ended: what it found, and the error that ended it, if any. -/
structure RunResult where
  summary : Summary
  error : Option Error

/-! ## Running -/

variable {m : Type → Type} [Monad m]

/-- The text to write for a verdict, if any. -/
def Mode.update? (mode : Mode) : Verdict → Option String
  | .flawed _ outcome => if mode = .fix && outcome.isChanged then some outcome.content else none
  | _ => none

/-- Takes the candidates one after another. -/
def visit (disk : Disk m) (analyzer : Analyzer) : List Candidate → Summary → m RunResult
  | [], s => return ⟨s, none⟩
  | c :: rest, s => do
    match ← disk.read c.path with
    | .error e => return ⟨s, some ⟨[.readingFile c.path], .disk e⟩⟩
    | .ok bytes =>
      match analyzer.inspect c.path bytes with
      | .error e => return ⟨s, some e⟩
      | .ok verdict =>
        match s.mode.update? verdict with
        | none => visit disk analyzer rest (s.add c verdict)
        | some content =>
          match ← disk.write c.path (Utf8.encode content.toList) with
          | .error e => return ⟨s, some ⟨[.writingFile c.path], .disk e⟩⟩
          | .ok () => visit disk analyzer rest (s.add c verdict)

/-- Takes the names in a directory one after another. Whether a name leads to a candidate is asked
when its turn has come. -/
def explore (disk : Disk m) (analyzer : Analyzer) (dir : RawText) (extensions : List String)
    (ignores : List Glob) : List RawText → Summary → m RunResult
  | [], s => return ⟨s, none⟩
  | name :: names, s => do
    let found ← candidates disk dir extensions ignores [name]
    let result ← visit disk analyzer found s
    match result.error with
    | none => explore disk analyzer dir extensions ignores names result.summary
    | some _ => return result

def Job.run (job : Job) (disk : Disk m) (mode : Mode) : m RunResult := do
  let start := Summary.start mode job.sourceDir
  match Analyzer.make job.config.bindingAttribute job.registry with
  | .error e => return ⟨start, some e⟩
  | .ok analyzer =>
    match ← listNames disk job.sourceDir job.config.ignores with
    | .error e => return ⟨start, some e⟩
    | .ok (globs, names) =>
      explore disk analyzer job.sourceDir job.extensions globs names start

end TableGuard
