import TableGuard.Run
import TableGuard.Style
import TableGuard.Text.Columns

/-!
# The report of a run

Each issue is shown as a block: a heading, the place, the line of the source with a caret below the
assignment, and the guarded form. All blocks of a report have the same margin, as wide as its
largest line number. Counts follow, and the files that were changed or would be.

* `Report.issueBlock` : the block of one issue;
* `Report.issues` : all blocks and the line that closes them;
* `Report.render` : the whole report;
* `Report.begun` : what is written of a report that breaks off.

A caret cannot be placed further right than `Report.maxPadding`; a report that would need it breaks
off in front of the line with that caret.
-/

namespace TableGuard.Report

def successMark : String := "\u2713"

def failureMark : String := "\u2718"

def spaces (n : Nat) : String := String.ofList (List.replicate n ' ')

/-- A text moved to the right end of a field. -/
def alignRight (width : Nat) (text : String) : String :=
  spaces (width - text.length) ++ text

/-! ## Issues -/

/-- The largest number of spaces in front of a caret. -/
def maxPadding : Nat := 65535

/-- The columns in front of the caret of an issue. -/
def caretPadding (issue : Issue) : Nat :=
  columns (issue.location.sourceLine.toList.take (issue.location.column - 1))

def issueBlock (color : Bool) (margin : Nat) (file : FileReport) (issue : Issue) : List String :=
  let heading := paint color [.bold, .yellow] "warning"
  let kind := paint color [.dimmed, .cyan] s!"[{issue.rule.kind}]"
  let arrow := paint color [.blue] "-->"
  let bar := paint color [.blue] "|"
  let number := paint color [.blue] (alignRight margin (toString issue.location.line))
  let caret := paint color [.yellow] "^"
  let equals := paint color [.blue] "="
  let label := paint color [.bold, .cyan] "fix:"
  [ s!"{heading}: unchecked response assigned to \"{issue.var}\"  {kind}",
    s!"  {arrow} {file.path.lossy}:{issue.location.line}:{issue.location.column}",
    s!"{spaces margin} {bar}",
    s!"{number} {bar} {issue.location.sourceLine}",
    s!"{spaces margin} {bar} {spaces (caretPadding issue)}{caret}",
    s!"{spaces margin} {equals} {label} {issue.rule.replacement issue.var}",
    "" ]

/-- The issues of some files with the files they belong to, in order. -/
def issuesWithFiles (files : List FileReport) : List (FileReport × Issue) :=
  files.flatMap fun file => file.issues.map (file, ·)

/-- The width of the margin: as wide as the largest line number. -/
def margin (files : List FileReport) : Nat :=
  match (issuesWithFiles files).map fun (_, issue) => issue.location.line with
  | [] => 1
  | line :: lines => (toString (lines.foldl max line)).length

def issues (color : Bool) (files : List FileReport) : List String :=
  let found := issuesWithFiles files
  let blocks := found.flatMap fun (file, issue) => issueBlock color (margin files) file issue
  if found.isEmpty then blocks
  else
    let mark := paint color [.red] failureMark
    blocks ++ [s!"{mark} {found.length} problem(s) in {files.length} file(s)", ""]

/-! ## Counts and changes -/

def counts (s : Summary) : String :=
  s!"Scanned {s.scanned} file(s) in {s.sourceDir.lossy}: {s.binding} use table bindings, " ++
    s!"{s.problemFiles} with issues."

def changedFile (bullet : String) (file : FileReport) : List String :=
  s!"  {bullet} {file.name}" :: file.changes.map fun change => s!"     - {change.describe}"

def changedFiles (s : Summary) : List FileReport := s.files.filter FileReport.isChanged

def fixed (color : Bool) (s : Summary) : List String :=
  let word := paint color [.bold, .green] "Fixed"
  let stop := if 0 < s.fixedFiles then ":" else "."
  s!"{word} {s.fixedFiles} file(s){stop}" ::
    (changedFiles s).flatMap (changedFile (paint color [.green] successMark))

def wouldFix (color : Bool) (s : Summary) : List String :=
  let words := paint color [.bold, .yellow] "Would fix"
  let command := paint color [.cyan] "tablefix fix"
  s!"{words} {s.fixedFiles} file(s):" :: (changedFiles s).flatMap (changedFile "-") ++
    [s!"Run {command} to apply these changes."]

def conclusion (color : Bool) (s : Summary) : List String :=
  if s.problemFiles = 0 then
    [paint color [.green] successMark ++ " " ++
      paint color [.green] "No unsafe table data assignments found"]
  else
    match s.mode with
    | .fix => fixed color s
    | .check => wouldFix color s

/-! ## Reports -/

def unlines (lines : List String) : String := String.join (lines.map (· ++ "\n"))

/-- Whether every caret can be placed. -/
def fits (files : List FileReport) : Bool :=
  (issuesWithFiles files).all fun (_, issue) => caretPadding issue ≤ maxPadding

/-- What has been written when the report comes to a caret that cannot be placed: the blocks before
it, and the lines of its own block that stand above it. -/
def begun (color : Bool) (files : List FileReport) : String :=
  let block : FileReport × Issue → List String := fun (file, issue) =>
    issueBlock color (margin files) file issue
  let found := issuesWithFiles files
  let placed : FileReport × Issue → Bool := fun (_, issue) => caretPadding issue ≤ maxPadding
  let above := (found.dropWhile placed).head?.toList.flatMap fun pair => (block pair).take 4
  unlines ((found.takeWhile placed).flatMap block ++ above)

def render (color : Bool) (s : Summary) : Option String :=
  if fits s.files then some (unlines (issues color s.files ++ counts s :: conclusion color s))
  else none

/-! ## Notes -/

def note (color : Bool) (text : String) : String :=
  paint color [.bold, .cyan] "note:" ++ " " ++ text ++ "\n"

def standardNote (color : Bool) : String :=
  note color s!"No {configName} found, using default configuration"

def skipNotes (color : Bool) (s : Summary) : String :=
  String.join (s.skipped.map fun path => note color s!"{path.lossy}: no table binding, skipped")

end TableGuard.Report
