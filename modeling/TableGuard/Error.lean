import TableGuard.Disk
import TableGuard.Glob
import TableGuard.Json.Fault
import TableGuard.Text.Utf8

/-!
# Errors

An error is a cause and what the program was doing at the time, outermost first. `Error.message` is
the text that users see: all of it, joined by colons. Some of its words are not the program's own;
they come from whatever reads patterns, JSON and command lines.

* `Wording` : the words that are not the program's own;
* `Cause`, `Activity`, `Error` : what went wrong, and when;
* `Error.message` : the text of an error.
-/

namespace TableGuard

def configName : String := ".tablefixrc.json"

/-- The words of messages that are not the program's own. -/
structure Wording where
  /-- Why a pattern is refused. -/
  pattern : String → String
  /-- Why a text is no JSON. -/
  json : String → String
  /-- Where in a JSON text the first value stands that is not what is asked for. It follows the
  description of the fault. -/
  jsonPlace : String → String
  /-- What is said about a command line with a mistake. -/
  usage : List RawText → String

/-- Words for a program that has nobody else to ask. -/
def Wording.plain : Wording where
  pattern text := s!"not a pattern, or too large a one: {text}"
  json _ := "not JSON"
  jsonPlace _ := ""
  usage _ := "error: this command line is not understood, try '--help'\n"

/-- What went wrong in the first place. -/
inductive Cause where
  /-- The kind of a rule is blank. -/
  | emptyKind
  /-- The detection template of a rule has no place for the variable. -/
  | detectLacksHole (kind : String)
  /-- The replacement template of a rule has no place for the variable. -/
  | replaceLacksHole (kind : String)
  /-- Two rules have the same kind. -/
  | duplicateKind (kind : String)
  /-- The configuration lists no file extension. -/
  | noExtensions
  /-- The binding attribute is no identifier. -/
  | badAttribute (attr : String)
  /-- The source directory is something else. -/
  | notDirectory (path : RawText)
  /-- A pattern is not well formed, or too large. -/
  | badPattern (pattern : String)
  /-- A glob is not well formed. -/
  | badGlob (fault : Glob.Fault)
  /-- A configuration cannot be read from its text. -/
  | badConfig (text : String) (fault : Json.Fault)
  /-- A request to the disk failed. -/
  | disk (error : DiskError)
  /-- The names in a directory cannot be told. -/
  | listing (fault : ListingFault)
  /-- A file is not in UTF-8. -/
  | badUtf8 (fault : Utf8.Fault)

def Cause.message (wording : Wording) : Cause → String
  | .emptyKind => "Pattern kind must not be empty"
  | .detectLacksHole kind => s!"Pattern '{kind}': 'detect' must contain \x7bvar\x7d"
  | .replaceLacksHole kind => s!"Pattern '{kind}': 'replace' must contain \x7bvar\x7d"
  | .duplicateKind kind => s!"Duplicate pattern kind: \"{kind}\""
  | .noExtensions => "'extensions' must list at least one file extension"
  | .badAttribute attr => s!"Invalid 'bindingAttribute': \"{attr}\""
  | .notDirectory path => s!"Not a directory: {path.lossy}"
  | .badPattern pattern => wording.pattern pattern
  | .badGlob fault => fault.message
  | .badConfig text fault => fault.message (wording.json text) (wording.jsonPlace text)
  | .disk error => error.message
  | .listing fault => fault.message
  | .badUtf8 fault => fault.message

/-- What the program was doing when something went wrong. -/
inductive Activity where
  | compiling (kind pattern : String)
  | checkingIgnores (glob : String)
  | readingConfig (path : RawText)
  | parsingConfig (path : RawText)
  | loadingConfig (root : RawText)
  | bindingAttribute (attr : String)
  | openingSource (path : RawText)
  | parsingIgnore (glob : String)
  | scanning
  | readingFile (path : RawText)
  | decodingFile (path : RawText)
  | writingFile (path : RawText)
  | writingConfig

def Activity.message : Activity → String
  | .compiling kind pattern => s!"Invalid detection pattern for '{kind}': {pattern}"
  | .checkingIgnores glob => s!"Invalid glob pattern in 'ignores': \"{glob}\""
  | .readingConfig path => s!"Failed to read config file: {path.lossy}"
  | .parsingConfig path => s!"Failed to parse config file: {path.lossy}"
  | .loadingConfig root => s!"Failed to load configuration from {root.lossy}"
  | .bindingAttribute attr => s!"Invalid binding attribute: \"{attr}\""
  | .openingSource path => s!"Cannot read source directory: {path.lossy}"
  | .parsingIgnore glob => s!"Invalid ignore pattern: \"{glob}\""
  | .scanning => "Cannot access path while scanning"
  | .readingFile path => s!"Failed to read file: {path.lossy}"
  | .decodingFile path => s!"{path.lossy} is not valid UTF-8"
  | .writingFile path => s!"Failed to write file: {path.lossy}"
  | .writingConfig => s!"Failed to write {configName}"

/-- A cause, and what the program was doing at the time, outermost first. -/
structure Error where
  during : List Activity
  cause : Cause

namespace Error

def plain (cause : Cause) : Error := ⟨[], cause⟩

/-- The error as it is seen from within an activity. -/
def within (activity : Activity) (e : Error) : Error := { e with during := activity :: e.during }

def message (wording : Wording) (e : Error) : String :=
  ": ".intercalate (e.during.map Activity.message ++ [e.cause.message wording])

end Error

/-- Runs a step that can fail with a cause, as part of an activity. -/
def attempt {α ε : Type} (activity : Activity) (cause : ε → Cause) :
    Except ε α → Except Error α
  | .ok x => .ok x
  | .error e => .error ⟨[activity], cause e⟩

end TableGuard
