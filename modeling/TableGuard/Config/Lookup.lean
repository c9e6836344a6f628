import TableGuard.Config.Reader
import TableGuard.Path

/-!
# Finding the configuration

The configuration file is looked for in a directory, its parent and so on. The search ends at a
directory that holds a repository, after that directory itself has been looked at.

* `Config.find` : the path of the configuration file that applies to a directory;
* `Config.load` : the settings that apply to a directory.
-/

namespace TableGuard.Config

variable {m : Type → Type} [Monad m]

/-- The configuration file of the first of the directories that holds one, unless a directory before
it holds a repository. -/
def findIn (disk : Disk m) : List RawText → m (Option RawText)
  | [] => return none
  | dir :: dirs => do
    let path := Path.join dir configName
    if ← disk.present path then return some path
    else if ← disk.present (Path.join dir ".git") then return none
    else findIn disk dirs

/-- The path of the configuration file that applies to a directory. -/
def find (disk : Disk m) (start : RawText) : m (Option RawText) :=
  findIn disk (Path.ancestors start)

/-- The settings of a configuration file, given its bytes. -/
def ofBytes (path : RawText) (bytes : List UInt8) : Except Error Config := do
  let text ← attempt (.readingConfig path) (fun _ => .disk .notText) (Utf8.decode bytes)
  let text := String.ofList text
  let config ← attempt (.parsingConfig path) (.badConfig text) (parse text)
  config.validate
  return config

/-- Settings and whether they come from a file. -/
structure Loaded where
  config : Config
  fromFile : Bool

/-- The settings that apply to a directory: those of the file that is found, or the standard
ones. -/
def load (disk : Disk m) (start : RawText) : m (Except Error Loaded) := do
  match ← find disk start with
  | none => return .ok ⟨standard, false⟩
  | some path =>
    match ← disk.read path with
    | .error e => return .error ⟨[.readingConfig path], .disk e⟩
    | .ok bytes => return (ofBytes path bytes).map (⟨·, true⟩)

end TableGuard.Config
