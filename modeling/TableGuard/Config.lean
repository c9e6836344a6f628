import TableGuard.Rule
import TableGuard.Text.Basic
import TableGuard.Unicode.Alphabetic

/-!
# Configuration

* `Config`, `Config.standard` : the settings, and their values where nothing is configured;
* `Config.validate` : the conditions on the settings;
* `Config.normalExtensions` : the extensions to look for.
-/

namespace TableGuard

/-- The settings of a run. -/
structure Config where
  /-- The directory whose files are scanned. -/
  sourceRoot : String
  /-- The extensions of files that are scanned, with or without a dot. -/
  extensions : List String
  /-- Globs for the names of files that are not scanned. -/
  ignores : List String
  /-- The attribute that binds a variable as table data. -/
  bindingAttribute : String
  /-- Rules in addition to the builtin ones. -/
  patterns : List Rule
deriving DecidableEq

namespace Config

def standard : Config where
  sourceRoot := "src/pages"
  extensions := ["tsx"]
  ignores := []
  bindingAttribute := "dataSource"
  patterns := []

def validateIgnores : List String → Except Error Unit
  | [] => .ok ()
  | text :: texts => do
    let _ ← attempt (.checkingIgnores text) .badGlob (Glob.parse text)
    validateIgnores texts

/-- Whether the character can stand in an attribute: a letter, a digit or an underscore. -/
def isAttributeChar (c : Char) : Bool :=
  c == '_' || Unicode.nameCharacter.contains c

def isAttribute (text : String) : Bool :=
  !text.toList.isEmpty && text.toList.all isAttributeChar

def registry (config : Config) : Registry := .withExtra config.patterns

/-- Checks the globs, the extensions, the attribute and the rules, in this order. -/
def validate (config : Config) : Except Error Unit := do
  validateIgnores config.ignores
  if config.extensions.isEmpty then .error (.plain .noExtensions)
  else if !isAttribute config.bindingAttribute then
    .error (.plain (.badAttribute config.bindingAttribute))
  else config.registry.validate

/-- An extension without the dots at its beginning. -/
def normalExtension (text : String) : String :=
  String.ofList (text.toList.dropWhile (· == '.'))

/-- The extensions to look for, each once and in increasing order. -/
def normalExtensions (config : Config) : List String :=
  sortDistinct (config.extensions.map normalExtension)

end Config

end TableGuard
