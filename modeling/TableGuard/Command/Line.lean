import TableGuard.Run

/-!
# The command line

Arguments are read from left to right. Asking for help or the version is answered at once, and the
first mistake counts. An option that takes a value is settled only when the next option, or the end
of the line, has been reached.

* `Request` : what a command line asks for;
* `UsageError` : the mistakes;
* `Arg` : an argument by its form;
* `Request.parse` : the request of a list of arguments.
-/

namespace TableGuard

/-! ## Requests -/

/-- What help can be asked for. -/
inductive Topic where
  | general
  | check
  | fix
  | init
  | help
deriving DecidableEq

/-- The options of a run. -/
structure Options where
  path : Option RawText
  sourceRoot : Option RawText
  verbose : Bool
deriving DecidableEq

def Options.start : Options := ⟨none, none, false⟩

/-- The project root: the current directory unless one is given. -/
def Options.root (options : Options) : RawText := options.path.getD "."

/-- What a command line asks for. -/
inductive Request where
  | help (topic : Topic)
  | version
  | run (mode : Mode) (options : Options)
  | init
deriving DecidableEq

/-- Mistakes on a command line. -/
inductive UsageError where
  /-- The first word is no command. -/
  | invalidCommand
  /-- An option is not known, or there is a word too many. -/
  | unknownArgument
  /-- An option lacks its value, or its value is empty. -/
  | invalidValue
  /-- An option is given twice. -/
  | conflict
  /-- A value is given to an option that takes none. -/
  | tooManyValues
deriving DecidableEq

/-! ## Arguments -/

@[match_pattern] abbrev hyphen : UInt8 := 0x2D

abbrev equals : UInt8 := 0x3D

/-- An argument by its form. Names of options are read as texts; bytes that are no text are in none of
them. -/
inductive Arg where
  /-- Two hyphens and nothing else: only words follow. -/
  | escape
  /-- An option after two hyphens, perhaps with a value after an equals sign. -/
  | long (name : String) (value : Option RawText)
  /-- Letters after one hyphen. -/
  | short (letters : List Char)
  /-- Anything else. -/
  | word (text : RawText)
deriving DecidableEq

def Arg.ofRaw (raw : RawText) : Arg :=
  match raw.bytes with
  | [hyphen, hyphen] => .escape
  | hyphen :: hyphen :: rest =>
    let name := String.ofList (Utf8.lossy (rest.takeWhile (· != equals)))
    match rest.dropWhile (· != equals) with
    | _ :: value => .long name (some ⟨value⟩)
    | [] => .long name none
  | hyphen :: b :: rest => .short (Utf8.lossy (b :: rest))
  | _ => .word raw

/-- The options that take a value. -/
inductive ValueOption where
  | path
  | sourceRoot

def Options.get? (options : Options) : ValueOption → Option RawText
  | .path => options.path
  | .sourceRoot => options.sourceRoot

/-- The options with a value for one of them. -/
def Options.set (options : Options) (option : ValueOption) (value : RawText) : Options :=
  match option with
  | .path => { options with path := some value }
  | .sourceRoot => { options with sourceRoot := some value }

/-- An option that has been read but not settled, with its value as far as it has been read. -/
abbrev Pending := Option (ValueOption × Option RawText)

/-- Settles an option: it has a value, is given once, and its value is not empty. -/
def settle (options : Options) : Pending → Except UsageError Options
  | none => .ok options
  | some (_, none) => .error .invalidValue
  | some (option, some value) =>
    if (options.get? option).isSome then .error .conflict
    else if value.bytes.isEmpty then .error .invalidValue
    else .ok (options.set option value)

def Options.setVerbose (options : Options) : Except UsageError Options :=
  if options.verbose then .error .conflict else .ok { options with verbose := true }

/-! ## Commands with options -/

/-- Reads flags after one hyphen; nothing if help is asked for. -/
def readFlags (options : Options) : List Char → Except UsageError (Option Options)
  | [] => .ok (some options)
  | 'v' :: letters => do readFlags (← options.setVerbose) letters
  | 'h' :: _ => .ok none
  | _ :: _ => .error .unknownArgument

/-- Reads flags after one hyphen, settling what is pending before the first one that is known. -/
def readShort (options : Options) (pending : Pending) :
    List Char → Except UsageError (Option Options)
  | 'v' :: letters => do readFlags (← settle options pending) ('v' :: letters)
  | 'h' :: _ => do
    let _ ← settle options pending
    return none
  | _ => .error .unknownArgument

/-- Reads the arguments of a run; nothing if help is asked for. -/
def readOptions (options : Options) (pending : Pending) :
    List RawText → Except UsageError (Option Options)
  | [] => (settle options pending).map some
  | arg :: args =>
    match Arg.ofRaw arg with
    | .escape =>
      match args with
      | [] => (settle options pending).map some
      | _ => .error .unknownArgument
    | .long "path" none => do readOptions (← settle options pending) (some (.path, none)) args
    | .long "source-root" none => do
      readOptions (← settle options pending) (some (.sourceRoot, none)) args
    | .long "path" (some value) => do
      let options ← settle options pending
      readOptions (← settle options (some (.path, some value))) none args
    | .long "source-root" (some value) => do
      let options ← settle options pending
      readOptions (← settle options (some (.sourceRoot, some value))) none args
    | .long "verbose" none => do
      let options ← settle options pending
      readOptions (← options.setVerbose) none args
    | .long "verbose" (some _) => .error .tooManyValues
    | .long "help" none => do
      let _ ← settle options pending
      return none
    | .long "help" (some _) => .error .tooManyValues
    | .long _ _ => .error .unknownArgument
    | .short letters => do
      match ← readShort options pending letters with
      | some options => readOptions options none args
      | none => return none
    | .word text =>
      match pending with
      | some (option, none) => readOptions options (some (option, some text)) args
      | _ => .error .unknownArgument

def Request.ofRun (mode : Mode) (topic : Topic) (args : List RawText) :
    Except UsageError Request := do
  match ← readOptions .start none args with
  | some options => return .run mode options
  | none => return .help topic

def Request.ofInit : List RawText → Except UsageError Request
  | [] => .ok .init
  | arg :: args =>
    match Arg.ofRaw arg with
    | .escape => if args.isEmpty then .ok .init else .error .unknownArgument
    | .long "help" none => .ok (.help .init)
    | .long "help" (some _) => .error .tooManyValues
    | .short ('h' :: _) => .ok (.help .init)
    | _ => .error .unknownArgument

/-- What a word stands for that is the name of a command. -/
def Topic.ofWord? (word : RawText) : Option Topic :=
  if word = "check" then some .check
  else if word = "fix" then some .fix
  else if word = "init" then some .init
  else if word = "help" then some .help
  else none

def Request.ofHelp : List RawText → Except UsageError Request
  | [] => .ok (.help .general)
  | [word] =>
    match Topic.ofWord? word with
    | some topic => .ok (.help topic)
    | none => .error .invalidCommand
  | _ => .error .invalidCommand

/-- The request of a line whose first argument is no command. -/
def Request.ofArg (arg : Arg) (args : List RawText) : Except UsageError Request :=
  match arg with
  | .escape =>
    match args with
    | [] => .ok (.help .general)
    | word :: _ =>
      if (Topic.ofWord? word).isSome then .error .unknownArgument else .error .invalidCommand
  | .long "help" none => .ok (.help .general)
  | .long "version" none => .ok .version
  | .long "help" (some _) => .error .tooManyValues
  | .long "version" (some _) => .error .tooManyValues
  | .long _ _ => .error .unknownArgument
  | .short ('h' :: _) => .ok (.help .general)
  | .short ('V' :: _) => .ok .version
  | .short _ => .error .unknownArgument
  | .word _ => .error .invalidCommand

/-- The request of a list of arguments. Without any, help is given. -/
def Request.parse : List RawText → Except UsageError Request
  | [] => .ok (.help .general)
  | arg :: args =>
    match Topic.ofWord? arg with
    | some .check => Request.ofRun .check .check args
    | some .fix => Request.ofRun .fix .fix args
    | some .init => Request.ofInit args
    | some .help => Request.ofHelp args
    | _ => Request.ofArg (Arg.ofRaw arg) args

end TableGuard
