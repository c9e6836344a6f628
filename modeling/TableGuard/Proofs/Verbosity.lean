import TableGuard.Proofs.CommandLine
import TableGuard.Proofs.Forecast
import TableGuard.Proofs.Gate

/-!
# What the verbose flag does

With the flag a run prints notes before anything else it prints for its user, and that is all: the
status, the report and the tree are the same as without it.

* `noteLine`, `verboseNotes` : the line of a note, and the notes of a run;
* `Finish.after` : how a command ends that has printed notes;
* `RunResult.finish_verbose` : the end of a run with the flag and without it;
* `runCommand_verbose` : the notes of a command;
* `execute_verbose` : command lines with the flag and without it.
-/

namespace TableGuard

/-! ## Notes -/

/-- The line of a note. The word is bold and cyan if colours are on. -/
def noteLine (color : Bool) (text : String) : String :=
  (if color then "\x1b[1;36mnote:\x1b[0m" else "note:") ++ " " ++ text ++ "\n"

/-- The notes of a run: on the standard settings if these apply, then on candidates in turn. -/
def verboseNotes (color standard : Bool) (steps : List (Candidate × Verdict)) : String :=
  (if standard then noteLine color "No .tablefixrc.json found, using default configuration"
    else "") ++
  String.join ((skippedPaths steps).map fun path =>
    noteLine color (path.lossy ++ ": no table binding, skipped"))

theorem Report.note_eq (color : Bool) (text : String) :
    Report.note color text = noteLine color text := by
  have hword : paint true [.bold, .cyan] "note:" = "\x1b[1;36mnote:\x1b[0m" := by decide
  unfold Report.note noteLine
  cases color with
  | false => rfl
  | true => rw [hword, if_pos rfl]

theorem Report.standardNote_eq (color : Bool) : Report.standardNote color =
    noteLine color "No .tablefixrc.json found, using default configuration" :=
  Report.note_eq color _

theorem Report.skipNotes_eq (color : Bool) (s : Summary) : Report.skipNotes color s =
    String.join (s.skipped.map fun path =>
      noteLine color (path.lossy ++ ": no table binding, skipped")) := by
  unfold Report.skipNotes
  simp only [Report.note_eq]
  rfl

/-- The end of a command that has printed some notes first. -/
def Finish.after (notes : String) : Finish → Finish
  | .exit status out err => .exit status out (notes ++ err)
  | .broken out err => .broken out (notes ++ err)

theorem Finish.after_empty (finish : Finish) : finish.after "" = finish := by
  cases finish <;> simp [Finish.after]

theorem Finish.failed_after (wording : Wording) (notes : String) (e : Error) :
    Finish.failed wording notes e = (Finish.failed wording "" e).after notes := by
  simp [Finish.failed, Finish.after]

theorem RunResult.finish_verbose (wording : Wording) (color : Bool) (notes : String)
    (result : RunResult) :
    result.finish wording color true notes =
      (result.finish wording color false "").after
        (notes ++ Report.skipNotes color result.summary) := by
  unfold RunResult.finish
  cases result.error with
  | some e => exact Finish.failed_after wording _ e
  | none =>
    dsimp only
    cases Report.render color result.summary <;> simp [Finish.after, noteIf]

theorem skipNotes_addAll (color : Bool) (mode : Mode) (dir : RawText)
    (steps : List (Candidate × Verdict)) :
    Report.skipNotes color ((Summary.start mode dir).addAll steps) =
      String.join ((skippedPaths steps).map fun path =>
        noteLine color (path.lossy ++ ": no table binding, skipped")) := by
  rw [Report.skipNotes_eq, Summary.addAll_eq]
  rfl

theorem binding_add_skipped (mode : Mode) (dir : RawText) (steps : List (Candidate × Verdict)) :
    ((Summary.start mode dir).addAll steps).binding + (skippedPaths steps).length =
      ((Summary.start mode dir).addAll steps).scanned := by
  have hlength := length_skippedPaths steps
  rw [Summary.addAll_eq]
  dsimp only [Summary.start]
  omega

/-! ## Where the settings come from -/

theorem find_run (world : World) (start : RawText) :
    ∃ found, (Config.find World.disk start).run world = (found, world) := by
  obtain ⟨found, hfound⟩ := findIn_run world (Path.ancestors start)
  exact ⟨found, hfound world ⟨rfl, rfl⟩⟩

/-- The standard settings apply exactly if no file is found. -/
theorem fromFile_eq_false_iff {world : World} {start : RawText} {loaded : Config.Loaded}
    (h : (Config.load World.disk start).run world = (.ok loaded, world)) :
    loaded.fromFile = false ↔ (Config.find World.disk start).run world = (none, world) := by
  obtain ⟨found, hfound⟩ := find_run world start
  unfold Config.load at h
  rw [bind_run hfound] at h
  rw [hfound]
  cases found with
  | none =>
    obtain rfl := Except.ok.inj (Prod.mk.inj h).1
    exact ⟨fun _ => rfl, fun _ => rfl⟩
  | some path =>
    dsimp only at h
    rw [bind_run (read_run world path)] at h
    cases hread : world.tree.readAt world.cwd path with
    | error e =>
      rw [hread] at h
      cases (Prod.mk.inj h).1
    | ok bytes =>
      rw [hread] at h
      have hloaded : (Config.ofBytes path bytes).map (⟨·, true⟩) = .ok loaded := (Prod.mk.inj h).1
      obtain ⟨config, -, rfl⟩ := map_eq_ok_iff.1 hloaded
      refine ⟨nofun, fun hnone => ?_⟩
      cases (Prod.mk.inj hnone).1

theorem find_of_load_error {world : World} {start : RawText} {e : Error}
    (h : (Config.load World.disk start).run world = (.error e, world)) :
    (Config.find World.disk start).run world ≠ (none, world) := by
  intro hfind
  unfold Config.load at h
  rw [bind_run hfind] at h
  cases (Prod.mk.inj h).1

/-! ## Commands -/

/-- **The notes of a command.** The settings that apply and the job are the same with the flag and
without it; there is a note if the settings are the standard ones, and one for every candidate that
was dealt with and does not mention the attribute. -/
theorem runCommand_verbose (wording : Wording) (color : Bool) (mode : Mode) {options : Options}
    (hverbose : options.verbose = true) (world : World) :
    ∃ quiet world' standard steps,
      (runCommand wording World.disk color mode options.quiet).run world = (quiet, world') ∧
      (runCommand wording World.disk color mode options).run world =
        (quiet.after (verboseNotes color standard steps), world') ∧
      (standard = true ↔ (Config.find World.disk options.root).run world = (none, world)) ∧
      ((∀ job, ¬ options.Sets world job) → steps = []) ∧
      ∀ job, options.Sets world job → ∃ summary error,
        (job.run World.disk mode).run world = (⟨summary, error⟩, world') ∧
        job.Ends mode world steps error world' ∧
        summary.binding + (skippedPaths steps).length = summary.scanned := by
  obtain ⟨result, hload, hvalid⟩ := load_run world options.root
  unfold runCommand
  rw [show options.quiet.root = options.root from rfl, bind_run hload, bind_run hload, hverbose]
  cases result with
  | error e =>
    have hfind := find_of_load_error hload
    refine ⟨_, world, false, [], rfl, ?_, by simp [hfind], fun _ => rfl, ?_⟩
    · exact congrArg (·, world) (Finish.after_empty _).symm
    · rintro job ⟨loaded, hload', -⟩
      rw [hload] at hload'
      cases (Prod.mk.inj hload').1
  | ok loaded =>
    obtain ⟨job, hjob⟩ := options.job_of_validate (hvalid loaded rfl)
    have hsets : options.Sets world job := ⟨loaded, hload, hjob⟩
    obtain ⟨steps, error, world', hends, hrun⟩ := job.exists_ends mode world
    dsimp only
    rw [show options.quiet.job loaded.config = options.job loaded.config from rfl, hjob]
    dsimp only
    rw [bind_run hrun, bind_run hrun]
    refine ⟨_, world', !loaded.fromFile, steps, rfl, ?_, ?_, fun hno => absurd hsets (hno job), ?_⟩
    · rw [RunResult.finish_verbose, skipNotes_addAll, verboseNotes, Report.standardNote_eq]
      rfl
    · rw [Bool.not_eq_true', fromFile_eq_false_iff hload]
    · intro job' hsets'
      obtain rfl := (hsets.iff job').1 hsets'
      exact ⟨_, error, hrun, hends, binding_add_skipped mode job'.sourceDir steps⟩

/-- What becomes of a line when the flag is put right after its command: it asks for a run with it and
without it, or the flag makes no difference, or it is not understood. -/
theorem execute_flag_cons {flag : RawText} (hflag : IsVerboseFlag flag) (wording : Wording)
    (color : Bool) (mode : Mode) {args : List RawText} (h : hasFlag args = false)
    (world : World) :
    (∃ options, Request.parse (mode.command :: args) = .ok (.run mode options) ∧
      Request.parse (mode.command :: flag :: args) = .ok (.run mode options.loud)) ∨
    (execute wording World.disk color (mode.command :: flag :: args)).run world =
      (execute wording World.disk color (mode.command :: args)).run world ∨
    (execute wording World.disk color (mode.command :: args)).run world =
        (.exit 2 "" (wording.usage (mode.command :: args)), world) ∧
      (execute wording World.disk color (mode.command :: flag :: args)).run world =
        (.exit 2 "" (wording.usage (mode.command :: flag :: args)), world) := by
  have hparse := parse_flag_cons hflag mode h
  unfold execute
  rw [hparse]
  cases hquiet : Request.parse (mode.command :: args) with
  | error e => exact .inr (.inr ⟨rfl, rfl⟩)
  | ok request =>
    cases request with
    | run mode' options =>
      obtain ⟨rest, hcommand, -⟩ := parse_eq_run_iff.1 hquiet
      obtain rfl := Mode.command_inj (List.cons.inj hcommand).1
      exact .inl ⟨options, rfl, rfl⟩
    | _ => exact .inr (.inl rfl)

/-- **Command lines with the verbose flag and without it.** If the flag is put right after the
command of a line without it, the line asks for a run as before, or it does what it did before, or
neither line is understood; then both exit with 2, print nothing but what is said about them and
leave the tree as it is. For every line with the flag that asks for a run, the one without it does so
too. The two exit with the same status, print the same report and leave the same tree. With the flag
there are notes before the other messages: one on the standard settings, exactly if no configuration
is found, and then one for every candidate that does not mention the attribute, in the order in which
they were dealt with; in all as many as were scanned and do not use bindings. -/
theorem execute_verbose {flag : RawText} (hflag : IsVerboseFlag flag) (wording : Wording)
    (color : Bool) (world : World) :
    (∀ (mode : Mode) (args : List RawText), hasFlag args = false →
      -- The lines ask for a run.
      (∃ options, Request.parse (mode.command :: args) = .ok (.run mode options) ∧
        Request.parse (mode.command :: flag :: args) = .ok (.run mode options.loud)) ∨
      -- They ask for help.
      (execute wording World.disk color (mode.command :: flag :: args)).run world =
        (execute wording World.disk color (mode.command :: args)).run world ∨
      -- They are not understood.
      (execute wording World.disk color (mode.command :: args)).run world =
          (.exit 2 "" (wording.usage (mode.command :: args)), world) ∧
        (execute wording World.disk color (mode.command :: flag :: args)).run world =
          (.exit 2 "" (wording.usage (mode.command :: flag :: args)), world)) ∧
    ∀ before after mode options,
      Request.parse (before ++ flag :: after) = .ok (.run mode options) →
      Request.parse (before ++ after) = .ok (.run mode options.quiet) ∧
      ∃ quiet world' standard steps,
        (execute wording World.disk color (before ++ after)).run world = (quiet, world') ∧
        (execute wording World.disk color (before ++ flag :: after)).run world =
          (quiet.after (verboseNotes color standard steps), world') ∧
        (standard = true ↔ (Config.find World.disk options.root).run world = (none, world)) ∧
        ((∀ job, ¬ options.Sets world job) → steps = []) ∧
        ∀ job, options.Sets world job → ∃ summary error,
          (job.run World.disk mode).run world = (⟨summary, error⟩, world') ∧
          job.Ends mode world steps error world' ∧
          summary.binding + (skippedPaths steps).length = summary.scanned := by
  constructor
  · intro mode args hno
    exact execute_flag_cons hflag wording color mode hno world
  · intro before after mode options hparse
    obtain ⟨hverbose, hparse'⟩ := parse_of_flag hflag hparse
    refine ⟨hparse', ?_⟩
    unfold execute
    rw [hparse, hparse']
    exact runCommand_verbose wording color mode hverbose world

/-! ## Two files -/

theorem World.find_twoFiles (first second : List UInt8) :
    (Config.find World.disk ".").run (World.twoFiles first second) =
      (none, World.twoFiles first second) := by
  obtain ⟨found, hfind⟩ := findIn_run (World.twoFiles [] []) (Path.ancestors ".")
  have hnone : ((Config.findIn World.disk (Path.ancestors ".")).run (World.twoFiles [] [])).1 =
      none := by decide
  rw [hfind _ ⟨rfl, rfl⟩] at hnone
  unfold Config.find
  rw [hfind _ (World.alike_twoFiles first second), show found = none from hnone]

theorem sets_twoFiles (first second : List UInt8) (verbose : Bool) :
    Options.Sets ⟨none, none, verbose⟩ (World.twoFiles first second) (.standard ".") := by
  refine ⟨⟨.standard, false⟩, ?_, Job.make_standard "."⟩
  change (Config.load World.disk ".").run _ = _
  unfold Config.load
  rw [bind_run (World.find_twoFiles first second)]
  rfl

/-- A check of a text with a table and one without: with the flag there are two notes. -/
theorem execute_verbose_twoFiles : ∃ (first second : String) (quiet : Finish) (world' : World),
    (execute .plain World.disk false ["check"]).run
      (World.twoFiles (Utf8.encode first.toList) (Utf8.encode second.toList)) = (quiet, world') ∧
    (execute .plain World.disk false ["check", "--verbose"]).run
      (World.twoFiles (Utf8.encode first.toList) (Utf8.encode second.toList)) =
        (quiet.after ("note: No .tablefixrc.json found, using default configuration\n" ++
          "note: src/pages/b.tsx: no table binding, skipped\n"), world') := by
  have hmake := Analyzer.make_eq_ok "dataSource" (by decide) Registry.builtin
  have hfirst : CallsFit "dataSource" "<Table dataSource={rows}/> setrows(response.data)" :=
    callsFit_of_size_le _ (by decide)
  have hsecond : CallsFit "dataSource" "setrows(rows)" := callsFit_of_size_le _ (by decide)
  have huses : occurs ("dataSource".toList ++ ['='])
      "<Table dataSource={rows}/> setrows(response.data)".toList = true := by decide
  have huses' : occurs ("dataSource".toList ++ ['=']) "setrows(rows)".toList = false := by
    decide
  obtain ⟨verdict, verdict', hcourse, happlicable, happlicable'⟩ :=
    course_twoFiles hmake _ _ hfirst hsecond
  obtain ⟨-, hexecute⟩ := execute_verbose (.inl rfl) .plain false (World.twoFiles
    (Utf8.encode "<Table dataSource={rows}/> setrows(response.data)".toList)
    (Utf8.encode "setrows(rows)".toList))
  have hparse : Request.parse ["check", "--verbose"] = .ok (.run .check (Options.loud .start)) := by
    decide +kernel
  obtain ⟨-, quiet, world', standard, steps, hquiet, hloud, hstandard, -, hjob⟩ :=
    hexecute ["check"] [] .check (Options.loud .start) hparse
  obtain ⟨summary, error, hrun, hends, -⟩ := hjob _ (sets_twoFiles _ _ true)
  have hcourse' := hends.course hmake (by rw [scan_run, World.scan_twoFiles])
  obtain ⟨rfl, -, -⟩ := hcourse.unique hcourse'
  rw [hstandard.2 (World.find_twoFiles _ _)] at hloud
  have hskipped : skippedPaths [(pageA, verdict), (pageB, verdict')] = [pageB.path] := by
    have hfound : verdict.isApplicable = true := happlicable.trans huses
    have hmissed : verdict'.isApplicable = false := happlicable'.trans huses'
    simp [skippedPaths, hfound, hmissed]
  have hnotes : verboseNotes false true [(pageA, verdict), (pageB, verdict')] =
      "note: No .tablefixrc.json found, using default configuration\n" ++
        "note: src/pages/b.tsx: no table binding, skipped\n" := by
    rw [verboseNotes, hskipped]
    decide +kernel
  rw [hnotes] at hloud
  exact ⟨_, _, quiet, world', hquiet, hloud⟩

end TableGuard
