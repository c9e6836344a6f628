import TableGuard.Command
import TableGuard.Proofs.Forecast
import TableGuard.Proofs.NewFile
import TableGuard.Proofs.RoundTrip

/-!
# Setting up a project

The standard settings are written to a file, unless there is one. They are the settings that apply
without a file too. So in a tree without links the new file changes nothing for a run that starts in
the working directory: it is no candidate itself, and it is on no way to one.

* `World.Bare`, `World.configured` : a tree without settings, and the tree with the standard ones;
* `scan_configured`, `visit_configured`, `run_configured` : a run in the tree with the new file;
* `load_bare`, `load_configured` : the settings that apply in the two trees;
* `execute_init` : what becomes of a project.
-/

namespace TableGuard

namespace World

def configPlace (world : World) : Tree.Place := world.cwd ++ [RawText.ofString configName]

/-- A tree without links and without settings in the working directory. -/
structure Bare (world : World) : Prop where
  cwd : world.tree.lookup world.cwd = some .directory
  linkFree : world.tree.LinkFree
  vacant : world.tree.lookup world.configPlace = none

def standardFile : Tree.Entry := .file (Utf8.encode Config.standard.render.toList)

/-- The tree with the standard settings in the working directory. -/
def configured (world : World) : World :=
  { world with tree := world.tree.set world.configPlace standardFile }

theorem lookup_configured (world : World) (place : Tree.Place) :
    world.configured.tree.lookup place =
      if place = world.configPlace then some standardFile else world.tree.lookup place :=
  Tree.lookup_set_concat world.tree world.cwd configName standardFile place

theorem configPlace_not_prefix (world : World) : ¬ world.configPlace <+: world.cwd := by
  intro h
  have hlength := h.length_le
  rw [configPlace, List.length_append, List.length_singleton] at hlength
  omega

theorem Bare.of_alike {world world' : World} (h : world.Bare) (halike : world'.Alike world) :
    world'.Bare := by
  have hlookup : ∀ place, (world'.tree.lookup place).map Tree.Entry.shape =
      (world.tree.lookup place).map Tree.Entry.shape := by
    intro place
    rw [← Tree.lookup_shape, halike.shape, Tree.lookup_shape]
  refine ⟨?_, ?_, ?_⟩
  · rw [halike.cwd, ← Tree.lookup_shape_eq_directory_iff, halike.shape,
      Tree.lookup_shape_eq_directory_iff]
    exact h.cwd
  · intro place target hlink
    have hshape := hlookup place
    rw [hlink] at hshape
    obtain ⟨entry, hentry, heq⟩ := Option.map_eq_some_iff.1 hshape.symm
    cases entry with
    | link target' => exact h.linkFree place target' hentry
    | file _ => cases heq
    | directory => cases heq
  · have hshape := hlookup world.configPlace
    rw [h.vacant] at hshape
    rw [configPlace, halike.cwd]
    exact Option.map_eq_none_iff.1 hshape

end World

/-! ## Scanning -/

/-- A name with an extension that is wanted is not the end of a path to the settings. -/
theorem not_config_of_isWanted {extensions : List String} {ignores : List Glob} {name : RawText}
    (hjson : "json" ∉ extensions) (h : isWanted extensions ignores name = true) (dir : RawText) :
    (Tree.steps (Path.join dir name)).getLast? ≠ some (.down configName) := by
  intro hlast
  have hsegment := Tree.getLast?_stepsOf hlast
  rw [Path.getLast?_segments_join] at hsegment
  have hname : (RawText.ofString configName).bytes =
      (RawText.ofString ".tablefixrc").bytes ++ Path.dot :: (RawText.ofString "json").bytes := by
    decide
  have hext : Path.extension? name = some (.ofString "json") := Path.extension?_of_segment hsegment hname
    (by decide) (by decide) (by decide)
  rw [isWanted, hext, Option.bind_some, RawText.text?_eq_some_iff.2 rfl, Bool.and_eq_true] at h
  exact hjson (List.elem_iff.1 h.1)

namespace World.Bare

variable {world : World} (h : world.Bare)
include h

theorem kindAt_configured {path : RawText}
    (hend : (Tree.steps path).getLast? ≠ some (.down configName)) :
    Tree.Undisturbed configName (Tree.steps path) (world.tree.kindAt world.cwd path)
      (world.configured.tree.kindAt world.cwd path) :=
  Tree.kindAt_set h.linkFree h.vacant _ world.configPlace_not_prefix hend

theorem isFile_configured {path : RawText}
    (hend : (Tree.steps path).getLast? ≠ some (.down configName)) :
    world.configured.isFile path = world.isFile path := by
  rw [Bool.eq_iff_iff, isFile_iff, isFile_iff]
  exact (h.kindAt_configured hend).eq_ok_iff

theorem candidatesOf_configured {extensions : List String} (hjson : "json" ∉ extensions)
    (dir : RawText) (ignores : List Glob) (names : List RawText) :
    world.configured.candidatesOf dir extensions ignores names =
      world.candidatesOf dir extensions ignores names := by
  have hsame : ∀ name, (isWanted extensions ignores name &&
        world.configured.isFile (Path.join dir name)) =
      (isWanted extensions ignores name && world.isFile (Path.join dir name)) := by
    intro name
    cases hwanted : isWanted extensions ignores name with
    | false => rw [Bool.false_and, Bool.false_and]
    | true => rw [h.isFile_configured (not_config_of_isWanted hjson hwanted dir)]
  unfold candidatesOf
  simp only [hsame]

/-- The names in a directory are those that were there, and perhaps that of the settings. -/
theorem namesAt_configured {path : RawText} (hpath : .down configName ∉ Tree.steps path) :
    ∃ new, world.configured.tree.namesAt world.cwd path =
        (world.tree.namesAt world.cwd path).map (· ++ new) ∧
      ∀ name ∈ new, name = RawText.ofString configName := by
  have hend : (Tree.steps path).getLast? ≠ some (.down configName) :=
    fun hlast => hpath (List.mem_of_getLast? hlast)
  have hplace : world.configured.tree.resolve world.cwd path =
      world.tree.resolve world.cwd path :=
    (Tree.resolve_set h.linkFree h.vacant _ world.configPlace_not_prefix hend).1.eq_of_notMem hpath
  unfold Tree.namesAt
  rw [hplace]
  cases world.tree.resolve world.cwd path with
  | error e => exact ⟨[], rfl, nofun⟩
  | ok place =>
    refine ⟨if world.cwd = place then [RawText.ofString configName] else [], ?_, ?_⟩
    · dsimp only
      rw [show world.configured.tree.closed = world.tree.closed from rfl]
      split
      · rfl
      · exact congrArg Except.ok (Tree.children_set h.vacant _ place)
    · intro name hname
      split at hname
      · exact List.mem_singleton.1 hname
      · cases hname

/-- **A scan finds the same candidates**, if its directory is not on the far side of the settings and
no extension of theirs is wanted. -/
theorem scan_configured {dir : RawText} (hdir : .down configName ∉ Tree.steps dir)
    {extensions : List String} (hjson : "json" ∉ extensions) (ignores : List String) :
    world.configured.scan dir extensions ignores = world.scan dir extensions ignores := by
  have hend : (Tree.steps dir).getLast? ≠ some (.down configName) :=
    fun hlast => hdir (List.mem_of_getLast? hlast)
  have hkind : world.configured.tree.kindAt world.cwd dir = world.tree.kindAt world.cwd dir :=
    (h.kindAt_configured hend).eq_of_notMem hdir
  obtain ⟨new, hnames, hnew⟩ := h.namesAt_configured hdir
  have hfound : ∀ globs names,
      world.configured.candidatesOf dir extensions globs (sortDistinct (names ++ new)) =
        world.candidatesOf dir extensions globs (sortDistinct names) := by
    intro globs names
    rw [h.candidatesOf_configured hjson]
    unfold candidatesOf
    -- The new name is sorted in among the others, and filtered out for its extension.
    rw [filter_sortDistinct_append]
    intro name hname
    rw [hnew name hname]
    have hext : (Path.extension? configName).bind RawText.text? = some "json" := by decide +kernel
    simp [isWanted, hext, hjson]
  unfold World.scan World.listNames
  rw [show world.configured.cwd = world.cwd from rfl, hkind, hnames]
  cases world.tree.kindAt world.cwd dir with
  | error e => rfl
  | ok kind =>
    cases kind with
    | file => rfl
    | special => rfl
    | directory =>
      cases parseIgnores ignores with
      | error e => rfl
      | ok globs =>
        cases world.tree.namesAt world.cwd dir with
        | error fault => rfl
        | ok names => exact congrArg Except.ok (hfound globs names)

end World.Bare

/-! ## Visiting -/

namespace World.Bare

variable {world : World} (h : world.Bare)
include h

/-- **Dealing with a candidate** is the same with the settings in the tree and without them. -/
theorem deal_configured (analyzer : Analyzer) (mode : Mode) {c : Candidate}
    (hfile : world.isFile c.path = true)
    (hend : (Tree.steps c.path).getLast? ≠ some (.down configName)) :
    world.configured.deal analyzer mode c =
      (world.deal analyzer mode c).map fun dealt => (dealt.1, dealt.2.configured) := by
  obtain ⟨bytes, hread⟩ := World.readAt_of_isFile hfile
  have hread' : world.configured.tree.readAt world.configured.cwd c.path = .ok bytes :=
    (Tree.readAt_set h.linkFree h.vacant _ world.configPlace_not_prefix hend).eq_ok_iff.2 hread
  have hwrite : ∀ content, world.configured.tree.writeAt world.configured.cwd c.path content =
      (world.tree.writeAt world.cwd c.path content).map
        (·.set world.configPlace standardFile) :=
    Tree.writeAt_set h.linkFree h.vacant _ world.configPlace_not_prefix hend hread
  have hlook : world.configured.look analyzer c = world.look analyzer c := by
    unfold World.look
    rw [hread, hread']
  unfold World.deal
  rw [hlook]
  cases world.look analyzer c with
  | error e => rfl
  | ok verdict =>
    dsimp only
    cases mode.update? verdict with
    | none => rfl
    | some content =>
      dsimp only
      rw [hwrite]
      cases world.tree.writeAt world.cwd c.path (Utf8.encode content.toList) <;> rfl

omit h in
theorem visit_configured (analyzer : Analyzer) : ∀ (cs : List Candidate) (s : Summary)
    {world : World}, world.Bare →
      (∀ c ∈ cs, world.isFile c.path = true ∧
        (Tree.steps c.path).getLast? ≠ some (.down configName)) →
      (visit World.disk analyzer cs s).run world.configured =
        ((visit World.disk analyzer cs s).run world).map id World.configured
  | [], _, _, _, _ => rfl
  | c :: cs, s, world, h, hcs => by
    obtain ⟨hfile, hend⟩ := hcs c List.mem_cons_self
    rw [visit_cons_deal, visit_cons_deal, h.deal_configured analyzer s.mode hfile hend]
    cases hdeal : world.deal analyzer s.mode c with
    | error e => rfl
    | ok dealt =>
      have halike := alike_of_deal hdeal
      refine visit_configured analyzer cs (s.add c dealt.1) (h.of_alike halike) ?_
      intro c' hc'
      obtain ⟨hfile', hend'⟩ := hcs c' (List.mem_cons_of_mem _ hc')
      refine ⟨?_, hend'⟩
      rw [isFile_iff, halike.kindAt, ← isFile_iff]
      exact hfile'

/-- **A run** finds the same and leaves the same behind, apart from the settings. -/
theorem run_configured {job : Job} (hdir : .down configName ∉ Tree.steps job.sourceDir)
    (hjson : "json" ∉ job.extensions) (mode : Mode) :
    (job.run World.disk mode).run world.configured =
      ((job.run World.disk mode).run world).map id World.configured := by
  rw [job.run_run, job.run_run, h.scan_configured hdir hjson]
  cases Analyzer.make job.config.bindingAttribute job.registry with
  | error e => rfl
  | ok analyzer =>
    dsimp only
    cases hscan : world.scan job.sourceDir job.extensions job.config.ignores with
    | error e => rfl
    | ok found =>
      refine visit_configured analyzer found _ h ?_
      obtain ⟨globs, names, -, -, rfl⟩ := World.candidatesOf_of_scan hscan
      intro c hc
      obtain ⟨name, hwanted, hfile, rfl⟩ := World.mem_candidatesOf hc
      exact ⟨hfile, not_config_of_isWanted hjson hwanted _⟩

end World.Bare

/-! ## The settings that apply -/

/-- The two paths under which the settings of the working directory are asked for. -/
def IsConfigPath (path : RawText) : Prop := path = configName ∨ path = Path.join "." configName

theorem Tree.walkWith_config {tree : Tree} {base : Tree.Place}
    (hdir : tree.lookup base = some .directory) (creating : Bool)
    (onLink : Tree.Place → RawText → List Tree.Step → Except DiskError Tree.Goal) :
    Tree.walkWith tree creating onLink base [.down configName] =
      match tree.lookup (base ++ [RawText.ofString configName]) with
      | some (.link target) => onLink base target []
      | some _ => .ok (.entry (base ++ [RawText.ofString configName]))
      | none => .ok (.vacant (base ++ [RawText.ofString configName])) := by
  have hsize : ¬ Tree.maxName < (RawText.ofString configName).bytes.length := by decide
  rw [Tree.walkWith, if_neg (not_not.2 hdir), if_neg (by simp), if_neg hsize]
  rfl

theorem Tree.locate_config {tree : Tree} {base : Tree.Place} {path : RawText}
    (hpath : IsConfigPath path) (hdir : tree.lookup base = some .directory) (creating : Bool) :
    (tree.lookup (base ++ [RawText.ofString configName]) = none →
      tree.locate creating base path = .ok (.vacant (base ++ [RawText.ofString configName]))) ∧
    ∀ bytes, tree.lookup (base ++ [RawText.ofString configName]) = some (.file bytes) →
      tree.locate creating base path = .ok (.entry (base ++ [RawText.ofString configName])) := by
  obtain ⟨onLink, hwalk⟩ := Tree.exists_walk tree creating Tree.maxLinks
  have hlocate : tree.locate creating base path =
      Tree.walkWith tree creating onLink base [.down configName] := by
    unfold Tree.locate Tree.origin
    rw [hwalk]
    rcases hpath with rfl | rfl
    · have hsteps : Tree.steps configName = [.down configName] := by decide
      rw [if_neg (by decide), if_neg (by decide), if_neg (by decide),
        if_neg (by decide), hsteps]
    · have hsteps : Tree.steps (Path.join "." configName) = [.stay, .down configName] := by
        decide
      rw [if_neg (by decide), if_neg (by decide), if_neg (by decide),
        if_neg (by decide), hsteps, Tree.walkWith, if_neg (not_not.2 hdir)]
  rw [hlocate, Tree.walkWith_config hdir]
  constructor
  · intro hvacant
    rw [hvacant]
  · intro bytes hfile
    rw [hfile]

theorem ofBytes_render {config : Config} (hvalid : config.validate = .ok ()) (path : RawText) :
    Config.ofBytes path (Utf8.encode config.render.toList) = .ok config := by
  have hdecode : Utf8.decode (Utf8.encode config.render.toList) = .ok config.render.toList :=
    Utf8.decode_eq_ok_iff.2 rfl
  have hparse : Config.parse config.render = .ok config := by
    rw [Config.parse, Json.readAll, read_render]
    rfl
  unfold Config.ofBytes
  rw [hdecode]
  refine bind_eq_ok_iff.2 ⟨config.render.toList, rfl, bind_eq_ok_iff.2 ⟨config, ?_, ?_⟩⟩
  · rw [String.ofList_toList, hparse]
    rfl
  · exact bind_eq_ok_iff.2 ⟨(), hvalid, rfl⟩

namespace World.Bare

variable {world : World} (h : world.Bare)
include h

theorem kindAt_config {path : RawText} (hpath : IsConfigPath path) :
    world.tree.kindAt world.cwd path = .error .notFound := by
  unfold Tree.kindAt Tree.resolve
  rw [(Tree.locate_config hpath h.cwd false).1 h.vacant]
  rfl

theorem resolve_config {path : RawText} (hpath : IsConfigPath path) :
    world.configured.tree.resolve world.cwd path = .ok world.configPlace := by
  have hcwd : world.configured.tree.lookup world.cwd = some .directory := by
    rw [lookup_configured, if_neg, h.cwd]
    intro heq
    exact world.configPlace_not_prefix (heq ▸ List.prefix_rfl)
  have hfile : world.configured.tree.lookup world.configPlace = some standardFile := by
    rw [lookup_configured, if_pos rfl]
  unfold Tree.resolve
  rw [(Tree.locate_config hpath hcwd false).2 _ hfile]
  rfl

theorem kindAt_configured_config {path : RawText} (hpath : IsConfigPath path) :
    world.configured.tree.kindAt world.configured.cwd path = .ok .file := by
  unfold Tree.kindAt
  rw [show world.configured.cwd = world.cwd from rfl, h.resolve_config hpath]
  simp only [bind, Except.bind, lookup_configured]
  rfl

theorem readAt_configured_config {path : RawText} (hpath : IsConfigPath path) :
    world.configured.tree.readAt world.configured.cwd path =
      .ok (Utf8.encode Config.standard.render.toList) := by
  refine Tree.readAt_eq_ok_iff.2 ⟨world.configPlace, h.resolve_config hpath, ?_⟩
  rw [lookup_configured, if_pos rfl]
  rfl

theorem load_bare : (Config.load World.disk ".").run world = (.ok ⟨.standard, false⟩, world) := by
  have hdot := h.kindAt_config (show IsConfigPath (Path.join "." configName) from .inr rfl)
  have hempty := h.kindAt_config (show IsConfigPath (Path.join "" configName) from .inl (by decide))
  have hfind : (Config.find World.disk ".").run world = (none, world) := by
    unfold Config.find
    rw [show Path.ancestors "." = [RawText.ofString ".", ""] by decide, findIn_cons_run, hdot, if_neg nofun]
    split
    · rfl
    · rw [findIn_cons_run, hempty, if_neg nofun]
      split <;> rfl
  unfold Config.load
  rw [bind_run hfind]
  rfl

theorem load_configured :
    (Config.load World.disk ".").run world.configured =
      (.ok ⟨.standard, true⟩, world.configured) := by
  have hfind : (Config.find World.disk ".").run world.configured =
      (some (Path.join "." configName), world.configured) := by
    unfold Config.find
    rw [show Path.ancestors "." = [RawText.ofString ".", ""] by decide, findIn_cons_run,
      h.kindAt_configured_config (.inr rfl)]
    rfl
  unfold Config.load
  rw [bind_run hfind]
  dsimp only
  rw [bind_run (read_run world.configured _), h.readAt_configured_config (.inr rfl)]
  dsimp only
  rw [ofBytes_render validate_standard]
  rfl

end World.Bare

/-! ## Commands -/

theorem initCommand_of_present {world : World} {kind : FileKind}
    (h : world.tree.kindAt world.cwd configName = .ok kind) (wording : Wording) (color : Bool) :
    ∃ err, (initCommand wording World.disk color).run world = (.exit 1 "" err, world) := by
  unfold initCommand
  rw [bind_run (present_run world _), h]
  exact ⟨_, rfl⟩

theorem initCommand_of_bare {world : World} (h : world.Bare) (wording : Wording) (color : Bool) :
    ∃ out, (initCommand wording World.disk color).run world = (.exit 0 out "", world.configured) := by
  have hwrite : world.tree.writeAt world.cwd configName
      (Utf8.encode Config.standard.render.toList) = .ok world.configured.tree := by
    unfold Tree.writeAt
    rw [(Tree.locate_config (.inl rfl) h.cwd true).1 h.vacant]
    rfl
  have hrun := write_run world configName (Utf8.encode Config.standard.render.toList)
  rw [hwrite] at hrun
  unfold initCommand
  rw [bind_run (present_run world _), h.kindAt_config (.inl rfl), if_neg nofun, bind_run hrun]
  exact ⟨_, rfl⟩

theorem runCommand_of_load {world : World} {loaded : Config.Loaded} {job : Job} {options : Options}
    (hload : (Config.load World.disk options.root).run world = (.ok loaded, world))
    (hjob : options.job loaded.config = .ok job) (hverbose : options.verbose = false)
    (wording : Wording) (color : Bool) (mode : Mode) :
    (runCommand wording World.disk color mode options).run world =
      ((job.run World.disk mode).run world).map (·.finish wording color false "") id := by
  unfold runCommand
  rw [bind_run hload]
  dsimp only
  rw [hjob, hverbose]
  rfl

/-- **A command** without notes ends as it did without the file, if the settings that apply are the
same, and what it leaves behind is the same but for the file. -/
theorem runCommand_configured {world : World} (h : world.Bare) {loaded loaded' : Config.Loaded}
    {job : Job} {options : Options}
    (hload : (Config.load World.disk options.root).run world = (.ok loaded, world))
    (hload' : (Config.load World.disk options.root).run world.configured =
      (.ok loaded', world.configured))
    (hjob : options.job loaded.config = .ok job) (hjob' : options.job loaded'.config = .ok job)
    (hverbose : options.verbose = false) (hdir : .down configName ∉ Tree.steps job.sourceDir)
    (hjson : "json" ∉ job.extensions) (wording : Wording) (color : Bool) (mode : Mode) :
    ∃ finish final, (runCommand wording World.disk color mode options).run world =
        (finish, final) ∧
      (runCommand wording World.disk color mode options).run world.configured =
        (finish, final.configured) ∧ final.cwd = world.cwd := by
  have halike := alike_of_run job mode world
  rw [runCommand_of_load hload hjob hverbose, runCommand_of_load hload' hjob' hverbose,
    h.run_configured hdir hjson]
  exact ⟨_, _, rfl, rfl, halike.cwd⟩

theorem standard_not_config :
    .down configName ∉ Tree.steps (Job.standard ".").sourceDir ∧
      "json" ∉ (Job.standard ".").extensions := by
  have hextensions : (Job.standard ".").extensions = ["tsx"] := by decide
  rw [hextensions]
  decide

/-- **Setting up a project.** If there are settings in the working directory, the command fails and
leaves the tree as it is. If there are none, and no links in the tree, it succeeds, and the tree is
the same but for the file with the standard settings. Done again it fails. The settings that are
loaded are the standard ones, now from the file, and a command line that asks for a run in the
working directory, without a source root of its own and without notes, ends as it did before and
does the same to the rest of the tree. -/
theorem execute_init {args : List RawText} (hargs : Request.parse args = .ok .init)
    (wording : Wording) (color : Bool) (world : World) :
    (∀ kind, world.tree.kindAt world.cwd configName = .ok kind →
      ∃ err, (execute wording World.disk color args).run world = (.exit 1 "" err, world)) ∧
    (world.Bare → ∃ out after,
      (execute wording World.disk color args).run world = (.exit 0 out "", after) ∧
      after.cwd = world.cwd ∧ after.tree.closed = world.tree.closed ∧
      (∀ place, after.tree.lookup place =
        if place = world.cwd ++ [RawText.ofString configName] then
          some (.file (Utf8.encode Config.standard.render.toList))
        else world.tree.lookup place) ∧
      (∃ err, (execute wording World.disk color args).run after = (.exit 1 "" err, after)) ∧
      (Config.load World.disk ".").run after = (.ok ⟨.standard, true⟩, after) ∧
      ∀ line mode options, Request.parse line = .ok (.run mode options) → options.root = "." →
        options.sourceRoot = none → options.verbose = false → ∃ finish final final',
          (execute wording World.disk color line).run world = (finish, final) ∧
          (execute wording World.disk color line).run after = (finish, final') ∧
          final'.tree.lookup (world.cwd ++ [RawText.ofString configName]) =
            some (.file (Utf8.encode Config.standard.render.toList)) ∧
          ∀ place, place ≠ world.cwd ++ [RawText.ofString configName] →
            final'.tree.lookup place = final.tree.lookup place) := by
  have hinit : execute wording World.disk color args = initCommand wording World.disk color := by
    unfold execute
    rw [hargs]
    rfl
  rw [hinit]
  refine ⟨fun kind hkind => initCommand_of_present hkind wording color, fun h => ?_⟩
  obtain ⟨out, hdone⟩ := initCommand_of_bare h wording color
  refine ⟨out, world.configured, hdone, rfl, rfl, world.lookup_configured,
    initCommand_of_present (h.kindAt_configured_config (.inl rfl)) wording color,
    h.load_configured, ?_⟩
  intro line mode options hparse hroot hsource hverbose
  have hexecute : execute wording World.disk color line =
      runCommand wording World.disk color mode options := by
    unfold execute
    rw [hparse]
    rfl
  have hjob : options.job .standard = .ok (.standard ".") := by
    unfold Options.job
    rw [hsource, hroot]
    exact Job.make_standard "."
  have hbefore := h.load_bare
  have hafter := h.load_configured
  rw [← hroot] at hbefore hafter
  obtain ⟨finish, final, hrun, hrun', hcwd⟩ := runCommand_configured h hbefore hafter hjob hjob
    hverbose standard_not_config.1 standard_not_config.2 wording color mode
  have hplace : final.configPlace = world.cwd ++ [RawText.ofString configName] := by
    rw [World.configPlace, hcwd]
  rw [hexecute]
  refine ⟨finish, final, final.configured, hrun, hrun', ?_, fun place hne => ?_⟩
  · rw [World.lookup_configured, if_pos hplace.symm]
    rfl
  · rw [World.lookup_configured, if_neg (hplace ▸ hne)]

/-! ## Two files -/

theorem World.bare_twoFiles (first second : List UInt8) : (World.twoFiles first second).Bare := by
  have hempty : (World.twoFiles [] []).Bare := by
    refine ⟨rfl, Tree.linkFree_of_entries ?_, by decide⟩
    simp [World.twoFiles]
  exact hempty.of_alike (World.alike_twoFiles first second)

/-- A project of two files is set up once, and not again; a fix does to its files what it would have
done before. -/
theorem execute_init_twoFiles : ∃ content : String, ∀ wording : Wording,
    (∃ err, (execute wording World.disk false ["init"]).run
      (World.twoFiles (Utf8.encode content.toList) []).configured =
        (.exit 1 "" err, (World.twoFiles (Utf8.encode content.toList) []).configured)) ∧
    ∃ out after finish final final',
      (execute wording World.disk false ["init"]).run
        (World.twoFiles (Utf8.encode content.toList) []) = (.exit 0 out "", after) ∧
      (∃ err, (execute wording World.disk false ["init"]).run after = (.exit 1 "" err, after)) ∧
      (execute wording World.disk false ["fix"]).run
        (World.twoFiles (Utf8.encode content.toList) []) = (finish, final) ∧
      (execute wording World.disk false ["fix"]).run after = (finish, final') ∧
      final'.tree.lookup ["src", "pages", "a.tsx"] =
        final.tree.lookup ["src", "pages", "a.tsx"] := by
  refine ⟨"<Table dataSource={rows}/> setrows(response.data)", fun wording => ?_⟩
  generalize Utf8.encode _ = first
  have h := World.bare_twoFiles first []
  have hargs : Request.parse ["init"] = .ok .init := by decide
  have hline : Request.parse ["fix"] = .ok (.run .fix .start) := by decide
  obtain ⟨out, after, hdone, -, -, -, hagain, -, hrun⟩ := (execute_init hargs wording false _).2 h
  obtain ⟨finish, final, final', hbefore, hafter, -, hsame⟩ :=
    hrun ["fix"] .fix .start hline rfl rfl rfl
  refine ⟨(execute_init hargs wording false _).1 .file (h.kindAt_configured_config (.inl rfl)), out,
    after, finish, final, final', hdone, hagain, hbefore, hafter, hsame _ ?_⟩
  show (_ : Tree.Place) ≠ [RawText.ofString configName]
  decide

end TableGuard
