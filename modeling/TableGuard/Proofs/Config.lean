import TableGuard.Config.Lookup
import TableGuard.Proofs.Binding
import TableGuard.Proofs.OnePass
import TableGuard.Proofs.Visit

/-!
# Valid settings

* `Config.validate_eq_ok_iff` : the conditions on settings;
* `parseIgnores_of_validate` : globs that were checked can be parsed;
* `Payload.validate_rule`, `validate_builtin`, `validate_standard` : the builtin rules and the
  standard settings are valid;
* `Job.make_eq_ok_iff`, `Job.Plain` : what makes a job, and what is known of it;
* `load_run` : settings that are loaded.
-/

namespace TableGuard

theorem Config.validate_eq_ok_iff (config : Config) :
    config.validate = .ok () ↔
      Config.validateIgnores config.ignores = .ok () ∧ config.extensions ≠ [] ∧
        Config.isAttribute config.bindingAttribute = true ∧
        config.registry.validate = .ok () := by
  unfold Config.validate
  constructor
  · intro h
    obtain ⟨⟨⟩, hignores, h⟩ := bind_eq_ok_iff.1 h
    split at h
    · cases h
    · rename_i hextensions
      split at h
      · cases h
      · rename_i hattr
        rw [Bool.not_eq_true', Bool.not_eq_false] at hattr
        exact ⟨hignores, fun hnil => hextensions (by rw [hnil]; rfl), hattr, h⟩
  · rintro ⟨hignores, hextensions, hattr, hregistry⟩
    refine bind_eq_ok_iff.2 ⟨(), hignores, ?_⟩
    rw [if_neg (by rwa [List.isEmpty_iff]), if_neg (by rw [hattr]; exact Bool.false_ne_true)]
    exact hregistry

theorem parseIgnores_of_validate : ∀ {texts : List String},
    Config.validateIgnores texts = .ok () → ∃ globs, parseIgnores texts = .ok globs
  | [], _ => ⟨[], rfl⟩
  | text :: texts, h => by
    obtain ⟨glob, hglob, hrest⟩ := bind_eq_ok_iff.1 h
    obtain ⟨globs, hglobs⟩ := parseIgnores_of_validate hrest
    cases hparse : Glob.parse text with
    | error fault =>
      rw [hparse] at hglob
      cases hglob
    | ok glob =>
      refine ⟨glob :: globs, ?_⟩
      rw [parseIgnores, hparse, hglobs]
      rfl

/-- The scan of a valid job fails only for lack of a directory that tells its names. -/
theorem World.exists_scan {world : World} {dir : RawText} (extensions : List String)
    {ignores : List String} {names : List RawText}
    (hdir : world.tree.kindAt world.cwd dir = .ok .directory)
    (hnames : world.tree.namesAt world.cwd dir = .ok names)
    (hignores : Config.validateIgnores ignores = .ok ()) :
    ∃ found, world.scan dir extensions ignores = .ok found := by
  obtain ⟨globs, hglobs⟩ := parseIgnores_of_validate hignores
  exact ⟨_, World.scan_of_names extensions hdir hglobs hnames⟩

/-! ## Builtin rules -/

theorem Payload.validate_rule (p : Payload) : p.rule.validate = .ok () := by
  have hsize : Utf8.size (p.call "Sample".toList) ≤ Regex.maxLiteral := by cases p <;> decide
  have hkind : Unicode.isBlankText p.rule.kind.toList = false := by cases p <;> decide
  have hdetect : Template.hasHole p.rule.detect.toList = true := by cases p <;> decide
  have hreplace : Template.hasHole p.rule.replace.toList = true := by cases p <;> decide
  rw [Rule.validate, hkind, hdetect, hreplace, p.detector_rule, if_pos hsize]
  rfl

theorem validate_builtin : Registry.builtin.validate = .ok () := by
  unfold Registry.validate
  rw [← Payload.map_rule_all]
  simp only [Payload.all, List.map_cons, List.map_nil, Registry.validateRules,
    Payload.validate_rule]
  rfl

theorem Config.registry_of_no_patterns {config : Config} (h : config.patterns = []) :
    config.registry = Registry.builtin := by
  rw [Config.registry, h]
  rfl

theorem validate_standard : Config.standard.validate = .ok () := by
  rw [Config.validate_eq_ok_iff, Config.registry_of_no_patterns rfl]
  exact ⟨rfl, List.cons_ne_nil _ _, by decide +kernel, validate_builtin⟩

/-! ## Jobs -/

theorem Job.make_eq_ok_iff {config : Config} {root : RawText} {job : Job} :
    Job.make config root = .ok job ↔
      config.validate = .ok () ∧
        job = ⟨config, root, config.normalExtensions, config.registry⟩ := by
  unfold Job.make
  constructor
  · intro h
    obtain ⟨⟨⟩, hvalid, h⟩ := bind_eq_ok_iff.1 h
    exact ⟨hvalid, (Except.ok.inj h).symm⟩
  · rintro ⟨hvalid, rfl⟩
    exact bind_eq_ok_iff.2 ⟨(), hvalid, rfl⟩

/-- What is known of a job without rules of its own. -/
structure Job.Plain (job : Job) : Prop where
  registry : job.registry = Registry.builtin
  attr : PlainAttribute job.config.bindingAttribute.toList
  ignores : Config.validateIgnores job.config.ignores = .ok ()

theorem Job.plain_of_make {config : Config} {root : RawText} {job : Job}
    (hjob : Job.make config root = .ok job) (hrules : config.patterns = []) :
    job.Plain ∧ job.config = config := by
  obtain ⟨hvalid, rfl⟩ := Job.make_eq_ok_iff.1 hjob
  obtain ⟨hignores, -, hattr, -⟩ := (config.validate_eq_ok_iff).1 hvalid
  exact ⟨⟨Config.registry_of_no_patterns hrules, plainAttribute hattr, hignores⟩, rfl⟩

def Job.standard (root : RawText) : Job :=
  ⟨.standard, root, Config.standard.normalExtensions, Config.standard.registry⟩

theorem Job.make_standard (root : RawText) : Job.make .standard root = .ok (.standard root) :=
  Job.make_eq_ok_iff.2 ⟨validate_standard, rfl⟩

/-! ## Loading -/

theorem present_run (world : World) (path : RawText) :
    (World.disk.present path).run world =
      ((world.tree.kindAt world.cwd path).toOption.isSome, world) := by
  unfold Disk.present
  rw [bind_run (kind_run world path)]
  cases world.tree.kindAt world.cwd path with
  | error e => rfl
  | ok kind => rfl

theorem findIn_cons_run (world : World) (dir : RawText) (dirs : List RawText) :
    (Config.findIn World.disk (dir :: dirs)).run world =
      if (world.tree.kindAt world.cwd (Path.join dir configName)).toOption.isSome then
        (some (Path.join dir configName), world)
      else if (world.tree.kindAt world.cwd (Path.join dir ".git")).toOption.isSome then (none, world)
      else (Config.findIn World.disk dirs).run world := by
  rw [Config.findIn, bind_run (present_run world _)]
  split
  · rfl
  · rw [bind_run (present_run world _)]
    split <;> rfl

/-- Where the settings are found depends on the shape of the tree only. -/
theorem findIn_run (world : World) (dirs : List RawText) : ∃ found, ∀ world', world'.Alike world →
    (Config.findIn World.disk dirs).run world' = (found, world') := by
  -- The answer is given for `world`, and what is present in `world'` is present there.
  induction dirs with
  | nil => exact ⟨none, fun _ _ => rfl⟩
  | cons dir dirs ih =>
    obtain ⟨found, hfound⟩ := ih
    refine ⟨if (world.tree.kindAt world.cwd (Path.join dir configName)).toOption.isSome then
        some (Path.join dir configName)
      else if (world.tree.kindAt world.cwd (Path.join dir ".git")).toOption.isSome then none
      else found, ?_⟩
    intro world' halike
    rw [findIn_cons_run, halike.kindAt, halike.kindAt, hfound world' halike]
    split
    · rfl
    · split <;> rfl

theorem validate_of_ofBytes {path : RawText} {bytes : List UInt8} {config : Config}
    (h : Config.ofBytes path bytes = .ok config) : config.validate = .ok () := by
  obtain ⟨text, -, h⟩ := bind_eq_ok_iff.1 h
  obtain ⟨read, -, h⟩ := bind_eq_ok_iff.1 h
  obtain ⟨⟨⟩, hvalid, h⟩ := bind_eq_ok_iff.1 h
  rwa [Except.ok.inj h] at hvalid

/-- **Settings that are loaded are valid**, and loading leaves the tree as it is. -/
theorem load_run (world : World) (start : RawText) :
    ∃ result, (Config.load World.disk start).run world = (result, world) ∧
      ∀ loaded, result = .ok loaded → loaded.config.validate = .ok () := by
  obtain ⟨found, hfound⟩ := findIn_run world (Path.ancestors start)
  unfold Config.load Config.find
  rw [bind_run (hfound world ⟨rfl, rfl⟩)]
  cases found with
  | none =>
    refine ⟨_, rfl, ?_⟩
    rintro loaded hloaded
    rw [← Except.ok.inj hloaded]
    exact validate_standard
  | some path =>
    dsimp only
    rw [bind_run (read_run world path)]
    cases world.tree.readAt world.cwd path with
    | error e => exact ⟨_, rfl, nofun⟩
    | ok bytes =>
      refine ⟨_, rfl, ?_⟩
      intro loaded hloaded
      obtain ⟨config, hbytes, rfl⟩ := map_eq_ok_iff.1 hloaded
      exact validate_of_ofBytes hbytes

theorem World.load_of_alike {world world' : World} (halike : world'.Alike world)
    (hnone : ((Config.findIn World.disk (Path.ancestors ".")).run world).1 = none) :
    (Config.load World.disk ".").run world' = (.ok ⟨.standard, false⟩, world') := by
  obtain ⟨found, hfind⟩ := findIn_run world (Path.ancestors ".")
  rw [hfind world ⟨rfl, rfl⟩] at hnone
  unfold Config.load Config.find
  rw [bind_run (hfind world' halike), show found = none from hnone]
  rfl

/-! ## Two names for one file -/

/-- A tree in which two names lead to one file. -/
def World.twoNames (content : String) : World where
  tree := ⟨[(["src"], .directory), (["src", "pages"], .directory),
    (["src", "pages", "a.tsx"], .file (Utf8.encode content.toList)),
    (["src", "pages", "b.tsx"], .link "a.tsx")], []⟩
  cwd := []

theorem World.alike_twoNames (content content' : String) :
    (World.twoNames content).Alike (World.twoNames content') := ⟨rfl, rfl⟩

theorem World.scan_twoNames (content : String) :
    (World.twoNames content).scan (Job.standard ".").sourceDir (Job.standard ".").extensions
      (Job.standard ".").config.ignores =
        .ok [⟨"a.tsx", "src/pages/a.tsx"⟩, ⟨"b.tsx", "src/pages/b.tsx"⟩] := by
  have hfound : ((World.twoNames "").scan (Job.standard ".").sourceDir (Job.standard ".").extensions
      (Job.standard ".").config.ignores).toOption =
        some [⟨"a.tsx", "src/pages/a.tsx"⟩, ⟨"b.tsx", "src/pages/b.tsx"⟩] := by decide +kernel
  rw [(World.alike_twoNames content "").scan, eq_ok_of_toOption hfound]

theorem World.load_twoNames (content : String) :
    (Config.load World.disk ".").run (World.twoNames content) =
      (.ok ⟨.standard, false⟩, World.twoNames content) := by
  have hnone : ((Config.findIn World.disk (Path.ancestors ".")).run (World.twoNames "")).1 =
      none := by decide
  exact World.load_of_alike (World.alike_twoNames content "") hnone

theorem World.locate_twoNames (content : String) {path : RawText} {goal : Tree.Goal}
    (h : (World.twoNames "").tree.locate true (World.twoNames "").cwd path = .ok goal) :
    (World.twoNames content).tree.locate true (World.twoNames content).cwd path = .ok goal := by
  rw [(World.alike_twoNames content "").locate, h]

theorem World.lookup_twoNames (content : String) :
    (World.twoNames content).tree.lookup ["src", "pages", "a.tsx"] =
      some (.file (Utf8.encode content.toList)) := by
  simp [World.twoNames, Tree.lookup, List.lookup_cons]

/-! ## Source directories without files -/

/-- An empty source directory. -/
def World.noFiles : World where
  tree := ⟨[(["src"], .directory), (["src", "pages"], .directory)], []⟩
  cwd := []

/-- One that does not tell its names. -/
def World.shut : World :=
  { noFiles with tree := { noFiles.tree with closed := [["src", "pages"]] } }

theorem World.kindAt_shut :
    World.shut.tree.kindAt World.shut.cwd (Job.standard ".").sourceDir = .ok .directory := by
  decide +kernel

theorem World.namesAt_shut :
    World.shut.tree.namesAt World.shut.cwd (Job.standard ".").sourceDir =
      .error ⟨some "src/pages", .accessDenied⟩ := by
  decide

theorem World.scan_shut :
    World.shut.scan (Job.standard ".").sourceDir (Job.standard ".").extensions
      (Job.standard ".").config.ignores =
        .error ⟨[.scanning], .listing ⟨some "src/pages", .accessDenied⟩⟩ :=
  World.scan_of_fault _ World.kindAt_shut rfl World.namesAt_shut

end TableGuard
