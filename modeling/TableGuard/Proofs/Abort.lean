import TableGuard.Proofs.Forecast

/-!
# What a fix leaves behind when it ends early

A fix takes the candidates in the order of their names and ends at the first with which something is
wrong. The files of the candidates before are fixed by then; nothing else in the tree has changed. If
the names in the source directory cannot be told, it ends before the first candidate.

* `fix_course` : the course of a fix, said by what is wrong with the candidates;
* `fix_run_of_faults` : a fix of a valid job.

An analyzer is made before anything is looked at. There is none for an attribute that is too long,
and then a fix ends with an error even if there are no candidates: `fix_run_long_attribute`.
-/

namespace TableGuard

/-- Whether nothing is wrong with the file of a candidate. -/
def World.isSound (world : World) (analyzer : Analyzer) (c : Candidate) : Bool :=
  (world.fault? analyzer c).isNone

theorem fix_course {attr : String} {registry : Registry} {analyzer : Analyzer}
    (hattr : PlainAttribute attr.toList) (hmake : Analyzer.make attr registry = .ok analyzer)
    {world world' : World} {found : List Candidate} {steps : List (Candidate × Verdict)}
    {error : Option Error} (hcourse : Course analyzer .fix world found steps error world')
    (hapart : found.Pairwise world.Apart)
    (hread : ∀ c ∈ found, ∃ bytes, world.tree.readAt world.cwd c.path = .ok bytes) :
    error = found.findSome? (world.fault? analyzer) ∧
      Progress analyzer world (found.takeWhile (world.isSound analyzer)) world' := by
  obtain ⟨hcheck, hprogress⟩ := hcourse.of_fix (.refl analyzer world) hapart
  obtain ⟨herror, hsteps⟩ := hcheck.of_faults hattr hmake hread
  rw [List.nil_append, hsteps] at hprogress
  exact ⟨herror, hprogress⟩

/-- The candidates from the first on with which something is wrong keep their bytes. -/
theorem Progress.readAt_dropWhile {analyzer : Analyzer} {world world' : World}
    {found : List Candidate} {p : Candidate → Bool}
    (h : Progress analyzer world (found.takeWhile p) world') (hapart : found.Pairwise world.Apart)
    {c : Candidate} (hc : c ∈ found.dropWhile p) :
    world'.tree.readAt world'.cwd c.path = world.tree.readAt world.cwd c.path := by
  rw [← List.takeWhile_append_dropWhile (p := p) (l := found), List.pairwise_append] at hapart
  exact h.readAt_eq fun c' hc' => (hapart.2.2 c' hc' c hc).symm

/-- **A fix leaves behind a tree in which the files of the first candidates are fixed.** Take a valid
job whose source directory is there, and no two candidates of which lead to one file. If no analyzer
can be made for the attribute, which is so only beyond `maxAttribute` bytes, a fix ends with that
error and leaves the tree as it is; so it does with the error of the listing if the names in the
directory cannot be told. Otherwise it ends with what is wrong with the first candidate of which
something is wrong, or without an error if there is none. The files of the candidates before that one
are fixed, those of the others hold the bytes that they held, and nothing else has changed. -/
theorem fix_run_of_faults {config : Config} {root : RawText} {job : Job}
    (hjob : Job.make config root = .ok job) {world : World}
    (hdir : world.tree.kindAt world.cwd job.sourceDir = .ok .directory)
    (hunaliased : job.Unaliased world) :
    (Utf8.size config.bindingAttribute.toList ≤ maxAttribute →
      ∃ analyzer, Analyzer.make config.bindingAttribute config.registry = .ok analyzer) ∧
    (∀ e, Analyzer.make config.bindingAttribute config.registry = .error e →
      ∃ summary, (job.run World.disk .fix).run world = (⟨summary, some e⟩, world)) ∧
    ∀ analyzer, Analyzer.make config.bindingAttribute config.registry = .ok analyzer →
      (∀ fault, world.tree.namesAt world.cwd job.sourceDir = .error fault →
        ∃ summary, (job.run World.disk .fix).run world =
          (⟨summary, some ⟨[.scanning], .listing fault⟩⟩, world)) ∧
      ∀ names, world.tree.namesAt world.cwd job.sourceDir = .ok names →
        ∃ found summary world',
          (scan World.disk job.sourceDir job.extensions config.ignores).run world =
            (.ok found, world) ∧
          (found.map Candidate.name).Pairwise (· < ·) ∧
          (job.run World.disk .fix).run world =
            (⟨summary, found.findSome? (world.fault? analyzer)⟩, world') ∧
          Progress analyzer world (found.takeWhile (world.isSound analyzer)) world' ∧
          ∀ c ∈ found.dropWhile (world.isSound analyzer),
            world'.tree.readAt world'.cwd c.path = world.tree.readAt world.cwd c.path := by
  obtain ⟨hvalid, hjob⟩ := Job.make_eq_ok_iff.1 hjob
  obtain ⟨hignores, -, hattr, -⟩ := config.validate_eq_ok_iff.1 hvalid
  have hconfig : job.config = config := by rw [hjob]
  have hregistry : job.registry = config.registry := by rw [hjob]
  rw [Job.run_run, hconfig, hregistry]
  refine ⟨fun hsize => ⟨_, Analyzer.make_eq_ok _ hsize _⟩, fun e he => ?_, fun analyzer hmake => ?_⟩
  · rw [he]
    exact ⟨_, rfl⟩
  · rw [hmake]
    obtain ⟨globs, hglobs⟩ := parseIgnores_of_validate hignores
    refine ⟨fun fault hfault => ?_, fun names hnames => ?_⟩
    · rw [World.scan_of_fault job.extensions hdir hglobs hfault]
      exact ⟨_, rfl⟩
    · obtain ⟨found, hscan⟩ := World.exists_scan job.extensions hdir hnames hignores
      have hfound : (scan World.disk job.sourceDir job.extensions config.ignores).run world =
          (.ok found, world) := by rw [scan_run, hscan]
      have hapart := hunaliased found (by rw [hconfig, hfound])
      obtain ⟨steps, error, world', hcourse, hrun⟩ :=
        exists_course analyzer found (.start .fix job.sourceDir) world
      obtain ⟨rfl, hprogress⟩ := fix_course (plainAttribute hattr) hmake hcourse hapart
        fun c hc => World.readAt_of_scan hscan hc
      rw [hscan]
      exact ⟨found, _, world', hfound, World.pairwise_of_scan hscan, hrun, hprogress,
        fun c hc => hprogress.readAt_dropWhile hapart hc⟩

/-! ## A file that is no text -/

theorem fault?_twoFiles {analyzer : Analyzer}
    (hmake : Analyzer.make "dataSource" Registry.builtin = .ok analyzer) {content : String}
    (hfit : CallsFit "dataSource" content) :
    (World.twoFiles (Utf8.encode content.toList) [0xFF]).fault? analyzer
        pageA = none ∧
      (World.twoFiles (Utf8.encode content.toList) [0xFF]).fault? analyzer
        pageB =
          some ⟨[.decodingFile "src/pages/b.tsx"], .badUtf8 (.invalid 1 0)⟩ := by
  have hattr : PlainAttribute "dataSource".toList := plainAttribute (by decide)
  obtain ⟨hreadA, hreadB⟩ := World.readAt_twoFiles (Utf8.encode content.toList) [0xFF]
  constructor
  · rw [← World.errorOf?_look hattr hmake hreadA, errorOf?_eq_none_iff]
    exact World.exists_look hattr hmake hreadA hfit
  · unfold World.fault?
    rw [hreadB]
    rfl

/-- A text is fixed, and bytes that are no text end the run. -/
theorem fix_run_of_faults_twoFiles : ∃ (content : String) (analyzer : Analyzer) (summary : Summary)
    (world' : World),
    ((Job.standard ".").run World.disk .fix).run
      (World.twoFiles (Utf8.encode content.toList) [0xFF]) =
        (⟨summary, some ⟨[.decodingFile "src/pages/b.tsx"], .badUtf8 (.invalid 1 0)⟩⟩, world') ∧
    Progress analyzer (World.twoFiles (Utf8.encode content.toList) [0xFF])
      [pageA] world' ∧
    world'.tree.readAt world'.cwd pageB.path = .ok [0xFF] := by
  have hfit : CallsFit "dataSource" "<Table dataSource={rows}/> setrows(response.data)" :=
    callsFit_of_size_le _ (by decide)
  refine ⟨"<Table dataSource={rows}/> setrows(response.data)", ?_⟩
  generalize "<Table dataSource={rows}/> setrows(response.data)" = content at hfit ⊢
  have hdir : (World.twoFiles [] []).tree.kindAt (World.twoFiles [] []).cwd
      (Job.standard ".").sourceDir = .ok .directory := by decide
  rw [← (World.alike_twoFiles (Utf8.encode content.toList) [0xFF]).kindAt] at hdir
  obtain ⟨names, hnames⟩ :=
    World.exists_names_twoFiles (Utf8.encode content.toList) [0xFF]
  obtain ⟨hexists, -, hfix⟩ :=
    fix_run_of_faults (Job.make_standard ".") hdir (unaliased_twoFiles _ _)
  obtain ⟨analyzer, hmake⟩ := hexists (by decide)
  obtain ⟨found, summary, world', hfound, -, hrun, hprogress, hkept⟩ :=
    (hfix analyzer hmake).2 names hnames
  rw [Config.registry_of_no_patterns rfl] at hmake
  obtain ⟨hsound, hfault⟩ := fault?_twoFiles hmake hfit
  obtain rfl : found = [pageA, pageB] := by
    rw [scan_run] at hfound
    exact Except.ok.inj ((Prod.mk.inj hfound).1.symm.trans (World.scan_twoFiles _ _))
  simp only [List.findSome?_cons, hsound, hfault] at hrun
  simp only [List.takeWhile_cons, List.dropWhile_cons, World.isSound, hsound, hfault,
    Option.isNone_none, Option.isNone_some, if_true, Bool.false_eq_true, if_false] at hprogress hkept
  refine ⟨analyzer, summary, world', hrun, hprogress, ?_⟩
  rw [hkept _ List.mem_cons_self]
  exact (World.readAt_twoFiles (Utf8.encode content.toList) [0xFF]).2

/-! ## Ends in front of the first candidate -/

def Config.withAttribute (attr : String) : Config := { Config.standard with bindingAttribute := attr }

theorem isAttribute_replicate {n : Nat} (hn : 0 < n) :
    Config.isAttribute (String.ofList (List.replicate n 'a')) = true := by
  rw [Config.isAttribute, String.toList_ofList, Bool.and_eq_true, Bool.not_eq_true',
    List.isEmpty_eq_false_iff, List.all_eq_true]
  refine ⟨fun hnil => ?_, fun c hc => ?_⟩
  · rw [List.replicate_eq_nil_iff] at hnil
    omega
  · rw [List.eq_of_mem_replicate hc]
    decide

theorem Job.make_withAttribute {attr : String} (h : Config.isAttribute attr = true) :
    Job.make (.withAttribute attr) "." =
      .ok ⟨.withAttribute attr, ".", Config.standard.normalExtensions, Registry.builtin⟩ := by
  rw [Job.make_eq_ok_iff, Config.validate_eq_ok_iff]
  refine ⟨⟨rfl, List.cons_ne_nil _ _, h, ?_⟩, rfl⟩
  rw [Config.registry_of_no_patterns rfl]
  exact validate_builtin

theorem fix_run_noFiles {attr : String} (hattr : Config.isAttribute attr = true)
    (hlong : Regex.maxLiteral < Utf8.size attr.toList) : ∃ job summary e,
    Job.make (.withAttribute attr) "." = .ok job ∧
    World.noFiles.tree.kindAt World.noFiles.cwd job.sourceDir = .ok .directory ∧
    (scan World.disk job.sourceDir job.extensions job.config.ignores).run World.noFiles =
      (.ok [], World.noFiles) ∧
    (job.run World.disk .fix).run World.noFiles = (⟨summary, some e⟩, World.noFiles) := by
  obtain ⟨e, he⟩ := Analyzer.make_eq_error hlong Registry.builtin
  have hdir : World.noFiles.tree.kindAt World.noFiles.cwd (Job.standard ".").sourceDir =
      .ok .directory := by decide
  have hscan : (World.noFiles.scan (Job.standard ".").sourceDir (Job.standard ".").extensions
      []).toOption = some [] := by decide
  have hmake : Analyzer.make (Config.withAttribute attr).bindingAttribute Registry.builtin =
      .error e := he
  refine ⟨_, .start .fix (Job.standard ".").sourceDir, e, Job.make_withAttribute hattr, hdir, ?_, ?_⟩
  · rw [scan_run]
    exact congrArg (·, World.noFiles) (eq_ok_of_toOption hscan)
  · rw [Job.run_run]
    dsimp only
    rw [hmake]
    rfl

theorem maxLiteral_lt_size_replicate {n : Nat} (hn : Regex.maxLiteral < n) :
    Regex.maxLiteral < Utf8.size (String.ofList (List.replicate n 'a')).toList := by
  rw [String.toList_ofList, Utf8.size_replicate, show 'a'.utf8Size = 1 from rfl]
  omega

theorem fix_run_shut : ∃ summary, ((Job.standard ".").run World.disk .fix).run World.shut =
    (⟨summary, some ⟨[.scanning], .listing ⟨some "src/pages", .accessDenied⟩⟩⟩, World.shut) := by
  have hmake := Analyzer.make_eq_ok (Job.standard ".").config.bindingAttribute (by decide)
    (Job.standard ".").registry
  rw [Job.run_run, hmake]
  dsimp only
  rw [World.scan_shut]
  exact ⟨_, rfl⟩

/-- A fix fails although there is no candidate: with an attribute of 500000 letters, and in a
directory that does not tell its names. -/
theorem fix_run_long_attribute_or_shut :
    (∃ job summary e,
      Job.make (.withAttribute (String.ofList (List.replicate 500000 'a'))) "." = .ok job ∧
      World.noFiles.tree.kindAt World.noFiles.cwd job.sourceDir = .ok .directory ∧
      (scan World.disk job.sourceDir job.extensions job.config.ignores).run World.noFiles =
        (.ok [], World.noFiles) ∧
      (job.run World.disk .fix).run World.noFiles = (⟨summary, some e⟩, World.noFiles)) ∧
    Job.make .standard "." = .ok (.standard ".") ∧
    World.shut.tree.kindAt World.shut.cwd (Job.standard ".").sourceDir = .ok .directory ∧
    World.shut.tree.children ["src", "pages"] = [] ∧
    ∃ summary, ((Job.standard ".").run World.disk .fix).run World.shut =
      (⟨summary, some ⟨[.scanning], .listing ⟨some "src/pages", .accessDenied⟩⟩⟩, World.shut) := by
  have hlong := fix_run_noFiles (isAttribute_replicate (by decide : 0 < 500000))
    (maxLiteral_lt_size_replicate (by decide))
  exact ⟨hlong, Job.make_standard ".", World.kindAt_shut, by decide, fix_run_shut⟩

end TableGuard
