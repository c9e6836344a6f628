import TableGuard.Command
import TableGuard.Proofs.Config
import TableGuard.Proofs.Convergence
import TableGuard.Proofs.Text.Columns

/-!
# The status of a check

A check never changes a tree. Its exit status says whether it could be carried out, and if so
whether some candidate hands a payload to the setter of a variable that it binds.

* `Unguarded` : a text with an issue, said without patterns;
* `Job.Aborts`, `Job.Flags` : what a check cannot be carried out on, and what it is there to find;
* `check_run_of_aborts`, `check_run_of_not_aborts` : the run of a check;
* `Options.Aborts`, `Options.Flags`, `check_status` : the command.

A check is not carried out if a variable or the attribute is too long for a pattern. Whether its
report can be written is another matter: carets have a greatest column.
-/

namespace TableGuard

/-! ## One text -/

/-- A text that binds a word and hands a payload to its setter. -/
def Unguarded (attr content : String) : Prop :=
  ∃ var, IsWord var ∧ bindingText attr.toList var <:+: content.toList ∧
    ∃ p : Payload, p.call var <:+: content.toList

/-- A candidate with a text that can be analyzed, and what is reported of it. -/
structure World.Examined (world : World) (attr : String) (analyzer : Analyzer) (c : Candidate)
    (content : String) (analysis : Analysis) : Prop where
  read : world.tree.readAt world.cwd c.path = .ok (Utf8.encode content.toList)
  analyze : analyzer.analyze content = .ok analysis
  look : ∃ verdict, world.look analyzer c = .ok verdict
  report?_eq_none_iff : world.report? analyzer c = none ↔ ¬ Unguarded attr content
  issues : ∀ report, world.report? analyzer c = some report → report.issues = analysis.issues

section Text

variable {attr : String} {analyzer : Analyzer} (hattr : PlainAttribute attr.toList)
  (hmake : Analyzer.make attr Registry.builtin = .ok analyzer)
include hattr hmake

theorem unguarded_iff (content : String) : Unguarded attr content ↔
    ∃ site ∈ callsOf (analyzer.boundVariables content), site.1.call site.2 <:+: content.toList := by
  constructor
  · rintro ⟨var, hvar, hbinding, p, hcall⟩
    refine ⟨(p, var), mem_callsOf.2 ⟨String.ofList var, ?_, String.toList_ofList⟩, hcall⟩
    rw [mem_boundVariables hattr hmake, String.toList_ofList]
    exact ⟨hvar, hbinding⟩
  · rintro ⟨⟨p, var⟩, hsite, hcall⟩
    obtain ⟨v, hv, rfl⟩ := mem_callsOf.1 hsite
    rw [mem_boundVariables hattr hmake] at hv
    exact ⟨v.toList, hv.1, hv.2, p, hcall⟩

/-- **An analysis has issues exactly if the text is unguarded.** -/
theorem issues_eq_nil_iff {content : String} {analysis : Analysis}
    (h : analyzer.analyze content = .ok analysis) :
    analysis.issues = [] ↔ ¬ Unguarded attr content := by
  have hfit := callsFit_of_analyze hattr hmake h
  rw [← sitesFit_callsOf_iff hattr hmake] at hfit
  obtain ⟨issues, hanalyze, hfinds⟩ := analyze_of_fit hattr hmake hfit
  have hissues : analysis.issues = [] ↔ issues = [] := by
    rw [Except.ok.inj (h.symm.trans hanalyze)]
    by_cases huses : analyzer.usesBinding content = true
    · rw [if_pos huses]
      rfl
    · rw [if_neg huses]
      refine ⟨fun _ => ?_, fun _ => rfl⟩
      refine hfinds.eq_nil fun site hsite => ?_
      rw [boundVariables_of_not_uses hattr hmake huses] at hsite
      cases hsite
  rw [hissues, unguarded_iff hattr hmake]
  constructor
  · rintro hnil ⟨site, hsite, hcall⟩
    have hmem := (hfinds.sites site).2 ⟨hsite, hcall⟩
    rw [hnil] at hmem
    cases hmem
  · intro hnone
    exact hfinds.eq_nil fun site hsite hcall => hnone ⟨site, hsite, hcall⟩

/-- Carets can be placed below the lines of a text of at most `maxPadding / 3` characters. -/
theorem caretPadding_le_of_length_le {content : String} {analysis : Analysis}
    (h : analyzer.analyze content = .ok analysis)
    (hlength : 3 * content.toList.length ≤ Report.maxPadding) :
    ∀ issue ∈ analysis.issues, Report.caretPadding issue ≤ Report.maxPadding := by
  intro issue hissue
  have hfit := callsFit_of_analyze hattr hmake h
  rw [← sitesFit_callsOf_iff hattr hmake] at hfit
  obtain ⟨issues, hanalyze, hfinds⟩ := analyze_of_fit hattr hmake hfit
  have hmem : issue ∈ issues := by
    rw [Except.ok.inj (h.symm.trans hanalyze)] at hissue
    split_ifs at hissue with huses
    · exact hissue
    · cases hissue
  obtain ⟨before, after, hcontent, hlocation⟩ := hfinds.located issue hmem
  have hline := Location.length_sourceLine_le before after
  have hcaret := caretPadding_le issue
  rw [hlocation] at hcaret
  rw [hcontent] at hline
  omega

theorem examined_of_readAt {world : World} {c : Candidate} {content : String}
    (hread : world.tree.readAt world.cwd c.path = .ok (Utf8.encode content.toList))
    (hfit : CallsFit attr content) : ∃ analysis, world.Examined attr analyzer c content analysis := by
  obtain ⟨analysis, outcome, hanalyze, hfix, -⟩ := exists_pass hattr hmake hfit
  have hlook : world.look analyzer c = .ok (analysis.verdict outcome) :=
    World.look_eq_ok_iff.2
      ⟨content, hread, judge_eq_ok_iff.2 ⟨analysis, outcome, hanalyze, hfix, rfl⟩⟩
  refine ⟨analysis, hread, hanalyze, ⟨_, hlook⟩, ?_, ?_⟩
  · rw [← issues_eq_nil_iff hattr hmake hanalyze, World.report?, hlook]
    cases analysis with
    | notApplicable => exact ⟨fun _ => rfl, fun _ => rfl⟩
    | applicable vars issues =>
      cases issues with
      | nil => exact ⟨fun _ => rfl, fun _ => rfl⟩
      | cons issue issues =>
        constructor
        · intro hnone
          cases hnone
        · intro hnil
          cases hnil
  · intro report hreport
    rw [World.report?, hlook] at hreport
    cases analysis with
    | notApplicable => cases hreport
    | applicable vars issues =>
      cases issues with
      | nil => cases hreport
      | cons issue issues =>
        rw [← Option.some.inj hreport]
        rfl

theorem look_of_error {world : World} {c : Candidate} {bytes : List UInt8}
    (hread : world.tree.readAt world.cwd c.path = .ok bytes)
    (h : (∃ fault, Utf8.decode bytes = .error fault) ∨
      ∃ content : String, Utf8.encode content.toList = bytes ∧ ¬ CallsFit attr content) :
    ∃ e, world.look analyzer c = .error e := by
  cases hlook : world.look analyzer c with
  | error e => exact ⟨e, rfl⟩
  | ok verdict =>
    obtain ⟨content, hcontent, hjudge⟩ := World.look_eq_ok_iff.1 hlook
    obtain ⟨analysis, outcome, hanalyze, -⟩ := judge_eq_ok_iff.1 hjudge
    obtain rfl : bytes = Utf8.encode content.toList := Except.ok.inj (hread.symm.trans hcontent)
    rcases h with ⟨fault, hfault⟩ | ⟨content', hcontent', hfit⟩
    · rw [Utf8.decode_eq_ok_iff.2 rfl] at hfault
      cases hfault
    · rw [String.toList_inj.1 (Utf8.encode_inj.1 hcontent')] at hfit
      exact absurd (callsFit_of_analyze hattr hmake hanalyze) hfit

end Text

/-! ## A run -/

namespace Job

/-- The candidates of a job. -/
def IsCandidate (job : Job) (world : World) (c : Candidate) : Prop :=
  ∃ found, (scan World.disk job.sourceDir job.extensions job.config.ignores).run world =
    (.ok found, world) ∧ c ∈ found

/-- Nothing can be said about a project: there is no source directory, or its names cannot be told,
the attribute is too long for a pattern, or a candidate is no text, or it binds a variable that is
too long for one. -/
def Aborts (job : Job) (world : World) : Prop :=
  world.tree.kindAt world.cwd job.sourceDir ≠ .ok .directory ∨
  (∃ fault, world.tree.namesAt world.cwd job.sourceDir = .error fault) ∨
  (∃ e, Analyzer.make job.config.bindingAttribute Registry.builtin = .error e) ∨
  ∃ c bytes, job.IsCandidate world c ∧ world.tree.readAt world.cwd c.path = .ok bytes ∧
    ((∃ fault, Utf8.decode bytes = .error fault) ∨
      ∃ content : String, Utf8.encode content.toList = bytes ∧
        ¬ CallsFit job.config.bindingAttribute content)

/-- The text of some candidate is unguarded. -/
def Flags (job : Job) (world : World) : Prop :=
  ∃ c, ∃ content : String, job.IsCandidate world c ∧
    world.tree.readAt world.cwd c.path = .ok (Utf8.encode content.toList) ∧
    Unguarded job.config.bindingAttribute content

/-- Every caret of the report can be placed. -/
def CaretsFit (job : Job) (world : World) : Prop :=
  ∀ c (content : String) analyzer analysis, job.IsCandidate world c →
    world.tree.readAt world.cwd c.path = .ok (Utf8.encode content.toList) →
    Analyzer.make job.config.bindingAttribute Registry.builtin = .ok analyzer →
    analyzer.analyze content = .ok analysis →
    ∀ issue ∈ analysis.issues, Report.caretPadding issue ≤ Report.maxPadding

end Job

theorem Job.isCandidate_iff {job : Job} {world : World} {found : List Candidate}
    (h : world.scan job.sourceDir job.extensions job.config.ignores = .ok found) (c : Candidate) :
    job.IsCandidate world c ↔ c ∈ found := by
  unfold Job.IsCandidate
  rw [scan_run, h]
  constructor
  · rintro ⟨found', heq, hc⟩
    rwa [Except.ok.inj (Prod.mk.inj heq).1]
  · intro hc
    exact ⟨found, rfl, hc⟩

theorem World.scan_of_kindAt {world : World} {dir : RawText} (extensions ignores : List String)
    (hdir : world.tree.kindAt world.cwd dir ≠ .ok .directory) :
    ∃ e, world.scan dir extensions ignores = .error e := by
  unfold World.scan World.listNames
  split
  · exact ⟨_, rfl⟩
  · rename_i h
    exact absurd h hdir
  · exact ⟨_, rfl⟩

theorem World.scan_of_namesAt {world : World} {dir : RawText} (extensions : List String)
    {ignores : List String} {fault : ListingFault}
    (hignores : Config.validateIgnores ignores = .ok ())
    (hfault : world.tree.namesAt world.cwd dir = .error fault) :
    ∃ e, world.scan dir extensions ignores = .error e := by
  by_cases hdir : world.tree.kindAt world.cwd dir = .ok .directory
  · obtain ⟨globs, hglobs⟩ := parseIgnores_of_validate hignores
    exact ⟨_, World.scan_of_fault extensions hdir hglobs hfault⟩
  · exact World.scan_of_kindAt extensions ignores hdir

theorem check_run_of_aborts {job : Job} (hjob : job.Plain) {world : World}
    (h : job.Aborts world) :
    ∃ summary e, (job.run World.disk .check).run world = (⟨summary, some e⟩, world) := by
  rw [Job.run_run, hjob.registry]
  cases hmake : Analyzer.make job.config.bindingAttribute Registry.builtin with
  | error e => exact ⟨_, e, rfl⟩
  | ok analyzer =>
    dsimp only
    rcases h with hdir | ⟨fault, hfault⟩ | ⟨e, he⟩ | ⟨c, bytes, ⟨found, hfound, hc⟩, hread, hbad⟩
    · obtain ⟨e, he⟩ := world.scan_of_kindAt job.extensions job.config.ignores hdir
      rw [he]
      exact ⟨_, e, rfl⟩
    · obtain ⟨e, he⟩ := world.scan_of_namesAt job.extensions hjob.ignores hfault
      rw [he]
      exact ⟨_, e, rfl⟩
    · rw [hmake] at he
      cases he
    · rw [scan_run] at hfound
      rw [(Prod.mk.inj hfound).1]
      obtain ⟨e, he⟩ := look_of_error hjob.attr hmake hread hbad
      exact visit_of_error found _ (fun _ verdict _ => update?_check verdict) ⟨c, hc, e, he⟩

theorem text_of_not_aborts {job : Job} {world : World} (h : ¬ job.Aborts world) {c : Candidate}
    (hc : job.IsCandidate world c) : ∃ content : String,
      world.tree.readAt world.cwd c.path = .ok (Utf8.encode content.toList) ∧
        CallsFit job.config.bindingAttribute content := by
  obtain ⟨found, hfound, hmem⟩ := id hc
  rw [scan_run] at hfound
  obtain ⟨bytes, hread⟩ := World.readAt_of_scan (Prod.mk.inj hfound).1 hmem
  cases hdecode : Utf8.decode bytes with
  | error fault =>
    exact absurd (.inr (.inr (.inr ⟨c, bytes, hc, hread, .inl ⟨fault, hdecode⟩⟩))) h
  | ok text =>
    have hbytes : Utf8.encode (String.ofList text).toList = bytes := by
      rw [String.toList_ofList, Utf8.decode_eq_ok_iff.1 hdecode]
    refine ⟨String.ofList text, by rw [hread, hbytes], ?_⟩
    by_contra hfit
    exact h (.inr (.inr (.inr ⟨c, bytes, hc, hread, .inr ⟨_, hbytes, hfit⟩⟩)))

section Reports

variable {attr : String} {analyzer : Analyzer} {world : World} {found : List Candidate}
  (hfound : ∀ c ∈ found, ∃ content analysis, world.Examined attr analyzer c content analysis)
include hfound

theorem reports_eq_nil_iff : found.filterMap (world.report? analyzer) = [] ↔
    ∀ c ∈ found, ∀ content : String,
      world.tree.readAt world.cwd c.path = .ok (Utf8.encode content.toList) →
        ¬ Unguarded attr content := by
  rw [List.filterMap_eq_nil_iff]
  constructor
  · intro hnone c hc content hread
    obtain ⟨content', _, hexamined⟩ := hfound c hc
    have hsame := Utf8.encode_inj.1 (Except.ok.inj (hread.symm.trans hexamined.read))
    rw [String.toList_inj.1 hsame]
    exact hexamined.report?_eq_none_iff.1 (hnone c hc)
  · intro hguarded c hc
    obtain ⟨content, _, hexamined⟩ := hfound c hc
    exact hexamined.report?_eq_none_iff.2 (hguarded c hc content hexamined.read)

theorem fits_reports
    (hcarets : ∀ c ∈ found, ∀ content analysis, world.Examined attr analyzer c content analysis →
      ∀ issue ∈ analysis.issues, Report.caretPadding issue ≤ Report.maxPadding) :
    Report.fits (found.filterMap (world.report? analyzer)) = true := by
  rw [Report.fits, List.all_eq_true]
  rintro ⟨report, issue⟩ hmem
  rw [Report.issuesWithFiles, List.mem_flatMap] at hmem
  obtain ⟨report', hreport', hpair⟩ := hmem
  obtain ⟨issue', hissue, heq⟩ := List.mem_map.1 hpair
  obtain ⟨rfl, rfl⟩ := Prod.mk.inj heq
  obtain ⟨c, hc, hreport⟩ := List.mem_filterMap.1 hreport'
  obtain ⟨content, analysis, hexamined⟩ := hfound c hc
  rw [hexamined.issues _ hreport] at hissue
  exact decide_eq_true (hcarets c hc content analysis hexamined _ hissue)

theorem quiet_of_examined : ∀ c ∈ found, world.Quiet analyzer .check c := by
  intro c hc
  obtain ⟨_, _, hexamined⟩ := hfound c hc
  obtain ⟨verdict, hlook⟩ := hexamined.look
  exact ⟨verdict, hlook, update?_check verdict⟩

end Reports

/-- A check that can be carried out reports files exactly if some candidate is unguarded. -/
theorem check_run_of_not_aborts {job : Job} (hjob : job.Plain) {world : World}
    (h : ¬ job.Aborts world) :
    ∃ summary, (job.run World.disk .check).run world = (⟨summary, none⟩, world) ∧
      summary.mode = .check ∧ (summary.files = [] ↔ ¬ job.Flags world) ∧
      (job.CaretsFit world → Report.fits summary.files = true) := by
  have htext := fun c hc => text_of_not_aborts h (c := c) hc
  unfold Job.Aborts at h
  rw [not_or, not_or, not_or, not_not, not_exists, not_exists] at h
  obtain ⟨hdir, hlisted, hattr, -⟩ := h
  obtain ⟨names, hnames⟩ : ∃ names, world.tree.namesAt world.cwd job.sourceDir = .ok names := by
    cases hcase : world.tree.namesAt world.cwd job.sourceDir with
    | error fault => exact absurd hcase (hlisted fault)
    | ok names => exact ⟨names, rfl⟩
  cases hmake : Analyzer.make job.config.bindingAttribute Registry.builtin with
  | error e => exact absurd hmake (hattr e)
  | ok analyzer =>
    obtain ⟨found, hscan⟩ := World.exists_scan job.extensions hdir hnames hjob.ignores
    have hcandidate := Job.isCandidate_iff hscan
    have hfound : ∀ c ∈ found, ∃ content analysis,
        world.Examined job.config.bindingAttribute analyzer c content analysis := by
      intro c hc
      obtain ⟨content, hread, hfit⟩ := htext c ((hcandidate c).2 hc)
      exact ⟨content, examined_of_readAt hjob.attr hmake hread hfit⟩
    obtain ⟨summary, hrun, hmode, -, -, hfiles⟩ :=
      visit_of_quiet found (.start .check job.sourceDir) (quiet_of_examined hfound)
    rw [show (Summary.start .check job.sourceDir).files = [] from rfl, List.nil_append] at hfiles
    refine ⟨summary, ?_, hmode, ?_, ?_⟩
    · rw [Job.run_run, hjob.registry, hmake]
      dsimp only
      rw [hscan]
      exact hrun
    · rw [hfiles, reports_eq_nil_iff hfound]
      constructor
      · rintro hguarded ⟨c, content, hc, hread, hunguarded⟩
        exact hguarded c ((hcandidate c).1 hc) content hread hunguarded
      · intro hflags c hc content hread hunguarded
        exact hflags ⟨c, content, (hcandidate c).2 hc, hread, hunguarded⟩
    · intro hcarets
      rw [hfiles]
      refine fits_reports hfound fun c hc content analysis hexamined => ?_
      exact hcarets c content analyzer analysis ((hcandidate c).2 hc) hexamined.read hmake
        hexamined.analyze

/-! ## The command -/

/-- The exit status, unless the report cannot be written. -/
def Finish.status? : Finish → Option Nat
  | .exit status _ _ => some status
  | .broken _ _ => none

theorem RunResult.status?_of_error (wording : Wording) (color verbose : Bool) (notes : String)
    (summary : Summary) (e : Error) :
    (RunResult.finish wording color verbose notes ⟨summary, some e⟩).status? = some 2 := rfl

theorem RunResult.status?_of_check {summary : Summary} (hmode : summary.mode = .check)
    (wording : Wording) (color verbose : Bool) (notes : String) :
    (RunResult.finish wording color verbose notes ⟨summary, none⟩).status? =
      if summary.files = [] then some 0
      else if Report.fits summary.files then some 1 else none := by
  unfold RunResult.finish Report.render
  by_cases hfits : Report.fits summary.files = true
  · simp only [if_pos hfits, Finish.status?]
    rw [Summary.status, hmode, Summary.problemFiles]
    cases summary.files <;> rfl
  · have hne : summary.files ≠ [] := by
      intro hnil
      rw [hnil] at hfits
      exact hfits rfl
    simp only [if_neg hfits, if_neg hne, Finish.status?]

/-- What the status says about the project. -/
structure Tells (status? : Option Nat) (aborts flags caretsFit : Prop) : Prop where
  two : status? = some 2 ↔ aborts
  zero : ¬ aborts → (status? = some 0 ↔ ¬ flags)
  one : ¬ aborts → caretsFit → (status? = some 1 ↔ flags)

/-- **The status of the check of a job.** -/
theorem tells_of_check {job : Job} (hjob : job.Plain) (world : World) (wording : Wording)
    (color verbose : Bool) (notes : String) :
    ∃ result, (job.run World.disk .check).run world = (result, world) ∧
      Tells (result.finish wording color verbose notes).status? (job.Aborts world)
        (job.Flags world) (job.CaretsFit world) := by
  by_cases h : job.Aborts world
  · obtain ⟨summary, e, hrun⟩ := check_run_of_aborts hjob h
    refine ⟨_, hrun, ?_⟩
    rw [RunResult.status?_of_error]
    exact ⟨⟨fun _ => h, fun _ => rfl⟩, fun hn => absurd h hn, fun hn => absurd h hn⟩
  · obtain ⟨summary, hrun, hmode, hfiles, hfits⟩ := check_run_of_not_aborts hjob h
    refine ⟨_, hrun, ?_⟩
    rw [RunResult.status?_of_check hmode]
    by_cases hnil : summary.files = []
    · have hno := hfiles.1 hnil
      rw [if_pos hnil]
      exact ⟨⟨nofun, fun hn => absurd hn h⟩, fun _ => ⟨fun _ => hno, fun _ => rfl⟩,
        fun _ _ => ⟨nofun, fun hyes => absurd hyes hno⟩⟩
    · have hyes : job.Flags world := not_not.1 fun hno => hnil (hfiles.2 hno)
      rw [if_neg hnil]
      refine ⟨⟨fun hstatus => ?_, fun hn => absurd hn h⟩,
        fun _ => ⟨fun hstatus => ?_, fun hno => absurd hyes hno⟩, fun _ hcarets => ?_⟩
      · split at hstatus <;> cases hstatus
      · split at hstatus <;> cases hstatus
      · rw [if_pos (hfits hcarets)]
        exact ⟨fun _ => hyes, fun _ => rfl⟩

namespace Options

/-- The job of a command line, if the settings can be loaded. -/
def Sets (options : Options) (world : World) (job : Job) : Prop :=
  ∃ loaded, (Config.load World.disk options.root).run world = (.ok loaded, world) ∧
    options.job loaded.config = .ok job

/-- The settings cannot be loaded, or nothing can be said about the project. -/
def Aborts (options : Options) (world : World) : Prop :=
  (∃ e, (Config.load World.disk options.root).run world = (.error e, world)) ∨
    ∃ job, options.Sets world job ∧ job.Aborts world

/-- The text of some candidate is unguarded. -/
def Flags (options : Options) (world : World) : Prop :=
  ∃ job, options.Sets world job ∧ job.Flags world

/-- Every caret of the report can be placed. -/
def CaretsFit (options : Options) (world : World) : Prop :=
  ∀ job, options.Sets world job → job.CaretsFit world

theorem Sets.iff {options : Options} {world : World} {job : Job} (h : options.Sets world job)
    (job' : Job) : options.Sets world job' ↔ job' = job := by
  constructor
  · rintro ⟨loaded', hload', hjob'⟩
    obtain ⟨loaded, hload, hjob⟩ := h
    rw [hload] at hload'
    rw [← Except.ok.inj (Prod.mk.inj hload').1, hjob] at hjob'
    exact (Except.ok.inj hjob').symm
  · rintro rfl
    exact h

theorem Sets.aborts_iff {options : Options} {world : World} {job : Job}
    (h : options.Sets world job) : options.Aborts world ↔ job.Aborts world := by
  unfold Aborts
  simp only [h.iff, exists_eq_left]
  refine ⟨fun hor => hor.resolve_left ?_, .inr⟩
  rintro ⟨e, he⟩
  obtain ⟨loaded, hload, -⟩ := h
  rw [hload] at he
  cases (Prod.mk.inj he).1

theorem Sets.flags_iff {options : Options} {world : World} {job : Job}
    (h : options.Sets world job) : options.Flags world ↔ job.Flags world := by
  simp only [Flags, h.iff, exists_eq_left]

theorem Sets.caretsFit_iff {options : Options} {world : World} {job : Job}
    (h : options.Sets world job) : options.CaretsFit world ↔ job.CaretsFit world := by
  simp only [CaretsFit, h.iff, forall_eq]

theorem job_of_validate (options : Options) {config : Config} (h : config.validate = .ok ()) :
    ∃ job, options.job config = .ok job := by
  have hvalid : Config.validate { config with
      sourceRoot := (options.sourceRoot.map RawText.lossy).getD config.sourceRoot } = .ok () := h
  exact ⟨_, Job.make_eq_ok_iff.2 ⟨hvalid, rfl⟩⟩

theorem exists_job (options : Options) {config : Config} (h : config.validate = .ok ())
    (hrules : config.patterns = []) : ∃ job, options.job config = .ok job ∧ job.Plain := by
  obtain ⟨job, hjob⟩ := options.job_of_validate h
  exact ⟨job, hjob, (Job.plain_of_make hjob hrules).1⟩

end Options

/-- **The status of a check.** Take a command line and a tree for which the settings that apply have
no rules of their own. The check leaves the tree as it is. It exits with 2 exactly if the settings
cannot be loaded or nothing can be said about the project. Otherwise it exits with 0 exactly if no
candidate is unguarded, and with 1 exactly if some candidate is, provided that the carets of its
report can be placed. -/
theorem check_status (wording : Wording) (color : Bool) (options : Options) (world : World)
    (hrules : ∀ loaded, (Config.load World.disk options.root).run world = (.ok loaded, world) →
      loaded.config.patterns = []) :
    ∃ finish, (runCommand wording World.disk color .check options).run world = (finish, world) ∧
      (finish.status? = some 2 ↔ options.Aborts world) ∧
      (¬ options.Aborts world →
        (finish.status? = some 0 ↔ ¬ options.Flags world) ∧
        (options.CaretsFit world → (finish.status? = some 1 ↔ options.Flags world))) := by
  obtain ⟨result, hload, hvalid⟩ := load_run world options.root
  unfold runCommand
  rw [bind_run hload]
  cases result with
  | error e =>
    refine ⟨_, rfl, ⟨fun _ => .inl ⟨e, hload⟩, fun _ => rfl⟩, ?_⟩
    exact fun h => absurd (.inl ⟨e, hload⟩) h
  | ok loaded =>
    obtain ⟨job, hjob, hplain⟩ := options.exists_job (hvalid loaded rfl) (hrules loaded hload)
    have hsets : options.Sets world job := ⟨loaded, hload, hjob⟩
    dsimp only
    rw [hjob, hsets.aborts_iff, hsets.flags_iff, hsets.caretsFit_iff]
    dsimp only
    obtain ⟨result, hrun, htells⟩ := tells_of_check hplain world wording color options.verbose
      (noteIf (options.verbose && !loaded.fromFile) (Report.standardNote color))
    rw [bind_run hrun]
    exact ⟨_, rfl, htells.two, fun h => ⟨htells.zero h, htells.one h⟩⟩

/-! ## Two names for one file -/

theorem sets_twoNames (content : String) :
    Options.start.Sets (World.twoNames content) (.standard ".") :=
  ⟨_, World.load_twoNames content, Job.make_standard "."⟩

theorem readAt_twoNames {content : String} {c : Candidate}
    (hc : (Job.standard ".").IsCandidate (World.twoNames content) c) :
    (World.twoNames content).tree.readAt (World.twoNames content).cwd c.path =
      .ok (Utf8.encode content.toList) := by
  have hplace : (World.twoNames "").tree.resolve (World.twoNames "").cwd c.path =
      .ok ["src", "pages", "a.tsx"] := by
    rw [Job.isCandidate_iff (World.scan_twoNames content)] at hc
    simp only [List.mem_cons, List.not_mem_nil, or_false] at hc
    rcases hc with rfl | rfl <;> decide +kernel
  rw [← (World.alike_twoNames content "").resolve] at hplace
  exact Tree.readAt_eq_ok_iff.2 ⟨_, hplace, World.lookup_twoNames content⟩

theorem isCandidate_twoNames (content : String) :
    (Job.standard ".").IsCandidate (World.twoNames content) ⟨"a.tsx", "src/pages/a.tsx"⟩ := by
  rw [Job.isCandidate_iff (World.scan_twoNames content)]
  exact List.mem_cons_self

theorem kindAt_twoNames (content : String) :
    (World.twoNames content).tree.kindAt (World.twoNames content).cwd (Job.standard ".").sourceDir =
      .ok .directory := by
  rw [(World.alike_twoNames content "").kindAt]
  decide

theorem namesAt_twoNames (content : String) (fault : ListingFault) :
    (World.twoNames content).tree.namesAt (World.twoNames content).cwd
      (Job.standard ".").sourceDir ≠ .error fault := by
  have hlisted : ((World.twoNames "").tree.namesAt (World.twoNames "").cwd
      (Job.standard ".").sourceDir).toOption.isSome = true := by decide +kernel
  rw [(World.alike_twoNames content "").namesAt]
  intro hfault
  rw [hfault] at hlisted
  cases hlisted

theorem aborts_twoNames_iff (content : String) :
    (Job.standard ".").Aborts (World.twoNames content) ↔ ¬ CallsFit "dataSource" content := by
  constructor
  · rintro (hdir | ⟨fault, hfault⟩ | ⟨e, he⟩ | ⟨c, bytes, hc, hread, hbad⟩)
    · exact absurd (kindAt_twoNames content) hdir
    · exact absurd hfault (namesAt_twoNames content fault)
    · rw [Analyzer.make_eq_ok (Job.standard ".").config.bindingAttribute (by decide)] at he
      cases he
    · obtain rfl := Except.ok.inj (hread.symm.trans (readAt_twoNames hc))
      rcases hbad with ⟨fault, hfault⟩ | ⟨content', hcontent', hfit⟩
      · rw [Utf8.decode_eq_ok_iff.2 rfl] at hfault
        cases hfault
      · rwa [String.toList_inj.1 (Utf8.encode_inj.1 hcontent')] at hfit
  · intro hfit
    have hc := isCandidate_twoNames content
    exact .inr (.inr (.inr ⟨_, _, hc, readAt_twoNames hc, .inr ⟨content, rfl, hfit⟩⟩))

theorem caretsFit_twoNames {content : String}
    (hlength : 3 * content.toList.length ≤ Report.maxPadding) :
    (Job.standard ".").CaretsFit (World.twoNames content) := by
  obtain ⟨⟨-, hattr, -⟩, -⟩ := Job.plain_of_make (Job.make_standard ".") rfl
  intro c content' analyzer analysis hc hread hmake hanalyze
  have hsame := Utf8.encode_inj.1 (Except.ok.inj (hread.symm.trans (readAt_twoNames hc)))
  rw [String.toList_inj.1 hsame] at hanalyze
  exact caretPadding_le_of_length_le hattr hmake hanalyze hlength

/-- The check of a tree with an issue says so. -/
theorem check_status_twoNames : ∃ finish,
    (runCommand .plain World.disk false .check .start).run
      (World.twoNames "<Table dataSource={rows}/> setrows(response.data)") =
        (finish, World.twoNames "<Table dataSource={rows}/> setrows(response.data)") ∧
      finish.status? = some 1 := by
  have hsets := sets_twoNames "<Table dataSource={rows}/> setrows(response.data)"
  have hfit : CallsFit "dataSource" "<Table dataSource={rows}/> setrows(response.data)" :=
    callsFit_of_size_le _ (by decide)
  have haborts := mt (aborts_twoNames_iff _).1 (not_not.2 hfit)
  have hc := isCandidate_twoNames "<Table dataSource={rows}/> setrows(response.data)"
  have hflags : (Job.standard ".").Flags
      (World.twoNames "<Table dataSource={rows}/> setrows(response.data)") :=
    ⟨_, _, hc, readAt_twoNames hc, "rows".toList, by decide +kernel, by decide +kernel, .data,
      by decide +kernel⟩
  have hrules : ∀ loaded, (Config.load World.disk Options.start.root).run
      (World.twoNames "<Table dataSource={rows}/> setrows(response.data)") =
        (.ok loaded, World.twoNames "<Table dataSource={rows}/> setrows(response.data)") →
      loaded.config.patterns = [] := by
    intro loaded hloaded
    rw [show Options.start.root = "." from rfl, World.load_twoNames] at hloaded
    rw [← Except.ok.inj (Prod.mk.inj hloaded).1]
    rfl
  obtain ⟨finish, hrun, -, hrest⟩ := check_status .plain false .start _ hrules
  rw [hsets.aborts_iff, hsets.flags_iff, hsets.caretsFit_iff] at hrest
  obtain ⟨-, hone⟩ := hrest haborts
  exact ⟨finish, hrun, (hone (caretsFit_twoNames (by decide))).2 hflags⟩

theorem check_of_aborts {world : World}
    (hload : (Config.load World.disk ".").run world = (.ok ⟨.standard, false⟩, world))
    (haborts : (Job.standard ".").Aborts world) (wording : Wording) : ∃ finish,
    (runCommand wording World.disk false .check .start).run world = (finish, world) ∧
      finish.status? = some 2 := by
  obtain ⟨hplain, -⟩ := Job.plain_of_make (Job.make_standard ".") rfl
  obtain ⟨summary, e, hrun⟩ := check_run_of_aborts hplain haborts
  have hjob : Options.start.job .standard = .ok (.standard ".") := Job.make_standard "."
  unfold runCommand
  rw [show Options.start.root = "." from rfl, bind_run hload]
  dsimp only
  rw [hjob]
  dsimp only
  rw [bind_run hrun]
  exact ⟨_, rfl, RunResult.status?_of_error _ _ _ _ _ _⟩

theorem load_shut :
    (Config.load World.disk ".").run World.shut = (.ok ⟨.standard, false⟩, World.shut) := by
  have hnone : ((Config.findIn World.disk (Path.ancestors ".")).run World.shut).1 = none := by
    decide
  exact World.load_of_alike ⟨rfl, rfl⟩ hnone

theorem not_isCandidate_shut (c : Candidate) : ¬ (Job.standard ".").IsCandidate World.shut c := by
  rintro ⟨found, hfound, -⟩
  rw [scan_run, World.scan_shut] at hfound
  cases (Prod.mk.inj hfound).1

/-- A check fails although the settings are there, and so are the source directory and texts only:
for a word of 500000 letters, and in a directory that does not tell its names. -/
theorem check_long_variable_or_shut :
    (∃ content : String,
      content.toList = bindingText "dataSource".toList (List.replicate 500000 'a') ∧
      Options.start.Sets (World.twoNames content) (.standard ".") ∧
      (World.twoNames content).tree.kindAt (World.twoNames content).cwd
        (Job.standard ".").sourceDir = .ok .directory ∧
      (∀ c, (Job.standard ".").IsCandidate (World.twoNames content) c →
        (World.twoNames content).tree.readAt (World.twoNames content).cwd c.path =
          .ok (Utf8.encode content.toList)) ∧
      ∀ wording, ∃ finish,
        (runCommand wording World.disk false .check .start).run (World.twoNames content) =
          (finish, World.twoNames content) ∧ finish.status? = some 2) ∧
    Options.start.Sets World.shut (.standard ".") ∧
    World.shut.tree.kindAt World.shut.cwd (Job.standard ".").sourceDir = .ok .directory ∧
    (∀ c, ¬ (Job.standard ".").IsCandidate World.shut c) ∧
    ∀ wording, ∃ finish,
      (runCommand wording World.disk false .check .start).run World.shut =
        (finish, World.shut) ∧ finish.status? = some 2 := by
  have hfit := not_callsFit_replicate "dataSource" (n := 500000) (by decide)
  have hlong := check_of_aborts (World.load_twoNames _) ((aborts_twoNames_iff _).2 hfit)
  have haborts : (Job.standard ".").Aborts World.shut := .inr (.inl ⟨_, World.namesAt_shut⟩)
  exact ⟨⟨_, String.toList_ofList, sets_twoNames _, kindAt_twoNames _,
      fun c hc => readAt_twoNames hc, hlong⟩,
    ⟨_, load_shut, Job.make_standard "."⟩, World.kindAt_shut, not_isCandidate_shut,
    check_of_aborts load_shut haborts⟩

end TableGuard
