import TableGuard.Proofs.Config
import TableGuard.Proofs.Convergence

/-!
# Running again after a fix

A run in fix mode that ends without an error leaves nothing to do. Several candidates may lead to
one file, which is then met again after it was written to; the text is the same as if it had been
met once.

* `Fixed` : one pass over the text of a file;
* `Fixed.again` : nothing is found in a text after a pass;
* `Progress` : the state of the tree in the middle of a run;
* `Progress.step`, `progress_of_visit` : what one candidate does to it, and all of them;
* `run_again` : the run after a run.
-/

namespace TableGuard

/-! ## One pass over a file -/

theorem fixIssue_eq_ok {start outcome : Outcome} {issue : Issue}
    (h : fixIssue start issue = .ok outcome) : outcome = start ∨ outcome.changes ≠ [] := by
  obtain ⟨detector, -, h⟩ := bind_eq_ok_iff.1 h
  dsimp only at h
  split at h
  · exact .inl (Except.ok.inj h).symm
  · right
    rw [← Except.ok.inj h]
    simp

/-- A text that was changed has a change to show for it. -/
theorem foldlM_fixIssue_eq_ok {issues : List Issue} {start outcome : Outcome}
    (h : issues.foldlM fixIssue start = .ok outcome) (hnone : outcome.changes = []) :
    outcome = start := by
  induction issues generalizing start with
  | nil => exact (Except.ok.inj h).symm
  | cons issue issues ih =>
    rw [List.foldlM_cons] at h
    obtain ⟨mid, hmid, hrest⟩ := bind_eq_ok_iff.1 h
    have hsame := ih hrest
    rcases fixIssue_eq_ok hmid with heq | hne
    · rw [hsame, heq]
    · rw [← hsame] at hne
      exact absurd hnone hne

theorem update?_verdict {content : String} {analysis : Analysis} {outcome : Outcome}
    (hfix : fixContent content analysis.issues = .ok outcome) :
    Mode.fix.update? (analysis.verdict outcome) =
      if outcome.isChanged then some outcome.content else none := by
  cases analysis with
  | notApplicable =>
    obtain rfl := Except.ok.inj hfix
    rfl
  | applicable vars issues =>
    cases issues with
    | nil =>
      obtain rfl := Except.ok.inj hfix
      rfl
    | cons issue issues =>
      change (if (true && outcome.isChanged) = true then _ else _) = _
      rw [Bool.true_and]

/-- The bytes of a text, and those of the text after one pass of analyzing and fixing. -/
def Fixed (analyzer : Analyzer) (bytes bytes' : List UInt8) : Prop :=
  ∃ (content : String) (analysis : Analysis) (outcome : Outcome),
    Utf8.encode content.toList = bytes ∧ analyzer.analyze content = .ok analysis ∧
      fixContent content analysis.issues = .ok outcome ∧
      Utf8.encode outcome.content.toList = bytes'

theorem Analysis.report?_verdict_cleared (analysis : Analysis) (outcome : Outcome) (c : Candidate) :
    (analysis.cleared.verdict outcome).report? c = none := by
  cases analysis <;> rfl

theorem Verdict.update?_of_report? {verdict : Verdict} {c : Candidate}
    (h : verdict.report? c = none) (mode : Mode) : mode.update? verdict = none := by
  cases verdict with
  | flawed issues outcome => cases h
  | _ => rfl

/-- **Nothing is found in a text after a pass**, and it mentions the attribute as before. -/
theorem Fixed.again {attr : String} {analyzer : Analyzer} (hattr : PlainAttribute attr.toList)
    (hmake : Analyzer.make attr Registry.builtin = .ok analyzer) {bytes bytes' : List UInt8}
    (h : Fixed analyzer bytes bytes') :
    ∃ (content content' : String) (verdict : Verdict),
      Utf8.encode content.toList = bytes ∧ Utf8.encode content'.toList = bytes' ∧
      analyzer.judge content' = .ok verdict ∧ (∀ c, verdict.report? c = none) ∧
      analyzer.usesBinding content' = analyzer.usesBinding content := by
  obtain ⟨content, analysis, outcome, hbytes, hanalyze, hfix, hbytes'⟩ := h
  have hfit := callsFit_of_analyze hattr hmake hanalyze
  obtain ⟨analysis', outcome', hanalyze', hfix', hagain, -⟩ := exists_pass hattr hmake hfit
  obtain rfl : analysis' = analysis := Except.ok.inj (hanalyze'.symm.trans hanalyze)
  obtain rfl : outcome' = outcome := Except.ok.inj (hfix'.symm.trans hfix)
  refine ⟨content, outcome'.content, analysis'.cleared.verdict ⟨outcome'.content, []⟩, hbytes,
    hbytes', ?_, analysis'.report?_verdict_cleared _, ?_⟩
  · refine judge_eq_ok_iff.2 ⟨analysis'.cleared, _, hagain, ?_, rfl⟩
    rw [analysis'.issues_cleared]
    rfl
  · rw [← isApplicable_of_analyze hanalyze, ← isApplicable_of_analyze hagain]
    cases analysis' <;> rfl

/-! ## In the middle of a run -/

/-- The state of a tree after some candidates were visited: their files are fixed, whichever of them
led there first, and nothing else has changed. -/
structure Progress (analyzer : Analyzer) (world : World) (visited : List Candidate)
    (world' : World) : Prop where
  alike : world'.Alike world
  fixed : ∀ c ∈ visited, ∃ place bytes bytes', world.tree.resolve world.cwd c.path = .ok place ∧
    world.tree.lookup place = some (.file bytes) ∧
    world'.tree.lookup place = some (.file bytes') ∧ Fixed analyzer bytes bytes'
  kept : ∀ place, (∀ c ∈ visited, world.tree.resolve world.cwd c.path ≠ .ok place) →
    world'.tree.lookup place = world.tree.lookup place

namespace Progress

variable {analyzer : Analyzer} {world world' : World} {visited : List Candidate}

theorem refl (analyzer : Analyzer) (world : World) : Progress analyzer world [] world :=
  ⟨⟨rfl, rfl⟩, fun _ h => absurd h List.not_mem_nil, fun _ _ => rfl⟩

theorem extend (h : Progress analyzer world visited world') {c : Candidate} {place : Tree.Place}
    {bytes bytes' : List UInt8} (hplace : world.tree.resolve world.cwd c.path = .ok place)
    (hbytes : world.tree.lookup place = some (.file bytes))
    (hbytes' : world'.tree.lookup place = some (.file bytes'))
    (hfixed : Fixed analyzer bytes bytes') : Progress analyzer world (visited ++ [c]) world' where
  alike := h.alike
  fixed c' hc' := by
    rcases List.mem_append.1 hc' with hc' | hc'
    · exact h.fixed c' hc'
    · rw [List.mem_singleton.1 hc']
      exact ⟨place, bytes, bytes', hplace, hbytes, hbytes', hfixed⟩
  kept place hnone := h.kept place fun c' hc' => hnone c' (List.mem_append_left _ hc')

theorem write (h : Progress analyzer world visited world') {c : Candidate} {place : Tree.Place}
    {bytes bytes' : List UInt8} (hplace : world.tree.resolve world.cwd c.path = .ok place)
    (hnew : ∀ c' ∈ visited, world.tree.resolve world.cwd c'.path ≠ .ok place)
    (hbytes : world.tree.lookup place = some (.file bytes)) (hfixed : Fixed analyzer bytes bytes') :
    Progress analyzer world (visited ++ [c])
      { world' with tree := world'.tree.set place (.file bytes') } := by
  have hfile : world'.tree.lookup place = some (.file bytes) := by rw [h.kept place hnew, hbytes]
  refine ⟨⟨(Tree.shape_set hfile).trans h.alike.shape, h.alike.cwd⟩, ?_, ?_⟩
  · intro c' hc'
    rcases List.mem_append.1 hc' with hc' | hc'
    · obtain ⟨place', b, b', hplace', hb, hb', hfixed'⟩ := h.fixed c' hc'
      refine ⟨place', b, b', hplace', hb, ?_, hfixed'⟩
      have hne : place' ≠ place := fun heq => hnew c' hc' (heq ▸ hplace')
      rw [Tree.lookup_set hfile, if_neg hne, hb']
    · rw [List.mem_singleton.1 hc']
      refine ⟨place, bytes, bytes', hplace, hbytes, ?_, hfixed⟩
      rw [Tree.lookup_set hfile, if_pos rfl]
  · intro q hnone
    have hne : q ≠ place := by
      rintro rfl
      exact hnone c (List.mem_append_right _ (List.mem_singleton_self _)) hplace
    rw [Tree.lookup_set hfile, if_neg hne]
    exact h.kept q fun c' hc' => hnone c' (List.mem_append_left _ hc')

section Step

variable {attr : String} (hattr : PlainAttribute attr.toList)
  (hmake : Analyzer.make attr Registry.builtin = .ok analyzer)
include hattr hmake

/-- Nothing is found at a candidate that leads to a file that is fixed already. -/
theorem look_of_visited (h : Progress analyzer world visited world') {c c' : Candidate}
    (hc' : c' ∈ visited) (hsame : world.tree.resolve world.cwd c.path =
      world.tree.resolve world.cwd c'.path) :
    ∃ verdict, world'.look analyzer c = .ok verdict ∧ verdict.report? c = none ∧
      world'.mentions analyzer c = world.mentions analyzer c ∧
      Progress analyzer world (visited ++ [c]) world' := by
  obtain ⟨place, bytes, bytes', hplace, hbytes, hbytes', hfixed⟩ := h.fixed c' hc'
  rw [← hsame] at hplace
  obtain ⟨content, content', verdict, rfl, rfl, hjudge, hreport, huses⟩ := hfixed.again hattr hmake
  have hread := Tree.readAt_eq_ok_iff.2 ⟨place, hplace, hbytes⟩
  have hread' := Tree.readAt_eq_ok_iff.2 ⟨place, (h.alike.resolve c.path).trans hplace, hbytes'⟩
  refine ⟨verdict, World.look_eq_ok_iff.2 ⟨content', hread', hjudge⟩, hreport c, ?_,
    h.extend hplace hbytes hbytes' hfixed⟩
  rw [World.mentions_of_readAt hread, World.mentions_of_readAt hread', huses]

omit hattr hmake in
/-- A candidate that is the first to lead to its file: the file is written to if need be. -/
theorem step_of_new (h : Progress analyzer world visited world') {c : Candidate} {verdict : Verdict}
    (hlook : world'.look analyzer c = .ok verdict)
    (hnew : ∀ c' ∈ visited, world.tree.resolve world.cwd c.path ≠
      world.tree.resolve world.cwd c'.path) :
    world'.mentions analyzer c = world.mentions analyzer c ∧
    (Mode.fix.update? verdict = none → Progress analyzer world (visited ++ [c]) world') ∧
    ∀ content tree, Mode.fix.update? verdict = some content →
      world'.tree.writeAt world'.cwd c.path (Utf8.encode content.toList) = .ok tree →
      Progress analyzer world (visited ++ [c]) { world' with tree := tree } := by
  obtain ⟨content, hread', hjudge⟩ := World.look_eq_ok_iff.1 hlook
  obtain ⟨place, hplace', hfile'⟩ := Tree.readAt_eq_ok_iff.1 hread'
  have hplace : world.tree.resolve world.cwd c.path = .ok place :=
    (h.alike.resolve c.path).symm.trans hplace'
  have hnew' : ∀ c' ∈ visited, world.tree.resolve world.cwd c'.path ≠ .ok place :=
    fun c' hc' heq => hnew c' hc' (hplace.trans heq.symm)
  have hfile : world.tree.lookup place = some (.file (Utf8.encode content.toList)) := by
    rw [← h.kept place hnew', hfile']
  have hread := Tree.readAt_eq_ok_iff.2 ⟨place, hplace, hfile⟩
  obtain ⟨analysis, outcome, hanalyze, hfix, rfl⟩ := judge_eq_ok_iff.1 hjudge
  have hfixed : Fixed analyzer (Utf8.encode content.toList)
      (Utf8.encode outcome.content.toList) := ⟨content, analysis, outcome, rfl, hanalyze, hfix, rfl⟩
  rw [update?_verdict hfix]
  refine ⟨?_, ?_, ?_⟩
  · rw [World.mentions_of_readAt hread, World.mentions_of_readAt hread']
  · -- A pass that changes nothing has left the text it was given, and that is the fixed text.
    intro hnone
    have hchanges : outcome.changes = [] := by
      cases hchanges : outcome.changes with
      | nil => rfl
      | cons change changes =>
        rw [Outcome.isChanged, hchanges] at hnone
        cases hnone
    have hsame : outcome.content = content := by rw [foldlM_fixIssue_eq_ok hfix hchanges]
    rw [hsame] at hfixed
    exact h.extend hplace hfile hfile' hfixed
  · intro text tree hsome hwrite
    split at hsome
    · obtain rfl := Option.some.inj hsome
      obtain ⟨target, htarget, -, rfl⟩ := Tree.writeAt_of_readAt hread' hwrite
      obtain rfl : target = place := Except.ok.inj (htarget.symm.trans hplace')
      exact h.write hplace hnew' hfile hfixed
    · cases hsome

/-- **One candidate.** -/
theorem step (h : Progress analyzer world visited world') {c : Candidate} {verdict : Verdict}
    (hlook : world'.look analyzer c = .ok verdict) :
    world'.mentions analyzer c = world.mentions analyzer c ∧
    (Mode.fix.update? verdict = none → Progress analyzer world (visited ++ [c]) world') ∧
    ∀ content tree, Mode.fix.update? verdict = some content →
      world'.tree.writeAt world'.cwd c.path (Utf8.encode content.toList) = .ok tree →
      Progress analyzer world (visited ++ [c]) { world' with tree := tree } := by
  by_cases hseen : ∃ c' ∈ visited, world.tree.resolve world.cwd c.path =
      world.tree.resolve world.cwd c'.path
  · -- Another name for a file that was visited: there is nothing left to write.
    obtain ⟨c', hc', hsame⟩ := hseen
    obtain ⟨verdict', hlook', hreport, hmentions, hnext⟩ :=
      h.look_of_visited hattr hmake hc' hsame
    obtain rfl : verdict' = verdict := Except.ok.inj (hlook'.symm.trans hlook)
    refine ⟨hmentions, fun _ => hnext, ?_⟩
    intro content tree hsome
    rw [Verdict.update?_of_report? hreport] at hsome
    cases hsome
  · refine h.step_of_new hlook fun c' hc' hsame => hseen ⟨c', hc', hsame⟩

end Step

end Progress

/-! ## The whole run -/

/-- **All candidates**, if no error ends the visit. -/
theorem progress_of_visit {attr : String} {analyzer : Analyzer} (hattr : PlainAttribute attr.toList)
    (hmake : Analyzer.make attr Registry.builtin = .ok analyzer) {world : World} :
    ∀ (cs visited : List Candidate) (s s' : Summary) (world₁ world₂ : World), s.mode = .fix →
      Progress analyzer world visited world₁ →
      (visit World.disk analyzer cs s).run world₁ = (⟨s', none⟩, world₂) →
      Progress analyzer world (visited ++ cs) world₂ ∧ s'.scanned = s.scanned + cs.length ∧
        s'.binding = s.binding + cs.countP (world.mentions analyzer)
  | [], visited, s, s', world₁, world₂, _, hprogress, hrun => by
    rw [visit_nil_run] at hrun
    obtain ⟨hs, rfl⟩ := Prod.mk.inj hrun
    obtain ⟨rfl, -⟩ := RunResult.mk.inj hs
    rw [List.append_nil]
    exact ⟨hprogress, rfl, rfl⟩
  | c :: cs, visited, s, s', world₁, world₂, hmode, hprogress, hrun => by
    rw [visit_cons_run, hmode] at hrun
    cases hlook : world₁.look analyzer c with
    | error e =>
      rw [hlook] at hrun
      cases hrun
    | ok verdict =>
      rw [hlook] at hrun
      dsimp only at hrun
      obtain ⟨hmentions, hquiet, hwrite⟩ := hprogress.step hattr hmake hlook
      -- Written to or not, the tree is ready for the candidates that are left.
      have hrest : ∃ world₃, Progress analyzer world (visited ++ [c]) world₃ ∧
          (visit World.disk analyzer cs (s.add c verdict)).run world₃ = (⟨s', none⟩, world₂) := by
        cases hupdate : Mode.fix.update? verdict with
        | none =>
          rw [hupdate] at hrun
          exact ⟨world₁, hquiet hupdate, hrun⟩
        | some content =>
          rw [hupdate] at hrun
          dsimp only at hrun
          cases htree : world₁.tree.writeAt world₁.cwd c.path (Utf8.encode content.toList) with
          | error e =>
            rw [htree] at hrun
            cases hrun
          | ok tree =>
            rw [htree] at hrun
            exact ⟨_, hwrite content tree hupdate htree, hrun⟩
      obtain ⟨world₃, hnext, hrun'⟩ := hrest
      obtain ⟨hdone, hscanned, hbinding⟩ := progress_of_visit hattr hmake cs (visited ++ [c])
        (s.add c verdict) s' world₃ world₂ (by rw [s.add_mode, hmode]) hnext hrun'
      rw [List.append_assoc, List.singleton_append] at hdone
      refine ⟨hdone, ?_, ?_⟩
      · rw [hscanned, s.add_scanned, List.length_cons]
        omega
      · rw [hbinding, s.add_binding, List.countP_cons, World.isApplicable_of_look hlook, hmentions]
        omega

/-- Nothing is left to do at a candidate that was visited. -/
theorem Progress.quiet {attr : String} {analyzer : Analyzer} (hattr : PlainAttribute attr.toList)
    (hmake : Analyzer.make attr Registry.builtin = .ok analyzer) {world world' : World}
    {visited : List Candidate} (h : Progress analyzer world visited world') {c : Candidate}
    (hc : c ∈ visited) :
    (∀ mode, world'.Quiet analyzer mode c) ∧ world'.report? analyzer c = none ∧
      world'.mentions analyzer c = world.mentions analyzer c := by
  obtain ⟨verdict, hlook, hreport, hmentions, -⟩ := h.look_of_visited hattr hmake hc rfl
  refine ⟨fun mode => ⟨verdict, hlook, Verdict.update?_of_report? hreport mode⟩, ?_, hmentions⟩
  rw [World.report?, hlook]
  exact hreport

/-- **A run after a run in fix mode.** Take valid settings without rules of their own, and a run in
fix mode that ends without an error. Afterwards every file to which a candidate leads holds the text
of one pass over what it held before, and nothing else has changed; and a run that follows, in
either mode, ends without an error, counts as many files and as many with bindings, has no file to
report, and leaves the tree as it is. -/
theorem run_again {config : Config} {root : RawText} {job : Job}
    (hjob : Job.make config root = .ok job) (hrules : config.patterns = [])
    {world world' : World} {summary : Summary}
    (hrun : (job.run World.disk .fix).run world = (⟨summary, none⟩, world')) :
    (∃ analyzer found, Analyzer.make config.bindingAttribute Registry.builtin = .ok analyzer ∧
      (scan World.disk job.sourceDir job.extensions config.ignores).run world =
        (.ok found, world) ∧
      Progress analyzer world found world') ∧
    ∀ mode, ∃ summary', (job.run World.disk mode).run world' = (⟨summary', none⟩, world') ∧
      summary'.scanned = summary.scanned ∧ summary'.binding = summary.binding ∧
      summary'.files = [] := by
  obtain ⟨⟨hregistry, hattr, -⟩, rfl⟩ := Job.plain_of_make hjob hrules
  rw [Job.run_run, hregistry] at hrun
  cases hmake : Analyzer.make job.config.bindingAttribute Registry.builtin with
  | error e =>
    rw [hmake] at hrun
    cases hrun
  | ok analyzer =>
    rw [hmake] at hrun
    dsimp only at hrun
    cases hscan : world.scan job.sourceDir job.extensions job.config.ignores with
    | error e =>
      rw [hscan] at hrun
      cases hrun
    | ok found =>
      rw [hscan] at hrun
      obtain ⟨hprogress, hscanned, hbinding⟩ := progress_of_visit hattr hmake found [] _ _ _ _ rfl
        (.refl analyzer world) hrun
      rw [List.nil_append] at hprogress
      refine ⟨⟨analyzer, found, rfl, ?_, hprogress⟩, ?_⟩
      · rw [scan_run, hscan]
      · intro mode
        have hquiet := fun c hc => hprogress.quiet hattr hmake (c := c) hc
        obtain ⟨summary', hrun', -, hscanned', hbinding', hfiles'⟩ :=
          visit_of_quiet found (.start mode job.sourceDir) (fun c hc => (hquiet c hc).1 mode)
        refine ⟨summary', ?_, ?_, ?_, ?_⟩
        · rw [Job.run_run, hregistry, hmake]
          dsimp only
          rw [hprogress.alike.scan, hscan]
          exact hrun'
        · rw [hscanned', hscanned]
          rfl
        · rw [hbinding', hbinding, List.countP_congr fun c hc => by rw [(hquiet c hc).2.2]]
          rfl
        · rw [hfiles', List.filterMap_eq_nil_iff.2 fun c hc => (hquiet c hc).2.1]
          rfl

/-! ## Runs without an error -/

theorem World.exists_look {attr : String} {analyzer : Analyzer} (hattr : PlainAttribute attr.toList)
    (hmake : Analyzer.make attr Registry.builtin = .ok analyzer) {world : World} {c : Candidate}
    {content : String}
    (hread : world.tree.readAt world.cwd c.path = .ok (Utf8.encode content.toList))
    (hfit : CallsFit attr content) : ∃ verdict, world.look analyzer c = .ok verdict := by
  obtain ⟨analysis, outcome, hanalyze, hfix, -⟩ := exists_pass hattr hmake hfit
  exact ⟨_, World.look_eq_ok_iff.2
    ⟨content, hread, judge_eq_ok_iff.2 ⟨analysis, outcome, hanalyze, hfix, rfl⟩⟩⟩

/-- A candidate that leads to a text, which can be analyzed and written back. -/
def World.Workable (world : World) (attr : String) (c : Candidate) : Prop :=
  ∃ place, ∃ content : String, world.tree.locate true world.cwd c.path = .ok (.entry place) ∧
    world.tree.lookup place = some (.file (Utf8.encode content.toList)) ∧ CallsFit attr content

namespace Progress

variable {attr : String} {analyzer : Analyzer} {world world' : World} {visited : List Candidate}

theorem exists_writeAt (h : Progress analyzer world visited world') {c : Candidate}
    (hc : world.Workable attr c) (bytes : List UInt8) :
    ∃ tree, world'.tree.writeAt world'.cwd c.path bytes = .ok tree := by
  obtain ⟨place, content, hplace, hfile, -⟩ := hc
  obtain ⟨bytes', hfile'⟩ := Tree.lookup_file_of_shape h.alike.shape hfile
  exact ⟨_, Tree.writeAt_of_locate ((h.alike.locate true c.path).trans hplace) hfile' bytes⟩

theorem exists_look (h : Progress analyzer world visited world') (hattr : PlainAttribute attr.toList)
    (hmake : Analyzer.make attr Registry.builtin = .ok analyzer) {c : Candidate}
    (hc : world.Workable attr c) : ∃ verdict, world'.look analyzer c = .ok verdict := by
  obtain ⟨place, content, hlocate, hfile, hfit⟩ := hc
  have hplace : world.tree.resolve world.cwd c.path = .ok place := by
    rw [Tree.resolve, Tree.locate_of_creating hlocate]
    rfl
  by_cases hseen : ∃ c' ∈ visited, world.tree.resolve world.cwd c.path =
      world.tree.resolve world.cwd c'.path
  · obtain ⟨c', hc', hsame⟩ := hseen
    obtain ⟨verdict, hlook, -⟩ := h.look_of_visited hattr hmake hc' hsame
    exact ⟨verdict, hlook⟩
  · have hfile' := h.kept place fun c' hc' heq => hseen ⟨c', hc', hplace.trans heq.symm⟩
    have hread : world'.tree.readAt world'.cwd c.path = .ok (Utf8.encode content.toList) :=
      Tree.readAt_eq_ok_iff.2 ⟨place, (h.alike.resolve c.path).trans hplace, hfile'.trans hfile⟩
    exact World.exists_look hattr hmake hread hfit

end Progress

/-- **A visit in fix mode ends without an error** if every candidate leads to a text that can be
analyzed and written back. -/
theorem exists_visit {attr : String} {analyzer : Analyzer} (hattr : PlainAttribute attr.toList)
    (hmake : Analyzer.make attr Registry.builtin = .ok analyzer) {world : World} :
    ∀ (cs visited : List Candidate) (s : Summary) (world₁ : World), s.mode = .fix →
      Progress analyzer world visited world₁ → (∀ c ∈ cs, world.Workable attr c) →
      ∃ s' world₂, (visit World.disk analyzer cs s).run world₁ = (⟨s', none⟩, world₂)
  | [], _, s, world₁, _, _, _ => ⟨s, world₁, rfl⟩
  | c :: cs, visited, s, world₁, hmode, hprogress, hworkable => by
    have hc := hworkable c List.mem_cons_self
    have hrest := fun c' hc' => hworkable c' (List.mem_cons_of_mem c hc')
    obtain ⟨verdict, hlook⟩ := hprogress.exists_look hattr hmake hc
    obtain ⟨-, hquiet, hwrite⟩ := hprogress.step hattr hmake hlook
    have hmode' : (s.add c verdict).mode = .fix := (s.add_mode c verdict).trans hmode
    rw [visit_cons_run, hlook, hmode]
    dsimp only
    cases hupdate : Mode.fix.update? verdict with
    | none => exact exists_visit hattr hmake cs _ _ _ hmode' (hquiet hupdate) hrest
    | some content =>
      obtain ⟨tree, htree⟩ := hprogress.exists_writeAt hc (Utf8.encode content.toList)
      dsimp only
      rw [htree]
      exact exists_visit hattr hmake cs _ _ _ hmode' (hwrite content tree hupdate htree) hrest

theorem workable_twoNames {content : String} (hfit : CallsFit "dataSource" content) {c : Candidate}
    (hc : c ∈ ([⟨"a.tsx", "src/pages/a.tsx"⟩, ⟨"b.tsx", "src/pages/b.tsx"⟩] : List Candidate)) :
    (World.twoNames content).Workable "dataSource" c := by
  have hplace : (World.twoNames "").tree.locate true (World.twoNames "").cwd c.path =
      .ok (.entry ["src", "pages", "a.tsx"]) := by
    simp only [List.mem_cons, List.not_mem_nil, or_false] at hc
    rcases hc with rfl | rfl <;> decide +kernel
  exact ⟨_, content, World.locate_twoNames content hplace, World.lookup_twoNames content, hfit⟩

theorem run_twoNames {content : String} (hfit : CallsFit "dataSource" content) :
    ∃ summary world', ((Job.standard ".").run World.disk .fix).run (World.twoNames content) =
      (⟨summary, none⟩, world') := by
  obtain ⟨⟨hregistry, hattr, -⟩, -⟩ := Job.plain_of_make (Job.make_standard ".") rfl
  have hmake := Analyzer.make_eq_ok (Job.standard ".").config.bindingAttribute (by decide)
    Registry.builtin
  rw [Job.run_run, hregistry, hmake]
  dsimp only
  rw [World.scan_twoNames]
  exact exists_visit hattr hmake _ [] _ _ rfl (.refl _ _) fun c hc => workable_twoNames hfit hc

/-- The file is fixed once, under whichever name. -/
theorem run_again_twoNames : ∃ summary world',
    ((Job.standard ".").run World.disk .fix).run
      (World.twoNames "<Table dataSource={rows}/> setrows(response.data)") =
        (⟨summary, none⟩, world') ∧
    ∀ mode, ∃ summary',
      ((Job.standard ".").run World.disk mode).run world' = (⟨summary', none⟩, world') ∧
      summary'.scanned = summary.scanned ∧ summary'.binding = summary.binding ∧
      summary'.files = [] := by
  have hfit : CallsFit "dataSource" "<Table dataSource={rows}/> setrows(response.data)" :=
    callsFit_of_size_le _ (by decide)
  obtain ⟨summary, world', hrun⟩ := run_twoNames hfit
  exact ⟨summary, world', hrun, (run_again (Job.make_standard ".") rfl hrun).2⟩

end TableGuard
