import TableGuard.Proofs.Fault

/-!
# A check as a forecast of a fix

As long as no two candidates lead to one file, what a fix has written so far cannot be seen at the
candidates that are left. So a fix finds what a check finds: it meets the same error, or has the same
summary, and what is reported of a file depends on what the file held in the beginning.

* `World.Apart` : candidates that lead to different places;
* `Progress.look_eq` : a candidate whose turn has not come yet;
* `Course.of_fix` : the course of a fix is that of a check, and what has become of the tree;
* `fix_run_of_check` : the two runs of a job.
-/

namespace TableGuard

/-- The candidates lead to different places. -/
def World.Apart (world : World) (c c' : Candidate) : Prop :=
  world.tree.resolve world.cwd c.path ≠ world.tree.resolve world.cwd c'.path

/-- No two candidates of the job lead to one place. -/
def Job.Unaliased (job : Job) (world : World) : Prop :=
  ∀ found, (scan World.disk job.sourceDir job.extensions job.config.ignores).run world =
    (.ok found, world) → found.Pairwise world.Apart

/-! ## Candidates whose turn has not come -/

namespace Progress

variable {analyzer : Analyzer} {world world' : World} {visited : List Candidate} {c : Candidate}

theorem readAt_eq (h : Progress analyzer world visited world')
    (hnew : ∀ c' ∈ visited, world.Apart c c') :
    world'.tree.readAt world'.cwd c.path = world.tree.readAt world.cwd c.path := by
  unfold Tree.readAt
  rw [h.alike.resolve]
  cases hplace : world.tree.resolve world.cwd c.path with
  | error e => rfl
  | ok place =>
    have hkept := h.kept place fun c' hc' heq => hnew c' hc' (hplace.trans heq.symm)
    simp only [bind, Except.bind, hkept, h.alike.refusal]

theorem look_eq (h : Progress analyzer world visited world')
    (hnew : ∀ c' ∈ visited, world.Apart c c') :
    world'.look analyzer c = world.look analyzer c := by
  unfold World.look
  rw [h.readAt_eq hnew]

theorem deal (h : Progress analyzer world visited world')
    (hnew : ∀ c' ∈ visited, world.Apart c c') {verdict : Verdict} {world'' : World}
    (hdeal : world'.deal analyzer .fix c = .ok (verdict, world'')) :
    Progress analyzer world (visited ++ [c]) world'' := by
  obtain ⟨hlook, hcases⟩ := deal_cases hdeal
  obtain ⟨-, hquiet, hwrite⟩ := h.step_of_new hlook hnew
  obtain ⟨hnone, rfl⟩ | ⟨content, tree, hsome, htree, rfl⟩ := hcases
  · exact hquiet hnone
  · exact hwrite content tree hsome htree

end Progress

/-! ## The course of a fix -/

/-- **The course of a fix is that of a check**, and the files of the candidates that were dealt with
are fixed. `visited` are the candidates before. -/
theorem Course.of_fix {analyzer : Analyzer} {world world₁ world₂ : World}
    {visited cs : List Candidate} {steps : List (Candidate × Verdict)} {error : Option Error}
    (hcourse : Course analyzer .fix world₁ cs steps error world₂)
    (hprogress : Progress analyzer world visited world₁)
    (hapart : (visited ++ cs).Pairwise world.Apart) :
    Course analyzer .check world cs steps error world ∧
      Progress analyzer world (visited ++ steps.map Prod.fst) world₂ := by
  -- What was written so far lies elsewhere, so the next candidate is found as the check finds it.
  induction hcourse generalizing visited with
  | done world₁ => exact ⟨.done world, by simpa using hprogress⟩
  | @stop world₁ c cs e hdeal =>
    have hnew : ∀ c' ∈ visited, world.Apart c c' := fun c' hc' =>
      ((List.pairwise_append.1 hapart).2.2 c' hc' c List.mem_cons_self).symm
    rw [deal_eq_error_iff, hprogress.look_eq hnew] at hdeal
    exact ⟨.stop (deal_eq_error_iff.2 hdeal), by simpa using hprogress⟩
  | @next world₁ world₃ world₂ c cs verdict steps error hdeal _ ih =>
    have hnew : ∀ c' ∈ visited, world.Apart c c' := fun c' hc' =>
      ((List.pairwise_append.1 hapart).2.2 c' hc' c List.mem_cons_self).symm
    have hlook := (deal_cases hdeal).1
    rw [hprogress.look_eq hnew] at hlook
    obtain ⟨hrest, hdone⟩ := ih (hprogress.deal hnew hdeal) (by simpa using hapart)
    exact ⟨.next (deal_of_look hlook) hrest, by simpa using hdone⟩

/-! ## Two runs -/

/-- What is reported of a file, given its bytes. -/
def Analyzer.report? (analyzer : Analyzer) (c : Candidate) (bytes : List UInt8) :
    Option FileReport :=
  match analyzer.inspect c.path bytes with
  | .ok verdict => verdict.report? c
  | .error _ => none

theorem report?_of_look {world : World} {analyzer : Analyzer} {c : Candidate} {verdict : Verdict}
    (h : world.look analyzer c = .ok verdict) :
    (world.tree.readAt world.cwd c.path).toOption.bind (analyzer.report? c) =
      verdict.report? c := by
  unfold World.look at h
  cases hread : world.tree.readAt world.cwd c.path with
  | error e =>
    rw [hread] at h
    cases h
  | ok bytes =>
    rw [hread] at h
    change analyzer.inspect c.path bytes = .ok verdict at h
    simp only [Except.toOption, Option.bind_some, Analyzer.report?, h]

theorem Course.reportsOf_eq {analyzer : Analyzer} {world world' : World} {cs : List Candidate}
    {steps : List (Candidate × Verdict)} (h : Course analyzer .check world cs steps none world') :
    reportsOf steps =
      cs.filterMap fun c => (world.tree.readAt world.cwd c.path).toOption.bind
        (analyzer.report? c) := by
  rw [← h.map_fst_prefix.2 rfl, List.filterMap_map, reportsOf]
  refine List.filterMap_congr fun step hstep => ?_
  exact (report?_of_look (h.of_check.2 step hstep)).symm

/-- **A check tells what a fix will do.** A check leaves the tree as it is, whether or not it ends
with an error, and what it reports of a file is made of the bytes there. If no two candidates lead to
one file, a fix of the same tree ends with the same error, if any, and with the same summary, the
mode apart. -/
theorem fix_run_of_check (job : Job) (world : World) :
    ∃ check, (job.run World.disk .check).run world = (check, world) ∧
      check.summary.mode = .check ∧
      (check.error = none → ∃ analyzer found,
        Analyzer.make job.config.bindingAttribute job.registry = .ok analyzer ∧
        (scan World.disk job.sourceDir job.extensions job.config.ignores).run world =
          (.ok found, world) ∧
        check.summary.files = found.filterMap fun c =>
          (world.tree.readAt world.cwd c.path).toOption.bind (analyzer.report? c)) ∧
      (job.Unaliased world →
        ∃ world', (job.run World.disk .fix).run world =
          (⟨{ check.summary with mode := .fix }, check.error⟩, world')) := by
  simp only [Job.run_run, Job.Unaliased, scan_run]
  cases hmake : Analyzer.make job.config.bindingAttribute job.registry with
  | error e => exact ⟨_, rfl, rfl, nofun, fun _ => ⟨world, rfl⟩⟩
  | ok analyzer =>
    cases hscan : world.scan job.sourceDir job.extensions job.config.ignores with
    | error e => exact ⟨_, rfl, rfl, nofun, fun _ => ⟨world, rfl⟩⟩
    | ok found =>
      obtain ⟨steps, error, world₁, hcheck, hrun⟩ :=
        exists_course analyzer found (.start .check job.sourceDir) world
      obtain ⟨rfl, -⟩ := hcheck.of_check
      refine ⟨_, hrun, by rw [Summary.addAll_eq]; rfl, fun herror => ?_, fun hapart => ?_⟩
      · obtain rfl : error = none := herror
        refine ⟨analyzer, found, rfl, rfl, ?_⟩
        rw [Summary.addAll_eq, ← hcheck.reportsOf_eq]
        rfl
      · obtain ⟨steps', error', world', hfix, hrun'⟩ :=
          exists_course analyzer found (.start .fix job.sourceDir) world₁
        obtain ⟨hsame, -⟩ := hfix.of_fix (.refl analyzer world₁) (hapart found rfl)
        obtain ⟨rfl, rfl, -⟩ := hcheck.unique hsame
        refine ⟨world', hrun'.trans ?_⟩
        rw [Summary.addAll_eq, Summary.addAll_eq]
        rfl

/-! ## Two files -/

/-- The candidates in a tree with two files. -/
def pageA : Candidate := ⟨"a.tsx", "src/pages/a.tsx"⟩

def pageB : Candidate := ⟨"b.tsx", "src/pages/b.tsx"⟩

def World.twoFiles (first second : List UInt8) : World where
  tree := ⟨[(["src"], .directory), (["src", "pages"], .directory),
    (["src", "pages", "a.tsx"], .file first), (["src", "pages", "b.tsx"], .file second)], []⟩
  cwd := []

theorem World.alike_twoFiles (first second : List UInt8) :
    (World.twoFiles first second).Alike (World.twoFiles [] []) := ⟨rfl, rfl⟩

theorem World.scan_twoFiles (first second : List UInt8) :
    (World.twoFiles first second).scan (Job.standard ".").sourceDir (Job.standard ".").extensions
      (Job.standard ".").config.ignores =
        .ok [pageA, pageB] := by
  have hfound : ((World.twoFiles [] []).scan (Job.standard ".").sourceDir
      (Job.standard ".").extensions (Job.standard ".").config.ignores).toOption =
        some [pageA, pageB] := by decide
  rw [(World.alike_twoFiles first second).scan, eq_ok_of_toOption hfound]

theorem World.exists_names_twoFiles (first second : List UInt8) : ∃ names,
    (World.twoFiles first second).tree.namesAt (World.twoFiles first second).cwd
      (Job.standard ".").sourceDir = .ok names := by
  have hlisted : ((World.twoFiles [] []).tree.namesAt (World.twoFiles [] []).cwd
      (Job.standard ".").sourceDir).toOption.isSome = true := by decide
  obtain ⟨names, hnames⟩ := Option.isSome_iff_exists.1 hlisted
  exact ⟨names, by rw [(World.alike_twoFiles first second).namesAt, eq_ok_of_toOption hnames]⟩

theorem World.resolve_twoFiles (first second : List UInt8) :
    (World.twoFiles first second).tree.resolve (World.twoFiles first second).cwd pageA.path =
        .ok ["src", "pages", "a.tsx"] ∧
      (World.twoFiles first second).tree.resolve (World.twoFiles first second).cwd pageB.path =
        .ok ["src", "pages", "b.tsx"] := by
  have hsame := (World.alike_twoFiles first second).resolve
  have hplaces : (World.twoFiles [] []).tree.resolve (World.twoFiles [] []).cwd pageA.path =
        .ok ["src", "pages", "a.tsx"] ∧
      (World.twoFiles [] []).tree.resolve (World.twoFiles [] []).cwd pageB.path =
        .ok ["src", "pages", "b.tsx"] := by decide
  exact ⟨(hsame _).trans hplaces.1, (hsame _).trans hplaces.2⟩

theorem unaliased_twoFiles (first second : List UInt8) :
    (Job.standard ".").Unaliased (World.twoFiles first second) := by
  intro found hfound
  rw [scan_run, World.scan_twoFiles] at hfound
  obtain rfl := Except.ok.inj (Prod.mk.inj hfound).1
  obtain ⟨hfirst, hsecond⟩ := World.resolve_twoFiles first second
  simp only [List.pairwise_cons, List.mem_singleton, forall_eq, List.not_mem_nil, false_imp_iff,
    implies_true, List.Pairwise.nil, and_true]
  intro heq
  rw [hfirst, hsecond] at heq
  simp [RawText.ofString_inj] at heq

theorem World.readAt_twoFiles (first second : List UInt8) :
    (World.twoFiles first second).tree.readAt (World.twoFiles first second).cwd pageA.path =
        .ok first ∧
      (World.twoFiles first second).tree.readAt (World.twoFiles first second).cwd pageB.path =
        .ok second := by
  obtain ⟨hfirst, hsecond⟩ := World.resolve_twoFiles first second
  exact ⟨Tree.readAt_eq_ok_iff.2 ⟨_, hfirst, rfl⟩, Tree.readAt_eq_ok_iff.2 ⟨_, hsecond, rfl⟩⟩

theorem course_twoFiles {analyzer : Analyzer}
    (hmake : Analyzer.make "dataSource" Registry.builtin = .ok analyzer) (first second : String)
    (hfirst : CallsFit "dataSource" first) (hsecond : CallsFit "dataSource" second) :
    ∃ verdict verdict' : Verdict,
      Course analyzer .check
        (World.twoFiles (Utf8.encode first.toList) (Utf8.encode second.toList))
        [pageA, pageB]
        [(pageA, verdict), (pageB, verdict')] none
        (World.twoFiles (Utf8.encode first.toList) (Utf8.encode second.toList)) ∧
      verdict.isApplicable = analyzer.usesBinding first ∧
      verdict'.isApplicable = analyzer.usesBinding second := by
  have hattr : PlainAttribute "dataSource".toList := plainAttribute (by decide)
  obtain ⟨hreadA, hreadB⟩ :=
    World.readAt_twoFiles (Utf8.encode first.toList) (Utf8.encode second.toList)
  obtain ⟨verdict, hlook⟩ := World.exists_look hattr hmake hreadA hfirst
  obtain ⟨verdict', hlook'⟩ := World.exists_look hattr hmake hreadB hsecond
  refine ⟨verdict, verdict', .next (Course.deal_of_look hlook)
    (.next (Course.deal_of_look hlook') (.done _)), ?_, ?_⟩
  · rw [World.isApplicable_of_look hlook]
    exact World.mentions_of_readAt hreadA analyzer
  · rw [World.isApplicable_of_look hlook']
    exact World.mentions_of_readAt hreadB analyzer

theorem check_twoFiles (first second : String) (hfirst : CallsFit "dataSource" first)
    (hsecond : CallsFit "dataSource" second) : ∃ summary,
      ((Job.standard ".").run World.disk .check).run
        (World.twoFiles (Utf8.encode first.toList) (Utf8.encode second.toList)) =
          (⟨summary, none⟩,
            World.twoFiles (Utf8.encode first.toList) (Utf8.encode second.toList)) := by
  have hmake := Analyzer.make_eq_ok "dataSource" (by decide) Registry.builtin
  obtain ⟨steps, error, world', hends, hrun⟩ := (Job.standard ".").exists_ends .check
    (World.twoFiles (Utf8.encode first.toList) (Utf8.encode second.toList))
  have hcourse := hends.course hmake (by rw [scan_run, World.scan_twoFiles])
  obtain ⟨verdict, verdict', hknown, -⟩ := course_twoFiles hmake first second hfirst hsecond
  obtain ⟨-, rfl, rfl⟩ := hknown.unique hcourse
  exact ⟨_, hrun⟩

/-- The check of a text with an issue, beside one without, foretells the fix. -/
theorem fix_run_of_check_twoFiles : ∃ world : World, (Job.standard ".").Unaliased world ∧
    ∃ summary world',
      ((Job.standard ".").run World.disk .check).run world = (⟨summary, none⟩, world) ∧
      ((Job.standard ".").run World.disk .fix).run world =
        (⟨{ summary with mode := .fix }, none⟩, world') := by
  obtain ⟨summary, hrun⟩ := check_twoFiles "<Table dataSource={rows}/> setrows(response.data)"
    "setrows(rows)" (callsFit_of_size_le _ (by decide)) (callsFit_of_size_le _ (by decide))
  obtain ⟨check, hcheck, -, -, hfix⟩ := fix_run_of_check (.standard ".")
    (World.twoFiles (Utf8.encode "<Table dataSource={rows}/> setrows(response.data)".toList)
      (Utf8.encode "setrows(rows)".toList))
  obtain rfl : check = ⟨summary, none⟩ := (Prod.mk.inj (hcheck.symm.trans hrun)).1
  have hunaliased := unaliased_twoFiles
    (Utf8.encode "<Table dataSource={rows}/> setrows(response.data)".toList)
    (Utf8.encode "setrows(rows)".toList)
  obtain ⟨world', hrun'⟩ := hfix hunaliased
  exact ⟨_, hunaliased, summary, world', hrun, hrun'⟩

end TableGuard
