import TableGuard.Proofs.Result
import TableGuard.Proofs.Scan
import TableGuard.Proofs.Text.Utf8
import TableGuard.Run

/-!
# Visiting candidates in a tree

What is found at a candidate depends on the bytes that its path leads to. A visit looks at one
candidate after another, and writes to the tree in between.

* `Analysis.verdict`, `judge_eq_ok_iff`, `inspect_eq_ok_iff` : what is found in a text, and in bytes;
* `World.look`, `World.mentions` : what is found at a candidate;
* `visit_cons_run` : one step of a visit;
* `World.deal`, `deal_cases`, `deal_eq_error_iff` : the same as a step from tree to tree;
* `alike_of_visit` : a visit keeps the shape of the tree;
* `World.Quiet`, `visit_of_quiet` : a visit that writes nothing;
* `explore_run`, `Job.run_run` : a run.
-/

namespace TableGuard

/-! ## One text -/

/-- The verdict that belongs to an analysis, given the text once its issues are fixed. -/
def Analysis.verdict (analysis : Analysis) (outcome : Outcome) : Verdict :=
  match analysis with
  | .notApplicable => .notApplicable
  | .applicable _ [] => .clean
  | .applicable _ issues => .flawed issues outcome

theorem judge_eq (analyzer : Analyzer) (content : String) :
    analyzer.judge content = (do
      let analysis ← analyzer.analyze content
      let outcome ← fixContent content analysis.issues
      return analysis.verdict outcome) := by
  unfold Analyzer.judge
  congr 1
  funext analysis
  cases analysis with
  | notApplicable => rfl
  | applicable vars issues => cases issues <;> rfl

theorem judge_eq_ok_iff {analyzer : Analyzer} {content : String} {verdict : Verdict} :
    analyzer.judge content = .ok verdict ↔
      ∃ analysis outcome, analyzer.analyze content = .ok analysis ∧
        fixContent content analysis.issues = .ok outcome ∧ analysis.verdict outcome = verdict := by
  simp only [judge_eq, bind_eq_ok_iff, pure, Except.pure, Except.ok.injEq, exists_and_left]

def Verdict.isApplicable : Verdict → Bool
  | .notApplicable => false
  | _ => true

theorem Analysis.isApplicable_verdict (analysis : Analysis) (outcome : Outcome) :
    (analysis.verdict outcome).isApplicable = analysis.isApplicable := by
  cases analysis with
  | notApplicable => rfl
  | applicable vars issues => cases issues <;> rfl

theorem isApplicable_of_analyze {analyzer : Analyzer} {content : String} {analysis : Analysis}
    (h : analyzer.analyze content = .ok analysis) :
    analysis.isApplicable = analyzer.usesBinding content := by
  unfold Analyzer.analyze at h
  split at h
  · rename_i huses
    obtain ⟨issues, -, hissues⟩ := bind_eq_ok_iff.1 h
    rw [huses, ← Except.ok.inj hissues]
    rfl
  · rename_i huses
    rw [← Except.ok.inj h, Bool.eq_false_iff.2 huses]
    rfl

theorem inspect_eq_ok_iff {analyzer : Analyzer} {path : RawText} {bytes : List UInt8}
    {verdict : Verdict} : analyzer.inspect path bytes = .ok verdict ↔
      ∃ content : String, Utf8.encode content.toList = bytes ∧
        analyzer.judge content = .ok verdict := by
  unfold Analyzer.inspect
  cases hdecode : Utf8.decode bytes with
  | error fault =>
    constructor
    · intro h
      cases h
    · rintro ⟨content, hbytes, -⟩
      rw [Utf8.decode_eq_ok_iff.2 hbytes] at hdecode
      cases hdecode
  | ok text =>
    change analyzer.judge (String.ofList text) = _ ↔ _
    have hbytes := Utf8.decode_eq_ok_iff.1 hdecode
    constructor
    · intro h
      exact ⟨String.ofList text, by rw [String.toList_ofList, hbytes], h⟩
    · rintro ⟨content, hcontent, h⟩
      have hsame : text = content.toList := by
        rw [Utf8.decode_eq_ok_iff.2 hcontent] at hdecode
        exact (Except.ok.inj hdecode).symm
      rw [hsame, String.ofList_toList]
      exact h

/-! ## One candidate -/

namespace World

def look (world : World) (analyzer : Analyzer) (c : Candidate) : Except Error Verdict :=
  match world.tree.readAt world.cwd c.path with
  | .error e => .error ⟨[.readingFile c.path], .disk e⟩
  | .ok bytes => analyzer.inspect c.path bytes

def mentions (world : World) (analyzer : Analyzer) (c : Candidate) : Bool :=
  match world.tree.readAt world.cwd c.path with
  | .error _ => false
  | .ok bytes =>
    match Utf8.decode bytes with
    | .error _ => false
    | .ok text => analyzer.usesBinding (String.ofList text)

theorem look_eq_ok_iff {world : World} {analyzer : Analyzer} {c : Candidate} {verdict : Verdict} :
    world.look analyzer c = .ok verdict ↔
      ∃ content : String, world.tree.readAt world.cwd c.path = .ok (Utf8.encode content.toList) ∧
        analyzer.judge content = .ok verdict := by
  unfold look
  cases world.tree.readAt world.cwd c.path with
  | error e =>
    refine ⟨nofun, ?_⟩
    rintro ⟨content, h, -⟩
    cases h
  | ok bytes =>
    rw [inspect_eq_ok_iff]
    simp only [Except.ok.injEq, eq_comm (a := bytes)]

theorem mentions_of_readAt {world : World} {c : Candidate} {content : String}
    (h : world.tree.readAt world.cwd c.path = .ok (Utf8.encode content.toList))
    (analyzer : Analyzer) : world.mentions analyzer c = analyzer.usesBinding content := by
  rw [mentions, h]
  dsimp only
  rw [Utf8.decode_eq_ok_iff.2 rfl]
  dsimp only
  rw [String.ofList_toList]

theorem isApplicable_of_look {world : World} {analyzer : Analyzer} {c : Candidate}
    {verdict : Verdict} (h : world.look analyzer c = .ok verdict) :
    verdict.isApplicable = world.mentions analyzer c := by
  obtain ⟨content, hread, hjudge⟩ := look_eq_ok_iff.1 h
  obtain ⟨analysis, outcome, hanalyze, -, rfl⟩ := judge_eq_ok_iff.1 hjudge
  rw [mentions_of_readAt hread, analysis.isApplicable_verdict, isApplicable_of_analyze hanalyze]

end World

/-! ## One after another -/

theorem read_run (world : World) (path : RawText) :
    (World.disk.read path).run world = (world.tree.readAt world.cwd path, world) := rfl

theorem write_run (world : World) (path : RawText) (bytes : List UInt8) :
    (World.disk.write path bytes).run world =
      match world.tree.writeAt world.cwd path bytes with
      | .ok tree => (Except.ok (), { world with tree := tree })
      | .error e => (Except.error e, world) := rfl

/-- **One step of a visit.** -/
theorem visit_cons_run (world : World) (analyzer : Analyzer) (c : Candidate)
    (rest : List Candidate) (s : Summary) :
    (visit World.disk analyzer (c :: rest) s).run world =
      match world.look analyzer c with
      | .error e => (⟨s, some e⟩, world)
      | .ok verdict =>
        match s.mode.update? verdict with
        | none => (visit World.disk analyzer rest (s.add c verdict)).run world
        | some content =>
          match world.tree.writeAt world.cwd c.path (Utf8.encode content.toList) with
          | .error e => (⟨s, some ⟨[.writingFile c.path], .disk e⟩⟩, world)
          | .ok tree =>
            (visit World.disk analyzer rest (s.add c verdict)).run { world with tree := tree } := by
  rw [visit, World.look, bind_run (read_run world c.path)]
  cases world.tree.readAt world.cwd c.path with
  | error e => rfl
  | ok bytes =>
    dsimp only
    cases analyzer.inspect c.path bytes with
    | error e => rfl
    | ok verdict =>
      dsimp only
      cases s.mode.update? verdict with
      | none => rfl
      | some content =>
        have hrun := write_run world c.path (Utf8.encode content.toList)
        dsimp only
        cases hwrite : world.tree.writeAt world.cwd c.path (Utf8.encode content.toList) with
        | error e =>
          rw [hwrite] at hrun
          rw [bind_run hrun]
          rfl
        | ok tree =>
          rw [hwrite] at hrun
          rw [bind_run hrun]

theorem visit_nil_run (world : World) (analyzer : Analyzer) (s : Summary) :
    (visit World.disk analyzer [] s).run world = (⟨s, none⟩, world) := rfl

/-- Deals with one candidate: what is found there, and the tree afterwards. -/
def World.deal (world : World) (analyzer : Analyzer) (mode : Mode) (c : Candidate) :
    Except Error (Verdict × World) :=
  match world.look analyzer c with
  | .error e => .error e
  | .ok verdict =>
    match mode.update? verdict with
    | none => .ok (verdict, world)
    | some content =>
      match world.tree.writeAt world.cwd c.path (Utf8.encode content.toList) with
      | .error e => .error ⟨[.writingFile c.path], .disk e⟩
      | .ok tree => .ok (verdict, { world with tree := tree })

theorem visit_cons_deal (world : World) (analyzer : Analyzer) (c : Candidate)
    (rest : List Candidate) (s : Summary) :
    (visit World.disk analyzer (c :: rest) s).run world =
      match world.deal analyzer s.mode c with
      | .error e => (⟨s, some e⟩, world)
      | .ok (verdict, world') =>
        (visit World.disk analyzer rest (s.add c verdict)).run world' := by
  rw [visit_cons_run, World.deal]
  cases world.look analyzer c with
  | error e => rfl
  | ok verdict =>
    dsimp only
    cases s.mode.update? verdict with
    | none => rfl
    | some content =>
      dsimp only
      cases world.tree.writeAt world.cwd c.path (Utf8.encode content.toList) <;> rfl

theorem update?_check (verdict : Verdict) : Mode.check.update? verdict = none := by
  cases verdict <;> rfl

/-- All that dealing with a candidate can do: a text is written back, or nothing happens. -/
theorem deal_cases {world world' : World} {analyzer : Analyzer} {mode : Mode} {c : Candidate}
    {verdict : Verdict} (h : world.deal analyzer mode c = .ok (verdict, world')) :
    world.look analyzer c = .ok verdict ∧
      ((mode.update? verdict = none ∧ world' = world) ∨
        ∃ content tree, mode.update? verdict = some content ∧
          world.tree.writeAt world.cwd c.path (Utf8.encode content.toList) = .ok tree ∧
          world' = { world with tree := tree }) := by
  unfold World.deal at h
  cases hlook : world.look analyzer c with
  | error e =>
    rw [hlook] at h
    cases h
  | ok found =>
    rw [hlook] at h
    dsimp only at h
    split at h
    · rename_i hnone
      obtain ⟨rfl, rfl⟩ := Prod.mk.inj (Except.ok.inj h)
      exact ⟨rfl, .inl ⟨hnone, rfl⟩⟩
    · rename_i content hsome
      split at h
      · cases h
      · rename_i tree hwrite
        obtain ⟨rfl, rfl⟩ := Prod.mk.inj (Except.ok.inj h)
        exact ⟨rfl, .inr ⟨content, tree, hsome, hwrite, rfl⟩⟩

/-- Dealing with a candidate fails exactly if nothing can be found there: what was read can be
written to. -/
theorem deal_eq_error_iff {world : World} {analyzer : Analyzer} {mode : Mode} {c : Candidate}
    {e : Error} : world.deal analyzer mode c = .error e ↔ world.look analyzer c = .error e := by
  unfold World.deal
  cases hlook : world.look analyzer c with
  | error e' => simp
  | ok verdict =>
    simp only [reduceCtorEq, iff_false]
    split
    · simp
    · rename_i content _
      obtain ⟨text, hread, -⟩ := World.look_eq_ok_iff.1 hlook
      obtain ⟨place, -, -, hwrite⟩ :=
        Tree.exists_writeAt_of_readAt hread (Utf8.encode content.toList)
      rw [hwrite]
      simp

theorem alike_of_deal {world world' : World} {analyzer : Analyzer} {mode : Mode} {c : Candidate}
    {verdict : Verdict} (h : world.deal analyzer mode c = .ok (verdict, world')) :
    world'.Alike world := by
  obtain ⟨hlook, ⟨-, rfl⟩ | ⟨content, tree, -, hwrite, rfl⟩⟩ := deal_cases h
  · exact ⟨rfl, rfl⟩
  · obtain ⟨text, hread, -⟩ := World.look_eq_ok_iff.1 hlook
    obtain ⟨place, -, hfile, rfl⟩ := Tree.writeAt_of_readAt hread hwrite
    exact ⟨Tree.shape_set hfile, rfl⟩

theorem alike_of_visit (analyzer : Analyzer) : ∀ (cs : List Candidate) (s : Summary)
    (world : World), ((visit World.disk analyzer cs s).run world).2.Alike world
  | [], _, _ => ⟨rfl, rfl⟩
  | c :: cs, s, world => by
    rw [visit_cons_deal]
    cases hdeal : world.deal analyzer s.mode c with
    | error e => exact ⟨rfl, rfl⟩
    | ok dealt =>
      have hrest := alike_of_visit analyzer cs (s.add c dealt.1) dealt.2
      have hfirst := alike_of_deal hdeal
      exact ⟨hrest.shape.trans hfirst.shape, hrest.cwd.trans hfirst.cwd⟩

/-- Some candidates after others are visited unless the visit has ended. -/
theorem visit_append_run {analyzer : Analyzer} (cs' : List Candidate) :
    ∀ (cs : List Candidate) (s : Summary) (world : World),
      (visit World.disk analyzer (cs ++ cs') s).run world =
        match (visit World.disk analyzer cs s).run world with
        | (⟨s', none⟩, world') => (visit World.disk analyzer cs' s').run world'
        | (⟨s', some e⟩, world') => (⟨s', some e⟩, world')
  | [], _, _ => rfl
  | c :: cs, s, world => by
    rw [List.cons_append, visit_cons_deal, visit_cons_deal]
    cases world.deal analyzer s.mode c with
    | error e => rfl
    | ok dealt => exact visit_append_run cs' cs (s.add c dealt.1) dealt.2

/-! ## Visits that write nothing -/

theorem Summary.add_mode (s : Summary) (c : Candidate) (verdict : Verdict) :
    (s.add c verdict).mode = s.mode := by
  cases verdict <;> rfl

theorem Summary.add_scanned (s : Summary) (c : Candidate) (verdict : Verdict) :
    (s.add c verdict).scanned = s.scanned + 1 := by
  cases verdict <;> rfl

theorem Summary.add_binding (s : Summary) (c : Candidate) (verdict : Verdict) :
    (s.add c verdict).binding = s.binding + if verdict.isApplicable then 1 else 0 := by
  cases verdict <;> rfl

/-- The report on a file, if there are issues in it. -/
def Verdict.report? (c : Candidate) : Verdict → Option FileReport
  | .flawed issues outcome => some ⟨c.name.lossy, c.path, issues, outcome.changes⟩
  | _ => none

theorem Summary.add_files (s : Summary) (c : Candidate) (verdict : Verdict) :
    (s.add c verdict).files = s.files ++ (verdict.report? c).toList := by
  cases verdict with
  | flawed issues outcome => rfl
  | _ => exact (List.append_nil _).symm

/-- A candidate at which nothing is found that would be written back. -/
def World.Quiet (world : World) (analyzer : Analyzer) (mode : Mode) (c : Candidate) : Prop :=
  ∃ verdict, world.look analyzer c = .ok verdict ∧ mode.update? verdict = none

def World.report? (world : World) (analyzer : Analyzer) (c : Candidate) : Option FileReport :=
  match world.look analyzer c with
  | .ok verdict => verdict.report? c
  | .error _ => none

/-- **A visit that finds nothing to write** leaves the tree as it is, and its summary is that of the
candidates as they stand. -/
theorem visit_of_quiet {world : World} {analyzer : Analyzer} :
    ∀ (cs : List Candidate) (s : Summary), (∀ c ∈ cs, world.Quiet analyzer s.mode c) →
      ∃ s', (visit World.disk analyzer cs s).run world = (⟨s', none⟩, world) ∧
        s'.mode = s.mode ∧ s'.scanned = s.scanned + cs.length ∧
        s'.binding = s.binding + cs.countP (world.mentions analyzer) ∧
        s'.files = s.files ++ cs.filterMap (world.report? analyzer)
  | [], s, _ => ⟨s, visit_nil_run world analyzer s, rfl, rfl, rfl, (List.append_nil _).symm⟩
  | c :: cs, s, h => by
    obtain ⟨verdict, hlook, hupdate⟩ := h c List.mem_cons_self
    obtain ⟨s', hrun, hmode, hscanned, hbinding, hfiles⟩ := visit_of_quiet cs (s.add c verdict) (by
      intro c' hc'
      rw [s.add_mode]
      exact h c' (List.mem_cons_of_mem _ hc'))
    have hreport : world.report? analyzer c = verdict.report? c := by
      rw [World.report?, hlook]
    refine ⟨s', ?_, hmode.trans (s.add_mode c verdict), ?_, ?_, ?_⟩
    · rw [visit_cons_run, hlook]
      dsimp only
      rw [hupdate]
      exact hrun
    · rw [hscanned, s.add_scanned, List.length_cons]
      omega
    · rw [hbinding, s.add_binding, List.countP_cons, World.isApplicable_of_look hlook]
      omega
    · rw [hfiles, s.add_files, List.filterMap_cons, hreport, List.append_assoc]
      cases verdict.report? c <;> rfl

/-- A visit that writes nothing ends with an error if there is one to be met. -/
theorem visit_of_error {world : World} {analyzer : Analyzer} :
    ∀ (cs : List Candidate) (s : Summary),
      (∀ c verdict, world.look analyzer c = .ok verdict → s.mode.update? verdict = none) →
      (∃ c ∈ cs, ∃ e, world.look analyzer c = .error e) →
      ∃ s' e, (visit World.disk analyzer cs s).run world = (⟨s', some e⟩, world)
  | [], _, _, h => by
    obtain ⟨c, hc, -⟩ := h
    cases hc
  | c :: cs, s, hquiet, h => by
    rw [visit_cons_run]
    cases hlook : world.look analyzer c with
    | error e => exact ⟨s, e, rfl⟩
    | ok verdict =>
      dsimp only
      rw [hquiet c verdict hlook]
      refine visit_of_error cs (s.add c verdict) (by rw [s.add_mode]; exact hquiet) ?_
      obtain ⟨c', hc', e, he⟩ := h
      rcases List.mem_cons.1 hc' with rfl | hc'
      · rw [hlook] at he
        cases he
      · exact ⟨c', hc', e, he⟩

/-! ## A run -/

/-- **Names are looked at in between, and might as well be looked at before**: what has been written
so far leaves the shape of the tree as it was. -/
theorem explore_run {analyzer : Analyzer} {dir : RawText} {extensions : List String}
    {ignores : List Glob} : ∀ (names : List RawText) (s : Summary) (world : World),
      (explore World.disk analyzer dir extensions ignores names s).run world =
        (visit World.disk analyzer (world.candidatesOf dir extensions ignores names) s).run world
  | [], _, _ => rfl
  | name :: names, s, world => by
    have halike := alike_of_visit analyzer
      (world.candidatesOf dir extensions ignores [name]) s world
    rw [explore, bind_run (candidates_run world dir extensions ignores [name]),
      world.candidatesOf_cons dir extensions ignores name names, visit_append_run]
    generalize hrun : (visit World.disk analyzer
      (world.candidatesOf dir extensions ignores [name]) s).run world = ended at halike
    obtain ⟨⟨s', error⟩, world'⟩ := ended
    rw [bind_run hrun, ← halike.candidatesOf]
    cases error with
    | none => exact explore_run names s' world'
    | some e => rfl

theorem Job.run_run (job : Job) (mode : Mode) (world : World) :
    (job.run World.disk mode).run world =
      match Analyzer.make job.config.bindingAttribute job.registry with
      | .error e => (⟨.start mode job.sourceDir, some e⟩, world)
      | .ok analyzer =>
        match world.scan job.sourceDir job.extensions job.config.ignores with
        | .error e => (⟨.start mode job.sourceDir, some e⟩, world)
        | .ok found =>
          (visit World.disk analyzer found (.start mode job.sourceDir)).run world := by
  unfold Job.run
  cases Analyzer.make job.config.bindingAttribute job.registry with
  | error e => rfl
  | ok analyzer =>
    dsimp only
    rw [bind_run (listNames_run world job.sourceDir job.config.ignores), World.scan]
    cases world.listNames job.sourceDir job.config.ignores with
    | error e => rfl
    | ok listed => exact explore_run listed.2 _ world

theorem alike_of_run (job : Job) (mode : Mode) (world : World) :
    ((job.run World.disk mode).run world).2.Alike world := by
  rw [job.run_run]
  cases Analyzer.make job.config.bindingAttribute job.registry with
  | error e => exact ⟨rfl, rfl⟩
  | ok analyzer =>
    dsimp only
    cases world.scan job.sourceDir job.extensions job.config.ignores with
    | error e => exact ⟨rfl, rfl⟩
    | ok found => exact alike_of_visit analyzer found _ world

end TableGuard
