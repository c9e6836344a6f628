import TableGuard.Proofs.Visit

/-!
# The course of a visit

A visit deals with one candidate after another until it meets an error or there is none left. Its
course is what it leaves behind: the candidates that were dealt with, each with what was found when
its turn came, the error if there was one, and the tree.

* `Course`, `exists_course` : the course of a visit;
* `Course.unique` : there is only one;
* `Course.of_check` : in check mode the tree is left as it is;
* `Summary.addAll_eq` : the summary of a course;
* `Job.Ends`, `Job.exists_ends` : how the run of a job ends.
-/

namespace TableGuard

/-- From a tree and candidates to the candidates that were dealt with, the error that ended the visit
and the tree in the end. -/
inductive Course (analyzer : Analyzer) (mode : Mode) :
    World → List Candidate → List (Candidate × Verdict) → Option Error → World → Prop
  | done (world : World) : Course analyzer mode world [] [] none world
  | stop {world : World} {c : Candidate} {cs : List Candidate} {e : Error} :
      world.deal analyzer mode c = .error e → Course analyzer mode world (c :: cs) [] (some e) world
  | next {world world₁ world₂ : World} {c : Candidate} {cs : List Candidate} {verdict : Verdict}
      {steps : List (Candidate × Verdict)} {error : Option Error} :
      world.deal analyzer mode c = .ok (verdict, world₁) →
        Course analyzer mode world₁ cs steps error world₂ →
        Course analyzer mode world (c :: cs) ((c, verdict) :: steps) error world₂

/-! ## Summaries -/

namespace Summary

def addAll (s : Summary) (steps : List (Candidate × Verdict)) : Summary :=
  steps.foldl (fun s step => s.add step.1 step.2) s

end Summary

/-- The paths of the candidates that do not mention the attribute. -/
def skippedPaths (steps : List (Candidate × Verdict)) : List RawText :=
  (steps.filter fun step => !step.2.isApplicable).map fun step => step.1.path

def reportsOf (steps : List (Candidate × Verdict)) : List FileReport :=
  steps.filterMap fun step => step.2.report? step.1

theorem Summary.addAll_eq (steps : List (Candidate × Verdict)) (s : Summary) :
    s.addAll steps =
      ⟨s.mode, s.sourceDir, s.scanned + steps.length,
        s.binding + steps.countP (fun step => step.2.isApplicable),
        s.skipped ++ skippedPaths steps, s.files ++ reportsOf steps⟩ := by
  induction steps generalizing s with
  | nil => simp [addAll, skippedPaths, reportsOf]
  | cons step steps ih =>
    obtain ⟨c, verdict⟩ := step
    have hrest := ih (s.add c verdict)
    rw [addAll] at hrest
    rw [addAll, List.foldl_cons, hrest]
    cases verdict <;>
      simp [add, skippedPaths, reportsOf, Verdict.isApplicable, Verdict.report?] <;> omega

theorem length_skippedPaths (steps : List (Candidate × Verdict)) :
    (skippedPaths steps).length + steps.countP (fun step => step.2.isApplicable) =
      steps.length := by
  have hsplit := steps.length_eq_countP_add_countP fun step => step.2.isApplicable
  simp only [Bool.not_eq_true, Bool.decide_eq_false] at hsplit
  rw [skippedPaths, List.length_map, ← List.countP_eq_length_filter]
  omega

/-! ## Visits and their courses -/

/-- **Every visit takes its course.** -/
theorem exists_course (analyzer : Analyzer) : ∀ (cs : List Candidate) (s : Summary) (world : World),
    ∃ steps error world', Course analyzer s.mode world cs steps error world' ∧
      (visit World.disk analyzer cs s).run world = (⟨s.addAll steps, error⟩, world')
  | [], s, world => ⟨[], none, world, .done world, rfl⟩
  | c :: cs, s, world => by
    rw [visit_cons_deal]
    cases hdeal : world.deal analyzer s.mode c with
    | error e => exact ⟨[], some e, world, .stop hdeal, rfl⟩
    | ok dealt =>
      obtain ⟨verdict, world₁⟩ := dealt
      obtain ⟨steps, error, world₂, hcourse, hrun⟩ :=
        exists_course analyzer cs (s.add c verdict) world₁
      rw [s.add_mode] at hcourse
      exact ⟨(c, verdict) :: steps, error, world₂, .next hdeal hcourse, hrun⟩

namespace Course

variable {analyzer : Analyzer} {mode : Mode} {world world' : World} {cs : List Candidate}
  {steps : List (Candidate × Verdict)} {error : Option Error}

theorem unique (h : Course analyzer mode world cs steps error world')
    {steps' : List (Candidate × Verdict)} {error' : Option Error} {world'' : World}
    (h' : Course analyzer mode world cs steps' error' world'') :
    steps' = steps ∧ error' = error ∧ world'' = world' := by
  induction h generalizing steps' with
  | done world =>
    cases h'
    exact ⟨rfl, rfl, rfl⟩
  | stop hdeal =>
    cases h' with
    | stop hdeal' =>
      rw [hdeal] at hdeal'
      cases hdeal'
      exact ⟨rfl, rfl, rfl⟩
    | next hdeal' _ =>
      rw [hdeal] at hdeal'
      cases hdeal'
  | next hdeal _ ih =>
    cases h' with
    | stop hdeal' =>
      rw [hdeal] at hdeal'
      cases hdeal'
    | next hdeal' hrest' =>
      rw [hdeal] at hdeal'
      cases hdeal'
      obtain ⟨rfl, rfl, rfl⟩ := ih hrest'
      exact ⟨rfl, rfl, rfl⟩

/-- What was dealt with comes first, and it is all there is unless an error ended the visit. -/
theorem map_fst_prefix (h : Course analyzer mode world cs steps error world') :
    steps.map Prod.fst <+: cs ∧ (error = none → steps.map Prod.fst = cs) := by
  induction h with
  | done world => simp
  | stop hdeal => simp
  | next hdeal _ ih => simpa using ih

theorem deal_of_look {c : Candidate} {verdict : Verdict}
    (h : world.look analyzer c = .ok verdict) :
    world.deal analyzer .check c = .ok (verdict, world) := by
  unfold World.deal
  rw [h]
  simp only [update?_check]

/-- **In check mode the tree is left as it is**, and every candidate is seen as it stands there. -/
theorem of_check (h : Course analyzer .check world cs steps error world') :
    world' = world ∧ ∀ step ∈ steps, world.look analyzer step.1 = .ok step.2 := by
  induction h with
  | done world => simp
  | stop hdeal => simp
  | next hdeal _ ih =>
    obtain ⟨hlook, ⟨-, rfl⟩ | ⟨content, tree, hsome, -⟩⟩ := deal_cases hdeal
    · refine ⟨ih.1, fun step hstep => ?_⟩
      rcases List.mem_cons.1 hstep with rfl | hstep
      · exact hlook
      · exact ih.2 step hstep
    · rw [update?_check] at hsome
      cases hsome

end Course

/-! ## Runs and their courses -/

/-- How the run of a job ends: there is no analyzer, or nothing can be scanned, or the candidates are
visited. -/
inductive Job.Ends (job : Job) (mode : Mode) (world : World) :
    List (Candidate × Verdict) → Option Error → World → Prop
  | noAnalyzer {e : Error} :
      Analyzer.make job.config.bindingAttribute job.registry = .error e →
        Job.Ends job mode world [] (some e) world
  | noScan {e : Error} :
      (scan World.disk job.sourceDir job.extensions job.config.ignores).run world =
          (.error e, world) →
        Job.Ends job mode world [] (some e) world
  | visited {analyzer : Analyzer} {found : List Candidate} {steps : List (Candidate × Verdict)}
      {error : Option Error} {world' : World} :
      Analyzer.make job.config.bindingAttribute job.registry = .ok analyzer →
        (scan World.disk job.sourceDir job.extensions job.config.ignores).run world =
          (.ok found, world) →
        Course analyzer mode world found steps error world' →
        Job.Ends job mode world steps error world'

theorem Job.exists_ends (job : Job) (mode : Mode) (world : World) : ∃ steps error world',
    job.Ends mode world steps error world' ∧
      (job.run World.disk mode).run world =
        (⟨(Summary.start mode job.sourceDir).addAll steps, error⟩, world') := by
  rw [Job.run_run]
  cases hmake : Analyzer.make job.config.bindingAttribute job.registry with
  | error e => exact ⟨[], some e, world, .noAnalyzer hmake, rfl⟩
  | ok analyzer =>
    have hscan := scan_run world job.sourceDir job.extensions job.config.ignores
    dsimp only
    cases hfound : world.scan job.sourceDir job.extensions job.config.ignores with
    | error e =>
      rw [hfound] at hscan
      exact ⟨[], some e, world, .noScan hscan, rfl⟩
    | ok found =>
      rw [hfound] at hscan
      obtain ⟨steps, error, world', hcourse, hrun⟩ :=
        exists_course analyzer found (.start mode job.sourceDir) world
      exact ⟨steps, error, world', .visited hmake hscan hcourse, hrun⟩

theorem Job.Ends.course {job : Job} {mode : Mode} {world world' : World}
    {steps : List (Candidate × Verdict)} {error : Option Error}
    (h : job.Ends mode world steps error world') {analyzer : Analyzer} {found : List Candidate}
    (hmake : Analyzer.make job.config.bindingAttribute job.registry = .ok analyzer)
    (hscan : (scan World.disk job.sourceDir job.extensions job.config.ignores).run world =
      (.ok found, world)) : Course analyzer mode world found steps error world' := by
  cases h with
  | noAnalyzer he =>
    rw [hmake] at he
    cases he
  | noScan he =>
    rw [hscan] at he
    cases (Prod.mk.inj he).1
  | visited hmake' hscan' hcourse =>
    rw [hmake] at hmake'
    rw [hscan] at hscan'
    obtain rfl := Except.ok.inj hmake'
    obtain rfl := Except.ok.inj (Prod.mk.inj hscan').1
    exact hcourse

end TableGuard
