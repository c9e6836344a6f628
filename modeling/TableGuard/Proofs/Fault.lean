import TableGuard.Proofs.Course
import TableGuard.Proofs.Findings
import TableGuard.Proofs.Rerun

/-!
# What is wrong with a file

A run ends at the first candidate with which something is wrong. That depends on the bytes of the
file alone: they are no text, or some rule has no pattern for a variable that is bound there. Where
nothing is wrong the file can be analyzed, and the issues found in it can be fixed.

* `Analyzer.fault?`, `World.fault?` : what is wrong with a file, and with a candidate;
* `errorOf?_allIssues`, `exists_fixContent` : when an analysis fails, and that fixing does not;
* `errorOf?_inspect`, `World.errorOf?_look` : what is wrong is what is found to be wrong;
* `Course.of_faults` : where a check ends, and why.
-/

namespace TableGuard

def errorOf? {ε α : Type} : Except ε α → Option ε
  | .ok _ => none
  | .error e => some e

/-- The error of the first rule without a pattern for the variable. -/
def Registry.fault? (registry : Registry) (var : String) : Option Error :=
  registry.rules.findSome? fun rule => errorOf? (rule.detector var)

/-- What is wrong with a file, if anything. -/
def Analyzer.fault? (analyzer : Analyzer) (path : RawText) (bytes : List UInt8) : Option Error :=
  match Utf8.decode bytes with
  | .error fault => some ⟨[.decodingFile path], .badUtf8 fault⟩
  | .ok text => (analyzer.boundVariables (String.ofList text)).findSome? analyzer.registry.fault?

def World.fault? (world : World) (analyzer : Analyzer) (c : Candidate) : Option Error :=
  (world.tree.readAt world.cwd c.path).toOption.bind (analyzer.fault? c.path)

theorem errorOf?_eq_none_iff {ε α : Type} {x : Except ε α} : errorOf? x = none ↔ ∃ a, x = .ok a := by
  cases x <;> simp [errorOf?]

/-! ## Analyzing -/

theorem errorOf?_bind {ε α β : Type} (x : Except ε α) (f : α → Except ε β) (after : Option ε)
    (h : ∀ a, x = .ok a → errorOf? (f a) = after) :
    errorOf? (x >>= f) = (errorOf? x).or after := by
  cases x with
  | error e => rfl
  | ok a => exact (h a rfl).trans (by simp [errorOf?])

theorem errorOf?_issue? (content var : String) (rule : Rule) :
    errorOf? (Analyzer.issue? content var rule) = errorOf? (rule.detector var) := by
  rw [Analyzer.issue?, errorOf?_bind _ _ none fun _ _ => rfl, Option.or_none]

theorem errorOf?_issuesOf (content var : String) (rules : List Rule) :
    errorOf? (Analyzer.issuesOf content var rules) =
      rules.findSome? fun rule => errorOf? (rule.detector var) := by
  induction rules with
  | nil => rfl
  | cons rule rules ih =>
    rw [Analyzer.issuesOf, errorOf?_bind _ _ _ fun _ _ => (errorOf?_bind _ _ none fun _ _ => rfl),
      ih, errorOf?_issue?, Option.or_none, List.findSome?_cons]
    cases errorOf? (rule.detector var) <;> rfl

theorem errorOf?_allIssues (content : String) (registry : Registry) (vars : List String) :
    errorOf? (Analyzer.allIssues content registry vars) = vars.findSome? registry.fault? := by
  induction vars with
  | nil => rfl
  | cons var vars ih =>
    rw [Analyzer.allIssues, errorOf?_bind _ _ _ fun _ _ => (errorOf?_bind _ _ none fun _ _ => rfl),
      ih, errorOf?_issuesOf, Option.or_none, List.findSome?_cons, Registry.fault?]
    cases registry.rules.findSome? fun rule => errorOf? (rule.detector var) <;> rfl

/-- Whatever is found, the rule has a pattern for the variable. -/
theorem detector_of_allIssues {content : String} {registry : Registry} {vars : List String}
    {issues : List Issue} (h : Analyzer.allIssues content registry vars = .ok issues) :
    ∀ issue ∈ issues, ∃ re, issue.rule.detector issue.var = .ok re := by
  intro issue hmem
  obtain ⟨-, -, re, -, -, -, hre, -⟩ := issue?_eq_some ((allIssues_eq_ok h).2 issue hmem)
  exact ⟨re, hre⟩

/-! ## Fixing -/

theorem exists_foldlM_fixIssue : ∀ (issues : List Issue) (start : Outcome),
    (∀ issue ∈ issues, ∃ re, issue.rule.detector issue.var = .ok re) →
    ∃ outcome, issues.foldlM fixIssue start = .ok outcome
  | [], start, _ => ⟨start, rfl⟩
  | issue :: issues, start, h => by
    obtain ⟨re, hre⟩ := h issue List.mem_cons_self
    have hfirst : ∃ mid, fixIssue start issue = .ok mid := by
      unfold fixIssue
      rw [hre]
      dsimp only [bind, Except.bind]
      split <;> exact ⟨_, rfl⟩
    obtain ⟨mid, hmid⟩ := hfirst
    obtain ⟨outcome, hrest⟩ :=
      exists_foldlM_fixIssue issues mid fun issue' h' => h issue' (List.mem_cons_of_mem issue h')
    refine ⟨outcome, ?_⟩
    rw [List.foldlM_cons, hmid]
    exact hrest

/-- **Issues that were found can be fixed.** -/
theorem exists_fixContent {analyzer : Analyzer} {content : String} {analysis : Analysis}
    (h : analyzer.analyze content = .ok analysis) :
    ∃ outcome, fixContent content analysis.issues = .ok outcome := by
  refine exists_foldlM_fixIssue _ _ ?_
  unfold Analyzer.analyze at h
  split at h
  · obtain ⟨issues, hissues, h⟩ := bind_eq_ok_iff.1 h
    rw [← Except.ok.inj h]
    exact detector_of_allIssues hissues
  · rw [← Except.ok.inj h]
    exact fun _ hmem => absurd hmem List.not_mem_nil

/-! ## Files and candidates -/

section Faults

variable {attr : String} {registry : Registry} {analyzer : Analyzer}
  (hattr : PlainAttribute attr.toList) (hmake : Analyzer.make attr registry = .ok analyzer)
include hattr hmake

theorem errorOf?_analyze (content : String) :
    errorOf? (analyzer.analyze content) =
      (analyzer.boundVariables content).findSome? analyzer.registry.fault? := by
  unfold Analyzer.analyze
  split
  · rw [errorOf?_bind _ _ none fun _ _ => rfl, Option.or_none, errorOf?_allIssues]
  · rename_i huses
    rw [boundVariables_of_not_uses hattr hmake huses]
    rfl

theorem errorOf?_judge (content : String) :
    errorOf? (analyzer.judge content) =
      (analyzer.boundVariables content).findSome? analyzer.registry.fault? := by
  rw [judge_eq, errorOf?_bind _ _ none, Option.or_none, errorOf?_analyze hattr hmake]
  intro analysis hanalysis
  obtain ⟨outcome, houtcome⟩ := exists_fixContent hanalysis
  exact errorOf?_eq_none_iff.2 ⟨_, bind_eq_ok_iff.2 ⟨outcome, houtcome, rfl⟩⟩

/-- **What is wrong with a file is what an inspection reports.** -/
theorem errorOf?_inspect (path : RawText) (bytes : List UInt8) :
    errorOf? (analyzer.inspect path bytes) = analyzer.fault? path bytes := by
  unfold Analyzer.inspect Analyzer.fault?
  cases Utf8.decode bytes with
  | error fault => rfl
  | ok text => exact errorOf?_judge hattr hmake (String.ofList text)

theorem World.errorOf?_look {world : World} {c : Candidate} {bytes : List UInt8}
    (h : world.tree.readAt world.cwd c.path = .ok bytes) :
    errorOf? (world.look analyzer c) = world.fault? analyzer c := by
  unfold World.look World.fault?
  rw [h]
  exact errorOf?_inspect hattr hmake c.path bytes

/-- **Where a check ends, and why.** The candidates can be read, so it ends at the first with which
something is wrong. -/
theorem Course.of_faults {world world' : World} {cs : List Candidate}
    {steps : List (Candidate × Verdict)} {error : Option Error}
    (h : Course analyzer .check world cs steps error world')
    (hread : ∀ c ∈ cs, ∃ bytes, world.tree.readAt world.cwd c.path = .ok bytes) :
    error = cs.findSome? (world.fault? analyzer) ∧
      steps.map Prod.fst = cs.takeWhile fun c => (world.fault? analyzer c).isNone := by
  induction h with
  | done world => exact ⟨rfl, rfl⟩
  | @stop world c cs e hdeal =>
    obtain ⟨bytes, hbytes⟩ := hread c List.mem_cons_self
    have hfault : world.fault? analyzer c = some e := by
      rw [← World.errorOf?_look hattr hmake hbytes, deal_eq_error_iff.1 hdeal]
      rfl
    rw [List.findSome?_cons, List.takeWhile_cons, hfault]
    exact ⟨rfl, rfl⟩
  | @next world world₁ world₂ c cs verdict steps error hdeal _ ih =>
    obtain ⟨bytes, hbytes⟩ := hread c List.mem_cons_self
    obtain ⟨hlook, hcases⟩ := deal_cases hdeal
    have hfault : world.fault? analyzer c = none := by
      rw [← World.errorOf?_look hattr hmake hbytes, hlook]
      rfl
    obtain ⟨-, rfl⟩ | ⟨content, tree, hsome, -⟩ := hcases
    · obtain ⟨herror, hsteps⟩ := ih fun c' hc' => hread c' (List.mem_cons_of_mem c hc')
      rw [List.findSome?_cons, List.takeWhile_cons, hfault, List.map_cons, hsteps]
      exact ⟨herror, rfl⟩
    · rw [update?_check] at hsome
      cases hsome

end Faults

end TableGuard
