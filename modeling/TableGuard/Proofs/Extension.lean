import TableGuard.Proofs.Capture
import TableGuard.Proofs.Regex.Matches

/-!
# More rules

Rules that are configured come behind the builtin ones. They add issues of their own and leave those
of the builtin rules as they are.

* `Analyzer.found?` : the issue of one rule and one variable;
* `allIssues_eq_flatMap` : all issues, variable by variable and rule by rule;
* `exists_analyze_issues_iff` : the issues of a text;
* `filter_flatMap_found?` : the issues of rules that are kept;
* `analyze_withExtra` : the analysis with configured rules.
-/

namespace TableGuard

/-! ## The issues of rules -/

def Analyzer.found? (content var : String) (rule : Rule) : Option Issue :=
  (Analyzer.issue? content var rule).toOption.join

theorem found?_eq_some_iff {content var : String} {rule : Rule} {issue : Issue} :
    Analyzer.found? content var rule = some issue ↔
      Analyzer.issue? content var rule = .ok (some issue) := by
  rw [Analyzer.found?]
  cases Analyzer.issue? content var rule with
  | error e => exact iff_of_false nofun nofun
  | ok found => simp [Except.toOption]

theorem of_found? {content var : String} {rule : Rule} {issue : Issue}
    (h : Analyzer.found? content var rule = some issue) : issue.rule = rule ∧ issue.var = var := by
  obtain ⟨hrule, hvar, -⟩ := issue?_eq_some (found?_eq_some_iff.1 h)
  exact ⟨hrule, hvar⟩

theorem exists_found?_iff {content var : String} {rule : Rule} :
    (∃ issue, Analyzer.found? content var rule = some issue) ↔
      ∃ re, rule.detector var = .ok re ∧ re.Matches content.toList := by
  simp only [found?_eq_some_iff]
  constructor
  · rintro ⟨issue, h⟩
    obtain ⟨-, -, re, before, hit, after, hre, hfirst, -⟩ := issue?_eq_some h
    refine ⟨re, hre, by_contra fun hnone => ?_⟩
    rw [Regex.first?_eq_none_iff.2 hnone] at hfirst
    cases hfirst
  · rintro ⟨re, hre, hmatches⟩
    cases hfirst : re.first? content.toList with
    | none => exact absurd hmatches (Regex.first?_eq_none_iff.1 hfirst)
    | some found =>
      obtain ⟨before, hit, after⟩ := found
      refine ⟨⟨rule, var, .between before (hit ++ after)⟩, bind_eq_ok_iff.2 ⟨re, hre, ?_⟩⟩
      rw [hfirst]
      rfl

theorem issuesOf_eq_filterMap {content var : String} : ∀ {rules : List Rule}
    {issues : List Issue}, Analyzer.issuesOf content var rules = .ok issues →
      issues = rules.filterMap (Analyzer.found? content var)
  | [], issues, h => (Except.ok.inj h).symm
  | rule :: rules, issues, h => by
    obtain ⟨found, hfound, h⟩ := bind_eq_ok_iff.1 h
    obtain ⟨rest, hrest, h⟩ := bind_eq_ok_iff.1 h
    have hfirst : Analyzer.found? content var rule = found := by
      rw [Analyzer.found?, hfound]
      rfl
    rw [← Except.ok.inj h, List.filterMap_cons, hfirst, issuesOf_eq_filterMap hrest]
    cases found <;> rfl

/-- **All issues**: for each variable, those that the rules find. -/
theorem allIssues_eq_flatMap {content : String} {registry : Registry} :
    ∀ {vars : List String} {issues : List Issue},
      Analyzer.allIssues content registry vars = .ok issues →
      issues = vars.flatMap fun var => registry.rules.filterMap (Analyzer.found? content var)
  | [], issues, h => (Except.ok.inj h).symm
  | var :: vars, issues, h => by
    obtain ⟨first, hfirst, h⟩ := bind_eq_ok_iff.1 h
    obtain ⟨rest, hrest, h⟩ := bind_eq_ok_iff.1 h
    rw [← Except.ok.inj h, List.flatMap_cons, ← issuesOf_eq_filterMap hfirst,
      ← allIssues_eq_flatMap hrest]

theorem mem_pairs_iff {content : String} {registry : Registry} {vars : List String}
    {issues : List Issue} (h : Analyzer.allIssues content registry vars = .ok issues)
    (var : String) (rule : Rule) :
    (var, rule) ∈ issues.map (fun issue => (issue.var, issue.rule)) ↔
      var ∈ vars ∧ rule ∈ registry.rules ∧
        ∃ re, rule.detector var = .ok re ∧ re.Matches content.toList := by
  rw [allIssues_eq_flatMap h, List.mem_map, ← exists_found?_iff]
  simp only [List.mem_flatMap, List.mem_filterMap]
  constructor
  · rintro ⟨issue, ⟨var', hvar', rule', hrule', hfound⟩, heq⟩
    obtain ⟨hrule, hvar⟩ := of_found? hfound
    obtain ⟨rfl, rfl⟩ : var' = var ∧ rule' = rule := by
      rw [Prod.mk.injEq, hvar, hrule] at heq
      exact heq
    exact ⟨hvar', hrule', issue, hfound⟩
  · rintro ⟨hvar, hrule, issue, hfound⟩
    obtain ⟨hrule', hvar'⟩ := of_found? hfound
    exact ⟨issue, ⟨var, hvar, rule, hrule, hfound⟩, by rw [hvar', hrule']⟩

theorem nodup_kinds_of_allIssues {content : String} {registry : Registry}
    (hkinds : (registry.rules.map Rule.kind).Nodup) {vars : List String}
    (hvars : vars.Pairwise (· < ·)) {issues : List Issue}
    (h : Analyzer.allIssues content registry vars = .ok issues) :
    (issues.map fun issue => (issue.rule.kind, issue.var)).Nodup := by
  have hordered := pairwise_precedes hkinds.of_map hvars h
  have hrules : ∀ issue ∈ issues, issue.rule ∈ registry.rules := fun issue hmem =>
    ((mem_pairs_iff h issue.var issue.rule).1 (List.mem_map_of_mem hmem)).2.1
  rw [List.pairwise_map] at hordered
  refine List.pairwise_map.2 (hordered.imp_of_mem fun {issue issue'} hmem hmem' hlt heq => ?_)
  obtain ⟨hkind, hvar⟩ := Prod.mk.inj heq
  have hrule := List.inj_on_of_nodup_map hkinds (hrules _ hmem) (hrules _ hmem') hkind
  rcases hlt with hlt | ⟨-, hlt⟩
  · rw [hvar] at hlt
    exact List.lt_irrefl _ hlt
  · rw [hrule] at hlt
    exact Nat.lt_irrefl _ hlt

/-! ## The analysis of a text -/

theorem exists_analyze_issues_iff {attr : String} {registry : Registry} {analyzer : Analyzer}
    (hmake : Analyzer.make attr registry = .ok analyzer) {content : String} {issues : List Issue} :
    (∃ analysis, analyzer.analyze content = .ok analysis ∧ analysis.issues = issues) ↔
      Analyzer.allIssues content registry (analyzer.boundVariables content) = .ok issues := by
  by_cases huses : analyzer.usesBinding content = true
  · rw [analyze_of_uses hmake huses]
    cases Analyzer.allIssues content registry (analyzer.boundVariables content) with
    | error e => exact iff_of_false (fun ⟨_, h, _⟩ => nomatch h) nofun
    | ok found => simp [Except.map, Analysis.issues]
  · have hnil : analyzer.boundVariables content = [] := by
      rw [List.eq_nil_iff_forall_not_mem]
      exact fun var hmem => huses (usesBinding_of_mem_boundVariables hmake hmem)
    rw [Analyzer.analyze, if_neg huses, hnil]
    simp [Analyzer.allIssues, Analysis.issues]

/-- Fewer rules have no more reason to fail. -/
theorem exists_allIssues_of_subset {content : String} {registry registry' : Registry}
    {vars : List String} {issues : List Issue}
    (h : Analyzer.allIssues content registry vars = .ok issues)
    (hsubset : registry'.rules ⊆ registry.rules) :
    ∃ issues', Analyzer.allIssues content registry' vars = .ok issues' := by
  have hnone := errorOf?_eq_none_iff.2 ⟨issues, h⟩
  rw [errorOf?_allIssues, List.findSome?_eq_none_iff] at hnone
  rw [← errorOf?_eq_none_iff, errorOf?_allIssues, List.findSome?_eq_none_iff]
  intro var hvar
  have hvar := hnone var hvar
  rw [Registry.fault?, List.findSome?_eq_none_iff] at hvar ⊢
  exact fun rule hrule => hvar rule (hsubset hrule)

/-- The issues whose rules are not dropped are those of the other rules. -/
theorem filter_flatMap_found? {content : String} {kept dropped : List Rule} {p : Rule → Bool}
    (hkept : ∀ rule ∈ kept, p rule = true) (hdropped : ∀ rule ∈ dropped, p rule = false)
    (vars : List String) :
    (vars.flatMap fun var => (kept ++ dropped).filterMap (Analyzer.found? content var)).filter
        (fun issue => p issue.rule) =
      vars.flatMap fun var => kept.filterMap (Analyzer.found? content var) := by
  rw [List.filter_flatMap]
  congr 1
  funext var
  rw [List.filterMap_append, List.filter_append, List.filter_eq_self.2, List.filter_eq_nil_iff.2,
    List.append_nil]
  · intro issue hmem
    obtain ⟨rule, hrule, hfound⟩ := List.mem_filterMap.1 hmem
    rw [(of_found? hfound).1, hdropped rule hrule]
    exact Bool.false_ne_true
  · intro issue hmem
    obtain ⟨rule, hrule, hfound⟩ := List.mem_filterMap.1 hmem
    rw [(of_found? hfound).1, hkept rule hrule]

/-- **Configured rules extend the analysis.** Take any attribute, and rules that are valid behind
the builtin ones. Where a text can be analyzed with all of them, the issues are listed in the order
of the variables' bytes and then of the rules; there is one for each bound variable and each rule
whose pattern for it matches the text, and for no other pair; no kind is listed twice for a
variable. The text can be analyzed with the builtin rules alone, and what that lists are, in order
and place, the issues that are not of the configured kinds. -/
theorem analyze_withExtra {attr content : String} {extra : List Rule} {analyzer : Analyzer}
    {analysis : Analysis} (hvalid : (Registry.withExtra extra).validate = .ok ())
    (hmake : Analyzer.make attr (.withExtra extra) = .ok analyzer)
    (hanalyze : analyzer.analyze content = .ok analysis) :
    (analysis.issues.map fun issue => (issue.var, issue.rule)).Pairwise
        (Registry.withExtra extra).Precedes ∧
    (∀ var rule, (var, rule) ∈ analysis.issues.map (fun issue => (issue.var, issue.rule)) ↔
      var ∈ analyzer.boundVariables content ∧ rule ∈ (Registry.withExtra extra).rules ∧
        ∃ re, rule.detector var = .ok re ∧ re.Matches content.toList) ∧
    (analysis.issues.map fun issue => (issue.rule.kind, issue.var)).Nodup ∧
    ∃ plain analysis', Analyzer.make attr Registry.builtin = .ok plain ∧
      plain.analyze content = .ok analysis' ∧
      analysis.issues.filter (fun issue => issue.rule.kind ∉ extra.map Rule.kind) =
        analysis'.issues := by
  have hkinds := Registry.nodup_kinds hvalid
  have hissues := (exists_analyze_issues_iff hmake).1 ⟨analysis, hanalyze, rfl⟩
  have hsorted : (analyzer.boundVariables content).Pairwise (· < ·) := pairwise_sortDistinct _
  refine ⟨pairwise_precedes hkinds.of_map hsorted hissues, mem_pairs_iff hissues,
    nodup_kinds_of_allIssues hkinds hsorted hissues, ?_⟩
  obtain ⟨hfits, hanalyzer⟩ := Analyzer.make_eq_ok_iff.1 hmake
  have hplain : Analyzer.make attr Registry.builtin = .ok { analyzer with
      registry := Registry.builtin } := by
    rw [Analyzer.make_eq_ok_iff, hanalyzer]
    exact ⟨hfits, rfl⟩
  obtain ⟨issues, hbuiltin⟩ :=
    exists_allIssues_of_subset hissues (List.subset_append_left Registry.builtin.rules extra)
  obtain ⟨analysis', hanalyze', hsame⟩ := (exists_analyze_issues_iff hplain).2 hbuiltin
  refine ⟨_, analysis', hplain, hanalyze', ?_⟩
  rw [hsame, allIssues_eq_flatMap hissues, allIssues_eq_flatMap hbuiltin]
  refine filter_flatMap_found? (p := fun rule => rule.kind ∉ extra.map Rule.kind) ?_ ?_ _
  · intro rule hrule
    rw [Registry.withExtra, List.map_append] at hkinds
    exact decide_eq_true fun hmem =>
      List.disjoint_of_nodup_append hkinds (List.mem_map_of_mem hrule) hmem
  · intro rule hrule
    exact decide_eq_false (not_not_intro (List.mem_map_of_mem hrule))

/-- A configured rule adds its issue behind that of a builtin rule. -/
theorem analyze_withExtra_eitherCall :
    (Registry.withExtra [eitherCall]).validate = .ok () ∧
    ∃ analyzer analysis plain analysis',
      Analyzer.make "dataSource" (.withExtra [eitherCall]) = .ok analyzer ∧
      analyzer.analyze "dataSource={Rows} setRows(res); setRows(response.data)" = .ok analysis ∧
      analysis.issues.map (fun issue => issue.rule.kind) =
        ["direct-response-data", "either-call"] ∧
      Analyzer.make "dataSource" Registry.builtin = .ok plain ∧
      plain.analyze "dataSource={Rows} setRows(res); setRows(response.data)" = .ok analysis' ∧
      analysis.issues.filter (fun issue => issue.rule.kind ∉ ["either-call"]) =
        analysis'.issues := by
  have hvalid : (Registry.withExtra [eitherCall]).validate = .ok () :=
    eq_ok_of_toOption (by decide +kernel)
  have hmake := Analyzer.make_eq_ok "dataSource" (by decide) (.withExtra [eitherCall])
  have hkinds : (Analyzer.analyze
      ⟨"dataSource", ⟨.ofExpr (bindingExpr "dataSource".toList)⟩, .withExtra [eitherCall]⟩
      "dataSource={Rows} setRows(res); setRows(response.data)").toOption.map
        (fun analysis => analysis.issues.map fun issue => issue.rule.kind) =
      some ["direct-response-data", "either-call"] := by decide +kernel
  obtain ⟨analysis, hanalysis, hkinds⟩ := Option.map_eq_some_iff.1 hkinds
  have hanalyze := eq_ok_of_toOption hanalysis
  obtain ⟨-, -, -, plain, analysis', hplain, hanalyze', hfilter⟩ :=
    analyze_withExtra hvalid hmake hanalyze
  exact ⟨hvalid, _, analysis, plain, analysis', hmake, hanalyze, hkinds, hplain, hanalyze', hfilter⟩

end TableGuard
