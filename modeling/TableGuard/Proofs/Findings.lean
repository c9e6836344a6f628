import TableGuard.Proofs.Convergence
import TableGuard.Proofs.Text.Location
import TableGuard.Proofs.Visit

/-!
# What exactly an analysis lists

Issues are listed variable by variable and rule by rule, each pair of the two at most once. With the
builtin rules the pairs are those of a bound variable and a call that occurs, and the place of an
issue is that of the leftmost call.

* `allIssues_eq_ok` : the pairs that are listed, and what each issue is;
* `Registry.Precedes`, `pairwise_precedes` : the order of the list;
* `Lists` : the list said without patterns;
* `analyze_lists` : the analysis of a text.
-/

namespace TableGuard

/-! ## Any rules -/

theorem issue?_eq_some {content var : String} {rule : Rule} {issue : Issue}
    (h : Analyzer.issue? content var rule = .ok (some issue)) :
    issue.rule = rule ∧ issue.var = var ∧
      ∃ re before hit after, rule.detector var = .ok re ∧
        re.first? content.toList = some (before, hit, after) ∧
        issue.location = .between before (hit ++ after) := by
  obtain ⟨re, hre, h⟩ := bind_eq_ok_iff.1 h
  obtain ⟨⟨before, hit, after⟩, hfirst, rfl⟩ := Option.map_eq_some_iff.1 (Except.ok.inj h)
  exact ⟨rfl, rfl, re, before, hit, after, hre, hfirst, rfl⟩

theorem issuesOf_eq_ok {content var : String} : ∀ {rules : List Rule} {issues : List Issue},
    Analyzer.issuesOf content var rules = .ok issues →
      (issues.map fun issue => (issue.var, issue.rule)).Sublist (rules.map (var, ·)) ∧
      ∀ issue ∈ issues, Analyzer.issue? content issue.var issue.rule = .ok (some issue)
  | [], issues, h => by
    obtain rfl := Except.ok.inj h
    exact ⟨List.Sublist.refl _, fun _ hmem => absurd hmem List.not_mem_nil⟩
  | rule :: rules, issues, h => by
    obtain ⟨found, hfound, h⟩ := bind_eq_ok_iff.1 h
    obtain ⟨rest, hrest, h⟩ := bind_eq_ok_iff.1 h
    obtain rfl := Except.ok.inj h
    obtain ⟨hsub, hmem⟩ := issuesOf_eq_ok hrest
    cases found with
    | none => exact ⟨hsub.cons _, hmem⟩
    | some issue =>
      obtain ⟨hrule, hvar, -⟩ := issue?_eq_some hfound
      refine ⟨?_, ?_⟩
      · rw [Option.toList_some, List.singleton_append, List.map_cons, hrule, hvar]
        exact hsub.cons_cons _
      · intro issue' hissue'
        rcases List.mem_cons.1 hissue' with rfl | hissue'
        · rw [hrule, hvar]
          exact hfound
        · exact hmem issue' hissue'

/-- **What is listed**: some of the pairs of a variable and a rule, in order, and each issue is what
its rule finds for its variable. -/
theorem allIssues_eq_ok {content : String} {registry : Registry} :
    ∀ {vars : List String} {issues : List Issue},
      Analyzer.allIssues content registry vars = .ok issues →
      (issues.map fun issue => (issue.var, issue.rule)).Sublist
          (vars.flatMap fun var => registry.rules.map (var, ·)) ∧
      ∀ issue ∈ issues, Analyzer.issue? content issue.var issue.rule = .ok (some issue)
  | [], issues, h => by
    obtain rfl := Except.ok.inj h
    exact ⟨List.Sublist.refl _, fun _ hmem => absurd hmem List.not_mem_nil⟩
  | var :: vars, issues, h => by
    obtain ⟨first, hfirst, h⟩ := bind_eq_ok_iff.1 h
    obtain ⟨rest, hrest, h⟩ := bind_eq_ok_iff.1 h
    obtain rfl := Except.ok.inj h
    obtain ⟨hsub, hmem⟩ := issuesOf_eq_ok hfirst
    obtain ⟨hsub', hmem'⟩ := allIssues_eq_ok hrest
    rw [List.map_append, List.flatMap_cons]
    exact ⟨hsub.append hsub', List.forall_mem_append.2 ⟨hmem, hmem'⟩⟩

/-! ## The order -/

/-- The pair of a variable and a rule comes before another: its variable has the lower bytes, or it
is the same variable and an earlier rule. -/
def Registry.Precedes (registry : Registry) (pair pair' : String × Rule) : Prop :=
  Utf8.encode pair.1.toList < Utf8.encode pair'.1.toList ∨
    pair.1 = pair'.1 ∧ registry.rules.idxOf pair.2 < registry.rules.idxOf pair'.2

theorem pairwise_idxOf {rules : List Rule} (h : rules.Nodup) :
    rules.Pairwise fun rule rule' => rules.idxOf rule < rules.idxOf rule' := by
  rw [List.pairwise_iff_getElem]
  intro i j hi hj hij
  rwa [h.idxOf_getElem i hi, h.idxOf_getElem j hj]

/-- **Issues are listed in order**, no pair twice. -/
theorem pairwise_precedes {content : String} {registry : Registry} (hrules : registry.rules.Nodup)
    {vars : List String} (hvars : vars.Pairwise (· < ·)) {issues : List Issue}
    (h : Analyzer.allIssues content registry vars = .ok issues) :
    (issues.map fun issue => (issue.var, issue.rule)).Pairwise registry.Precedes := by
  refine List.Pairwise.sublist (allIssues_eq_ok h).1 ?_
  rw [List.pairwise_flatMap]
  constructor
  · intro var _
    rw [List.pairwise_map]
    exact (pairwise_idxOf hrules).imp fun hlt => .inr ⟨rfl, hlt⟩
  · refine hvars.imp fun hlt pair hpair pair' hpair' => .inl ?_
    obtain ⟨rule, -, rfl⟩ := List.mem_map.1 hpair
    obtain ⟨rule', -, rfl⟩ := List.mem_map.1 hpair'
    exact Utf8.encode_lt_encode_of_lt hlt

/-! ## The builtin rules -/

/-- The issues of a text, said without patterns. Every issue is of a builtin rule; there is one of a
variable and a payload exactly if the variable is a bound word and its setter is called with the
payload; they are in order; and each is placed at the leftmost call. -/
structure Lists (attr content : String) (issues : List Issue) : Prop where
  builtin : ∀ issue ∈ issues, ∃ p : Payload, issue.rule = p.rule
  mem_iff : ∀ (var : String) (p : Payload),
    (var, p.rule) ∈ issues.map (fun issue => (issue.var, issue.rule)) ↔
      IsWord var.toList ∧ bindingText attr.toList var.toList <:+: content.toList ∧
        p.call var.toList <:+: content.toList
  ordered : (issues.map fun issue => (issue.var, issue.rule)).Pairwise Registry.builtin.Precedes
  located : ∀ issue ∈ issues, ∀ p : Payload, issue.rule = p.rule →
    ∃ before, Regex.FirstAt (p.call issue.var.toList) content.toList before ∧
      Location.atByte? content (Utf8.size before) = some issue.location

theorem located_of_issue? {content : String} {p : Payload} {issue : Issue}
    (hrule : issue.rule = p.rule)
    (h : Analyzer.issue? content issue.var issue.rule = .ok (some issue)) :
    ∃ before, Regex.FirstAt (p.call issue.var.toList) content.toList before ∧
      Location.atByte? content (Utf8.size before) = some issue.location := by
  obtain ⟨-, -, re, before, hit, after, hre, hfirst, hlocation⟩ := issue?_eq_some h
  rw [hrule] at hre
  obtain rfl := p.eq_of_detector_rule hre
  have hne := p.call_ne_nil issue.var.toList
  have htext := ((Regex.solid_chars _ hne).first?_eq_some hfirst).1
  refine ⟨before, (Regex.firstAt_of_first?_chars hne hfirst).2, ?_⟩
  rw [Location.atByte?_append htext, hlocation]

theorem analyze_eq_notApplicable_iff {attr : String} {registry : Registry} {analyzer : Analyzer}
    (hmake : Analyzer.make attr registry = .ok analyzer) {content : String} {analysis : Analysis}
    (h : analyzer.analyze content = .ok analysis) :
    analysis = .notApplicable ↔ ¬ attr.toList ++ ['='] <:+: content.toList := by
  rw [← usesBinding_iff hmake, ← isApplicable_of_analyze h]
  cases analysis with
  | notApplicable => exact ⟨fun _ => Bool.false_ne_true, fun _ => rfl⟩
  | applicable vars issues => exact ⟨nofun, fun hnot => absurd rfl hnot⟩

section Lists

variable {attr : String} {analyzer : Analyzer} (hattr : PlainAttribute attr.toList)
  (hmake : Analyzer.make attr Registry.builtin = .ok analyzer)
include hattr hmake

theorem lists_of_finds {content : String} {issues : List Issue}
    (hfinds : Finds content (callsOf (analyzer.boundVariables content)) issues)
    (hissues : Analyzer.allIssues content Registry.builtin (analyzer.boundVariables content) =
      .ok issues) : Lists attr content issues where
  builtin issue hmem := Payload.exists_of_mem_builtin (hfinds.builtin issue hmem)
  mem_iff var p := by
    have hsite := hfinds.sites (p, var.toList)
    rw [mem_sitesOf, mem_callsOf] at hsite
    simp only [String.toList_inj, exists_eq_right, mem_boundVariables hattr hmake] at hsite
    rw [List.mem_map, ← and_assoc, ← hsite]
    refine exists_congr fun issue => and_congr_right fun _ => ?_
    rw [Prod.mk.injEq, and_comm]
  ordered := pairwise_precedes (by decide) (pairwise_sortDistinct _) hissues
  located issue hmem p hrule := located_of_issue? hrule ((allIssues_eq_ok hissues).2 issue hmem)

theorem exists_lists {content : String} (hfit : CallsFit attr content) :
    ∃ analysis, analyzer.analyze content = .ok analysis ∧ Lists attr content analysis.issues := by
  rw [← sitesFit_callsOf_iff hattr hmake] at hfit
  obtain ⟨issues, hissues, hfinds⟩ := allIssues_builtin content _ hfit
  have hlists := lists_of_finds hattr hmake hfinds hissues
  by_cases huses : analyzer.usesBinding content = true
  · refine ⟨.applicable (analyzer.boundVariables content) issues, ?_, hlists⟩
    rw [analyze_of_uses hmake huses, hissues]
    rfl
  · refine ⟨.notApplicable, ?_, ?_⟩
    · rw [Analyzer.analyze, if_neg huses]
    · rw [boundVariables_of_not_uses hattr hmake huses] at hissues
      rwa [← Except.ok.inj hissues] at hlists

end Lists

/-- **The analysis of a text.** Take an attribute that settings may have. There is an analyzer for it
with the builtin rules, at least up to `maxAttribute` bytes. If every call of a bound variable is
short enough to be a pattern, then the analysis succeeds; it finds the text not applicable exactly if
the attribute and the sign after it do not occur; and it lists the bound words with the payloads that
are handed to their setters, in the order of their bytes and of the rules, each pair once and at the
leftmost call. Otherwise it fails. -/
theorem analyze_lists {attr : String} (hattr : Config.isAttribute attr = true) (content : String) :
    (Utf8.size attr.toList ≤ maxAttribute →
      ∃ analyzer, Analyzer.make attr Registry.builtin = .ok analyzer) ∧
    ∀ analyzer, Analyzer.make attr Registry.builtin = .ok analyzer →
      (CallsFit attr content → ∃ analysis, analyzer.analyze content = .ok analysis ∧
        (analysis = .notApplicable ↔ ¬ attr.toList ++ ['='] <:+: content.toList) ∧
        Lists attr content analysis.issues) ∧
      (¬ CallsFit attr content → ∃ e, analyzer.analyze content = .error e) := by
  have hplain := plainAttribute hattr
  refine ⟨fun hsize => ⟨_, Analyzer.make_eq_ok attr hsize Registry.builtin⟩, ?_⟩
  intro analyzer hmake
  constructor
  · intro hfit
    obtain ⟨analysis, hanalyze, hlists⟩ := exists_lists hplain hmake hfit
    exact ⟨analysis, hanalyze, analyze_eq_notApplicable_iff hmake hanalyze, hlists⟩
  · intro hfit
    rw [← sitesFit_callsOf_iff hplain hmake] at hfit
    exact analyze_of_not_fit hplain hmake hfit

/-- A setter within a setter: the call of the longer one is a call of the shorter one too. -/
theorem analyze_lists_setters : ∃ analyzer analysis,
    Analyzer.make "rows" Registry.builtin = .ok analyzer ∧
    analyzer.analyze "rows={X} rows={setX} setsetX(response.data)" = .ok analysis ∧
    ("X", Registry.directData) ∈ analysis.issues.map (fun issue => (issue.var, issue.rule)) ∧
    ("setX", Registry.directData) ∈ analysis.issues.map (fun issue => (issue.var, issue.rule)) ∧
    ("X", Registry.nestedList) ∉ analysis.issues.map (fun issue => (issue.var, issue.rule)) := by
  have hattr : Config.isAttribute "rows" = true := by decide
  obtain ⟨hexists, hlists⟩ := analyze_lists hattr "rows={X} rows={setX} setsetX(response.data)"
  obtain ⟨analyzer, hmake⟩ := hexists (by decide)
  obtain ⟨analysis, hanalyze, -, hissues⟩ :=
    (hlists analyzer hmake).1 (callsFit_of_size_le "rows" (by decide))
  refine ⟨analyzer, analysis, hmake, hanalyze, (hissues.mem_iff "X" .data).2 ?_,
    (hissues.mem_iff "setX" .data).2 ?_, mt (hissues.mem_iff "X" .nestedList).1 ?_⟩
  all_goals decide

/-- A text that binds a word of 400000 letters has no analysis. -/
theorem analyze_long_row :
    Config.isAttribute "rows" = true ∧
      ∃ analyzer, Analyzer.make "rows" Registry.builtin = .ok analyzer ∧
        ∃ e, analyzer.analyze (String.ofList (bindingText "rows".toList
          (List.replicate 400000 'a'))) = .error e := by
  have hattr : Config.isAttribute "rows" = true := by decide
  have hmake := Analyzer.make_eq_ok "rows" (by decide) Registry.builtin
  have hfit := not_callsFit_replicate "rows" (n := 400000) (by decide)
  rw [← sitesFit_callsOf_iff (plainAttribute hattr) hmake] at hfit
  exact ⟨hattr, _, hmake, analyze_of_not_fit (plainAttribute hattr) hmake hfit⟩

end TableGuard
