import TableGuard.Proofs.Binding
import TableGuard.Proofs.OnePass

/-!
# What an analysis finds

With the builtin rules, the issues of a file are the calls that hand a payload to the setter of a
bound variable, each of them once if it occurs at all.

* `callsOf` : all calls with the setters of some variables;
* `Finds` : issues that stand for those of some calls that occur in a text;
* `issuesOf_rules`, `allIssues_builtin` : the issues of one variable, and of several;
* `analyze_of_fit`, `analyze_of_not_fit` : the analysis of a text.

An analysis fails if one of the calls is too long to be a pattern, whether it occurs or not.
-/

namespace TableGuard

/-- All calls with the setters of some variables. -/
def callsOf (vars : List String) : Sites :=
  vars.flatMap fun var => Payload.all.map (·, var.toList)

theorem mem_callsOf {vars : List String} {p : Payload} {var : List Char} :
    (p, var) ∈ callsOf vars ↔ ∃ v ∈ vars, v.toList = var := by
  have hall : p ∈ Payload.all := by cases p <;> decide
  simp only [callsOf, List.mem_flatMap, List.mem_map, Prod.mk.injEq]
  constructor
  · rintro ⟨v, hv, q, -, rfl, rfl⟩
    exact ⟨v, hv, rfl⟩
  · rintro ⟨v, hv, rfl⟩
    exact ⟨v, hv, p, hall, rfl, rfl⟩

/-- The issues are of the builtin rules, have a place in the text, and stand for those of the calls
that occur. -/
structure Finds (content : String) (calls : Sites) (issues : List Issue) : Prop where
  builtin : ∀ issue ∈ issues, issue.rule ∈ Registry.builtin.rules
  located : ∀ issue ∈ issues, ∃ before after, before ++ after = content.toList ∧
    issue.location = .between before after
  sites : ∀ site, site ∈ sitesOf issues ↔
    site ∈ calls ∧ site.1.call site.2 <:+: content.toList

namespace Finds

theorem nil (content : String) : Finds content [] [] :=
  ⟨fun _ h => absurd h List.not_mem_nil, fun _ h => absurd h List.not_mem_nil,
    fun _ => by simp [sitesOf]⟩

theorem append {content : String} {calls calls' : Sites} {issues issues' : List Issue}
    (h : Finds content calls issues) (h' : Finds content calls' issues') :
    Finds content (calls ++ calls') (issues ++ issues') where
  builtin issue hmem := by
    rcases List.mem_append.1 hmem with hmem | hmem
    · exact h.builtin issue hmem
    · exact h'.builtin issue hmem
  located issue hmem := by
    rcases List.mem_append.1 hmem with hmem | hmem
    · exact h.located issue hmem
    · exact h'.located issue hmem
  sites site := by
    rw [sitesOf, List.filterMap_append, List.mem_append, List.mem_append, or_and_right]
    exact or_congr (h.sites site) (h'.sites site)

theorem eq_nil {content : String} {calls : Sites} {issues : List Issue}
    (h : Finds content calls issues)
    (hnone : ∀ site ∈ calls, ¬ site.1.call site.2 <:+: content.toList) : issues = [] := by
  rw [List.eq_nil_iff_forall_not_mem]
  intro issue hmem
  obtain ⟨p, hrule⟩ := Payload.exists_of_mem_builtin (h.builtin issue hmem)
  have hsite := (h.sites (p, issue.var.toList)).1 (mem_sitesOf.2 ⟨issue, hmem, hrule, rfl⟩)
  exact hnone _ hsite.1 hsite.2

end Finds

/-! ## One variable -/

/-- One rule and one variable: there is an issue exactly if the call occurs. -/
theorem issue?_rule (content var : String) (p : Payload)
    (hsize : Utf8.size (p.call var.toList) ≤ Regex.maxLiteral) :
    ∃ found, Analyzer.issue? content var p.rule = .ok found ∧
      Finds content [(p, var.toList)] found.toList := by
  have hsolid := Regex.solid_chars (p.call var.toList) (p.call_ne_nil var.toList)
  have hfirst := Regex.first?_chars_eq_none_iff (p.call_ne_nil var.toList) content.toList
  rw [Analyzer.issue?, p.detector_rule, if_pos hsize]
  simp only [bind, Except.bind, pure, Except.pure]
  refine ⟨_, rfl, ?_⟩
  cases hf : (Regex.mk (.chars (p.call var.toList))).first? content.toList with
  | none =>
    have hnot := hfirst.1 hf
    refine ⟨fun _ h => absurd h List.not_mem_nil, fun _ h => absurd h List.not_mem_nil, ?_⟩
    rintro ⟨q, w⟩
    refine ⟨fun h => absurd h List.not_mem_nil, ?_⟩
    rintro ⟨hmem, hoccurs⟩
    obtain ⟨rfl, rfl⟩ : q = p ∧ w = var.toList := by simpa using hmem
    exact absurd hoccurs hnot
  | some hit =>
    have hoccurs : p.call var.toList <:+: content.toList := by
      by_contra hnot
      rw [hfirst.2 hnot] at hf
      cases hf
    refine ⟨?_, ?_, ?_⟩
    · intro issue hmem
      rw [List.mem_singleton.1 hmem, ← Payload.map_rule_all]
      exact List.mem_map_of_mem (by cases p <;> decide)
    · intro issue hmem
      rw [List.mem_singleton.1 hmem]
      exact ⟨_, _, (hsolid.first?_eq_some hf).1.symm, rfl⟩
    · rintro ⟨q, w⟩
      rw [Option.map_some, Option.toList_some, sitesOf_cons rfl, List.mem_cons]
      constructor
      · rintro (h | h)
        · obtain ⟨rfl, rfl⟩ := Prod.mk.inj h
          exact ⟨List.mem_singleton_self _, hoccurs⟩
        · exact absurd h List.not_mem_nil
      · rintro ⟨hmem, -⟩
        exact .inl (List.mem_singleton.1 hmem)

theorem issuesOf_rules (content var : String) : ∀ (ps : List Payload),
    SitesFit (ps.map (·, var.toList)) →
      ∃ issues, Analyzer.issuesOf content var (ps.map Payload.rule) = .ok issues ∧
        Finds content (ps.map (·, var.toList)) issues
  | [], _ => ⟨[], rfl, .nil content⟩
  | p :: ps, hfit => by
    obtain ⟨found, hfound, hfinds⟩ := issue?_rule content var p (hfit _ List.mem_cons_self)
    obtain ⟨issues, hissues, hrest⟩ := issuesOf_rules content var ps
      (fun site hmem => hfit site (List.mem_cons_of_mem _ hmem))
    refine ⟨found.toList ++ issues, ?_, hfinds.append hrest⟩
    rw [List.map_cons, Analyzer.issuesOf, hfound, hissues]
    rfl

theorem issuesOf_of_not_fit (content var : String) : ∀ (ps : List Payload),
    ¬ SitesFit (ps.map (·, var.toList)) →
      ∃ e, Analyzer.issuesOf content var (ps.map Payload.rule) = .error e
  | [], hfit => absurd (fun _ h => absurd h List.not_mem_nil) hfit
  | p :: ps, hfit => by
    rw [List.map_cons, Analyzer.issuesOf]
    by_cases hsize : Utf8.size (p.call var.toList) ≤ Regex.maxLiteral
    · obtain ⟨found, hfound, -⟩ := issue?_rule content var p hsize
      have hrest : ¬ SitesFit (ps.map (·, var.toList)) := by
        intro hrest
        apply hfit
        intro site hmem
        rcases List.mem_cons.1 hmem with rfl | hmem
        · exact hsize
        · exact hrest site hmem
      obtain ⟨e, he⟩ := issuesOf_of_not_fit content var ps hrest
      rw [hfound, he]
      exact ⟨e, rfl⟩
    · rw [Analyzer.issue?, p.detector_rule, if_neg hsize]
      exact ⟨_, rfl⟩

/-! ## All variables -/

theorem callsOf_cons (var : String) (vars : List String) :
    callsOf (var :: vars) = Payload.all.map (·, var.toList) ++ callsOf vars := List.flatMap_cons

theorem sitesFit_append {calls calls' : Sites} :
    SitesFit (calls ++ calls') ↔ SitesFit calls ∧ SitesFit calls' := List.forall_mem_append

theorem allIssues_builtin (content : String) (vars : List String) (hfit : SitesFit (callsOf vars)) :
    ∃ issues, Analyzer.allIssues content Registry.builtin vars = .ok issues ∧
      Finds content (callsOf vars) issues := by
  induction vars with
  | nil => exact ⟨[], rfl, .nil content⟩
  | cons var vars ih =>
    rw [callsOf_cons, sitesFit_append] at hfit
    obtain ⟨first, hfirst, hfinds⟩ := issuesOf_rules content var Payload.all hfit.1
    obtain ⟨rest, hrest, hfinds'⟩ := ih hfit.2
    refine ⟨first ++ rest, ?_, hfinds.append hfinds'⟩
    rw [Analyzer.allIssues, ← Payload.map_rule_all, hfirst, hrest]
    rfl

theorem allIssues_of_not_fit (content : String) (vars : List String)
    (hfit : ¬ SitesFit (callsOf vars)) :
    ∃ e, Analyzer.allIssues content Registry.builtin vars = .error e := by
  induction vars with
  | nil => exact absurd (fun _ h => absurd h List.not_mem_nil) hfit
  | cons var vars ih =>
    rw [callsOf_cons, sitesFit_append, not_and] at hfit
    rw [Analyzer.allIssues, ← Payload.map_rule_all]
    by_cases hfirst : SitesFit (Payload.all.map (·, var.toList))
    · obtain ⟨first, hfound, -⟩ := issuesOf_rules content var Payload.all hfirst
      obtain ⟨e, he⟩ := ih (hfit hfirst)
      rw [hfound, he]
      exact ⟨e, rfl⟩
    · obtain ⟨e, he⟩ := issuesOf_of_not_fit content var Payload.all hfirst
      rw [he]
      exact ⟨e, rfl⟩

/-! ## A text -/

theorem usesBinding_iff {attr : String} {registry : Registry} {analyzer : Analyzer}
    (hmake : Analyzer.make attr registry = .ok analyzer) (content : String) :
    analyzer.usesBinding content = true ↔ attr.toList ++ ['='] <:+: content.toList := by
  obtain ⟨-, rfl⟩ := Analyzer.make_eq_ok_iff.1 hmake
  rw [Analyzer.usesBinding, occurs_iff_infix]

theorem analyze_of_uses {attr : String} {registry : Registry} {analyzer : Analyzer}
    (hmake : Analyzer.make attr registry = .ok analyzer) {content : String}
    (huses : analyzer.usesBinding content = true) :
    analyzer.analyze content =
      (Analyzer.allIssues content registry (analyzer.boundVariables content)).map
        (.applicable (analyzer.boundVariables content)) := by
  obtain ⟨-, rfl⟩ := Analyzer.make_eq_ok_iff.1 hmake
  rw [Analyzer.analyze, if_pos huses]
  rfl

theorem boundVariables_of_not_uses {attr : String} {registry : Registry} {analyzer : Analyzer}
    (hattr : PlainAttribute attr.toList) (hmake : Analyzer.make attr registry = .ok analyzer)
    {content : String} (h : ¬ analyzer.usesBinding content = true) :
    analyzer.boundVariables content = [] := by
  rw [List.eq_nil_iff_forall_not_mem]
  intro var hmem
  rw [mem_boundVariables hattr hmake] at hmem
  apply h
  rw [usesBinding_iff hmake]
  exact (mark_infix_bindingText _ _).trans hmem.2

section Text

variable {attr : String} {analyzer : Analyzer} (hattr : PlainAttribute attr.toList)
  (hmake : Analyzer.make attr Registry.builtin = .ok analyzer)
include hattr hmake

/-- **The analysis of a text** in which every call of a bound variable could be a pattern. -/
theorem analyze_of_fit {content : String}
    (hfit : SitesFit (callsOf (analyzer.boundVariables content))) :
    ∃ issues, analyzer.analyze content =
        .ok (if analyzer.usesBinding content then
          .applicable (analyzer.boundVariables content) issues else .notApplicable) ∧
      Finds content (callsOf (analyzer.boundVariables content)) issues := by
  by_cases huses : analyzer.usesBinding content = true
  · obtain ⟨issues, hissues, hfinds⟩ := allIssues_builtin content _ hfit
    refine ⟨issues, ?_, hfinds⟩
    rw [analyze_of_uses hmake huses, hissues, if_pos huses]
    rfl
  · refine ⟨[], ?_, ?_⟩
    · rw [Analyzer.analyze, if_neg huses, if_neg huses]
    · rw [boundVariables_of_not_uses hattr hmake huses]
      exact .nil content

/-- Otherwise the analysis fails. -/
theorem analyze_of_not_fit {content : String}
    (hfit : ¬ SitesFit (callsOf (analyzer.boundVariables content))) :
    ∃ e, analyzer.analyze content = .error e := by
  have huses : analyzer.usesBinding content = true := by
    by_contra huses
    rw [boundVariables_of_not_uses hattr hmake huses] at hfit
    exact hfit (fun _ h => absurd h List.not_mem_nil)
  obtain ⟨e, he⟩ := allIssues_of_not_fit content _ hfit
  rw [analyze_of_uses hmake huses, he]
  exact ⟨e, rfl⟩

end Text

end TableGuard
