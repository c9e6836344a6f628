import TableGuard.Fix
import TableGuard.Proofs.Guard
import TableGuard.Proofs.Text.Utf8

/-!
# Fixing in one pass

Issues of the builtin rules are fixed one after another, each by replacing all matches of its
pattern in what the ones before have left. The result is that of a single pass over the original
text.

* `Payload.detector_rule`, `Payload.eq_of_detector_rule` : the detector of a builtin rule finds its
  call, and nothing else;
* `replace_cut_call` : replacing all matches of a call is guarding it in one pass;
* `fixIssue_rule`, `fixContent_of_sites` : one issue, and all of them;
* `fixContent_eq_guardCalls` : the text after fixing, for issues in any order.

A call of more than `Regex.maxLiteral` bytes is no pattern, and fixing an issue with such a call
fails.
-/

namespace TableGuard

/-! ## One call -/

theorem Payload.call_ne_nil (p : Payload) (var : List Char) : p.call var ≠ [] :=
  List.cons_ne_nil _ _

/-- **The detector of a builtin rule is its call, if that is short enough.** -/
theorem Payload.detector_rule (p : Payload) (var : String) :
    p.rule.detector var =
      if Utf8.size (p.call var.toList) ≤ Regex.maxLiteral then
        .ok ⟨.chars (p.call var.toList)⟩
      else .error ⟨[.compiling p.rule.kind (String.ofList (p.rule.pattern var))],
        .badPattern (String.ofList (p.rule.pattern var))⟩ := by
  rw [Rule.detector]
  simp only [p.pattern_rule, Regex.compile?_quote _ (p.call_ne_nil _)]
  by_cases hsize : Utf8.size (p.call var.toList) ≤ Regex.maxLiteral
  · simp only [if_pos hsize]
  · simp only [if_neg hsize]

theorem Payload.eq_of_detector_rule {p : Payload} {var : String} {re : Regex}
    (h : p.rule.detector var = .ok re) : re = ⟨.chars (p.call var.toList)⟩ := by
  rw [p.detector_rule] at h
  split_ifs at h
  exact (Except.ok.inj h).symm

theorem Payload.length_call_lt (p : Payload) (var : List Char) :
    (p.call var).length < (p.guardedCall var).length := by
  have := p.length_argument_lt_length_guarded
  rw [call, guardedCall, List.length_append, List.length_append]
  omega

/-- No call begins in front of the text and ends in it. -/
def Clear (p : Payload) (var before text : List Char) : Prop :=
  ∀ start rest, start ≠ [] → rest ≠ [] → start ++ rest = p.call var →
    start.reverse <+: before → ¬ rest <+: text

theorem clear_nil (p : Payload) (var text : List Char) : Clear p var [] text := by
  intro start rest hstart _ _ hpre
  rw [List.prefix_nil, List.reverse_eq_nil_iff] at hpre
  exact absurd hpre hstart

theorem Clear.cons {p : Payload} {var before rest : List Char} {c : Char}
    (h : Clear p var before (c :: rest)) (hn : ¬ p.call var <+: c :: rest) :
    Clear p var (c :: before) rest := by
  intro start after hstart hafter hcall hpre hrest
  obtain ⟨init, d, rfl⟩ := List.eq_nil_or_concat' start |>.resolve_left hstart
  rw [List.reverse_append, List.reverse_singleton, List.singleton_append,
    List.cons_prefix_cons] at hpre
  obtain ⟨rfl, hpre⟩ := hpre
  rw [List.append_assoc, List.singleton_append] at hcall
  have hafter' : d :: after <+: d :: rest := List.cons_prefix_cons.2 ⟨rfl, hrest⟩
  by_cases hinit : init = []
  · subst hinit
    rw [List.nil_append] at hcall
    exact hn (hcall ▸ hafter')
  · exact h init (d :: after) hinit (List.cons_ne_nil _ _) hcall hpre hafter'

theorem Payload.call_eq_concat (p : Payload) (var : List Char) :
    p.call var = (setter var ++ '(' :: p.text) ++ [')'] := by
  rw [Payload.call, Payload.argument, List.append_assoc, List.cons_append]

theorem Payload.guardedCall_eq_concat (p : Payload) (var : List Char) :
    p.guardedCall var = (setter var ++ p.guarded.dropLast) ++ [')'] := by
  have hlast : p.guarded = p.guarded.dropLast ++ [')'] := by cases p <;> decide
  rw [Payload.guardedCall, List.append_assoc, ← hlast]

/-- A call has a closing parenthesis at its end only. -/
theorem paren_notMem_call_front {var : List Char} (hvar : IsWord var) (p : Payload) :
    ')' ∉ setter var ++ '(' :: p.text := by
  rw [List.mem_append, not_or]
  exact ⟨hvar.notMem_setter (by decide), by cases p <;> decide⟩

/-- No call begins within a call and ends behind it. -/
theorem Clear.after_call {var : List Char} (hvar : IsWord var) (p : Payload)
    (before rest : List Char) : Clear p var ((p.call var).reverse ++ before) rest := by
  intro start after hstart hafter hcall hpre _
  have hend := p.call_eq_concat var
  have hnot := paren_notMem_call_front hvar p
  obtain ⟨init, c, rfl⟩ := List.eq_nil_or_concat' start |>.resolve_left hstart
  obtain ⟨last, d, rfl⟩ := List.eq_nil_or_concat' after |>.resolve_left hafter
  have hc : c = ')' := by
    rw [hend, List.reverse_concat, List.reverse_concat, List.cons_append,
      List.cons_prefix_cons] at hpre
    exact hpre.1
  rw [hend, ← List.append_assoc] at hcall
  have hinit := (List.append_inj' hcall rfl).1
  exact hnot (hinit ▸ by simp [hc])

/-- **Replacing all matches of a call is guarding the call in one pass.** -/
theorem replace_cut_call {var : List Char} (hvar : IsWord var) (p : Payload) (text : List Char) :
    ∀ before, Clear p var before text →
      ((Regex.mk (.chars (p.call var))).cut text).replace (p.guardedCall var) =
        guardCalls [(p, var)] before text := by
  have hsolid := Regex.solid_chars (p.call var) (p.call_ne_nil var)
  induction text using hsolid.induction with
  | nil =>
    intro before _
    rw [hsolid.cut_nil, guardCalls_nil]
    rfl
  | hit text n hn ih =>
    -- The pass copies the setter, guards the argument, and stands where the next match is sought.
    intro before _
    obtain ⟨⟨rest, rfl⟩, rfl⟩ := Regex.literalLength?_eq_some_iff.1 hn
    have hrest := ih ((p.call var).reverse ++ before)
    rw [List.drop_left] at hrest
    have hsite : siteAt? [(p, var)] ((setter var).reverse ++ before) (p.argument ++ rest) =
        some p :=
      siteAt?_eq_some_iff.2 ⟨List.prefix_append _ _, var, List.mem_singleton_self _,
        List.prefix_append _ _⟩
    have hpass : guardCalls [(p, var)] before (p.call var ++ rest) =
        p.guardedCall var ++ guardCalls [(p, var)] ((p.call var).reverse ++ before) rest := by
      rw [Payload.call, Payload.guardedCall, List.append_assoc,
        guardCalls_append _ _ _ (hvar.notMem_setter (by decide)), guardCalls_site _ _ _ _ hsite,
        List.reverse_append, List.append_assoc, List.append_assoc]
    rw [hsolid.replace_cut_hit _ _ _ hn, List.drop_left, hpass,
      ← hrest (.after_call hvar p before rest)]
  | miss c rest hn ih =>
    -- An argument of the call here would end a call that begins in front of it.
    intro before hclear
    have hnone : siteAt? [(p, var)] before (c :: rest) = none := by
      rw [siteAt?_eq_none_iff]
      intro q harg w hmem hset
      obtain ⟨rfl, rfl⟩ : q = p ∧ w = var := by simpa using hmem
      exact hclear (setter w) q.argument (List.cons_ne_nil _ _) (List.cons_ne_nil _ _) rfl hset harg
    rw [hsolid.replace_cut_miss _ _ _ hn, guardCalls_miss _ _ _ _ hnone,
      ih (c :: before) (hclear.cons (Regex.literalLength?_eq_none_iff.1 hn))]

theorem guardCalls_singleton_eq_iff {var : List Char} (hvar : IsWord var) (p : Payload)
    (text : List Char) : guardCalls [(p, var)] [] text = text ↔ ¬ p.call var <:+: text := by
  rw [← replace_cut_call hvar p text [] (clear_nil _ _ _)]
  exact Regex.replace_cut_chars_eq_iff (p.call_ne_nil var) (p.length_call_lt var) text

/-! ## Issues -/

def sitesOf (issues : List Issue) : Sites :=
  issues.filterMap fun issue => (Payload.ofRule? issue.rule).map (·, issue.var.toList)

theorem mem_sitesOf {issues : List Issue} {p : Payload} {var : List Char} :
    (p, var) ∈ sitesOf issues ↔ ∃ issue ∈ issues, issue.rule = p.rule ∧ issue.var.toList = var := by
  simp only [sitesOf, List.mem_filterMap, Option.map_eq_some_iff, Prod.mk.injEq,
    Payload.ofRule?_eq_some_iff]
  constructor
  · rintro ⟨issue, hmem, q, hrule, rfl, rfl⟩
    exact ⟨issue, hmem, hrule, rfl⟩
  · rintro ⟨issue, hmem, hrule, rfl⟩
    exact ⟨issue, hmem, p, hrule, rfl, rfl⟩

theorem fixIssue_rule {issue : Issue} {p : Payload} (hrule : issue.rule = p.rule)
    (hvar : IsWord issue.var.toList)
    (hsize : Utf8.size (p.call issue.var.toList) ≤ Regex.maxLiteral) (outcome : Outcome) :
    ∃ changes, fixIssue outcome issue =
      .ok ⟨String.ofList (guardCalls [(p, issue.var.toList)] [] outcome.content.toList),
        changes⟩ := by
  rw [fixIssue, hrule, p.detector_rule, if_pos hsize]
  simp only [bind, Except.bind, pure, Except.pure]
  rw [p.replacement_rule, replace_cut_call hvar p _ [] (clear_nil _ _ _)]
  split
  · rename_i hsame
    exact ⟨outcome.changes, by rw [hsame]⟩
  · exact ⟨_, rfl⟩

/-- Every call is short enough to be a pattern. -/
def SitesFit (sites : Sites) : Prop :=
  ∀ site ∈ sites, Utf8.size (site.1.call site.2) ≤ Regex.maxLiteral

instance (sites : Sites) : Decidable (SitesFit sites) :=
  inferInstanceAs (Decidable (∀ site ∈ sites, Utf8.size (site.1.call site.2) ≤ Regex.maxLiteral))

/-- Issues of the builtin rules, for variables that are words. -/
def ProperIssues (issues : List Issue) : Prop :=
  ∀ issue ∈ issues, issue.rule ∈ Registry.builtin.rules ∧ IsWord issue.var.toList

theorem sitesOf_cons {issue : Issue} {p : Payload} (hrule : issue.rule = p.rule)
    (issues : List Issue) :
    sitesOf (issue :: issues) = (p, issue.var.toList) :: sitesOf issues := by
  rw [sitesOf, List.filterMap_cons, hrule, p.ofRule?_rule]
  rfl

theorem foldlM_fixIssue (text : List Char) : ∀ (issues : List Issue), ProperIssues issues →
    SitesFit (sitesOf issues) → ∀ (sites : Sites) (changes : List Change), ∃ changes',
      issues.foldlM fixIssue ⟨String.ofList (guardCalls sites [] text), changes⟩ =
        .ok ⟨String.ofList (guardCalls (sites ++ sitesOf issues) [] text), changes'⟩
  | [], _, _, sites, changes => ⟨changes, by rw [sitesOf, List.filterMap_nil, List.append_nil]; rfl⟩
  | issue :: issues, hproper, hfit, sites, changes => by
    obtain ⟨p, hrule⟩ := Payload.exists_of_mem_builtin (hproper issue List.mem_cons_self).1
    have hword := (hproper issue List.mem_cons_self).2
    rw [sitesOf_cons hrule] at hfit ⊢
    obtain ⟨changes₁, hfix⟩ := fixIssue_rule hrule hword (hfit _ List.mem_cons_self)
      ⟨String.ofList (guardCalls sites [] text), changes⟩
    rw [String.toList_ofList,
      guardCalls_guardCalls (properSites_singleton hword p) [] text [] rfl] at hfix
    rw [List.foldlM_cons, hfix]
    obtain ⟨changes₂, hrest⟩ := foldlM_fixIssue text issues
      (fun i hi => hproper i (List.mem_cons_of_mem _ hi))
      (fun site hmem => hfit site (List.mem_cons_of_mem _ hmem))
      (sites ++ [(p, issue.var.toList)]) changes₁
    rw [List.append_assoc, List.singleton_append] at hrest
    exact ⟨changes₂, hrest⟩

/-- **Fixing issues one after another is guarding all their calls in one pass.** -/
theorem fixContent_of_sites (content : String) {issues : List Issue} (hproper : ProperIssues issues)
    (hfit : SitesFit (sitesOf issues)) : ∃ changes, fixContent content issues =
      .ok ⟨String.ofList (guardCalls (sitesOf issues) [] content.toList), changes⟩ := by
  obtain ⟨changes, h⟩ := foldlM_fixIssue content.toList issues hproper hfit [] []
  rw [guardCalls_of_no_sites, String.ofList_toList, List.nil_append] at h
  exact ⟨changes, h⟩

theorem fixContent_of_not_fit (content : String) {issues : List Issue}
    (hproper : ProperIssues issues) (hfit : ¬ SitesFit (sitesOf issues)) :
    ∃ e, fixContent content issues = .error e := by
  suffices h : ∀ outcome, ∃ e, issues.foldlM fixIssue outcome = .error e from h _
  induction issues with
  | nil => exact absurd (fun site hmem => by cases hmem) hfit
  | cons issue issues ih =>
    intro outcome
    obtain ⟨p, hrule⟩ := Payload.exists_of_mem_builtin (hproper issue List.mem_cons_self).1
    rw [List.foldlM_cons]
    by_cases hsize : Utf8.size (p.call issue.var.toList) ≤ Regex.maxLiteral
    · obtain ⟨changes, hfix⟩ := fixIssue_rule hrule (hproper issue List.mem_cons_self).2 hsize outcome
      rw [hfix]
      refine ih (fun i hi => hproper i (List.mem_cons_of_mem _ hi)) (fun hrest => hfit ?_) _
      intro site hmem
      rw [sitesOf_cons hrule, List.mem_cons] at hmem
      rcases hmem with rfl | hmem
      · exact hsize
      · exact hrest site hmem
    · rw [fixIssue, hrule, p.detector_rule, if_neg hsize]
      exact ⟨_, rfl⟩

/-- **Sequential fixing is one pass.** Take issues of the builtin rules for words. If all their
calls are short enough to be patterns, then fixing them in any order succeeds, and the text is the
original one with every argument of one of the calls guarded; otherwise fixing fails. -/
theorem fixContent_eq_guardCalls (content : String) (issues : List Issue)
    (hproper : ∀ issue ∈ issues,
      issue.rule ∈ Registry.builtin.rules ∧ IsWord issue.var.toList) :
    (SitesFit (sitesOf issues) → ∀ issues', issues'.Perm issues →
      ∃ changes, fixContent content issues' =
        .ok ⟨String.ofList (guardCalls (sitesOf issues) [] content.toList), changes⟩) ∧
    (¬ SitesFit (sitesOf issues) → ∃ e, fixContent content issues = .error e) := by
  refine ⟨?_, fixContent_of_not_fit content hproper⟩
  intro hfit issues' hperm
  have hsites : ∀ site, site ∈ sitesOf issues' ↔ site ∈ sitesOf issues := fun site =>
    (hperm.filterMap _).mem_iff
  have hproper' : ProperIssues issues' := fun i hi => hproper i (hperm.mem_iff.1 hi)
  obtain ⟨changes, h⟩ := fixContent_of_sites content hproper'
    (fun site hmem => hfit site ((hsites site).1 hmem))
  exact ⟨changes, by rw [h, guardCalls_congr hsites]⟩

/-- Setters within setters: each argument is guarded once, whatever the order of the issues. -/
theorem fixContent_nested_setters :
    ∃ changes, fixContent "setsetX(response.data); resetX(response.data.list); setY(response.data)"
        [⟨Registry.nestedList, "X", ⟨1, 1, ""⟩⟩, ⟨Registry.directData, "setX", ⟨1, 1, ""⟩⟩,
          ⟨Registry.directData, "X", ⟨1, 1, ""⟩⟩] =
      .ok ⟨"setsetX(Array.isArray(response.data) ? response.data : []); " ++
        "resetX(Array.isArray(response.data.list) ? response.data.list : []); " ++
        "setY(response.data)", changes⟩ := by
  obtain ⟨changes, h⟩ := (fixContent_eq_guardCalls
    "setsetX(response.data); resetX(response.data.list); setY(response.data)"
    [⟨Registry.directData, "X", ⟨1, 1, ""⟩⟩, ⟨Registry.directData, "setX", ⟨1, 1, ""⟩⟩,
      ⟨Registry.nestedList, "X", ⟨1, 1, ""⟩⟩] (by decide)).1 (by decide) _
    (List.reverse_perm ([⟨Registry.directData, "X", ⟨1, 1, ""⟩⟩,
      ⟨Registry.directData, "setX", ⟨1, 1, ""⟩⟩, ⟨Registry.nestedList, "X", ⟨1, 1, ""⟩⟩] :
      List Issue))
  exact ⟨changes, h.trans (congrArg (fun text => (.ok ⟨text, changes⟩ : Except Error Outcome))
    (by decide +kernel))⟩

/-! ## Calls that are too long -/

theorem Payload.size_call (p : Payload) (var : List Char) :
    Utf8.size (p.call var) = 3 + Utf8.size var + Utf8.size p.argument := by
  rw [Payload.call, Utf8.size_append, show setter var = ['s', 'e', 't'] ++ var from rfl,
    Utf8.size_append]
  rfl

theorem isWord_replicate {n : Nat} (hn : 0 < n) : IsWord (List.replicate n 'a') := by
  refine ⟨fun hnil => ?_, fun c hc => ?_⟩
  · rw [List.replicate_eq_nil_iff] at hnil
    omega
  · rw [List.eq_of_mem_replicate hc]
    decide

theorem maxLiteral_lt_size_call (p : Payload) {n : Nat} (hn : Regex.maxLiteral < n) :
    Regex.maxLiteral < Utf8.size (p.call (List.replicate n 'a')) := by
  rw [p.size_call, Utf8.size_replicate, show 'a'.utf8Size = 1 from rfl]
  omega

theorem fixContent_replicate (content : String) (location : Location) {n : Nat}
    (hn : Regex.maxLiteral < n) :
    ∃ e, fixContent content [⟨Registry.directData, String.ofList (List.replicate n 'a'),
      location⟩] = .error e := by
  refine fixContent_of_not_fit _ (fun issue hissue => ?_) (fun hfit => ?_)
  · rw [List.mem_singleton.1 hissue, String.toList_ofList]
    exact ⟨List.mem_cons_self, isWord_replicate (by omega)⟩
  · have hsize := hfit (.data, List.replicate n 'a')
      (mem_sitesOf.2 ⟨_, List.mem_singleton_self _, rfl, String.toList_ofList⟩)
    have := maxLiteral_lt_size_call .data hn
    dsimp only at hsize
    omega

/-- A word of 500000 letters makes no pattern. -/
theorem fixContent_long_variable :
    IsWord (List.replicate 500000 'a') ∧ Registry.directData ∈ Registry.builtin.rules ∧
      ∃ e, fixContent "x" [⟨Registry.directData, String.ofList (List.replicate 500000 'a'),
        ⟨1, 1, ""⟩⟩] = .error e :=
  ⟨isWord_replicate (by decide), List.mem_cons_self,
    fixContent_replicate "x" ⟨1, 1, ""⟩ (by decide)⟩

end TableGuard
