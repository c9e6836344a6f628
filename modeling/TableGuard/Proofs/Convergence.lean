import TableGuard.Proofs.Analysis

/-!
# One pass of fixing is enough

After the issues of a file have been fixed there are none left, and the bindings are the same. So
a second pass finds nothing to do.

* `infix_guardCalls_iff` : guarding calls neither makes nor breaks a binding;
* `not_call_infix_guardCalls` : no call is left that was to be guarded;
* `analyze_guardCalls` : the analysis of the text that fixing leaves;
* `analyze_fixContent` : analyzing, fixing and analyzing again.

Both analysis and fixing fail for variables whose calls are too long to be patterns. There are none
in a text of at most `maxText` bytes.
-/

namespace TableGuard

/-! ## What guarding calls keeps -/

/-- What occurs behind a closing parenthesis, and needs a sign that does not stand before it, occurs
in the rest. -/
theorem infix_block_iff {needle init rest : List Char} (hparen : ')' ∉ needle)
    (hequals : '=' ∈ needle) (hinit : '=' ∉ init ++ [')']) :
    needle <:+: (init ++ [')']) ++ rest ↔ needle <:+: rest := by
  refine ⟨?_, fun h => h.trans (List.suffix_append _ _).isInfix⟩
  rintro ⟨start, after, h⟩
  rw [List.append_assoc] at h
  rcases List.append_eq_append_iff.1 h with ⟨mid, hblock, hmid⟩ | ⟨mid, -, hrest⟩
  · rcases List.append_eq_append_iff.1 hmid with ⟨part, hpart, -⟩ | ⟨part, hpart, hrest⟩
    · -- The needle ends within the block, which has no sign in it.
      refine absurd ?_ hinit
      rw [hblock, hpart, List.mem_append, List.mem_append]
      exact .inr (.inl hequals)
    · cases mid using List.reverseRecOn with
      | nil => exact ⟨[], after, by rw [hrest, hpart]; rfl⟩
      | append_singleton mid c =>
        rw [← List.append_assoc] at hblock
        obtain rfl : ')' = c := List.singleton_inj.1 (List.append_inj' hblock rfl).2
        exact absurd (by rw [hpart]; simp) hparen
  · exact ⟨mid, after, by rw [hrest, List.append_assoc]⟩

theorem Payload.argument_eq_concat (p : Payload) : p.argument = ('(' :: p.text) ++ [')'] := rfl

theorem Payload.guarded_eq_concat (p : Payload) : ∃ init, p.guarded = init ++ [')'] ∧
    '=' ∉ init ++ [')'] :=
  ⟨p.guarded.dropLast, by cases p <;> decide, by cases p <;> decide⟩

/-- **Guarding calls neither makes nor breaks a text with a sign and without parentheses.** -/
theorem infix_guardCalls_iff {needle : List Char} (hopen : '(' ∉ needle) (hclose : ')' ∉ needle)
    (hequals : '=' ∈ needle) (sites : Sites) (before text : List Char) :
    needle <:+: guardCalls sites before text ↔ needle <:+: text := by
  induction before, text using guardCalls_induction sites with
  | nil before => rw [guardCalls_nil]
  | site before p rest hsite ih =>
    -- Argument and guard both end in a parenthesis, and neither has the sign in it.
    obtain ⟨init, hinit, hnot⟩ := p.guarded_eq_concat
    have harg : '=' ∉ ('(' :: p.text) ++ [')'] := by cases p <;> decide
    rw [guardCalls_site _ _ _ _ hsite, hinit, infix_block_iff hclose hequals hnot, ih,
      p.argument_eq_concat, infix_block_iff hclose hequals harg]
  | miss before c rest hmiss ih =>
    have hpre := prefix_guardCalls_iff sites needle hopen before (c :: rest)
    rw [guardCalls_miss _ _ _ _ hmiss] at hpre ⊢
    rw [List.infix_cons_iff, List.infix_cons_iff, hpre, ih]

/-- **No call is left that was to be guarded**, if it is among those that are guarded or did not
occur before. -/
theorem not_call_infix_guardCalls {sites : Sites} (hsites : ProperSites sites) {p : Payload}
    {var : List Char} (hvar : IsWord var) {text : List Char}
    (h : p.call var <:+: text → (p, var) ∈ sites) :
    ¬ p.call var <:+: guardCalls sites [] text := by
  rw [← guardCalls_singleton_eq_iff hvar,
    guardCalls_guardCalls (properSites_singleton hvar p) [] text [] rfl]
  by_cases hmem : (p, var) ∈ sites
  · refine guardCalls_congr (fun site => ?_) [] text
    rw [List.mem_append, List.mem_singleton]
    exact ⟨fun hsite => hsite.elim id (fun heq => heq ▸ hmem), .inl⟩
  · have hsame := (guardCalls_singleton_eq_iff hvar p text).2 (fun hoccurs => hmem (h hoccurs))
    have hswap : guardCalls sites [] (guardCalls [(p, var)] [] text) =
        guardCalls ([(p, var)] ++ sites) [] text := guardCalls_guardCalls hsites [] text [] rfl
    rw [hsame] at hswap
    rw [hswap]
    exact guardCalls_congr (fun site => by rw [List.mem_append, List.mem_append, or_comm]) [] text

/-! ## Analyzing again -/

def Analysis.cleared : Analysis → Analysis
  | .notApplicable => .notApplicable
  | .applicable vars _ => .applicable vars []

theorem Analysis.issues_cleared (analysis : Analysis) : analysis.cleared.issues = [] := by
  cases analysis <;> rfl

/-- Every call of a bound variable is short enough to be a pattern. -/
def CallsFit (attr content : String) : Prop :=
  ∀ var, IsWord var → bindingText attr.toList var <:+: content.toList →
    ∀ p : Payload, Utf8.size (p.call var) ≤ Regex.maxLiteral

section Again

variable {attr : String} {analyzer : Analyzer} (hattr : PlainAttribute attr.toList)
  (hmake : Analyzer.make attr Registry.builtin = .ok analyzer)
include hattr hmake

theorem sitesFit_callsOf_iff (content : String) :
    SitesFit (callsOf (analyzer.boundVariables content)) ↔ CallsFit attr content := by
  constructor
  · intro h var hvar hoccurs p
    refine h (p, var) (mem_callsOf.2 ⟨String.ofList var, ?_, String.toList_ofList⟩)
    rw [mem_boundVariables hattr hmake, String.toList_ofList]
    exact ⟨hvar, hoccurs⟩
  · rintro h ⟨p, var⟩ hmem
    obtain ⟨v, hv, rfl⟩ := mem_callsOf.1 hmem
    rw [mem_boundVariables hattr hmake] at hv
    exact h _ hv.1 hv.2 p

theorem callsFit_of_analyze {content : String} {analysis : Analysis}
    (h : analyzer.analyze content = .ok analysis) : CallsFit attr content := by
  by_contra hfit
  rw [← sitesFit_callsOf_iff hattr hmake] at hfit
  obtain ⟨e, he⟩ := analyze_of_not_fit hattr hmake hfit
  rw [he] at h
  cases h

theorem usesBinding_guardCalls (sites : Sites) (content : String) :
    analyzer.usesBinding (String.ofList (guardCalls sites [] content.toList)) =
      analyzer.usesBinding content := by
  have hnot : ∀ c, c ∉ attr.toList → c ≠ '=' → c ∉ attr.toList ++ ['='] := by
    intro c hc hne hmem
    rcases List.mem_append.1 hmem with h | h
    · exact hc h
    · exact hne (List.mem_singleton.1 h)
  rw [Bool.eq_iff_iff, usesBinding_iff hmake, usesBinding_iff hmake, String.toList_ofList,
    infix_guardCalls_iff (hnot _ hattr.paren (by decide)) (hnot _ hattr.paren' (by decide))
      (by simp)]

theorem boundVariables_guardCalls (sites : Sites) (content : String) :
    analyzer.boundVariables (String.ofList (guardCalls sites [] content.toList)) =
      analyzer.boundVariables content := by
  refine (pairwise_sortDistinct _).eq_of_mem_iff (pairwise_sortDistinct _) fun var => ?_
  change var ∈ analyzer.boundVariables _ ↔ var ∈ analyzer.boundVariables _
  rw [mem_boundVariables hattr hmake, mem_boundVariables hattr hmake, String.toList_ofList]
  refine and_congr_right fun hvar => ?_
  have hnot : ∀ c, c ∉ attr.toList → Unicode.isWord c = false → c ∉ ['=', '{', '}'] →
      c ∉ bindingText attr.toList var.toList := by
    intro c hc hword hsigns hmem
    simp only [bindingText, List.mem_append, List.mem_cons, List.not_mem_nil, or_false] at hmem hsigns
    rcases hmem with h | h | h | h | h
    · exact hc h
    · exact hsigns (.inl h)
    · exact hsigns (.inr (.inl h))
    · rw [hvar.2 c h] at hword
      cases hword
    · exact hsigns (.inr (.inr h))
  exact infix_guardCalls_iff (hnot _ hattr.paren (by decide) (by decide))
    (hnot _ hattr.paren' (by decide) (by decide)) (by simp [bindingText]) _ _ _

/-- **The analysis of the text that fixing leaves** is that of the text before, less the issues. -/
theorem analyze_guardCalls {content : String} {issues : List Issue}
    (hfit : SitesFit (callsOf (analyzer.boundVariables content)))
    (hfinds : Finds content (callsOf (analyzer.boundVariables content)) issues) :
    analyzer.analyze (String.ofList (guardCalls (sitesOf issues) [] content.toList)) =
      .ok (if analyzer.usesBinding content then
        .applicable (analyzer.boundVariables content) [] else .notApplicable) := by
  have hword : ∀ site ∈ callsOf (analyzer.boundVariables content), IsWord site.2 := by
    rintro ⟨p, var⟩ hmem
    obtain ⟨v, hv, rfl⟩ := mem_callsOf.1 hmem
    exact ((mem_boundVariables hattr hmake content v).1 hv).1
  have hproper : ProperSites (sitesOf issues) := fun p var hmem =>
    hword (p, var) ((hfinds.sites (p, var)).1 hmem).1
  have hvars := boundVariables_guardCalls hattr hmake (sitesOf issues) content
  have hfit' := hfit
  rw [← hvars] at hfit'
  obtain ⟨issues', hanalyze, hfinds'⟩ := analyze_of_fit hattr hmake hfit'
  rw [hvars] at hanalyze hfinds'
  have hnone : issues' = [] := by
    refine hfinds'.eq_nil fun site hmem => ?_
    rw [String.toList_ofList]
    exact not_call_infix_guardCalls hproper (hword site hmem)
      (fun hoccurs => (hfinds.sites site).2 ⟨hmem, hoccurs⟩)
  rw [hanalyze, hnone, usesBinding_guardCalls hattr hmake]

/-- A pass over a text: it is analyzed, its issues are fixed, and it is analyzed again. -/
theorem exists_pass {content : String} (hfit : CallsFit attr content) :
    ∃ analysis outcome, analyzer.analyze content = .ok analysis ∧
      fixContent content analysis.issues = .ok outcome ∧
      analyzer.analyze outcome.content = .ok analysis.cleared ∧
      analyzer.boundVariables outcome.content = analyzer.boundVariables content := by
  rw [← sitesFit_callsOf_iff hattr hmake] at hfit
  obtain ⟨issues, hanalyze, hfinds⟩ := analyze_of_fit hattr hmake hfit
  have hproper : ProperIssues issues := by
    intro issue hmem
    obtain ⟨p, hrule⟩ := Payload.exists_of_mem_builtin (hfinds.builtin issue hmem)
    obtain ⟨hcall, -⟩ := (hfinds.sites (p, issue.var.toList)).1
      (mem_sitesOf.2 ⟨issue, hmem, hrule, rfl⟩)
    obtain ⟨v, hv, hvar⟩ := mem_callsOf.1 hcall
    rw [← hvar]
    exact ⟨hfinds.builtin issue hmem, ((mem_boundVariables hattr hmake content v).1 hv).1⟩
  have hsites : SitesFit (sitesOf issues) := fun site hmem =>
    hfit site ((hfinds.sites site).1 hmem).1
  obtain ⟨changes, hfix⟩ := fixContent_of_sites content hproper hsites
  have hagain := analyze_guardCalls hattr hmake hfit hfinds
  have hvars := boundVariables_guardCalls hattr hmake (sitesOf issues) content
  by_cases huses : analyzer.usesBinding content = true
  · rw [if_pos huses] at hanalyze hagain
    exact ⟨_, _, hanalyze, hfix, hagain, hvars⟩
  · rw [if_neg huses] at hanalyze hagain
    have hnil : issues = [] := by
      refine hfinds.eq_nil fun site hmem => ?_
      rw [boundVariables_of_not_uses hattr hmake huses] at hmem
      exact absurd hmem List.not_mem_nil
    rw [hnil] at hfix hagain hvars
    exact ⟨_, _, hanalyze, hfix, hagain, hvars⟩

end Again

/-- **Analyzing, fixing and analyzing again.** Take an attribute that settings may have. There is an
analyzer for it with the builtin rules, at least up to `maxAttribute` bytes. If every call of a bound
variable is short enough to be a pattern, then the analysis and the fixing succeed; the analysis of
the fixed text has the same bound variables and no issues, or finds no mention of the attribute as
before; and a further pass changes nothing. Otherwise the analysis fails. -/
theorem analyze_fixContent {attr : String} (hattr : Config.isAttribute attr = true)
    (content : String) :
    (Utf8.size attr.toList ≤ maxAttribute →
      ∃ analyzer, Analyzer.make attr Registry.builtin = .ok analyzer) ∧
    ∀ analyzer, Analyzer.make attr Registry.builtin = .ok analyzer →
      (CallsFit attr content → ∃ analysis outcome,
        analyzer.analyze content = .ok analysis ∧
        fixContent content analysis.issues = .ok outcome ∧
        analyzer.analyze outcome.content = .ok analysis.cleared ∧
        analyzer.boundVariables outcome.content = analyzer.boundVariables content ∧
        fixContent outcome.content analysis.cleared.issues = .ok ⟨outcome.content, []⟩) ∧
      (¬ CallsFit attr content → ∃ e, analyzer.analyze content = .error e) := by
  have hplain := plainAttribute hattr
  refine ⟨fun hsize => ⟨_, Analyzer.make_eq_ok attr hsize Registry.builtin⟩, ?_⟩
  intro analyzer hmake
  constructor
  · intro hfit
    obtain ⟨analysis, outcome, hanalyze, hfix, hagain, hvars⟩ := exists_pass hplain hmake hfit
    refine ⟨analysis, outcome, hanalyze, hfix, hagain, hvars, ?_⟩
    rw [analysis.issues_cleared]
    rfl
  · intro hfit
    rw [← sitesFit_callsOf_iff hplain hmake] at hfit
    exact analyze_of_not_fit hplain hmake hfit

/-! ## Texts that are long, and texts that are not -/

/-- In texts of so many bytes no call is too long. -/
def maxText : Nat := 327650

theorem Utf8.size_le_of_infix {a b : List Char} (h : a <:+: b) : Utf8.size a ≤ Utf8.size b := by
  obtain ⟨start, after, rfl⟩ := h
  rw [Utf8.size_append, Utf8.size_append]
  omega

theorem callsFit_of_size_le (attr : String) {content : String}
    (h : Utf8.size content.toList ≤ maxText) : CallsFit attr content := by
  intro var _ hoccurs p
  have hle := Utf8.size_le_of_infix hoccurs
  have harg : Utf8.size p.argument ≤ 20 := by cases p <;> decide
  rw [bindingText_eq, Utf8.size_append, Utf8.size_append, Utf8.size_append] at hle
  rw [p.size_call, Regex.maxLiteral]
  unfold maxText at h
  omega

/-- A table whose rows are set from a response. -/
theorem analyze_fixContent_rows :
    ∃ analyzer analysis outcome, Analyzer.make "dataSource" Registry.builtin = .ok analyzer ∧
      analyzer.analyze "<Table dataSource={rows}/> setrows(response.data)" = .ok analysis ∧
      fixContent "<Table dataSource={rows}/> setrows(response.data)" analysis.issues =
        .ok outcome ∧
      analyzer.analyze outcome.content = .ok analysis.cleared := by
  have hattr : Config.isAttribute "dataSource" = true := by decide
  obtain ⟨hexists, hpass⟩ :=
    analyze_fixContent hattr "<Table dataSource={rows}/> setrows(response.data)"
  obtain ⟨analyzer, hmake⟩ := hexists (by decide)
  obtain ⟨analysis, outcome, hanalyze, hfix, hagain, -⟩ :=
    (hpass analyzer hmake).1 (callsFit_of_size_le "dataSource" (by decide))
  exact ⟨analyzer, analysis, outcome, hmake, hanalyze, hfix, hagain⟩

theorem not_callsFit_replicate (attr : String) {n : Nat} (hn : Regex.maxLiteral < n) :
    ¬ CallsFit attr (String.ofList (bindingText attr.toList (List.replicate n 'a'))) := by
  intro hfit
  have hsize := hfit (List.replicate n 'a') (isWord_replicate (by omega))
    (by rw [String.toList_ofList]) .data
  have := maxLiteral_lt_size_call .data hn
  omega

/-- No file that binds a word of 500000 letters can be analyzed. -/
theorem analyze_long_variable :
    Config.isAttribute "dataSource" = true ∧
      ∃ analyzer, Analyzer.make "dataSource" Registry.builtin = .ok analyzer ∧
        ∃ e, analyzer.analyze (String.ofList (bindingText "dataSource".toList
          (List.replicate 500000 'a'))) = .error e := by
  have hattr : Config.isAttribute "dataSource" = true := by decide
  have hmake := Analyzer.make_eq_ok "dataSource" (by decide) Registry.builtin
  have hfit := not_callsFit_replicate "dataSource" (n := 500000) (by decide)
  rw [← sitesFit_callsOf_iff (plainAttribute hattr) hmake] at hfit
  exact ⟨hattr, _, hmake, analyze_of_not_fit (plainAttribute hattr) hmake hfit⟩

end TableGuard
