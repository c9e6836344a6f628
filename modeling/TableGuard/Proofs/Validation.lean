import TableGuard.Proofs.Fault
import TableGuard.Proofs.Holes
import TableGuard.Proofs.Registry

/-!
# What a check of settings guarantees

Settings are accepted when the pattern of every rule is well formed for a sample variable. A text is
analyzed if every rule has a pattern for the variables that are bound there. The one ensures the other
for rules whose places for the variable stand between whole pieces of the pattern, as far as no
pattern grows too large; it does not for others.

* `Rule.exists_detector_iff`, `Rule.isSome_parse?_sample` : when a rule has a pattern for a variable;
* `Regex.Fits` : a pattern is not too large;
* `exists_analyze_iff` : when a text can be analyzed;
* `analyze_of_validate` : what is known of accepted settings.
-/

namespace TableGuard

/-! ## Patterns of valid rules -/

theorem Rule.exists_detector_iff {rule : Rule} {var : String} :
    (∃ re, rule.detector var = .ok re) ↔
      ∃ e, Regex.parse? (rule.pattern var) = some e ∧ e.fits = true := by
  unfold Rule.detector Regex.compile?
  dsimp only
  cases hparse : Regex.parse? (rule.pattern var) with
  | none =>
    refine iff_of_false ?_ ?_
    · rintro ⟨re, h⟩
      cases h
    · rintro ⟨e, h, -⟩
      cases h
  | some e =>
    rw [Option.bind_some]
    by_cases hfits : e.fits = true
    · rw [if_pos hfits]
      exact iff_of_true ⟨_, rfl⟩ ⟨e, rfl, hfits⟩
    · rw [if_neg hfits]
      refine iff_of_false ?_ ?_
      · rintro ⟨re, h⟩
        cases h
      · rintro ⟨e', h, hfits'⟩
        exact hfits (Option.some.inj h ▸ hfits')

theorem Rule.isSome_parse?_sample {rule : Rule} (h : rule.validate = .ok ()) :
    (Regex.parse? (rule.pattern "Sample")).isSome := by
  unfold Rule.validate at h
  split_ifs at h
  cases hre : rule.detector "Sample" with
  | error e =>
    rw [hre] at h
    cases h
  | ok re =>
    obtain ⟨e, hparse, -⟩ := Rule.exists_detector_iff.1 ⟨re, hre⟩
    rw [hparse, Option.isSome_some]

/-! ## Patterns that are not too large -/

/-- The pattern is not too large, if it is well formed at all. -/
def Regex.Fits (pattern : List Char) : Prop := ∀ e ∈ Regex.parse? pattern, e.fits = true

instance (pattern : List Char) : Decidable (Regex.Fits pattern) :=
  inferInstanceAs (Decidable (∀ e ∈ Regex.parse? pattern, e.fits = true))

/-- A valid rule with open places has a pattern for every word, unless it grows too large. -/
theorem Rule.exists_detector {rule : Rule} (hvalid : rule.validate = .ok ())
    (hopen : rule.isOpen = true) {var : String} (hvar : IsWord var.toList)
    (hfits : Regex.Fits (rule.pattern var)) : ∃ re, rule.detector var = .ok re := by
  obtain ⟨e, hparse⟩ := Option.isSome_iff_exists.1
    (rule.isSome_parse? hopen (Rule.isSome_parse?_sample hvalid) hvar)
  exact Rule.exists_detector_iff.2 ⟨e, hparse, hfits e hparse⟩

theorem Analyzer.exists_make {attr : String} (hfits : Regex.Fits (bindingPattern attr))
    (registry : Registry) : ∃ analyzer, Analyzer.make attr registry = .ok analyzer :=
  ⟨_, Analyzer.make_eq_ok_iff.2 ⟨hfits _ (parse?_bindingPattern attr), rfl⟩⟩

/-! ## Analyzing -/

/-- **A text can be analyzed exactly if every rule has a pattern for every variable bound there.** -/
theorem exists_analyze_iff {attr : String} {registry : Registry} {analyzer : Analyzer}
    (hattr : PlainAttribute attr.toList) (hmake : Analyzer.make attr registry = .ok analyzer)
    (content : String) :
    (∃ analysis, analyzer.analyze content = .ok analysis) ↔
      ∀ var ∈ analyzer.boundVariables content, ∀ rule ∈ registry.rules,
        ∃ re, rule.detector var = .ok re := by
  have hregistry : analyzer.registry = registry := by rw [(Analyzer.make_eq_ok_iff.1 hmake).2]
  rw [← errorOf?_eq_none_iff, errorOf?_analyze hattr hmake, List.findSome?_eq_none_iff, hregistry]
  simp only [Registry.fault?, List.findSome?_eq_none_iff, errorOf?_eq_none_iff]

/-- **Accepted settings.** There is an analyzer for their attribute and rules, unless the pattern for
bindings is too large. It analyzes a text exactly if every rule has a pattern for every variable that
is bound there. That is so, and what is found can be fixed, if the places for the variable in the
configured rules stand between whole pieces and none of the patterns is too large. -/
theorem analyze_of_validate {config : Config} (hvalid : config.validate = .ok ())
    (content : String) :
    (Regex.Fits (Analyzer.bindingPattern config.bindingAttribute) →
      ∃ analyzer, Analyzer.make config.bindingAttribute config.registry = .ok analyzer) ∧
    ∀ analyzer, Analyzer.make config.bindingAttribute config.registry = .ok analyzer →
      ((∃ analysis, analyzer.analyze content = .ok analysis) ↔
        ∀ var ∈ analyzer.boundVariables content, ∀ rule ∈ config.registry.rules,
          ∃ re, rule.detector var = .ok re) ∧
      ((∀ rule ∈ config.patterns, rule.isOpen = true) →
        (∀ var ∈ analyzer.boundVariables content, ∀ rule ∈ config.registry.rules,
          Regex.Fits (rule.pattern var)) →
        ∃ analysis outcome, analyzer.analyze content = .ok analysis ∧
          fixContent content analysis.issues = .ok outcome) := by
  obtain ⟨-, -, hattr, hrules⟩ := config.validate_eq_ok_iff.1 hvalid
  have hplain := plainAttribute hattr
  refine ⟨fun hfits => Analyzer.exists_make hfits _, fun analyzer hmake => ?_⟩
  have hiff := exists_analyze_iff hplain hmake content
  refine ⟨hiff, fun hopen hfits => ?_⟩
  have hall : ∀ rule ∈ config.registry.rules, rule.isOpen = true := by
    intro rule hmem
    rcases List.mem_append.1 hmem with hmem | hmem
    · exact isOpen_builtin hmem
    · exact hopen rule hmem
  obtain ⟨analysis, hanalysis⟩ := hiff.2 fun var hvar rule hmem =>
    Rule.exists_detector (Registry.validate_of_mem hrules hmem) (hall rule hmem)
      ((mem_boundVariables hplain hmake content var).1 hvar).1 (hfits var hvar rule hmem)
  obtain ⟨outcome, houtcome⟩ := exists_fixContent hanalysis
  exact ⟨analysis, outcome, hanalysis, houtcome⟩

/-- A setter that is called with the data or the result. -/
def eitherCall : Rule where
  kind := "either-call"
  detect := "\\bset\x7bvar\x7d\\((?P<of>res|data)\\)"
  replace := "set\x7bvar\x7d([])"

theorem analyze_of_validate_eitherCall : eitherCall.isOpen = true ∧
    ∃ analyzer analysis outcome,
      Analyzer.make "dataSource" (.withExtra [eitherCall]) = .ok analyzer ∧
      analyzer.analyze "dataSource=\x7bRows\x7d setRows(res)" = .ok analysis ∧
      fixContent "dataSource=\x7bRows\x7d setRows(res)" analysis.issues = .ok outcome := by
  have hopen : eitherCall.isOpen = true := by decide +kernel
  have hvalid : Config.validate { Config.standard with patterns := [eitherCall] } = .ok () :=
    eq_ok_of_toOption (by decide +kernel)
  have hmake := Analyzer.make_eq_ok "dataSource" (by decide) (.withExtra [eitherCall])
  obtain ⟨-, hanalyze⟩ := analyze_of_validate hvalid "dataSource=\x7bRows\x7d setRows(res)"
  obtain ⟨-, hok⟩ := hanalyze _ hmake
  obtain ⟨analysis, outcome, h⟩ := hok (by decide +kernel) (by decide +kernel)
  exact ⟨hopen, _, analysis, outcome, hmake, h⟩

/-- A range that ends in the first letter of the variable. -/
def spanRule : Rule where
  kind := "span"
  detect := "@[A-\x7bvar\x7d]"
  replace := "\x7bvar\x7d"

/-- **A sample does not stand for every word.** A range from a capital letter to another character
may be empty. -/
theorem analyze_of_validate_spanRule :
    Config.validate { Config.standard with patterns := [spanRule] } = .ok () ∧
      Regex.parse? (spanRule.pattern "0") = none ∧
      ∃ analyzer, Analyzer.make "dataSource" (.withExtra [spanRule]) = .ok analyzer ∧
        ∃ e, analyzer.analyze "dataSource=\x7b0\x7d" = .error e := by
  have hattr : Config.isAttribute "dataSource" = true := by decide +kernel
  have hplain := plainAttribute hattr
  have hmake := Analyzer.make_eq_ok "dataSource" (by decide) (.withExtra [spanRule])
  have hparse : Regex.parse? (spanRule.pattern "0") = none :=
    Option.isNone_iff_eq_none.1 (by decide +kernel)
  refine ⟨eq_ok_of_toOption (by decide +kernel), hparse, _, hmake, ?_⟩
  cases hanalyze : Analyzer.analyze _ "dataSource=\x7b0\x7d" with
  | error e => exact ⟨e, rfl⟩
  | ok analysis =>
    obtain ⟨re, hre⟩ := (exists_analyze_iff hplain hmake _).1 ⟨analysis, hanalyze⟩
      "0" (by decide +kernel) spanRule (by decide)
    obtain ⟨e, he, -⟩ := Rule.exists_detector_iff.1 ⟨re, hre⟩
    rw [hparse] at he
    cases he

end TableGuard
