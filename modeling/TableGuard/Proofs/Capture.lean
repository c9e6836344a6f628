import TableGuard.Proofs.Validation

/-!
# Bindings of any attribute

The mark that is looked for first is the attribute as it is written; the pattern for bindings has
the attribute quoted. The two agree for every attribute, whatever signs are in it: what is captured
stands in a binding, and a text with bindings has the mark. That all bindings are captured needs an
attribute as settings may have it. Bindings of others may overlap, and then only the first one is
seen.

* `usesBinding_of_mem_boundVariables` : a text with a bound variable has the mark;
* `fits_bindingPattern` : attributes whose pattern is not too large;
* `boundVariables_captured` : what is captured, and when all of it.
-/

namespace TableGuard

/-- A text with a bound variable has the mark, whatever the attribute is. -/
theorem usesBinding_of_mem_boundVariables {attr : String} {registry : Registry}
    {analyzer : Analyzer} (hmake : Analyzer.make attr registry = .ok analyzer)
    {content var : String} (hmem : var ∈ analyzer.boundVariables content) :
    analyzer.usesBinding content = true := by
  rw [usesBinding_iff hmake]
  exact (mark_infix_bindingText _ _).trans (binding_of_mem_boundVariables hmake hmem).2

theorem fits_bindingPattern {attr : String} (h : Utf8.size attr.toList ≤ maxAttribute) :
    Regex.Fits (Analyzer.bindingPattern attr) := by
  intro e he
  rw [parse?_bindingPattern] at he
  rw [← Option.some.inj he]
  exact fits_bindingExpr h

/-- **Bindings are captured exactly.** There is an analyzer for every attribute whose pattern is not
too large. Every variable that it captures is a word, given to the attribute somewhere in the text;
so a text with bound variables has the mark of bindings. If the attribute is one that settings may
have, every word that is given to it is captured. -/
theorem boundVariables_captured (attr content : String) (registry : Registry) :
    (Regex.Fits (Analyzer.bindingPattern attr) →
      ∃ analyzer, Analyzer.make attr registry = .ok analyzer) ∧
    ∀ analyzer, Analyzer.make attr registry = .ok analyzer →
      (∀ var ∈ analyzer.boundVariables content,
        IsWord var.toList ∧ bindingText attr.toList var.toList <:+: content.toList) ∧
      (analyzer.boundVariables content ≠ [] → analyzer.usesBinding content = true) ∧
      (Config.isAttribute attr = true → ∀ var : String, IsWord var.toList →
        bindingText attr.toList var.toList <:+: content.toList →
        var ∈ analyzer.boundVariables content) := by
  refine ⟨fun hfits => Analyzer.exists_make hfits registry, fun analyzer hmake => ⟨?_, ?_, ?_⟩⟩
  · exact fun var hmem => binding_of_mem_boundVariables hmake hmem
  · intro hne
    obtain ⟨var, hmem⟩ := List.exists_mem_of_ne_nil _ hne
    exact usesBinding_of_mem_boundVariables hmake hmem
  · intro hattr var hvar hoccurs
    exact (mem_boundVariables (plainAttribute hattr) hmake content var).2 ⟨hvar, hoccurs⟩

/-- Signs of an attribute stand for themselves, and a plain attribute misses nothing. -/
theorem boundVariables_captured_signs :
    (∃ analyzer, Analyzer.make "a.b(" Registry.builtin = .ok analyzer ∧
      analyzer.boundVariables "a.b(={X} axb(={Y}" = ["X"] ∧
      analyzer.usesBinding "a.b(={X} axb(={Y}" = true) ∧
    ∃ analyzer, Analyzer.make "rows" Registry.builtin = .ok analyzer ∧
      "Y" ∈ analyzer.boundVariables "rows={X} rows={Y}" := by
  obtain ⟨hexists, hsigns⟩ :=
    boundVariables_captured "a.b(" "a.b(={X} axb(={Y}" Registry.builtin
  obtain ⟨hexists', hplain⟩ := boundVariables_captured "rows" "rows={X} rows={Y}" Registry.builtin
  obtain ⟨analyzer, hmake⟩ := hexists (fits_bindingPattern (by decide))
  obtain ⟨analyzer', hmake'⟩ := hexists' (fits_bindingPattern (by decide))
  have hvars : analyzer.boundVariables "a.b(={X} axb(={Y}" = ["X"] := by
    rw [(Analyzer.make_eq_ok_iff.1 hmake).2]
    decide +kernel
  refine ⟨⟨analyzer, hmake, hvars, (hsigns analyzer hmake).2.1 ?_⟩, analyzer', hmake',
    (hplain analyzer' hmake').2.2 (by decide) "Y" (by decide) (by decide)⟩
  rw [hvars]
  exact List.cons_ne_nil _ _

/-- Two bindings of a brace may share it. -/
example : ∃ analyzer, Analyzer.make "\x7d" Registry.builtin = .ok analyzer ∧
    bindingText "\x7d".toList "Y".toList <:+: "\x7d=\x7bX\x7d=\x7bY\x7d".toList ∧
    analyzer.boundVariables "\x7d=\x7bX\x7d=\x7bY\x7d" = ["X"] :=
  ⟨_, Analyzer.make_eq_ok "\x7d" (by decide) _, by decide, by decide +kernel⟩

end TableGuard
