import TableGuard.Proofs.OnePass
import TableGuard.Proofs.Visit

/-!
# Fixing an issue again

Fixing an issue in the text that fixing it has left changes nothing if the detection pattern does not
match there any more. Checking a rule does not ensure that. It holds for a rule whose pattern is a
plain text, if what is written instead neither contains this text nor forms it together with what
stands around.

* `Apart` : the condition on a text and its replacement;
* `not_infix_replace_cut_chars` : no occurrence is left when all are replaced;
* `Rule.Settles` : a rule with such a pattern, `Payload.settles` the builtin ones;
* `fixContent_again` : fixing an issue again;
* `fixContent_again_openCall` : a valid rule that goes on changing the text.
-/

namespace TableGuard

/-! ## Replacing a text by another -/

/-- A text and its replacement have nothing in common at their ends, and neither is within the
other. -/
structure Apart (needle new : List Char) : Prop where
  not_infix : ¬ needle <:+: new
  not_infix_needle : ¬ new <:+: needle
  /-- No end of the text begins the replacement. -/
  not_prefix : ∀ last, last ≠ [] → last <:+ needle → ¬ last <+: new
  /-- No beginning of the text ends the replacement. -/
  not_suffix : ∀ front, front ≠ [] → front <+: needle → ¬ front <:+ new

instance (needle new : List Char) : Decidable (Apart needle new) :=
  decidable_of_iff (¬ needle <:+: new ∧ ¬ new <:+: needle ∧
      (∀ last ∈ needle.tails, last ≠ [] → ¬ last <+: new) ∧
      ∀ front ∈ needle.inits, front ≠ [] → ¬ front <:+ new) <| by
    simp only [List.mem_tails, List.mem_inits]
    exact ⟨fun h => ⟨h.1, h.2.1, fun last hne hlast => h.2.2.1 last hlast hne,
        fun front hne hfront => h.2.2.2 front hfront hne⟩,
      fun h => ⟨h.not_infix, h.not_infix_needle, fun last hlast hne => h.not_prefix last hne hlast,
        fun front hfront hne => h.not_suffix front hne hfront⟩⟩

section Apart

variable {needle new : List Char} (hne : needle ≠ []) (h : Apart needle new)
include hne h

/-- An end of the text stands at the beginning only if it did before. -/
theorem Apart.prefix_of_prefix_replace (text : List Char) : ∀ last, last <:+ needle →
    last <+: ((Regex.mk (.chars needle)).cut text).replace new → last <+: text := by
  have hsolid := Regex.solid_chars needle hne
  induction text using hsolid.induction with
  | nil =>
    intro last _ hpre
    rwa [hsolid.cut_nil] at hpre
  | hit text n hn _ =>
    intro last hlast hpre
    rw [hsolid.replace_cut_hit _ _ _ hn] at hpre
    by_cases hnil : last = []
    · rw [hnil]
      exact List.nil_prefix
    · rcases List.prefix_or_prefix_of_prefix hpre (List.prefix_append new _) with hpre | hpre
      · exact absurd hpre (h.not_prefix last hnil hlast)
      · exact absurd (hpre.isInfix.trans hlast.isInfix) h.not_infix_needle
  | miss c rest hn ih =>
    intro last hlast hpre
    rw [hsolid.replace_cut_miss _ _ _ hn] at hpre
    cases last with
    | nil => exact List.nil_prefix
    | cons d last =>
      rw [List.cons_prefix_cons] at hpre ⊢
      exact ⟨hpre.1, ih last ((List.suffix_cons d last).trans hlast) hpre.2⟩

/-- **No occurrence is left** when all are replaced. -/
theorem not_infix_replace_cut_chars (text : List Char) :
    ¬ needle <:+: ((Regex.mk (.chars needle)).cut text).replace new := by
  have hsolid := Regex.solid_chars needle hne
  induction text using hsolid.induction with
  | nil =>
    rw [hsolid.cut_nil]
    exact fun hnil => hne (List.infix_nil.1 hnil)
  | hit text n hn ih =>
    rw [hsolid.replace_cut_hit _ _ _ hn]
    rintro ⟨start, after, happ⟩
    rw [List.append_assoc] at happ
    rcases List.append_eq_append_iff.1 happ with ⟨mid, hnew, hmid⟩ | ⟨mid, -, hrest⟩
    · rcases List.append_eq_append_iff.1 hmid with ⟨part, hpart, -⟩ | ⟨part, hpart, hrest⟩
      · -- It lies within the replacement.
        exact h.not_infix ⟨start, part, by rw [List.append_assoc, ← hpart, ← hnew]⟩
      · -- It begins in the replacement and ends behind it.
        by_cases hnil : mid = []
        · rw [hnil, List.nil_append] at hpart
          exact ih (hrest ▸ hpart ▸ (List.prefix_append _ _).isInfix)
        · exact h.not_suffix mid hnil ⟨part, hpart.symm⟩ ⟨start, hnew.symm⟩
    · exact ih ⟨mid, after, by rw [List.append_assoc, hrest]⟩
  | miss c rest hn ih =>
    rw [hsolid.replace_cut_miss _ _ _ hn, List.infix_cons_iff, not_or]
    refine ⟨fun hpre => ?_, ih⟩
    have hlead := h.prefix_of_prefix_replace hne (c :: rest) needle List.suffix_rfl
    rw [hsolid.replace_cut_miss _ _ _ hn] at hlead
    exact Regex.literalLength?_eq_none_iff.1 hn (hlead hpre)

end Apart

/-! ## Rules that settle -/

/-- The detection pattern for a variable is a plain text, and it is apart from the replacement. -/
def Rule.Settles (rule : Rule) (var : String) : Prop :=
  ∃ needle, needle ≠ [] ∧ rule.pattern var = Regex.quote needle ∧
    Apart needle (rule.replacement var).toList

theorem not_call_infix_guardedCall {var : List Char} (hvar : IsWord var) (p : Payload) :
    ¬ p.call var <:+: p.guardedCall var := by
  have hguarded := guardCalls_guarded (properSites_singleton hvar p) p (setter var).reverse []
  rw [guardCalls_nil, List.append_nil] at hguarded
  rw [← guardCalls_singleton_eq_iff hvar, Payload.guardedCall,
    guardCalls_append _ _ _ (hvar.notMem_setter (by decide)), List.append_nil, hguarded]

theorem length_text_lt_length_takeWhile (p : Payload) :
    ('(' :: p.text).length < (p.guarded.takeWhile (· != ')')).length := by
  cases p <;> decide

/-- The first closing parenthesis of a guarded call lies behind the length of the call. -/
theorem exists_guardedCall_front {var : List Char} (hvar : IsWord var) (p : Payload) :
    ∃ front, front <+: p.guardedCall var ∧ ')' ∉ front ∧
      (setter var ++ '(' :: p.text).length < front.length := by
  refine ⟨setter var ++ p.guarded.takeWhile (· != ')'), ?_, ?_, ?_⟩
  · rw [Payload.guardedCall, List.prefix_append_right_inj]
    exact List.takeWhile_prefix _
  · rw [List.mem_append, not_or]
    refine ⟨hvar.notMem_setter (by decide), fun hmem => ?_⟩
    exact absurd (List.all_eq_true.1 List.all_takeWhile ')' hmem) (by decide)
  · rw [List.length_append, List.length_append]
    exact Nat.add_lt_add_left (length_text_lt_length_takeWhile p) _

/-- **A call is apart from its guarded form**: it ends at its first closing parenthesis, where the
guarded form has only begun. -/
theorem apart_call {var : List Char} (hvar : IsWord var) (p : Payload) :
    Apart (p.call var) (p.guardedCall var) where
  not_infix := not_call_infix_guardedCall hvar p
  not_infix_needle hinfix := Nat.not_lt_of_le hinfix.length_le (p.length_call_lt var)
  not_prefix last hne hlast hpre := by
    rw [p.call_eq_concat, List.suffix_concat_iff] at hlast
    obtain ⟨init, rfl, hinit⟩ := hlast.resolve_left hne
    obtain ⟨front, hfront, hparen, hlength⟩ := exists_guardedCall_front hvar p
    have hshort : init ++ [')'] <+: front := by
      refine List.prefix_of_prefix_length_le hpre hfront ?_
      have := hinit.length_le
      rw [List.length_append, List.length_singleton]
      omega
    exact hparen (hshort.mem (List.mem_append_right _ (List.mem_singleton_self _)))
  not_suffix front hne hfront hsuff := by
    rw [p.call_eq_concat, List.prefix_concat_iff] at hfront
    rcases hfront with rfl | hfront
    · rw [← p.call_eq_concat] at hsuff
      exact not_call_infix_guardedCall hvar p hsuff.isInfix
    · rw [p.guardedCall_eq_concat, List.suffix_concat_iff] at hsuff
      obtain ⟨init, rfl, -⟩ := hsuff.resolve_left hne
      exact paren_notMem_call_front hvar p
        (hfront.mem (List.mem_append_right _ (List.mem_singleton_self _)))

/-- **The builtin rules settle.** -/
theorem Payload.settles (p : Payload) {var : String} (hvar : IsWord var.toList) :
    p.rule.Settles var := by
  refine ⟨p.call var.toList, p.call_ne_nil _, p.pattern_rule var, ?_⟩
  rw [p.replacement_rule]
  exact apart_call hvar p

/-! ## Fixing again -/

theorem cut_of_first?_eq_none {re : Regex} {text : List Char} (h : re.first? text = none) :
    re.cut text = ⟨[], text⟩ := by
  rw [Regex.cut, Regex.cutFrom, show re.next? none false [] text = re.first? text from rfl, h]

/-- Fixing one issue replaces all matches, and records a change exactly if the text is another. -/
theorem fixContent_singleton {issue : Issue} {re : Regex}
    (hre : issue.rule.detector issue.var = .ok re) (content : String) :
    ∃ fixed changes, fixContent content [issue] = .ok ⟨fixed, changes⟩ ∧
      fixed.toList = (re.cut content.toList).replace (issue.rule.replacement issue.var).toList ∧
      (changes = [] ↔ fixed = content) := by
  rw [fixContent, List.foldlM_cons, fixIssue, hre]
  simp only [bind, Except.bind, pure, Except.pure, List.foldlM_nil]
  by_cases hsame : String.ofList ((re.cut content.toList).replace
      (issue.rule.replacement issue.var).toList) = content
  · rw [if_pos hsame]
    refine ⟨content, [], rfl, ?_, iff_of_true rfl rfl⟩
    rw [← String.toList_inj, String.toList_ofList] at hsame
    exact hsame.symm
  · rw [if_neg hsame]
    exact ⟨_, _, rfl, String.toList_ofList, iff_of_false (List.cons_ne_nil _ _) hsame⟩

theorem fixContent_of_first?_eq_none {issue : Issue} {re : Regex}
    (hre : issue.rule.detector issue.var = .ok re) {content : String}
    (h : re.first? content.toList = none) :
    fixContent content [issue] = .ok ⟨content, []⟩ := by
  obtain ⟨fixed, changes, hfix, hfixed, hchanges⟩ := fixContent_singleton hre content
  rw [cut_of_first?_eq_none h] at hfixed
  obtain rfl : fixed = content := String.toList_inj.1 hfixed
  rw [hfix, hchanges.2 rfl]

/-- A rule that settles for a variable leaves nothing that its pattern matches. -/
theorem first?_of_settles {rule : Rule} {var : String} {re : Regex}
    (hre : rule.detector var = .ok re) (hsettles : rule.Settles var) (text : List Char) :
    re.first? ((re.cut text).replace (rule.replacement var).toList) = none := by
  obtain ⟨needle, hne, hpattern, hapart⟩ := hsettles
  rw [Rule.detector] at hre
  simp only [hpattern, Regex.compile?_quote _ hne] at hre
  split_ifs at hre with hsize
  · obtain rfl := Except.ok.inj hre
    rw [Regex.first?_chars_eq_none_iff hne]
    exact not_infix_replace_cut_chars hne hapart text

/-- **Fixing an issue again.** Take an issue of a word with a pattern that can be compiled. Fixing it
succeeds, and fixing it in the fixed text changes nothing exactly if replacing the matches that are
left there gives the same text; in particular if no match is left. There is none if the issue is of a
builtin rule, or of any rule whose pattern for the word is a plain text apart from the
replacement. -/
theorem fixContent_again {issue : Issue} {re : Regex} (hvar : IsWord issue.var.toList)
    (hre : issue.rule.detector issue.var = .ok re) (content : String) :
    ∃ outcome, fixContent content [issue] = .ok outcome ∧
      (fixContent outcome.content [issue] = .ok ⟨outcome.content, []⟩ ↔
        (re.cut outcome.content.toList).replace (issue.rule.replacement issue.var).toList =
          outcome.content.toList) ∧
      (re.first? outcome.content.toList = none →
        fixContent outcome.content [issue] = .ok ⟨outcome.content, []⟩) ∧
      (issue.rule ∈ Registry.builtin.rules ∨ issue.rule.Settles issue.var →
        re.first? outcome.content.toList = none) := by
  obtain ⟨fixed, changes, hfix, hfixed, -⟩ := fixContent_singleton hre content
  refine ⟨⟨fixed, changes⟩, hfix, ?_, fixContent_of_first?_eq_none hre, ?_⟩
  · obtain ⟨again, changes', hagain, htext, hchanges⟩ := fixContent_singleton hre fixed
    rw [hagain, ← htext, String.toList_inj]
    constructor
    · intro h
      injection Except.ok.inj h
    · rintro rfl
      rw [hchanges.2 rfl]
  · intro h
    have hsettles : issue.rule.Settles issue.var := by
      rcases h with hmem | hsettles
      · obtain ⟨p, hrule⟩ := Payload.exists_of_mem_builtin hmem
        rw [hrule]
        exact p.settles hvar
      · exact hsettles
    rw [hfixed]
    exact first?_of_settles hre hsettles content.toList

/-- A call is renamed. -/
def renamedCall : Rule where
  kind := "renamed-call"
  detect := "load\x7bvar\x7d\\(\\)"
  replace := "fetch\x7bvar\x7d()"

theorem fixContent_again_renamedCall :
    ∃ outcome, fixContent "loadRows(); loadRows()" [⟨renamedCall, "Rows", ⟨1, 1, ""⟩⟩] = .ok outcome ∧
      fixContent outcome.content [⟨renamedCall, "Rows", ⟨1, 1, ""⟩⟩] = .ok ⟨outcome.content, []⟩ := by
  have hpattern : renamedCall.pattern "Rows" = Regex.quote "loadRows()".toList := by decide
  have hcompile := Regex.compile?_quote "loadRows()".toList (by decide)
  rw [← hpattern, if_pos (by decide)] at hcompile
  have hre : renamedCall.detector "Rows" = .ok ⟨.chars "loadRows()".toList⟩ := by
    rw [Rule.detector, hcompile]
  obtain ⟨outcome, hfix, -, hagain, hnone⟩ :=
    @fixContent_again ⟨renamedCall, "Rows", ⟨1, 1, ""⟩⟩ _ (by decide) hre "loadRows(); loadRows()"
  exact ⟨outcome, hfix, hagain (hnone (.inr ⟨_, by decide, hpattern, by decide⟩))⟩

/-- A call that is matched only up to its argument. -/
def openCall : Rule where
  kind := "open-call"
  detect := "set\x7bvar\x7d\\(res"
  replace := "set\x7bvar\x7d(res ?? []"

/-- **A valid rule need not settle.** What is written instead of an open call begins with the call,
so it is written again each time. -/
theorem fixContent_again_openCall :
    openCall.validate = .ok () ∧ IsWord "Rows".toList ∧
      fixContent "setRows(res)" [⟨openCall, "Rows", ⟨1, 1, ""⟩⟩] =
        .ok ⟨"setRows(res ?? [])", [⟨"open-call", "Rows", 1⟩]⟩ ∧
      fixContent "setRows(res ?? [])" [⟨openCall, "Rows", ⟨1, 1, ""⟩⟩] =
        .ok ⟨"setRows(res ?? [] ?? [])", [⟨"open-call", "Rows", 1⟩]⟩ :=
  ⟨eq_ok_of_toOption (by decide), by decide, eq_ok_of_toOption (by decide),
    eq_ok_of_toOption (by decide)⟩

end TableGuard
