import TableGuard.Proofs.Fault
import TableGuard.Proofs.Regex.Matches

/-!
# Fixing issues of any rules

Fixing is described here for rules that need not be valid. Each issue takes the text that the ones
before it have left, cuts it at all matches of its pattern, and writes its replacement between the
gaps. An issue has a change exactly if it leaves another text.

* `errorOf?_fixContent` : fixing fails at the first issue without a pattern;
* `Issue.Rewrites`, `exists_fixIssue`, `Issue.Rewrites.of_payload` : one issue, of any rule and of a
  builtin one;
* `Trace`, `exists_trace` : the texts between the issues;
* `Trace.sublist`, `Trace.one_le_replacements` : the changes come from issues in turn, and count
  matches;
* `fixContent_rewrites` : what fixing does.
-/

namespace TableGuard

/-! ## When fixing fails -/

theorem errorOf?_eq_some_iff {ε α : Type} {x : Except ε α} {e : ε} :
    errorOf? x = some e ↔ x = .error e := by
  cases x <;> simp [errorOf?]

theorem errorOf?_foldlM_fixIssue (issues : List Issue) : ∀ start : Outcome,
    errorOf? (issues.foldlM fixIssue start) =
      issues.findSome? fun issue => errorOf? (issue.rule.detector issue.var) := by
  induction issues with
  | nil => exact fun _ => rfl
  | cons issue issues ih =>
    intro start
    have hfirst : errorOf? (fixIssue start issue) = errorOf? (issue.rule.detector issue.var) := by
      rw [fixIssue, errorOf?_bind _ _ none, Option.or_none]
      intro re _
      dsimp only
      split <;> rfl
    rw [List.foldlM_cons, errorOf?_bind _ _ _ fun outcome _ => ih outcome, hfirst,
      List.findSome?_cons]
    cases errorOf? (issue.rule.detector issue.var) <;> rfl

theorem errorOf?_fixContent (content : String) (issues : List Issue) :
    errorOf? (fixContent content issues) =
      issues.findSome? fun issue => errorOf? (issue.rule.detector issue.var) :=
  errorOf?_foldlM_fixIssue issues ⟨content, []⟩

theorem fixContent_eq_error_iff {content : String} {issues : List Issue} :
    (∃ e, fixContent content issues = .error e) ↔
      ∃ issue ∈ issues, ∃ e, issue.rule.detector issue.var = .error e := by
  simp only [← errorOf?_eq_some_iff, errorOf?_fixContent, ← Option.isSome_iff_exists,
    List.findSome?_isSome_iff]

/-! ## One issue -/

/-- An issue turns a text into another with `count` matches of its pattern replaced: the text is cut
at all of them, and the replacement is written as it is behind every gap but the last. -/
def Issue.Rewrites (issue : Issue) (text text' : String) (count : Nat) : Prop :=
  ∃ re cut, issue.rule.detector issue.var = .ok re ∧
    re.AllMatches [] false text.toList cut ∧ cut.text = text.toList ∧
    text'.toList = cut.replace (issue.rule.replacement issue.var).toList ∧
    count = cut.hits.length

/-- The change of an issue that turns a text into another. -/
def Issue.change? (issue : Issue) (text text' : String) (count : Nat) : Option Change :=
  if text' = text then none else some ⟨issue.rule.kind, issue.var, count⟩

/-- **One issue**: all matches are replaced, and a change is added if the text is another one. -/
theorem exists_fixIssue {issue : Issue} {re : Regex}
    (hre : issue.rule.detector issue.var = .ok re) (start : Outcome) :
    ∃ text' count, issue.Rewrites start.content text' count ∧
      fixIssue start issue =
        .ok ⟨text', start.changes ++ (issue.change? start.content text' count).toList⟩ := by
  have hmatches := Regex.allMatches_iff.2 (rfl : re.cut start.content.toList = _)
  refine ⟨_, _, ⟨re, _, hre, hmatches, hmatches.text_eq, String.toList_ofList, rfl⟩, ?_⟩
  rw [fixIssue, hre, Issue.change?]
  dsimp only [bind, Except.bind, pure, Except.pure]
  split
  · rename_i hsame
    rw [Option.toList_none, List.append_nil, hsame]
  · rw [Option.toList_some]

theorem Issue.Rewrites.of_payload {issue : Issue} {p : Payload} {text text' : String} {count : Nat}
    (h : issue.Rewrites text text' count) (hrule : issue.rule = p.rule) :
    text'.toList = ((Regex.mk (.chars (p.call issue.var.toList))).cut text.toList).replace
        (p.guardedCall issue.var.toList) ∧
      count = ((Regex.mk (.chars (p.call issue.var.toList))).cut text.toList).hits.length := by
  obtain ⟨re, cut, hre, hmatches, -, htext', rfl⟩ := h
  rw [hrule] at hre htext'
  obtain rfl := p.eq_of_detector_rule hre
  obtain rfl := Regex.allMatches_iff.1 hmatches
  rw [p.replacement_rule] at htext'
  exact ⟨htext', rfl⟩

/-- Fixing issues from `start` to `outcome`: the text in front of each issue and behind the last,
and the number of matches of each. -/
structure Trace (issues : List Issue) (start outcome : Outcome) (texts : Nat → String)
    (counts : Nat → Nat) : Prop where
  first : texts 0 = start.content
  last : texts issues.length = outcome.content
  step : ∀ i (h : i < issues.length), issues[i].Rewrites (texts i) (texts (i + 1)) (counts i)
  changes : outcome.changes = start.changes ++ issues.zipIdx.filterMap fun (issue, i) =>
    issue.change? (texts i) (texts (i + 1)) (counts i)

theorem Trace.nil (start : Outcome) :
    Trace [] start start (fun _ => start.content) (fun _ => 0) where
  first := rfl
  last := rfl
  step _ h := absurd h (Nat.not_lt_zero _)
  changes := (List.append_nil _).symm

theorem Trace.cons {issue : Issue} {issues : List Issue} {start mid outcome : Outcome} {count : Nat}
    {texts : Nat → String} {counts : Nat → Nat} (h : Trace issues mid outcome texts counts)
    (hissue : issue.Rewrites start.content mid.content count)
    (hchange : mid.changes =
      start.changes ++ (issue.change? start.content mid.content count).toList) :
    Trace (issue :: issues) start outcome (fun i => i.casesOn start.content texts)
      (fun i => i.casesOn count counts) where
  first := rfl
  last := h.last
  step i hi := by
    cases i with
    | zero =>
      change issue.Rewrites start.content (texts 0) count
      rwa [h.first]
    | succ i => exact h.step i (Nat.lt_of_succ_lt_succ hi)
  changes := by
    rw [h.changes, hchange, List.append_assoc, List.zipIdx_cons, List.zipIdx_succ,
      List.filterMap_cons, List.filterMap_map, ← h.first]
    congr 1
    dsimp only
    cases issue.change? start.content (texts 0) count <;> rfl

/-- **Issues that all have patterns are fixed one after another.** -/
theorem exists_trace : ∀ (issues : List Issue) (start : Outcome),
    (∀ issue ∈ issues, ∃ re, issue.rule.detector issue.var = .ok re) →
    ∃ outcome texts counts, issues.foldlM fixIssue start = .ok outcome ∧
      Trace issues start outcome texts counts
  | [], start, _ => ⟨start, _, _, rfl, .nil start⟩
  | issue :: issues, start, h => by
    obtain ⟨re, hre⟩ := h issue List.mem_cons_self
    obtain ⟨text', count, hrewrites, hfix⟩ := exists_fixIssue hre start
    obtain ⟨outcome, texts, counts, hrest, htrace⟩ :=
      exists_trace issues ⟨text', start.changes ++
        (issue.change? start.content text' count).toList⟩
        fun issue' h' => h issue' (List.mem_cons_of_mem issue h')
    refine ⟨outcome, _, _, ?_, htrace.cons hrewrites rfl⟩
    rw [List.foldlM_cons, hfix]
    exact hrest

theorem sublist_changes {f : Issue × Nat → Option Change}
    (hf : ∀ issue i change, f (issue, i) = some change →
      change.kind = issue.rule.kind ∧ change.var = issue.var) (issues : List Issue) : ∀ n,
    (((issues.zipIdx n).filterMap f).map fun change => (change.kind, change.var)).Sublist
      (issues.map fun issue => (issue.rule.kind, issue.var)) := by
  -- `n` is arbitrary, since the rest of the issues is numbered from the next one.
  induction issues with
  | nil => exact fun _ => List.Sublist.refl _
  | cons issue issues ih =>
    intro n
    rw [List.zipIdx_cons, List.filterMap_cons, List.map_cons]
    cases hchange : f (issue, n) with
    | none => exact (ih (n + 1)).cons _
    | some change =>
      obtain ⟨hkind, hvar⟩ := hf issue n change hchange
      rw [List.map_cons, hkind, hvar]
      exact (ih (n + 1)).cons_cons _

section Trace

variable {content : String} {issues : List Issue} {outcome : Outcome} {texts : Nat → String}
  {counts : Nat → Nat} (h : Trace issues ⟨content, []⟩ outcome texts counts)
include h

theorem Trace.sublist : (outcome.changes.map fun change => (change.kind, change.var)).Sublist
    (issues.map fun issue => (issue.rule.kind, issue.var)) := by
  rw [h.changes, List.nil_append]
  refine sublist_changes (fun issue i change hchange => ?_) issues 0
  dsimp only [Issue.change?] at hchange
  split_ifs at hchange
  obtain rfl := Option.some.inj hchange
  exact ⟨rfl, rfl⟩

end Trace

/-! ## What fixing does -/

/-- **What fixing does.** It fails exactly if some issue has no pattern. Otherwise there are the
texts between the issues, from the content to the result: each is cut at all matches of the pattern
of its issue, the empty ones among them, and the next one has the replacement, as it is, in their
places. The changes are those of the issues that leave another text, in order, with the numbers of
matches. -/
theorem fixContent_rewrites (content : String) (issues : List Issue) :
    ((∃ e, fixContent content issues = .error e) ↔
      ∃ issue ∈ issues, ∃ e, issue.rule.detector issue.var = .error e) ∧
    ((∀ issue ∈ issues, ∃ re, issue.rule.detector issue.var = .ok re) →
      ∃ (outcome : Outcome) (texts : Nat → String) (counts : Nat → Nat),
        fixContent content issues = .ok outcome ∧
        texts 0 = content ∧ texts issues.length = outcome.content ∧
        (∀ i (h : i < issues.length),
          issues[i].Rewrites (texts i) (texts (i + 1)) (counts i)) ∧
        outcome.changes = issues.zipIdx.filterMap fun (issue, i) =>
          if texts (i + 1) = texts i then none
          else some ⟨issue.rule.kind, issue.var, counts i⟩) := by
  refine ⟨fixContent_eq_error_iff, fun h => ?_⟩
  obtain ⟨outcome, texts, counts, hfix, htrace⟩ := exists_trace issues ⟨content, []⟩ h
  exact ⟨outcome, texts, counts, hfix, htrace.first, htrace.last, htrace.step, htrace.changes⟩

/-- The variable any number of times, and a replacement with a sign that patterns know. -/
def manyTimes : Rule where
  kind := "many-times"
  detect := "\x7bvar\x7d*"
  replace := "<$0\x7bvar\x7d>"

/-- Empty matches are replaced too, but not right behind another match. -/
theorem fixContent_rewrites_manyTimes : ∃ outcome, ∃ texts : Nat → String, ∃ counts : Nat → Nat,
    fixContent "baac" [⟨manyTimes, "a", ⟨1, 1, ""⟩⟩] = .ok outcome ∧
      texts 0 = "baac" ∧ texts 1 = "<$0a>b<$0a>c<$0a>" ∧
      Issue.Rewrites ⟨manyTimes, "a", ⟨1, 1, ""⟩⟩ (texts 0) (texts 1) (counts 0) ∧
      outcome.changes = [⟨"many-times", "a", 3⟩] := by
  have hre : ∃ re, manyTimes.detector "a" = .ok re := by
    rw [← errorOf?_eq_none_iff]
    decide
  have hfix : fixContent "baac" [⟨manyTimes, "a", ⟨1, 1, ""⟩⟩] =
      .ok ⟨"<$0a>b<$0a>c<$0a>", [⟨"many-times", "a", 3⟩]⟩ := eq_ok_of_toOption (by decide +kernel)
  obtain ⟨outcome, texts, counts, houtcome, hfirst, hlast, hstep, -⟩ :=
    (fixContent_rewrites "baac" [⟨manyTimes, "a", ⟨1, 1, ""⟩⟩]).2
      fun issue hmem => by rw [List.mem_singleton.1 hmem]; exact hre
  obtain rfl := Except.ok.inj (hfix.symm.trans houtcome)
  exact ⟨_, texts, counts, houtcome, hfirst, hlast, hstep 0 Nat.one_pos, rfl⟩

end TableGuard
