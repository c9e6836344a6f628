import TableGuard.Proofs.Findings
import TableGuard.Report

/-!
# The caret of an issue

The line that is shown for an issue of a builtin rule contains the call, and the caret stands below
its first character: bytes, characters and columns are counted apart, and agree.

* `Issue.Points` : an issue points to a call;
* `points_between` : the place between the parts of a text before and after a call shows the call;
* `issue_points` : the issues of an analysis point to calls.
-/

namespace TableGuard

/-- The place of an issue shows a call with the payload. In the text the call stands between `left`,
which begins with the line, and `after`. -/
structure Issue.Points (issue : Issue) (content : String) (p : Payload)
    (above left after : List Char) : Prop where
  rule : issue.rule = p.rule
  text : content.toList = above ++ left ++ p.call issue.var.toList ++ after
  above_end : above = [] ∨ above.getLast? = some '\n'
  newline_notMem : '\n' ∉ left
  located : Location.atByte? content (Utf8.size (above ++ left)) = some issue.location
  column_le : issue.location.column - 1 ≤ issue.location.sourceLine.toList.length
  call_begins :
    p.call issue.var.toList <+: issue.location.sourceLine.toList.drop (issue.location.column - 1)
  /-- What is measured for the caret is the text of the line before the call. -/
  take_eq : issue.location.sourceLine.toList.take (issue.location.column - 1) = left
  caretPadding : Report.caretPadding issue = columns left

/-- A call is written in one line. -/
theorem newline_notMem_call {var : List Char} (hvar : IsWord var) (p : Payload) :
    '\n' ∉ p.call var := by
  rw [Payload.call, List.mem_append, not_or]
  exact ⟨hvar.notMem_setter (by decide), by cases p <;> decide⟩

theorem getLast?_call (p : Payload) (var : List Char) : (p.call var).getLast? = some ')' := by
  rw [p.call_eq_concat, List.getLast?_concat]

/-- **The place in front of a call shows the call.** -/
theorem points_between {issue : Issue} {p : Payload} (hrule : issue.rule = p.rule)
    (hvar : IsWord issue.var.toList) {content : String} {before after : List Char}
    (htext : content.toList = before ++ (p.call issue.var.toList ++ after))
    (hlocation : issue.location = .between before (p.call issue.var.toList ++ after)) :
    ∃ above left, issue.Points content p above left after := by
  obtain ⟨lines, hat⟩ :=
    Location.exists_isAt_between before (p.call issue.var.toList ++ after)
  have hcall : ∀ c ∈ p.call issue.var.toList, (c != '\n') = true := by
    intro c hc
    rw [bne_iff_ne]
    rintro rfl
    exact newline_notMem_call hvar p hc
  rw [List.takeWhile_append_of_pos hcall, ← hlocation] at hat
  obtain ⟨rest, hrest⟩ := hat.prefix_sourceLine (getLast?_call p _) (by decide)
  have hcolumn : issue.location.column - 1 = (Location.lineStart before).length := by
    rw [hat.column, Nat.add_sub_cancel]
  have htake : issue.location.sourceLine.toList.take (issue.location.column - 1) =
      Location.lineStart before := by
    rw [hcolumn, ← hrest, List.append_assoc, List.take_left]
  obtain ⟨above, habove, hend⟩ : ∃ above, before = above ++ Location.lineStart before ∧
      (above = [] ∨ above.getLast? = some '\n') := by
    rcases Location.eq_lineStart before with hline | ⟨front, hfront⟩
    · exact ⟨[], hline, .inl rfl⟩
    · refine ⟨front ++ ['\n'], ?_, .inr List.getLast?_concat⟩
      rw [List.append_assoc, List.singleton_append]
      exact hfront
  refine ⟨above, Location.lineStart before, ⟨hrule, ?_, hend,
    Location.newline_notMem_lineStart before, ?_, ?_, ?_, htake, ?_⟩⟩
  · rw [← habove, List.append_assoc]
    exact htext
  · rw [← habove, hlocation]
    exact Location.atByte?_append htext
  · rw [hcolumn, ← hrest, List.append_assoc, List.length_append]
    exact Nat.le_add_right _ _
  · rw [hcolumn, ← hrest, List.append_assoc, List.drop_left]
    exact List.prefix_append _ _
  · rw [Report.caretPadding, htake]

/-- **Every issue points to a call.** Take an attribute that settings may have, and the analysis of a
text with the builtin rules. The line that is shown for an issue is at least as long as the column
says, the call begins at the column, and the caret is moved by the columns of what stands in the line
before the call. -/
theorem issue_points {attr : String} (hattr : Config.isAttribute attr = true) {analyzer : Analyzer}
    (hmake : Analyzer.make attr Registry.builtin = .ok analyzer) {content : String}
    {analysis : Analysis} (hanalyze : analyzer.analyze content = .ok analysis) {issue : Issue}
    (hissue : issue ∈ analysis.issues) :
    ∃ p above left after, issue.Points content p above left after := by
  have hplain := plainAttribute hattr
  obtain ⟨analysis', hanalyze', hlists⟩ :=
    exists_lists hplain hmake (callsFit_of_analyze hplain hmake hanalyze)
  obtain rfl : analysis' = analysis := Except.ok.inj (hanalyze'.symm.trans hanalyze)
  obtain ⟨p, hrule⟩ := hlists.builtin issue hissue
  have hpair : (issue.var, p.rule) ∈ analysis'.issues.map (fun issue => (issue.var, issue.rule)) :=
    List.mem_map.2 ⟨issue, hissue, by rw [hrule]⟩
  have hvar := ((hlists.mem_iff issue.var p).1 hpair).1
  obtain ⟨before, ⟨⟨after, htext⟩, -⟩, hplace⟩ := hlists.located issue hissue p hrule
  rw [List.append_assoc] at htext
  rw [Location.atByte?_append htext.symm] at hplace
  obtain ⟨above, left, hpoints⟩ :=
    points_between hrule hvar htext.symm (Option.some.inj hplace).symm
  exact ⟨p, above, left, after, hpoints⟩

/-- The line of the call begins with a character of two columns and three bytes, and it ends in two
carriage returns. -/
theorem issue_points_wide : ∃ analyzer analysis issue,
    Config.isAttribute "rows" = true ∧ Analyzer.make "rows" Registry.builtin = .ok analyzer ∧
      analyzer.analyze "rows={X}\r\n単setX(response.data)\r\r\n" = .ok analysis ∧
      issue ∈ analysis.issues ∧
      ∃ p above left after,
        issue.Points "rows={X}\r\n単setX(response.data)\r\r\n" p above left after := by
  have hattr : Config.isAttribute "rows" = true := by decide
  have hmake := Analyzer.make_eq_ok "rows" (by decide) Registry.builtin
  have hfit : CallsFit "rows" "rows={X}\r\n単setX(response.data)\r\r\n" :=
    callsFit_of_size_le "rows" (by decide)
  obtain ⟨analysis, hanalyze, hlists⟩ := exists_lists (plainAttribute hattr) hmake hfit
  have hpair := (hlists.mem_iff "X" .data).2 (by decide)
  obtain ⟨issue, hissue, -⟩ := List.mem_map.1 hpair
  exact ⟨_, analysis, issue, hattr, hmake, hanalyze, hissue,
    issue_points hattr hmake hanalyze hissue⟩

end TableGuard
