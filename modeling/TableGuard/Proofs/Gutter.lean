import Mathlib.Data.List.Forall2
import Mathlib.Order.Bounds.Basic
import TableGuard.Proofs.Regex.Cover
import TableGuard.Proofs.Text.Columns

/-!
# The blocks of a report

A report shows every issue in a block of its own. All blocks have one margin, which is as wide as
the greatest line number, so that the marks behind it stand below each other whichever block they
belong to.

* `Report.exists_greatest` : the width of the margin;
* `Report.IsBlock` : the block of an issue, line by line;
* `Report.gutter`, `Report.IsBlock.gutter_eq` : the marks behind the margin;
* `Report.render_aligned` : the issues in a report;
* `Report.render_issueBehindSpaces` : an issue that is too far to the right for a report.
-/

namespace TableGuard.Report

/-! ## The margin -/

theorem length_toString_le {n n' : Nat} (h : n ≤ n') :
    (toString n).length ≤ (toString n').length := by
  have hlength : ∀ n : Nat, (toString n).length = (Nat.toDigits 10 n).length := fun n =>
    String.length_ofList
  rw [hlength, hlength, Nat.length_toDigits_le_iff (by decide) Nat.length_toDigits_pos]
  refine Nat.lt_of_le_of_lt h ?_
  rw [← Nat.length_toDigits_le_iff (by decide) Nat.length_toDigits_pos]

theorem foldl_max_mem (ns : List Nat) : ∀ k, ns.foldl max k ∈ k :: ns := by
  induction ns with
  | nil => exact fun k => List.mem_singleton_self k
  | cons n ns ih =>
    intro k
    rcases List.mem_cons.1 (ih (max k n)) with hmax | hmem
    · rw [List.foldl_cons, hmax]
      rcases Nat.le_total k n with hle | hle
      · rw [Nat.max_eq_right hle]
        exact List.mem_cons_of_mem _ List.mem_cons_self
      · rw [Nat.max_eq_left hle]
        exact List.mem_cons_self
    · exact List.mem_cons_of_mem _ (List.mem_cons_of_mem _ hmem)

def lineNumbers (files : List FileReport) : List Nat :=
  (issuesWithFiles files).map fun found => found.2.location.line

/-- **The margin is as wide as the greatest line number.** -/
theorem exists_greatest {files : List FileReport} (h : issuesWithFiles files ≠ []) :
    ∃ greatest ∈ lineNumbers files, (∀ line ∈ lineNumbers files, line ≤ greatest) ∧
      margin files = (toString greatest).length := by
  unfold margin
  split
  · rename_i hnil
    exact absurd (List.map_eq_nil_iff.1 hnil) h
  · rename_i line lines hcons
    have hlines : lineNumbers files = line :: lines := hcons
    rw [hlines]
    refine ⟨lines.foldl max line, foldl_max_mem lines line, ?_, rfl⟩
    have hle := (Regex.foldl_max_le_iff lines line _).1 (Nat.le_refl _)
    exact List.forall_mem_cons.2 hle

/-! ## Blocks -/

theorem toList_spaces (n : Nat) : (spaces n).toList = List.replicate n ' ' := String.toList_ofList

theorem length_alignRight {width : Nat} {text : String} (h : text.length ≤ width) :
    (alignRight width text).length = width := by
  rw [alignRight, String.length_append, ← String.length_toList, toList_spaces, List.length_replicate]
  omega

/-- The block of an issue in a report whose margin has some width: a heading, the place, four lines
with a gutter, and an empty line. -/
def IsBlock (width : Nat) (file : FileReport) (issue : Issue) (block : List String) : Prop :=
  ∃ blank number padding : String, blank.toList = List.replicate width ' ' ∧
    number.length = width ∧
    (∃ n, number.toList = List.replicate n ' ' ++ (toString issue.location.line).toList) ∧
    padding.toList = List.replicate (caretPadding issue) ' ' ∧
    block =
      [ "warning: unchecked response assigned to \"" ++ issue.var ++ "\"  [" ++
          issue.rule.kind ++ "]",
        "  --> " ++ file.path.lossy ++ ":" ++ toString issue.location.line ++ ":" ++
          toString issue.location.column,
        blank ++ " |",
        number ++ " | " ++ issue.location.sourceLine,
        blank ++ " | " ++ padding ++ "^",
        blank ++ " = fix: " ++ issue.rule.replacement issue.var,
        "" ]

/-- The characters of the lines with a gutter that stand one space behind the margin. -/
def gutter (width : Nat) (block : List String) : List (Option Char) :=
  ((block.drop 2).take 4).map fun line => line.toList[width + 1]?

theorem isBlock_issueBlock {width : Nat} {issue : Issue}
    (h : (toString issue.location.line).length ≤ width) (file : FileReport) :
    IsBlock width file issue (issueBlock false width file issue) := by
  refine ⟨spaces width, alignRight width (toString issue.location.line),
    spaces (caretPadding issue), toList_spaces _, length_alignRight h,
    ⟨width - (toString issue.location.line).length, ?_⟩, toList_spaces _, ?_⟩
  · rw [alignRight, String.toList_append, toList_spaces]
  · have hplain : ∀ text : String, toString text = text := fun _ => rfl
    simp only [issueBlock, paint, Bool.false_eq_true, if_false, hplain]
    simp only [List.cons.injEq, ← String.toList_inj, String.toList_append, List.append_assoc,
      and_true]
    exact ⟨rfl, rfl, rfl, rfl, rfl, rfl⟩

/-- What stands one space behind a field. -/
theorem getElem?_field {field line : String} {width : Nat} (h : field.length = width) {mark : Char}
    (hline : field.toList ++ [' ', mark] <+: line.toList) :
    line.toList[width + 1]? = some mark := by
  obtain ⟨rest, hrest⟩ := hline
  rw [← String.length_toList] at h
  rw [← hrest, List.append_assoc, List.getElem?_append_right (by omega), h, Nat.add_sub_cancel_left]
  rfl

/-- **The gutter is straight.** -/
theorem IsBlock.gutter_eq {width : Nat} {file : FileReport} {issue : Issue} {block : List String}
    (h : IsBlock width file issue block) :
    gutter width block = [some '|', some '|', some '|', some '='] := by
  obtain ⟨blank, number, padding, hblank, hnumber, -, -, rfl⟩ := h
  have hwidth : blank.length = width := by
    rw [← String.length_toList, hblank, List.length_replicate]
  simp only [gutter, List.drop_succ_cons, List.drop_zero, List.take_succ_cons, List.take_zero,
    List.map_cons, List.map_nil, List.cons.injEq, and_true]
  refine ⟨getElem?_field hwidth ?_, getElem?_field hnumber ?_, getElem?_field hwidth ?_,
    getElem?_field hwidth ?_⟩
  all_goals simp

/-! ## The report -/

theorem render_eq_none_iff {color : Bool} {s : Summary} : render color s = none ↔
    ∃ found ∈ issuesWithFiles s.files, maxPadding < caretPadding found.2 := by
  unfold render fits
  rw [ite_eq_right_iff]
  simp

theorem forall₂_blocks (files : List FileReport) :
    List.Forall₂ (fun found block => IsBlock (margin files) found.1 found.2 block)
      (issuesWithFiles files)
      ((issuesWithFiles files).map fun found =>
        issueBlock false (margin files) found.1 found.2) := by
  rw [List.forall₂_map_right_iff, List.forall₂_same]
  intro found hmem
  obtain ⟨greatest, -, hle, hmargin⟩ := exists_greatest (List.ne_nil_of_mem hmem)
  refine isBlock_issueBlock ?_ found.1
  rw [hmargin]
  exact length_toString_le (hle _ (List.mem_map_of_mem hmem))

theorem issues_eq (files : List FileReport) : ∃ closing : List String,
    issues false files = ((issuesWithFiles files).map fun found =>
      issueBlock false (margin files) found.1 found.2).flatten ++ closing ∧
    (issuesWithFiles files = [] → closing = []) ∧
    (issuesWithFiles files ≠ [] → closing =
      [failureMark ++ " " ++ toString (issuesWithFiles files).length ++ " problem(s) in " ++
        toString files.length ++ " file(s)", ""]) := by
  unfold issues
  dsimp only
  rw [List.flatMap_def]
  by_cases hnil : issuesWithFiles files = []
  · rw [hnil]
    exact ⟨[], (List.append_nil _).symm, fun _ => rfl, fun hne => absurd rfl hne⟩
  · rw [if_neg (by rwa [List.isEmpty_iff])]
    exact ⟨_, rfl, fun h => absurd h hnil, fun _ => rfl⟩

/-- **The issues in a report.** Take any summary, and no colours. A report cannot be written exactly
if there is an issue whose caret would stand behind more than `maxPadding` columns. Otherwise it
begins with one block for each issue, in the order of the files and then of the issues of a file. In
each block the marks of the four lines with a gutter stand in the same column, one space behind a
field as wide as the greatest line number of all issues. If there are issues, a line follows with
the number of blocks and the number of files. -/
theorem render_aligned (s : Summary) :
    (render false s = none ↔
      ∃ found ∈ issuesWithFiles s.files, maxPadding < caretPadding found.2) ∧
    ∀ text, render false s = some text → ∃ (width : Nat) (blocks : List (List String))
      (closing : List String),
      text = unlines (blocks.flatten ++ closing ++ counts s :: conclusion false s) ∧
      List.Forall₂ (fun found block => IsBlock width found.1 found.2 block ∧
          gutter width block = [some '|', some '|', some '|', some '='])
        (issuesWithFiles s.files) blocks ∧
      (issuesWithFiles s.files = [] → closing = []) ∧
      (issuesWithFiles s.files ≠ [] →
        (∃ greatest, IsGreatest {line | ∃ found ∈ issuesWithFiles s.files,
            found.2.location.line = line} greatest ∧ width = (toString greatest).length) ∧
        closing =
          [failureMark ++ " " ++ toString blocks.length ++ " problem(s) in " ++
            toString s.files.length ++ " file(s)", ""]) := by
  refine ⟨render_eq_none_iff, fun text htext => ?_⟩
  obtain ⟨closing, hissues, hnil, hsome⟩ := issues_eq s.files
  unfold render at htext
  split_ifs at htext with hfits
  obtain rfl := Option.some.inj htext
  refine ⟨margin s.files, (issuesWithFiles s.files).map fun found =>
    issueBlock false (margin s.files) found.1 found.2, closing, ?_, ?_, hnil, fun hne => ⟨?_, ?_⟩⟩
  · rw [hissues]
  · exact (forall₂_blocks s.files).imp fun _ _ hblock => ⟨hblock, hblock.gutter_eq⟩
  · obtain ⟨greatest, hmem, hle, hmargin⟩ := exists_greatest hne
    refine ⟨greatest, ⟨List.mem_map.1 hmem, ?_⟩, hmargin⟩
    rintro line ⟨found, hfound, rfl⟩
    exact hle _ (List.mem_map_of_mem hfound)
  · rw [hsome hne, List.length_map]

def twoFiles : Summary where
  mode := .check
  sourceDir := "src/pages"
  scanned := 2
  binding := 2
  skipped := []
  files :=
    [ ⟨"a.tsx", "src/pages/a.tsx",
        [⟨Registry.directData, "Rows", ⟨9, 3, "  setRows(response.data)"⟩⟩],
        [⟨"direct-response-data", "Rows", 1⟩]⟩,
      ⟨"b.tsx", "src/pages/b.tsx",
        [⟨Registry.directData, "Items", ⟨7, 1, "setItems(response.data)"⟩⟩,
          ⟨Registry.nestedList, "Items", ⟨120, 1, "setItems(response.data.list)"⟩⟩],
        [⟨"direct-response-data", "Items", 1⟩, ⟨"response-data-list", "Items", 1⟩]⟩ ]

/-- The margin is as wide as the number of the last issue, in all blocks. -/
theorem render_aligned_twoFiles : ∃ (text : String) (blocks : List (List String))
    (closing : List String), render false twoFiles = some text ∧
    text = unlines (blocks.flatten ++ closing ++ counts twoFiles :: conclusion false twoFiles) ∧
    blocks.length = 3 ∧
    (∀ block ∈ blocks, gutter 3 block = [some '|', some '|', some '|', some '=']) ∧
    closing = ["\u2718 3 problem(s) in 2 file(s)", ""] := by
  obtain ⟨hnone, hsome⟩ := render_aligned twoFiles
  have hfits : render false twoFiles ≠ none := by
    rw [ne_eq, hnone]
    decide
  obtain ⟨text, htext⟩ := Option.ne_none_iff_exists'.1 hfits
  obtain ⟨width, blocks, closing, hlines, hblocks, -, hissues⟩ := hsome text htext
  obtain ⟨⟨greatest, hgreatest, hwidth⟩, hclosing⟩ := hissues (by decide)
  have hnumber : greatest = 120 := by
    refine hgreatest.unique ⟨?_, ?_⟩
    · exact ⟨_, List.mem_cons_of_mem _ (List.mem_cons_of_mem _ List.mem_cons_self), rfl⟩
    · have hle : ∀ found ∈ issuesWithFiles twoFiles.files, found.2.location.line ≤ 120 := by
        decide
      rintro line ⟨found, hmem, rfl⟩
      exact hle found hmem
  have hthree : width = 3 := by
    rw [hwidth, hnumber]
    decide
  have hlength : blocks.length = 3 := hblocks.length_eq.symm
  refine ⟨text, blocks, closing, htext, hlines, hlength, fun block hmem => ?_, ?_⟩
  · obtain ⟨i, hi, rfl⟩ := List.getElem_of_mem hmem
    have hgutter := (hblocks.get (hblocks.length_eq ▸ hi) hi).2
    rwa [hthree] at hgutter
  · rw [hclosing, hlength]
    decide

/-! ## Too far to the right -/

/-- An issue in the second line, behind some spaces. -/
def issueBehind (n : Nat) : Issue where
  rule := Registry.directData
  var := "X"
  location := ⟨2, n + 1, String.ofList (List.replicate n ' ' ++ "setX(response.data)".toList)⟩

/-- One file with one issue behind some spaces. -/
def issueBehindSpaces (n : Nat) : Summary where
  mode := .check
  sourceDir := "src/pages"
  scanned := 1
  binding := 1
  skipped := []
  files := [⟨"a.tsx", "src/pages/a.tsx", [issueBehind n], [⟨"direct-response-data", "X", 1⟩]⟩]

theorem caretPadding_issueBehind (n : Nat) : caretPadding (issueBehind n) = n := by
  have hline : (issueBehind n).location.sourceLine.toList =
      List.replicate n ' ' ++ "setX(response.data)".toList := String.toList_ofList
  have hcolumn : (issueBehind n).location.column - 1 = n := rfl
  rw [caretPadding, hline, hcolumn, List.take_left' List.length_replicate, columns_spaces]

/-- A report of one issue cannot be written if too many spaces stand in front of the call. -/
theorem render_issueBehindSpaces : (issuesWithFiles (issueBehindSpaces 65536).files).length = 1 ∧
    render false (issueBehindSpaces 65536) = none := by
  refine ⟨rfl, render_eq_none_iff.2 ⟨_, List.mem_singleton_self _, ?_⟩⟩
  rw [caretPadding_issueBehind]
  decide

end TableGuard.Report
