import Mathlib.Data.List.DropRight
import TableGuard.Proofs.Text.Utf8
import TableGuard.Text.Location

/-!
# Places and byte offsets

A byte offset has a place exactly if a character begins there or the text ends there. The place is
read off the lines of the text: above it stand whole lines, and in its line as many characters to its
left as its column says. So the place gives the offset back.

* `splitAtByte?_append`, `splitAtByte?_eq_some_iff` : a text is split where the bytes of its first
  part end;
* `IsTorn`, `splitAtByte?_eq_none_iff` : the offsets at which there is no place;
* `Location.exists_lines` : the lines above a place, and its line;
* `Location.IsAt`, `Location.atByte?_exact` : the place at an offset.
-/

namespace TableGuard

/-! ## Splitting -/

theorem splitAtByte?_append (before after : List Char) :
    splitAtByte? (Utf8.size before) (before ++ after) = some (before, after) := by
  induction before with
  | nil => exact splitAtByte?.eq_1 after
  | cons c before ih =>
    have hpos := c.utf8Size_pos
    obtain ⟨offset, hoffset⟩ : ∃ offset, Utf8.size (c :: before) = offset + 1 :=
      ⟨Utf8.size (c :: before) - 1, by rw [Utf8.size]; omega⟩
    have hrest : offset + 1 - c.utf8Size = Utf8.size before := by
      rw [← hoffset, Utf8.size]
      omega
    have hle : c.utf8Size ≤ offset + 1 := by
      rw [← hoffset, Utf8.size]
      omega
    rw [hoffset, List.cons_append, splitAtByte?, if_pos hle, hrest, ih]
    rfl

theorem eq_append_of_splitAtByte? {offset : Nat} {text : List Char} : ∀ {before after : List Char},
    splitAtByte? offset text = some (before, after) →
      text = before ++ after ∧ Utf8.size before = offset := by
  fun_induction splitAtByte? offset text with
  | case1 text =>
    intro before after h
    obtain ⟨rfl, rfl⟩ := Prod.mk.inj (Option.some.inj h)
    exact ⟨rfl, rfl⟩
  | case2 offset => exact nofun
  | case3 offset c text hle ih =>
    intro before after h
    obtain ⟨⟨front, rest⟩, hfront, heq⟩ := Option.map_eq_some_iff.1 h
    obtain ⟨rfl, rfl⟩ := Prod.mk.inj heq
    obtain ⟨rfl, hsize⟩ := ih hfront
    refine ⟨rfl, ?_⟩
    rw [Utf8.size, hsize]
    omega
  | case4 offset c text hle => exact nofun

theorem splitAtByte?_eq_some_iff {offset : Nat} {text before after : List Char} :
    splitAtByte? offset text = some (before, after) ↔
      text = before ++ after ∧ Utf8.size before = offset := by
  refine ⟨eq_append_of_splitAtByte?, ?_⟩
  rintro ⟨rfl, rfl⟩
  exact splitAtByte?_append before after

/-- The offset is beyond the end of the text, or inside a character. -/
def IsTorn (text : List Char) (offset : Nat) : Prop :=
  Utf8.size text < offset ∨
    ∃ before c after, text = before ++ c :: after ∧
      Utf8.size before < offset ∧ offset < Utf8.size before + c.utf8Size

/-- A text has no parts before and after a torn offset. -/
theorem IsTorn.size_ne {before after : List Char} {offset : Nat}
    (h : IsTorn (before ++ after) offset) : Utf8.size before ≠ offset := by
  rintro rfl
  rcases h with hlong | ⟨front, c, rest, htext, hfront, hrest⟩
  · rw [Utf8.size_append] at hlong
    omega
  · rcases List.append_eq_append_iff.1 htext with ⟨gap, rfl, hafter⟩ | ⟨gap, rfl, hrest'⟩
    · rw [Utf8.size_append] at hfront
      omega
    · cases gap with
      | nil => simp at hfront
      | cons d gap =>
        obtain ⟨rfl, -⟩ := List.cons.inj hrest'
        rw [Utf8.size_append, Utf8.size] at hrest
        omega

theorem isTorn_of_splitAtByte? {offset : Nat} {text : List Char}
    (h : splitAtByte? offset text = none) : IsTorn text offset := by
  fun_induction splitAtByte? offset text with
  | case1 text => cases h
  | case2 offset => exact .inl (Nat.succ_pos offset)
  | case3 offset c text hle ih =>
    rcases ih (Option.map_eq_none_iff.1 h) with hlong | ⟨front, d, rest, rfl, hfront, hrest⟩
    · refine .inl ?_
      rw [Utf8.size]
      omega
    · refine .inr ⟨c :: front, d, rest, rfl, ?_, ?_⟩
      all_goals
        rw [Utf8.size]
        omega
  | case4 offset c text hle =>
    refine .inr ⟨[], c, text, rfl, Nat.succ_pos offset, ?_⟩
    rw [Utf8.size]
    omega

theorem splitAtByte?_eq_none_iff {offset : Nat} {text : List Char} :
    splitAtByte? offset text = none ↔ IsTorn text offset := by
  refine ⟨isTorn_of_splitAtByte?, fun htorn => ?_⟩
  cases hsplit : splitAtByte? offset text with
  | none => rfl
  | some parts =>
    obtain ⟨rfl, hsize⟩ := eq_append_of_splitAtByte? hsplit
    exact absurd hsize htorn.size_ne

/-! ## Lines -/

theorem flatMap_splitOn (text : List Char) :
    (text.splitOn '\n').flatMap (· ++ ['\n']) = text ++ ['\n'] := by
  induction text with
  | nil => rfl
  | cons c text ih =>
    rw [List.splitOn_cons_eq_if_modifyHead]
    by_cases hc : c = '\n'
    · rw [if_pos (beq_iff_eq.2 hc), List.flatMap_cons, ih, hc]
      rfl
    · obtain ⟨line, lines, hlines⟩ := List.exists_cons_of_ne_nil (List.splitOn_ne_nil '\n' text)
      rw [hlines, List.flatMap_cons] at ih
      rw [if_neg (mt beq_iff_eq.1 hc), hlines, List.modifyHead_cons, List.flatMap_cons,
        List.cons_append, List.cons_append, ih, List.cons_append]

theorem length_splitOn (text : List Char) :
    (text.splitOn '\n').length = text.count '\n' + 1 := by
  induction text with
  | nil => rfl
  | cons c text ih =>
    rw [List.splitOn_cons_eq_if_modifyHead]
    by_cases hc : c = '\n'
    · rw [if_pos (beq_iff_eq.2 hc), List.length_cons, ih, hc, List.count_cons_self]
    · rw [if_neg (mt beq_iff_eq.1 hc), List.length_modifyHead, ih, List.count_cons_of_ne hc]

theorem splitOn_append {left : List Char} (hleft : '\n' ∉ left) (after : List Char) :
    ∃ below, (left ++ after).splitOn '\n' = (left ++ after.takeWhile (· != '\n')) :: below := by
  have hline : '\n' ∉ left ++ after.takeWhile (· != '\n') := by
    rw [List.mem_append, not_or]
    refine ⟨hleft, fun hmem => ?_⟩
    exact absurd (List.mem_takeWhile_imp hmem) (by decide)
  have hafter := List.takeWhile_append_dropWhile (p := (· != '\n')) (l := after)
  cases hrest : after.dropWhile (· != '\n') with
  | nil =>
    rw [hrest, List.append_nil] at hafter
    rw [hafter] at hline ⊢
    exact ⟨[], List.splitOn_eq_singleton hline⟩
  | cons c rest =>
    have hc := List.head?_dropWhile_not (· != '\n') after
    rw [hrest] at hc
    obtain rfl : c = '\n' := by simpa using hc
    rw [hrest] at hafter
    refine ⟨rest.splitOn '\n', ?_⟩
    conv_lhs => rw [← hafter, ← List.append_assoc]
    exact List.splitOn_append_cons_self_of_not_mem hline rest

namespace Location

theorem lineStart_eq_rtakeWhile (before : List Char) :
    lineStart before = before.rtakeWhile (· != '\n') := rfl

theorem trimReturns_eq_rdropWhile (text : List Char) :
    trimReturns text = text.rdropWhile (· == '\r') := rfl

theorem newline_notMem_lineStart (before : List Char) : '\n' ∉ lineStart before := by
  intro hmem
  exact absurd (List.mem_rtakeWhile_imp hmem) (by decide)

theorem eq_lineStart (before : List Char) :
    before = lineStart before ∨ ∃ front, before = front ++ '\n' :: lineStart before := by
  have hbefore := List.rdropWhile_append_rtakeWhile (p := (· != '\n')) (l := before)
  rw [← lineStart_eq_rtakeWhile] at hbefore
  rcases List.eq_nil_or_concat' (before.rdropWhile (· != '\n')) with hnil | ⟨front, c, hfront⟩
  · rw [hnil] at hbefore
    exact .inl hbefore.symm
  · have hc := List.rdropWhile_last_not (· != '\n') before (by rw [hfront]; simp)
    simp only [hfront, List.getLast_concat] at hc
    obtain rfl : c = '\n' := by simpa using hc
    rw [hfront, List.append_assoc, List.singleton_append] at hbefore
    exact .inr ⟨front, hbefore.symm⟩

/-- **The lines above a place, and its line.** -/
theorem exists_lines (before after : List Char) : ∃ above below,
    (before ++ after).splitOn '\n' =
        above ++ (lineStart before ++ after.takeWhile (· != '\n')) :: below ∧
      above.length = before.count '\n' ∧
      before = above.flatMap (· ++ ['\n']) ++ lineStart before := by
  have hstart := newline_notMem_lineStart before
  obtain ⟨below, hbelow⟩ := splitOn_append hstart after
  rcases eq_lineStart before with hbefore | ⟨front, hbefore⟩
  · refine ⟨[], below, ?_, ?_, hbefore⟩
    · conv_lhs => rw [hbefore, hbelow]
      rfl
    · rw [hbefore, List.count_eq_zero_of_not_mem hstart]
      rfl
  · refine ⟨front.splitOn '\n', below, ?_, ?_, ?_⟩
    · conv_lhs => rw [hbefore, List.append_assoc, List.cons_append]
      rw [List.splitOn_append_cons_self, hbelow]
    · conv_rhs => rw [hbefore]
      rw [length_splitOn, List.count_append, List.count_cons_self,
        List.count_eq_zero_of_not_mem hstart]
    · conv_lhs => rw [hbefore]
      rw [flatMap_splitOn, List.append_assoc, List.singleton_append]

theorem eq_trimReturns (text : List Char) :
    (∃ n, text = trimReturns text ++ List.replicate n '\r') ∧
      (trimReturns text).getLast? ≠ some '\r' := by
  constructor
  · have htext := List.rdropWhile_append_rtakeWhile (p := (· == '\r')) (l := text)
    have hreturns : text.rtakeWhile (· == '\r') =
        List.replicate (text.rtakeWhile (· == '\r')).length '\r' :=
      List.eq_replicate_of_mem fun c hc =>
        beq_iff_eq.1 (List.mem_rtakeWhile_imp (p := (· == '\r')) hc)
    refine ⟨(text.rtakeWhile (· == '\r')).length, ?_⟩
    rw [trimReturns_eq_rdropWhile, ← hreturns, htext]
  · rw [trimReturns_eq_rdropWhile]
    intro hlast
    obtain ⟨front, hfront⟩ := List.getLast?_eq_some_iff.1 hlast
    have hnot := List.rdropWhile_last_not (· == '\r') text (by rw [hfront]; simp)
    simp only [hfront, List.getLast_concat] at hnot
    exact hnot rfl

/-! ## Places -/

theorem atByte?_append {content : String} {before after : List Char}
    (h : content.toList = before ++ after) :
    Location.atByte? content (Utf8.size before) = some (.between before after) := by
  rw [Location.atByte?, h, splitAtByte?_append]
  rfl

theorem atByte?_eq_some_iff {content : String} {offset : Nat} {place : Location} :
    atByte? content offset = some place ↔ ∃ before after,
      content.toList = before ++ after ∧ Utf8.size before = offset ∧ between before after = place := by
  unfold atByte?
  rw [Option.map_eq_some_iff, Prod.exists]
  simp only [splitAtByte?_eq_some_iff, and_assoc]

/-- A place in a text that is divided at its line feeds: the lines `above` stand above it, and in its
own line `left` stands to its left and `right` to its right. -/
structure IsAt (place : Location) (text : List Char) (offset : Nat) (above : List (List Char))
    (left right : List Char) : Prop where
  lines : ∃ below, text.splitOn '\n' = above ++ (left ++ right) :: below
  line : place.line = above.length + 1
  column : place.column = left.length + 1
  offset : offset = Utf8.size (above.flatMap (· ++ ['\n'])) + Utf8.size left
  /-- The text of the line is given without the carriage returns at its end. -/
  sourceLine : ∃ n, left ++ right = place.sourceLine.toList ++ List.replicate n '\r'
  trimmed : place.sourceLine.toList.getLast? ≠ some '\r'
  newline_notMem : '\n' ∉ place.sourceLine.toList

theorem exists_isAt_between (before after : List Char) : ∃ above,
    (between before after).IsAt (before ++ after) (Utf8.size before) above (lineStart before)
      (after.takeWhile (· != '\n')) := by
  obtain ⟨above, below, hlines, habove, hbefore⟩ := exists_lines before after
  obtain ⟨⟨n, hreturns⟩, htrimmed⟩ :=
    eq_trimReturns (lineStart before ++ after.takeWhile (· != '\n'))
  have hsource : (between before after).sourceLine.toList =
      trimReturns (lineStart before ++ after.takeWhile (· != '\n')) := String.toList_ofList
  refine ⟨above, ⟨below, hlines⟩, ?_, rfl, ?_, ⟨n, ?_⟩, ?_, ?_⟩
  · rw [habove]
    rfl
  · rw [← Utf8.size_append, ← hbefore]
  · rw [hsource]
    exact hreturns
  · rw [hsource]
    exact htrimmed
  · rw [hsource]
    intro hmem
    have hline : '\n' ∈ lineStart before ++ after.takeWhile (· != '\n') := by
      rw [hreturns]
      exact List.mem_append_left _ hmem
    rcases List.mem_append.1 hline with hstart | hend
    · exact newline_notMem_lineStart before hstart
    · exact absurd (List.mem_takeWhile_imp hend) (by decide)

/-- Places in the same line and column are at the same offset. -/
theorem IsAt.offset_eq {place place' : Location} {text : List Char} {offset offset' : Nat}
    {above above' : List (List Char)} {left left' right right' : List Char}
    (h : place.IsAt text offset above left right) (h' : place'.IsAt text offset' above' left' right')
    (hline : place.line = place'.line) (hcolumn : place.column = place'.column) :
    offset = offset' := by
  obtain ⟨below, hlines⟩ := h.lines
  obtain ⟨below', hlines'⟩ := h'.lines
  have habove : above.length = above'.length := by
    rw [h.line, h'.line] at hline
    exact Nat.succ.inj hline
  have hleft : left.length = left'.length := by
    rw [h.column, h'.column] at hcolumn
    exact Nat.succ.inj hcolumn
  obtain ⟨rfl, hown⟩ := List.append_inj (hlines.symm.trans hlines') habove
  obtain ⟨rfl, -⟩ := List.append_inj (List.cons.inj hown).1 hleft
  rw [h.offset, h'.offset]

theorem IsAt.prefix_sourceLine {place : Location} {text : List Char} {offset : Nat}
    {above : List (List Char)} {left middle right : List Char}
    (h : place.IsAt text offset above left (middle ++ right)) {c : Char}
    (hlast : middle.getLast? = some c) (hc : c ≠ '\r') :
    left ++ middle <+: place.sourceLine.toList := by
  obtain ⟨n, hsource⟩ := h.sourceLine
  rw [← List.append_assoc] at hsource
  rcases List.append_eq_append_iff.1 hsource with ⟨gap, hgap, -⟩ | ⟨gap, hgap, hreturns⟩
  · exact ⟨gap, hgap.symm⟩
  · cases gap using List.reverseRecOn with
    | nil =>
      rw [List.append_nil] at hgap
      exact hgap ▸ List.prefix_rfl
    | append_singleton gap d =>
      have hlast' : (left ++ middle).getLast? = some c := by
        rw [List.getLast?_append, hlast]
        rfl
      rw [hgap, ← List.append_assoc, List.getLast?_concat] at hlast'
      obtain rfl := Option.some.inj hlast'
      refine absurd (List.eq_of_mem_replicate (n := n) ?_) hc
      rw [hreturns]
      simp

/-- **Places are exact and can be turned back into offsets.** There is no place exactly beyond the end
of the text and inside of a character. Otherwise the lines above the place with their line feeds and
the characters to its left have as many bytes as the offset says, so different offsets have different
lines or columns; and the text of the line is the line without the carriage returns at its end. -/
theorem atByte?_exact (content : String) (offset : Nat) :
    (atByte? content offset = none ↔ IsTorn content.toList offset) ∧
    ∀ place, atByte? content offset = some place →
      (∃ above left right, place.IsAt content.toList offset above left right) ∧
      ∀ offset' place', atByte? content offset' = some place' →
        place'.line = place.line → place'.column = place.column → offset' = offset := by
  constructor
  · unfold atByte?
    rw [Option.map_eq_none_iff, splitAtByte?_eq_none_iff]
  · intro place hplace
    obtain ⟨before, after, htext, rfl, rfl⟩ := atByte?_eq_some_iff.1 hplace
    obtain ⟨above, hat⟩ := exists_isAt_between before after
    rw [← htext] at hat
    refine ⟨⟨above, _, _, hat⟩, ?_⟩
    intro offset' place' hplace' hline hcolumn
    obtain ⟨before', after', htext', rfl, rfl⟩ := atByte?_eq_some_iff.1 hplace'
    obtain ⟨above', hat'⟩ := exists_isAt_between before' after'
    rw [← htext'] at hat'
    exact hat'.offset_eq hat hline hcolumn

/-- Offset 6 of this text stands between the carriage return and the line feed of its second line. -/
theorem atByte?_exact_returns :
    atByte? "é\nab\r\nc" 6 = some ⟨2, 4, "ab"⟩ ∧
      (∃ above left right,
        Location.IsAt ⟨2, 4, "ab"⟩ "é\nab\r\nc".toList 6 above left right) ∧
      atByte? "é\nab\r\nc" 7 = some ⟨3, 1, "c"⟩ ∧ IsTorn "é\nab\r\nc".toList 1 := by
  have hplace : atByte? "é\nab\r\nc" 6 = some ⟨2, 4, "ab"⟩ := by decide
  have htorn : atByte? "é\nab\r\nc" 1 = none := by decide
  exact ⟨hplace, ((atByte?_exact "é\nab\r\nc" 6).2 _ hplace).1, by decide,
    (atByte?_exact "é\nab\r\nc" 1).1.1 htorn⟩

end Location

end TableGuard
