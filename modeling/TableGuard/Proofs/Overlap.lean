import TableGuard.Proofs.Detection

/-!
# Where calls overlap

The calls of two words can overlap in a text, since a word may itself end in a setter: there are
two calls in `setsetX(response.data)`. This is the only way. The setter of a word has no
parenthesis, so no argument begins within it, and two calls that overlap have their argument in
common. In front of that, the longer setter ends in the shorter one.

* `setter_suffix_setter_iff` : when a setter ends in another;
* `Payload.call_meets` : two calls in a text are apart, or end together;
* `Regex.Overlap`, `Payload.standsAt_overlap` : the same by offsets in bytes;
* `Payload.mem_spans_call_iff` : the search for one call misses no occurrence;
* `Rule.matches_overlap` : how matches of the builtin rules overlap.
-/

namespace TableGuard

/-! ## Setters -/

/-- A setter that ends in the setter of another word has all of that within its own word: neither
its second letter nor its third one begins a setter. -/
theorem setter_suffix_setter_iff {v w : List Char} :
    setter w <:+ setter v ↔ v = w ∨ setter w <:+ v := by
  have hfirst : setter w <:+ 'e' :: 't' :: v ↔ setter w <:+ v := by
    simp [setter, List.suffix_cons_iff]
  have hsame : setter w = setter v ↔ v = w := by
    simp [setter, eq_comm]
  rw [← hfirst, ← hsame]
  exact List.suffix_cons_iff

/-! ## Two calls in a text -/

section Calls

variable {p q : Payload} {v w before after before' after' : List Char}

/-- Of two calls in a text, the second ends in front of the first, or has its argument no further
left than the first. -/
theorem Payload.call_before (hv : IsWord v)
    (h : before ++ (p.call v ++ after) = before' ++ (q.call w ++ after')) :
    before' ++ q.call w <+: before ∨ before ++ setter v <+: before' ++ setter w := by
  have hsides : before ++ (setter v ++ '(' :: (p.text ++ (')' :: after))) =
      (before' ++ setter w) ++ (q.argument ++ after') := by
    simpa [call, argument] using h
  have happart := argument_setter hv hsides
  rwa [List.append_assoc, ← call] at happart

/-- **Two calls in a text are apart, or end together.** In the second case the payloads are the
same, and so are the places of the arguments. -/
theorem Payload.call_meets (hv : IsWord v) (hw : IsWord w)
    (h : before ++ (p.call v ++ after) = before' ++ (q.call w ++ after')) :
    before ++ p.call v <+: before' ∨ before' ++ q.call w <+: before ∨
      p = q ∧ before ++ setter v = before' ++ setter w := by
  rcases call_before hv h with hleft | hle
  · exact .inr (.inl hleft)
  rcases call_before hw h.symm with hright | hge
  · exact .inl hright
  -- Neither argument is further left than the other.
  have hset : before ++ setter v = before' ++ setter w := hle.eq_of_length_le hge.length_le
  have harguments : p.argument ++ after = q.argument ++ after' := by
    have hplaces : (before ++ setter v) ++ (p.argument ++ after) =
        (before' ++ setter w) ++ (q.argument ++ after') := by
      simpa [call] using h
    rwa [hset, List.append_cancel_left_eq] at hplaces
  have hsame : p = q := argument_unique ⟨after, harguments⟩ (List.prefix_append _ _)
  exact .inr (.inr ⟨hsame, hset⟩)

end Calls

/-! ## By offsets -/

/-- Two places in a text have a byte in common. -/
def Regex.Overlap (span span' : Nat × Nat) : Prop :=
  ∃ i, (span.1 ≤ i ∧ i < span.2) ∧ span'.1 ≤ i ∧ i < span'.2

section Places

variable {p q : Payload} {v w text : List Char} {span span' : Nat × Nat}

/-- **Calls that overlap end together**, with the same payload, and the longer setter ends in the
shorter one. -/
theorem Payload.standsAt_overlap (hv : IsWord v) (hw : IsWord w)
    (h : Regex.StandsAt (p.call v) text span) (h' : Regex.StandsAt (q.call w) text span')
    (hoverlap : Regex.Overlap span span') :
    p = q ∧ span.2 = span'.2 ∧ (v = w ∨ setter w <:+ v ∨ setter v <:+ w) := by
  obtain ⟨before, after, rfl, rfl⟩ := h
  obtain ⟨before', after', htext, rfl⟩ := h'
  obtain ⟨i, hi, hi'⟩ := hoverlap
  dsimp only at hi hi'
  rcases call_meets hv hw htext with ⟨gap, hgap⟩ | ⟨gap, hgap⟩ | ⟨rfl, hset⟩
  · have hsize := congrArg Utf8.size hgap
    simp only [Utf8.size_append] at hsize
    omega
  · have hsize := congrArg Utf8.size hgap
    simp only [Utf8.size_append] at hsize
    omega
  · have hend := congrArg Utf8.size hset
    rw [Utf8.size_append, Utf8.size_append] at hend
    refine ⟨rfl, ?_, ?_⟩
    · rw [call, call, Utf8.size_append, Utf8.size_append]
      omega
    · have hsuffix : setter v <:+ before' ++ setter w := ⟨before, hset⟩
      rcases List.suffix_or_suffix_of_suffix hsuffix (List.suffix_append _ _) with hvw | hwv
      · rcases setter_suffix_setter_iff.1 hvw with rfl | hlonger
        · exact .inl rfl
        · exact .inr (.inr hlonger)
      · exact (setter_suffix_setter_iff.1 hwv).imp_right .inl

/-- Two occurrences of one call that overlap are the same. -/
theorem Payload.standsAt_unique (hv : IsWord v) (h : Regex.StandsAt (p.call v) text span)
    (h' : Regex.StandsAt (p.call v) text span') (hoverlap : Regex.Overlap span span') :
    span = span' := by
  obtain ⟨-, hend, -⟩ := standsAt_overlap hv hv h h' hoverlap
  have hsize := h.snd_eq
  have hsize' := h'.snd_eq
  exact Prod.ext (by omega) hend

/-- **The search for one call misses no occurrence**, since there are none that overlap. -/
theorem Payload.mem_spans_call_iff (hv : IsWord v) :
    span ∈ ((Regex.mk (.chars (p.call v))).cut text).spans ↔
      Regex.StandsAt (p.call v) text span := by
  have hfound := Regex.occurrences_cut_chars (p.call_ne_nil v) text
  constructor
  · exact hfound.stands span
  · intro h
    obtain ⟨span', hmem, hle, hlt⟩ := hfound.complete span h
    have hsize := h.snd_eq
    have hpos := Utf8.size_pos (p.call_ne_nil v)
    have hoverlap : Regex.Overlap span span' := ⟨span.1, ⟨le_rfl, by omega⟩, hle, hlt⟩
    rwa [standsAt_unique hv h (hfound.stands span' hmem) hoverlap]

end Places

/-! ## The builtin rules -/

theorem exists_append_setter_iff {var var' : String} :
    (∃ lead, var = lead ++ "set" ++ var') ↔ setter var'.toList <:+ var.toList := by
  constructor
  · rintro ⟨lead, rfl⟩
    exact ⟨lead.toList, by simp [setter]⟩
  · rintro ⟨lead, hlead⟩
    refine ⟨String.ofList lead, ?_⟩
    rw [← String.toList_inj, ← hlead]
    simp [setter]

/-- **How matches of the builtin rules overlap.** Take two builtin rules, two words and any text.
The search with a detector finds all the places where that matches. If a match of the first rule for
the first word has a byte in common with a match of the second rule for the second word, then the
rules are the same and both matches have the same end. Either they are the same match for the same
word, or one of the words ends in the setter of the other one. So there is no overlap between
matches of rules of different kinds, nor between different matches of one rule for one word. -/
theorem Rule.matches_overlap {rule rule' : Rule} (hrule : rule ∈ Registry.builtin.rules)
    (hrule' : rule' ∈ Registry.builtin.rules) {var var' : String} (hvar : IsWord var.toList)
    (hvar' : IsWord var'.toList) (text : List Char) : ∃ re re',
      rule.unlimited? var = some re ∧ rule'.unlimited? var' = some re' ∧
      (∀ other, rule.detector var = .ok other → other = re) ∧
      (∀ other, rule'.detector var' = .ok other → other = re') ∧
      (∀ span, span ∈ (re.cut text).spans ↔ re.MatchesAt text span) ∧
      (∀ span, span ∈ (re'.cut text).spans ↔ re'.MatchesAt text span) ∧
      ∀ span ∈ (re.cut text).spans, ∀ span' ∈ (re'.cut text).spans,
        (Regex.Overlap span span' →
          rule = rule' ∧ span.2 = span'.2 ∧
            (var = var' ∧ span = span' ∨
              (∃ lead, var = lead ++ "set" ++ var') ∨ ∃ lead, var' = lead ++ "set" ++ var)) ∧
        (rule.kind ≠ rule'.kind ∨ rule = rule' ∧ var = var' ∧ span ≠ span' →
          ¬ Regex.Overlap span span') := by
  obtain ⟨p, rfl⟩ := Payload.exists_of_mem_builtin hrule
  obtain ⟨q, rfl⟩ := Payload.exists_of_mem_builtin hrule'
  refine ⟨_, _, p.unlimited?_rule var, q.unlimited?_rule var',
    fun _ => Payload.eq_of_detector_rule, fun _ => Payload.eq_of_detector_rule,
    fun span => ?_, fun span => ?_, fun span hmem span' hmem' => ?_⟩
  · rw [Regex.matchesAt_chars_iff (p.call_ne_nil _)]
    exact Payload.mem_spans_call_iff hvar
  · rw [Regex.matchesAt_chars_iff (q.call_ne_nil _)]
    exact Payload.mem_spans_call_iff hvar'
  rw [Payload.mem_spans_call_iff hvar] at hmem
  rw [Payload.mem_spans_call_iff hvar'] at hmem'
  constructor
  · intro hoverlap
    obtain ⟨rfl, hend, hwords⟩ := Payload.standsAt_overlap hvar hvar' hmem hmem' hoverlap
    refine ⟨rfl, hend, ?_⟩
    rw [exists_append_setter_iff, exists_append_setter_iff]
    refine hwords.imp_left fun hsame => ?_
    obtain rfl := String.toList_inj.1 hsame
    exact ⟨rfl, Payload.standsAt_unique hvar hmem hmem' hoverlap⟩
  · intro hcase hoverlap
    obtain ⟨rfl, -⟩ := Payload.standsAt_overlap hvar hvar' hmem hmem' hoverlap
    rcases hcase with hkind | ⟨-, rfl, hne⟩
    · exact hkind rfl
    · exact hne (Payload.standsAt_unique hvar hmem hmem' hoverlap)

/-- The first call is one of both words, and the second of the shorter one only. -/
theorem Rule.matches_overlap_setters : ∃ re re',
    Registry.directData ∈ Registry.builtin.rules ∧
    IsWord "pagesetRows".toList ∧ IsWord "Rows".toList ∧
    Registry.directData.unlimited? "pagesetRows" = some re ∧
    Registry.directData.unlimited? "Rows" = some re' ∧
    (re.cut "setpagesetRows(response.data);setRows(response.data)".toList).spans = [(0, 29)] ∧
    (re'.cut "setpagesetRows(response.data);setRows(response.data)".toList).spans =
      [(7, 29), (30, 52)] ∧
    Regex.Overlap (0, 29) (7, 29) ∧ ∃ lead, "pagesetRows" = lead ++ "set" ++ "Rows" := by
  have hrule : Registry.directData ∈ Registry.builtin.rules := by decide
  have hlong : IsWord "pagesetRows".toList := by decide
  have hshort : IsWord "Rows".toList := by decide
  obtain ⟨re, re', hre, hre', -, -, -, -, hmatches⟩ := Rule.matches_overlap hrule hrule hlong hshort
    "setpagesetRows(response.data);setRows(response.data)".toList
  obtain rfl : re = ⟨.chars (Payload.data.call "pagesetRows".toList)⟩ :=
    Option.some.inj (hre.symm.trans (Payload.data.unlimited?_rule "pagesetRows"))
  obtain rfl : re' = ⟨.chars (Payload.data.call "Rows".toList)⟩ :=
    Option.some.inj (hre'.symm.trans (Payload.data.unlimited?_rule "Rows"))
  have hspans : ((Regex.mk (.chars (Payload.data.call "pagesetRows".toList))).cut
      "setpagesetRows(response.data);setRows(response.data)".toList).spans = [(0, 29)] := by
    decide
  have hspans' : ((Regex.mk (.chars (Payload.data.call "Rows".toList))).cut
      "setpagesetRows(response.data);setRows(response.data)".toList).spans =
        [(7, 29), (30, 52)] := by
    decide
  have hoverlap : Regex.Overlap (0, 29) (7, 29) := ⟨7, by decide, by decide⟩
  refine ⟨_, _, hrule, hlong, hshort, hre, hre', hspans, hspans', hoverlap, ?_⟩
  rw [hspans, hspans'] at hmatches
  obtain ⟨hclass, -⟩ := hmatches (0, 29) (by decide) (7, 29) (by decide)
  rcases (hclass hoverlap).2.2 with ⟨hsame, -⟩ | hlead | hlead
  · exact absurd hsame (by decide)
  · exact hlead
  · exact absurd (exists_append_setter_iff.1 hlead) (by decide)

end TableGuard
