import Mathlib.Data.List.Infix
import Mathlib.Data.List.Pairwise
import Mathlib.Data.List.Sort
import TableGuard.Proofs.Regex.Literal
import TableGuard.Proofs.Text.Utf8

/-!
# The matches of a literal

The matches of a text as a pattern are its occurrences from left to right, none of which overlaps
the one before. This is said by byte offsets, and without a search: the matches are occurrences,
they do not overlap, and every occurrence begins within one of them.

* `StandsAt` : an occurrence at some offsets;
* `MatchesAt`, `matchesAt_chars_iff` : a place where a pattern matches, for a literal an occurrence;
* `Occurrences`, `Occurrences.unique` : the matches, which this determines;
* `Occurrences.hit`, `Occurrences.miss` : one step from right to left;
* `spans_cut_chars_iff` : the search finds them.
-/

namespace TableGuard.Regex

/-- The offsets between which a text stands in another. -/
def StandsAt (needle text : List Char) (span : Nat × Nat) : Prop :=
  ∃ before after, text = before ++ (needle ++ after) ∧
    span = (Utf8.size before, Utf8.size before + Utf8.size needle)

/-- The pattern matches between these offsets, whatever is found further left. -/
def MatchesAt (re : Regex) (text : List Char) (span : Nat × Nat) : Prop :=
  ∃ before hit after, text = before ++ (hit ++ after) ∧
    re.node.matchLength? before.getLast? (hit ++ after) = some hit.length ∧
    span = (Utf8.size before, Utf8.size before + Utf8.size hit)

/-- The occurrences of a text from left to right, without those that overlap an earlier one. -/
structure Occurrences (needle text : List Char) (spans : List (Nat × Nat)) : Prop where
  stands : ∀ span ∈ spans, StandsAt needle text span
  disjoint : spans.Pairwise fun span span' => span.2 ≤ span'.1
  /-- Every occurrence begins within one that is listed. -/
  complete : ∀ span, StandsAt needle text span →
    ∃ span' ∈ spans, span'.1 ≤ span.1 ∧ span.1 < span'.2

theorem StandsAt.snd_eq {needle text : List Char} {span : Nat × Nat}
    (h : StandsAt needle text span) : span.2 = span.1 + Utf8.size needle := by
  obtain ⟨before, after, -, rfl⟩ := h
  rfl

theorem matchesAt_chars_iff {needle text : List Char} (hne : needle ≠ []) {span : Nat × Nat} :
    (Regex.mk (.chars needle)).MatchesAt text span ↔ StandsAt needle text span := by
  have hsolid := solid_chars needle hne
  constructor
  · rintro ⟨before, hit, after, htext, hmatch, hspan⟩
    rw [hsolid.matchLength, literalLength?_eq_some_iff] at hmatch
    obtain ⟨hneedle, hlength⟩ := hmatch
    have hhit : hit <+: hit ++ after := List.prefix_append _ _
    obtain rfl : hit = needle :=
      (List.prefix_of_prefix_length_le hhit hneedle hlength.le).eq_of_length hlength
    exact ⟨before, after, htext, hspan⟩
  · rintro ⟨before, after, htext, hspan⟩
    have hmatch : literalLength? needle (needle ++ after) = some needle.length :=
      literalLength?_eq_some_iff.2 ⟨List.prefix_append _ _, rfl⟩
    exact ⟨before, needle, after, htext, by rw [hsolid.matchLength, hmatch], hspan⟩

/-! ## There is one list only -/

namespace Occurrences

variable {needle text : List Char} {spans spans' : List (Nat × Nat)}

theorem apart (h : Occurrences needle text spans) {span span' : Nat × Nat} (hmem : span ∈ spans)
    (hmem' : span' ∈ spans) (hne : span ≠ span') : span.2 ≤ span'.1 ∨ span'.2 ≤ span.1 := by
  have hsym : Std.Symm fun span span' : Nat × Nat => span.2 ≤ span'.1 ∨ span'.2 ≤ span.1 :=
    ⟨fun _ _ hor => hor.symm⟩
  have hapart : spans.Pairwise fun span span' => span.2 ≤ span'.1 ∨ span'.2 ≤ span.1 :=
    h.disjoint.imp .inl
  exact hapart.forall hmem hmem' hne

/-- What one list has, the other has too. Take the first that it lacks: this begins within another
one, which both lists have, and so it overlaps that one. -/
theorem fst_mem (h : Occurrences needle text spans) (h' : Occurrences needle text spans')
    {i : Nat} (hi : i ∈ spans.map Prod.fst) : i ∈ spans'.map Prod.fst := by
  induction i using Nat.strongRecOn generalizing spans spans' with
  | ind i ih =>
    obtain ⟨span, hspan, rfl⟩ := List.mem_map.1 hi
    have hsnd := (h.stands span hspan).snd_eq
    obtain ⟨other, hother, hle, hlt⟩ := h'.complete span (h.stands span hspan)
    rcases Nat.eq_or_lt_of_le hle with heq | hbefore
    · exact heq ▸ List.mem_map_of_mem hother
    · obtain ⟨same, hsame, hfst⟩ :=
        List.mem_map.1 (ih other.1 hbefore h' h (List.mem_map_of_mem hother))
      have hother' := (h'.stands other hother).snd_eq
      have hsame' := (h.stands same hsame).snd_eq
      have hne : same ≠ span := by
        rintro rfl
        omega
      rcases h.apart hsame hspan hne with hor | hor <;> omega

theorem pairwise_fst (h : Occurrences needle text spans) (hne : needle ≠ []) :
    (spans.map Prod.fst).Pairwise (· < ·) := by
  have hpos := Utf8.size_pos hne
  rw [List.pairwise_map]
  refine h.disjoint.imp_of_mem fun {span span'} hmem _ hle => ?_
  have := (h.stands span hmem).snd_eq
  omega

theorem eq_map_fst (h : Occurrences needle text spans) :
    spans = (spans.map Prod.fst).map fun i => (i, i + Utf8.size needle) := by
  rw [List.map_map]
  refine (List.map_id spans).symm.trans (List.map_congr_left fun span hmem => ?_)
  exact Prod.ext rfl (h.stands span hmem).snd_eq

theorem unique (hne : needle ≠ []) (h : Occurrences needle text spans)
    (h' : Occurrences needle text spans') : spans = spans' := by
  have hfst : spans.map Prod.fst = spans'.map Prod.fst :=
    (h.pairwise_fst hne).eq_of_mem_iff (h'.pairwise_fst hne) fun _ => ⟨h.fst_mem h', h'.fst_mem h⟩
  rw [h.eq_map_fst, hfst, ← h'.eq_map_fst]

end Occurrences

/-! ## From right to left -/

def shift (k : Nat) (span : Nat × Nat) : Nat × Nat := (span.1 + k, span.2 + k)

theorem Cut.spansFrom_add (k : Nat) (hits : List (List Char × List Char)) : ∀ start,
    spansFrom (start + k) hits = (spansFrom start hits).map (shift k) := by
  induction hits with
  | nil => exact fun _ => rfl
  | cons hit hits ih =>
    intro start
    have hlo : start + k + Utf8.size hit.1 = start + Utf8.size hit.1 + k := by omega
    have hhi : start + Utf8.size hit.1 + k + Utf8.size hit.2 =
        start + Utf8.size hit.1 + Utf8.size hit.2 + k := by omega
    rw [spansFrom, spansFrom, List.map_cons, ← ih, hlo, hhi]
    rfl

theorem Cut.spans_lead (c : Char) (cut : Cut) :
    (cut.lead c).spans = cut.spans.map (shift c.utf8Size) := by
  have hshift := Cut.spansFrom_add c.utf8Size cut.hits 0
  unfold lead
  split
  · rename_i hhits
    rw [spans, spans, hhits]
    rfl
  · rename_i gap hit hits hhits
    rw [hhits] at hshift
    rw [spans, spans, hhits, ← hshift]
    simp only [spansFrom, Utf8.size, Nat.add_assoc]

theorem StandsAt.shift {needle text : List Char} {span : Nat × Nat} (h : StandsAt needle text span)
    (front : List Char) : StandsAt needle (front ++ text) (shift (Utf8.size front) span) := by
  obtain ⟨before, after, rfl, rfl⟩ := h
  refine ⟨front ++ before, after, (List.append_assoc _ _ _).symm, ?_⟩
  rw [Utf8.size_append, Regex.shift]
  exact Prod.ext (Nat.add_comm _ _) (by dsimp only; omega)

theorem standsAt_cons {needle text : List Char} {c : Char} {span : Nat × Nat}
    (h : StandsAt needle (c :: text) span) : needle <+: c :: text ∧ span.1 = 0 ∨
      ∃ span', StandsAt needle text span' ∧ span = Regex.shift c.utf8Size span' := by
  obtain ⟨before, after, htext, rfl⟩ := h
  cases before with
  | nil => exact .inl ⟨⟨after, htext.symm⟩, rfl⟩
  | cons d before =>
    obtain ⟨rfl, rfl⟩ := List.cons.inj htext
    refine .inr ⟨_, ⟨before, after, rfl, rfl⟩, ?_⟩
    rw [Utf8.size, Regex.shift]
    exact Prod.ext (Nat.add_comm _ _) (by dsimp only; omega)

theorem standsAt_append {needle front text : List Char} {span : Nat × Nat}
    (h : StandsAt needle (front ++ text) span) : span.1 < Utf8.size front ∨
      ∃ span', StandsAt needle text span' ∧ span = Regex.shift (Utf8.size front) span' := by
  induction front generalizing span with
  | nil => exact .inr ⟨span, h, rfl⟩
  | cons c front ih =>
    have hpos := c.utf8Size_pos
    rw [List.cons_append] at h
    rcases standsAt_cons h with ⟨-, hzero⟩ | ⟨span', hspan', rfl⟩
    · rw [hzero, Utf8.size]
      exact .inl (by omega)
    · rcases ih hspan' with hlt | ⟨span'', hspan'', rfl⟩
      · rw [Utf8.size, Regex.shift]
        exact .inl (by dsimp only; omega)
      · refine .inr ⟨span'', hspan'', ?_⟩
        simp only [Utf8.size, Regex.shift, Prod.mk.injEq]
        omega

namespace Occurrences

variable {needle text : List Char} {spans : List (Nat × Nat)}

theorem nil (hne : needle ≠ []) : Occurrences needle [] [] where
  stands _ h := absurd h List.not_mem_nil
  disjoint := .nil
  complete := by
    rintro span ⟨before, after, htext, -⟩
    simp [hne] at htext

theorem miss {c : Char} (h : Occurrences needle text spans) (hno : ¬ needle <+: c :: text) :
    Occurrences needle (c :: text) (spans.map (shift c.utf8Size)) where
  stands := by
    rw [List.forall_mem_map]
    exact fun span hmem => (h.stands span hmem).shift [c]
  disjoint := by
    rw [List.pairwise_map]
    exact h.disjoint.imp fun hle => Nat.add_le_add_right hle _
  complete span hspan := by
    rcases standsAt_cons hspan with ⟨hpre, -⟩ | ⟨span', hspan', rfl⟩
    · exact absurd hpre hno
    · obtain ⟨other, hmem, hle, hlt⟩ := h.complete span' hspan'
      exact ⟨_, List.mem_map_of_mem hmem, Nat.add_le_add_right hle _, Nat.add_lt_add_right hlt _⟩

theorem hit (h : Occurrences needle text spans) : Occurrences needle (needle ++ text)
    ((0, Utf8.size needle) :: spans.map (shift (Utf8.size needle))) where
  stands := by
    refine List.forall_mem_cons.2 ⟨⟨[], text, rfl, ?_⟩, ?_⟩
    · rw [Utf8.size, Nat.zero_add]
    · rw [List.forall_mem_map]
      exact fun span hmem => (h.stands span hmem).shift needle
  disjoint := by
    rw [List.pairwise_cons, List.forall_mem_map, List.pairwise_map]
    exact ⟨fun span _ => Nat.le_add_left _ _, h.disjoint.imp fun hle => Nat.add_le_add_right hle _⟩
  complete span hspan := by
    rcases standsAt_append hspan with hlt | ⟨span', hspan', rfl⟩
    · exact ⟨_, List.mem_cons_self, Nat.zero_le _, hlt⟩
    · obtain ⟨other, hmem, hle, hlt⟩ := h.complete span' hspan'
      exact ⟨_, List.mem_cons_of_mem _ (List.mem_map_of_mem hmem), Nat.add_le_add_right hle _,
        Nat.add_lt_add_right hlt _⟩

end Occurrences

/-! ## The search -/

theorem occurrences_cut_chars {needle : List Char} (hne : needle ≠ []) (text : List Char) :
    Occurrences needle text ((Regex.mk (.chars needle)).cut text).spans := by
  have hsolid := solid_chars needle hne
  induction text using hsolid.induction with
  | nil =>
    rw [hsolid.cut_nil]
    exact .nil hne
  | hit text n hn ih =>
    obtain ⟨⟨rest, rfl⟩, rfl⟩ := literalLength?_eq_some_iff.1 hn
    rw [List.drop_left] at ih
    have hshift := Cut.spansFrom_add (Utf8.size needle) ((Regex.mk (.chars needle)).cut rest).hits 0
    rw [hsolid.cut_hit _ _ hn, List.drop_left, List.take_left, Cut.spans, Cut.spansFrom, Utf8.size]
    rw [Nat.add_zero, hshift, Nat.zero_add]
    exact ih.hit
  | miss c rest hn ih =>
    rw [hsolid.cut_miss _ _ hn, Cut.spans_lead]
    exact ih.miss (literalLength?_eq_none_iff.1 hn)

/-- **The matches of a literal are its occurrences**, and no other list is. -/
theorem spans_cut_chars_iff {needle : List Char} (hne : needle ≠ []) {text : List Char}
    {spans : List (Nat × Nat)} : ((Regex.mk (.chars needle)).cut text).spans = spans ↔
      Occurrences needle text spans := by
  constructor
  · rintro rfl
    exact occurrences_cut_chars hne text
  · exact fun h => (occurrences_cut_chars hne text).unique hne h

end TableGuard.Regex
