import Mathlib.Data.List.TakeWhile
import TableGuard.Proofs.Regex.Local.Escape
import TableGuard.Regex.Class

/-!
# Classes in front of a word

A class in brackets is read the same in front of a word. What may look beyond the end of a text is a
named class, which is sought up to the next colon; but then no class is closed in the text.

* `className?`, `firstMembers` : the readers of a named class and of an opening bracket, in parts;
* `Unclosed`, `readBracket?_of_unclosed` : texts in which no class is closed;
* `readBracket?_append`, `bracket?_append` : the members of a class, and a whole class.
-/

namespace TableGuard.Regex

/-! ## Named ASCII classes -/

/-- What stands behind the colon, and the circumflex after it, of a named class. -/
def className? (negated : Bool) (text : List Char) : Option (CharSet × Bool × List Char) :=
  match text.dropWhile (· != ':') with
  | ':' :: ']' :: after => (asciiClass? (text.takeWhile (· != ':'))).map fun s => (s, negated, after)
  | _ => none

theorem namedClass?_colon {text : List Char} (h : ∀ rest, text ≠ '^' :: rest) :
    namedClass? (':' :: text) = className? false text := by
  cases text with
  | nil => rfl
  | cons c text =>
    have hc : c ≠ '^' := fun heq => h text (heq ▸ rfl)
    simp only [namedClass?]
    rfl

theorem namedClass?_of_ne {text : List Char} (h : ∀ rest, text ≠ ':' :: rest) :
    namedClass? text = none := by
  unfold namedClass?
  split
  · rename_i rest
    exact absurd rfl (h rest)
  · rfl

theorem dropWhile_ne_colon {text rest : List Char} {d : Char}
    (h : text.dropWhile (· != ':') = d :: rest) : d = ':' := by
  have hhead := List.head?_dropWhile_not (· != ':') text
  rw [h] at hhead
  simpa using hhead

theorem className?_append {negated negated' : Bool} {text rest : List Char} {s : CharSet}
    (h : className? negated text = some (s, negated', rest)) (u : List Char) :
    className? negated (text ++ u) = some (s, negated', rest ++ u) := by
  unfold className? at h
  split at h
  · rename_i after hdrop
    obtain ⟨htake, hdrop'⟩ := span_append hdrop u
    obtain ⟨s', hs', h⟩ := Option.map_eq_some_iff.1 h
    obtain ⟨rfl, rfl, rfl⟩ : s' = s ∧ negated = negated' ∧ after = rest := by simpa using h
    rw [className?, hdrop', htake]
    simp only [List.cons_append, hs', Option.map_some]
  · cases h

theorem isLower_of_asciiClass? {name : List Char} {s : CharSet} (h : asciiClass? name = some s) :
    ∀ c ∈ name, c.isLower = true := by
  unfold asciiClass? at h
  split at h
  all_goals first
    | rename_i hname
      have htext := congrArg String.toList hname
      rw [String.toList_ofList] at htext
      rw [htext, ← List.all_eq_true]
      rfl
    | cases h

/-- A text that is no class by itself is none in front of a word, unless it is small letters only. -/
theorem className?_append_eq_none {negated : Bool} {text : List Char}
    (h : className? negated text = none) {u : List Char} (hu : StartsWord u) :
    className? negated (text ++ u) = none ∨ ∀ c ∈ text, c.isLower = true := by
  cases hdrop : text.dropWhile (· != ':') with
  | cons d rest =>
    left
    obtain rfl := dropWhile_ne_colon hdrop
    obtain ⟨htake, hdrop'⟩ := span_append hdrop u
    rw [className?, htake, hdrop']
    split
    · rename_i after heq
      obtain ⟨-, heq⟩ := List.cons_eq_cons.1 heq
      obtain ⟨tail, rfl, -⟩ := hu.eq_cons heq (by decide)
      rw [className?, hdrop] at h
      rw [Option.map_eq_none_iff.1 h, Option.map_none]
    · rfl
  | nil =>
    -- The name would go on into the word.
    have htake : (text ++ u).takeWhile (· != ':') = text ++ u.takeWhile (· != ':') := by
      rw [List.takeWhile_append_of_pos]
      exact fun c hc => List.dropWhile_eq_nil_iff.1 hdrop c hc
    rw [className?, htake]
    split
    · cases hs : asciiClass? (text ++ u.takeWhile (· != ':')) with
      | none => exact .inl rfl
      | some s =>
        exact .inr fun c hc => isLower_of_asciiClass? hs c (List.mem_append_left _ hc)
    · exact .inl rfl

/-! ## Classes -/

theorem namedClass?_append {text rest : List Char} {s : CharSet} {negated : Bool}
    (h : namedClass? text = some (s, negated, rest)) (u : List Char) :
    namedClass? (text ++ u) = some (s, negated, rest ++ u) := by
  cases text with
  | nil => cases h
  | cons c text =>
    by_cases hc : c = ':'
    · subst hc
      cases text with
      | nil => cases h
      | cons d text =>
        by_cases hd : d = '^'
        · subst hd
          exact className?_append h u
        · rw [namedClass?_colon fun _ heq => hd (List.cons_eq_cons.1 heq).1] at h
          rw [List.cons_append, List.cons_append,
            namedClass?_colon fun _ heq => hd (List.cons_eq_cons.1 heq).1]
          exact className?_append h u
    · rw [namedClass?_of_ne fun _ heq => hc (List.cons_eq_cons.1 heq).1] at h
      cases h

/-- The text has only small letters, colons and circumflexes, so that no class ends in it. -/
def Unclosed (text : List Char) : Prop := ∀ c ∈ text, c = ':' ∨ c = '^' ∨ c.isLower = true

theorem Unclosed.ne_cons {text rest : List Char} (h : Unclosed text) {d : Char}
    (hd : ¬ (d = ':' ∨ d = '^' ∨ d.isLower = true)) : text ≠ d :: rest := by
  rintro rfl
  exact hd (h d List.mem_cons_self)

/-- The members at the beginning of a bracket, behind its circumflex. -/
def firstMembers (negated : Bool) (text : List Char) : Bracket × List Char :=
  match (text.takeWhile (· == '-'), text.dropWhile (· == '-')) with
  | ([], ']' :: rest) => (⟨negated, none, [⟨.single ']', 0⟩]⟩, rest)
  | (hyphens, rest) => (⟨negated, none, hyphens.map fun c => ⟨.single c, 0⟩⟩, rest)

theorem firstMembers_append {negated : Bool} {text rest : List Char} {b : Bracket} {d : Char}
    (h : firstMembers negated text = (b, d :: rest)) (u : List Char) :
    firstMembers negated (text ++ u) = (b, d :: (rest ++ u)) := by
  unfold firstMembers at h
  split at h
  · rename_i after heq
    obtain ⟨htake, hdrop⟩ := Prod.mk.injEq .. ▸ heq
    obtain ⟨htake', hdrop'⟩ := span_append hdrop u
    obtain ⟨rfl, rfl⟩ := Prod.mk.injEq .. ▸ h
    rw [firstMembers, htake', hdrop', htake]
    rfl
  · rename_i hyphens after hmember heq
    obtain ⟨rfl, rfl⟩ := Prod.mk.injEq .. ▸ h
    obtain ⟨htake, hdrop⟩ := Prod.mk.injEq .. ▸ heq
    obtain ⟨htake', hdrop'⟩ := span_append hdrop u
    rw [firstMembers, htake', hdrop', htake]
    have hne : ∀ rest', (hyphens, d :: (rest ++ u)) ≠ (([] : List Char), ']' :: rest') := by
      rintro rest' heq
      obtain ⟨rfl, hrest⟩ := Prod.mk.injEq .. ▸ heq
      obtain ⟨rfl, -⟩ := List.cons_eq_cons.1 hrest
      exact hmember rest rfl rfl
    split
    · rename_i rest' heq
      exact absurd heq (hne rest')
    · rename_i heq
      obtain ⟨rfl, rfl⟩ := Prod.mk.injEq .. ▸ heq
      rfl

section Classes

variable {f : Flags} (hf : f.verbose = false)
include hf

theorem classItem?_of_unclosed {c : Char} {text : List Char} (h : Unclosed (c :: text)) :
    classItem? f (c :: text) = (member? f c).map (·, text) := by
  have hc : c ≠ '\\' := by
    rintro rfl
    exact h.ne_cons (by decide) rfl
  simp only [classItem?, classAtom?, Option.bind_some, hf, skip_false]
  split
  · rename_i after
    exact absurd rfl (Unclosed.ne_cons (fun d hd => h d (List.mem_cons_of_mem c hd)) (by decide))
  · rfl

theorem readBracket?_of_unclosed : ∀ (fuel : Nat) (outer : List Bracket) (b : Bracket)
    (text : List Char), Unclosed text → readBracket? f fuel outer b text = none
  | 0, _, _, _, _ => rfl
  | fuel + 1, outer, b, [], _ => by
    rw [readBracket?, hf]
    rfl
  | fuel + 1, outer, b, c :: text, h => by
    have ih := fun s => readBracket?_of_unclosed fuel outer (b.add ⟨s, 0⟩) text
      fun d hd => h d (List.mem_cons_of_mem c hd)
    rw [readBracket?, hf]
    simp only [skip_false]
    split
    · rfl
    · exact absurd (by assumption) (h.ne_cons (by decide))
    · exact absurd (by assumption) (h.ne_cons (by decide))
    · exact absurd (by assumption) (h.ne_cons (by decide))
    · exact absurd (by assumption) (h.ne_cons (by decide))
    · exact absurd (by assumption) (h.ne_cons (by decide))
    · rw [classItem?_of_unclosed hf h]
      cases member? f c with
      | none => rfl
      | some s => exact ih s

theorem openBracket_caret (text : List Char) :
    openBracket f ('^' :: text) = firstMembers true text := by
  simp only [openBracket, hf, skip_false, spanLoose_false]
  rfl

theorem openBracket_of_ne {text : List Char} (h : ∀ rest, text ≠ '^' :: rest) :
    openBracket f text = firstMembers false text := by
  cases text with
  | nil =>
    simp only [openBracket, hf, skip_false, spanLoose_false]
    rfl
  | cons c text =>
    have hc : c ≠ '^' := fun heq => h text (heq ▸ rfl)
    simp only [openBracket, hf, skip_false, spanLoose_false]
    rfl

theorem openBracket_append {text rest : List Char} {b : Bracket} {d : Char}
    (h : openBracket f text = (b, d :: rest)) (u : List Char) :
    openBracket f (text ++ u) = (b, d :: (rest ++ u)) := by
  cases text with
  | nil =>
    rw [openBracket_of_ne hf fun _ => (List.cons_ne_nil _ _).symm] at h
    cases h
  | cons c text =>
    rw [List.cons_append]
    by_cases hc : c = '^'
    · subst hc
      rw [openBracket_caret hf] at h ⊢
      exact firstMembers_append h u
    · have hne : ∀ text' rest : List Char, c :: text' ≠ '^' :: rest := fun _ _ heq =>
        hc (List.cons_eq_cons.1 heq).1
      rw [openBracket_of_ne hf (hne _)] at h ⊢
      exact firstMembers_append h u

variable {u : List Char} (hu : StartsWord u)
include hu

theorem classAtom?_append {text rest : List Char} {a : Atom}
    (h : classAtom? f text = some (a, rest)) :
    classAtom? f (text ++ u) = some (a, rest ++ u) := by
  cases text with
  | nil => cases h
  | cons c text =>
    by_cases hc : c = '\\'
    · subst hc
      exact escape?_append hf hu h
    · simp only [classAtom?] at h
      obtain ⟨rfl, rfl⟩ := Prod.mk.injEq .. ▸ Option.some.inj h
      simp only [List.cons_append, classAtom?]

omit hu in
theorem joinsRange_cons (c : Char) (text text' : List Char) :
    joinsRange f (c :: text) = joinsRange f (c :: text') := by
  rw [joinsRange, joinsRange, hf]
  rfl

theorem classItem?_append {text rest : List Char} {s : CharSet} {d : Char}
    (h : classItem? f text = some (s, d :: rest)) :
    classItem? f (text ++ u) = some (s, d :: (rest ++ u)) := by
  obtain ⟨⟨a, tail⟩, hatom, h⟩ := Option.bind_eq_some_iff.1 h
  rw [classItem?, classAtom?_append hf hu hatom, Option.bind_some]
  simp only [hf, skip_false] at h ⊢
  split at h
  · rename_i after
    cases after with
    | nil =>
      have hjoins : joinsRange f [] = true := by
        rw [joinsRange, hf]
        rfl
      rw [if_pos hjoins] at h
      cases h
    | cons e after =>
      simp only [List.cons_append, joinsRange_cons hf e (after ++ u) after]
      split at h
      · rename_i hjoins
        obtain ⟨⟨a', tail⟩, hatom', h⟩ := Option.bind_eq_some_iff.1 h
        obtain ⟨s', hs', h⟩ := Option.map_eq_some_iff.1 h
        obtain ⟨rfl, rfl⟩ := Prod.mk.injEq .. ▸ h
        have happend := classAtom?_append hf hu hatom'
        rw [List.cons_append] at happend
        rw [if_pos hjoins, happend, Option.bind_some, hs', Option.map_some, List.cons_append]
      · rename_i hjoins
        obtain ⟨s', hs', h⟩ := Option.map_eq_some_iff.1 h
        obtain ⟨rfl, hrest⟩ := Prod.mk.injEq .. ▸ h
        obtain ⟨rfl, rfl⟩ := List.cons_eq_cons.1 hrest
        rw [if_neg hjoins, hs', Option.map_some, List.cons_append]
  · rename_i hhyphen
    obtain ⟨s', hs', h⟩ := Option.map_eq_some_iff.1 h
    obtain ⟨rfl, rfl⟩ := Prod.mk.injEq .. ▸ h
    have hd : d ≠ '-' := fun heq => hhyphen rest (heq ▸ rfl)
    simp only [List.cons_append, hs', Option.map_some]
    split
    · rename_i heq
      exact absurd (List.cons_eq_cons.1 heq).1 hd
    · rfl

omit hu in
theorem readBracket?_nil (fuel : Nat) (outer : List Bracket) (b : Bracket) :
    readBracket? f fuel outer b [] = none :=
  readBracket?_of_unclosed hf fuel outer b [] fun _ hc => absurd hc List.not_mem_nil

/-- A text that is no named class is none in front of a word, unless no class is closed in it. -/
theorem namedClass?_append_eq_none {text : List Char} (h : namedClass? text = none) :
    namedClass? (text ++ u) = none ∨
      ∀ fuel outer, readBracket? f fuel outer (openBracket f text).1 (openBracket f text).2 = none := by
  have hne : ∀ {c d : Char}, c ≠ d → ∀ text' rest : List Char, c :: text' ≠ d :: rest :=
    fun hcd _ _ heq => hcd (List.cons_eq_cons.1 heq).1
  have hopen : ∀ rest, Unclosed (':' :: rest) → ∀ fuel outer, readBracket? f fuel outer
      (openBracket f (':' :: rest)).1 (openBracket f (':' :: rest)).2 = none := by
    intro rest hrest fuel outer
    rw [openBracket_of_ne hf (hne (by decide) _)]
    exact readBracket?_of_unclosed hf fuel outer _ _ hrest
  cases text with
  | nil =>
    left
    obtain ⟨c, rest, rfl, hc⟩ := hu
    rw [List.nil_append, namedClass?_of_ne (hne _ _)]
    rintro rfl
    cases hc
  | cons c text =>
    by_cases hc : c = ':'
    · subst hc
      cases text with
      | nil => exact .inr (hopen [] (by simp [Unclosed]))
      | cons d text =>
        by_cases hd : d = '^'
        · subst hd
          refine (className?_append_eq_none h hu).imp_right fun hlower => hopen _ ?_
          intro c hc
          rcases List.mem_cons.1 hc with rfl | hc
          · exact .inl rfl
          · rcases List.mem_cons.1 hc with rfl | hc
            · exact .inr (.inl rfl)
            · exact .inr (.inr (hlower c hc))
        · rw [namedClass?_colon (hne hd _)] at h
          rw [List.cons_append, List.cons_append, namedClass?_colon (hne hd _)]
          refine (className?_append_eq_none h hu).imp_right fun hlower => hopen _ ?_
          intro c hc
          rcases List.mem_cons.1 hc with rfl | hc
          · exact .inl rfl
          · exact .inr (.inr (hlower c hc))
    · left
      rw [List.cons_append, namedClass?_of_ne (hne hc _)]

/-- **Members of a class in front of a word.** What closes the class is in the text. -/
theorem readBracket?_append : ∀ (fuel more : Nat) (outer : List Bracket) (b : Bracket)
    (text : List Char) {rest : List Char} {s : Nested CharSet},
    readBracket? f fuel outer b text = some (s, rest) →
      readBracket? f (fuel + more) outer b (text ++ u) = some (s, rest ++ u)
  | 0, _, _, _, _, _, _, h => by cases h
  | fuel + 1, more, outer, b, text, rest, s, h => by
    have ih := fun {outer b text rest s} =>
      @readBracket?_append fuel more outer b text rest s
    rw [Nat.add_right_comm, readBracket?]
    rw [readBracket?] at h
    simp only [hf, skip_false] at h ⊢
    split at h
    · cases h
    · rename_i inner
      simp only [List.cons_append]
      split at h
      · rename_i s' negated after hnamed
        obtain ⟨s'', hs'', h⟩ := Option.bind_eq_some_iff.1 h
        rw [namedClass?_append hnamed u]
        simp only [hs'', Option.bind_some]
        exact ih h
      · rename_i hnamed
        rcases namedClass?_append_eq_none hf hu hnamed with hnone | hnone
        · rw [hnone]
          cases hopen : openBracket f inner with
          | mk b' after =>
            rw [hopen] at h
            cases after with
            | nil =>
              rw [readBracket?_nil hf] at h
              cases h
            | cons d after =>
              simp only [openBracket_append hf hopen]
              exact ih h
        · rw [hnone] at h
          cases h
    · rename_i after
      obtain ⟨s', hs', h⟩ := Option.bind_eq_some_iff.1 h
      simp only [List.cons_append, hs', Option.bind_some]
      cases outer with
      | nil =>
        obtain ⟨rfl, rfl⟩ := Prod.mk.injEq .. ▸ Option.some.inj h
        rfl
      | cons o outer => exact ih h
    · exact ih h
    · exact ih h
    · exact ih h
    · rename_i hnil hopen hclose hinter hdiff hsymm
      obtain ⟨⟨s', tail⟩, hitem, h⟩ := Option.bind_eq_some_iff.1 h
      cases tail with
      | nil =>
        rw [readBracket?_nil hf] at h
        cases h
      | cons d tail =>
        have hitem' := classItem?_append hf hu hitem
        split
        · rename_i heq
          exact absurd (List.append_eq_nil_iff.1 heq).1 hnil
        · rename_i heq
          obtain ⟨after, htext, -⟩ := hu.eq_cons heq (by decide)
          exact absurd htext (hopen after)
        · rename_i heq
          obtain ⟨after, htext, -⟩ := hu.eq_cons heq (by decide)
          exact absurd htext (hclose after)
        · rename_i heq
          obtain ⟨after, htext⟩ := hu.eq_cons_cons heq (by decide) (by decide)
          exact absurd htext (hinter after)
        · rename_i heq
          obtain ⟨after, htext⟩ := hu.eq_cons_cons heq (by decide) (by decide)
          exact absurd htext (hdiff after)
        · rename_i heq
          obtain ⟨after, htext⟩ := hu.eq_cons_cons heq (by decide) (by decide)
          exact absurd htext (hsymm after)
        · rw [hitem', Option.bind_some]
          exact ih h

/-- **A class in front of a word.** -/
theorem bracket?_append {text rest : List Char} {s : Nested CharSet}
    (h : bracket? f text = some (s, rest)) :
    bracket? f (text ++ u) = some (s, rest ++ u) := by
  unfold bracket? at h ⊢
  cases hopen : openBracket f text with
  | mk b after =>
    rw [hopen] at h
    cases after with
    | nil =>
      dsimp only at h
      rw [readBracket?_nil hf] at h
      cases h
    | cons d after =>
      rw [openBracket_append hf hopen, List.length_append, Nat.add_right_comm]
      exact readBracket?_append hf hu (text.length + 1) u.length [] b (d :: after) h

end Classes

end TableGuard.Regex
