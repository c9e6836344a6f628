import Mathlib.Data.List.Basic
import TableGuard.Regex

/-!
# All matches of a pattern

What a search finds is said here for patterns of any kind, among them those that match the empty
text. A match counts at a place unless it is empty and another match ends there. From left to right
the leftmost match that counts is taken, and the next one is sought behind it.

* `Node.matchLength?_le` : a match lies within the text;
* `CountsAt` : a match that counts at a place;
* `AllMatches` : a text cut at all matches, one after another;
* `next?_cons_cases` : one step of the search for the next match;
* `leftmost_of_next?`, `not_countsAt_of_next?` : what that search finds;
* `allMatches_iff` : a text is cut at all matches, and in no other way;
* `Matches`, `first?_eq_none_iff` : a pattern is found exactly if it matches somewhere.
-/

namespace TableGuard.Regex

/-! ## The length of a match -/

theorem follow_le : ∀ (text : List Char) (ways : List (List Node)) (before : Option Char)
    (n : Nat) (best : Option Nat), (∀ m ∈ best, m ≤ n) →
      ∀ m ∈ follow ways before n best text, m ≤ n + text.length
  | [], ways, before, n, best, hbest, m, hm => by
    rw [follow] at hm
    split_ifs at hm
    · exact Nat.le_of_eq (Option.some.inj hm).symm
    · exact hbest m hm
  | c :: text, ways, before, n, best, hbest, m, hm => by
    rw [follow] at hm
    rw [List.length_cons]
    generalize hbest' : (if (ways.foldl (fun f way => resume ⟨before, some c⟩ way f)
      Front.start).accepted then some n else best) = best' at hm
    have hle : ∀ k ∈ best', k ≤ n := by
      intro k hk
      rw [← hbest'] at hk
      split_ifs at hk
      · exact Nat.le_of_eq (Option.some.inj hk).symm
      · exact hbest k hk
    split at hm
    · have := hle m hm
      omega
    · have := follow_le text _ _ (n + 1) best' (fun k hk => Nat.le_succ_of_le (hle k hk)) m hm
      omega

theorem Node.matchLength?_le {node : Node} {before : Option Char} {text : List Char} {n : Nat}
    (h : node.matchLength? before text = some n) : n ≤ text.length := by
  have := follow_le text [[node]] before 0 none (fun _ hm => nomatch hm) n h
  omega

/-! ## Places -/

/-- A match of `n` characters counts at the place behind the first `i` characters of a text, which
itself stands behind `front`. An empty match does not count where another match ends; `afterMatch`
says whether one ends at the beginning of the text. -/
def CountsAt (re : Regex) (front : List Char) (afterMatch : Bool) (text : List Char) (i n : Nat) :
    Prop :=
  re.node.matchLength? (front ++ text.take i).getLast? (text.drop i) = some n ∧
    ¬ (afterMatch = true ∧ i = 0 ∧ n = 0)

/-- The cut of a text at all matches that count, from left to right: each begins at the first place
where one does, and the next is sought behind it. -/
inductive AllMatches (re : Regex) : List Char → Bool → List Char → Cut → Prop
  | done {front : List Char} {afterMatch : Bool} {text : List Char}
      (hnone : ∀ i ≤ text.length, ∀ n, ¬ re.CountsAt front afterMatch text i n) :
      AllMatches re front afterMatch text ⟨[], text⟩
  | next {front : List Char} {afterMatch : Bool} {gap hit rest : List Char} {cut : Cut}
      (hhit : re.CountsAt front afterMatch (gap ++ (hit ++ rest)) gap.length hit.length)
      (hgap : ∀ i < gap.length, ∀ n, ¬ re.CountsAt front afterMatch (gap ++ (hit ++ rest)) i n)
      (hrest : AllMatches re (front ++ (gap ++ hit)) true rest cut) :
      AllMatches re front afterMatch (gap ++ (hit ++ rest)) ⟨(gap, hit) :: cut.hits, cut.tail⟩

theorem countsAt_zero {re : Regex} {front : List Char} {afterMatch : Bool} {text : List Char}
    {n : Nat} : re.CountsAt front afterMatch text 0 n ↔
      re.node.matchLength? front.getLast? text = some n ∧ ¬ (afterMatch = true ∧ n = 0) := by
  rw [CountsAt, List.take_zero, List.append_nil, List.drop_zero]
  simp only [true_and]

theorem countsAt_succ {re : Regex} {front : List Char} {afterMatch : Bool} {c : Char}
    {text : List Char} {i n : Nat} : re.CountsAt front afterMatch (c :: text) (i + 1) n ↔
      re.CountsAt (front ++ [c]) false text i n := by
  rw [CountsAt, CountsAt, List.take_succ_cons, List.drop_succ_cons, List.append_assoc,
    List.singleton_append]
  simp

/-! ## The next match -/

theorem next?_nil_cases (re : Regex) (front : List Char) (afterMatch : Bool) (passed : List Char) :
    re.CountsAt front afterMatch [] 0 0 ∧
        re.next? front.getLast? afterMatch passed [] = some (passed.reverse, [], []) ∨
      (∀ n, ¬ re.CountsAt front afterMatch [] 0 n) ∧
        re.next? front.getLast? afterMatch passed [] = none := by
  simp only [countsAt_zero, next?]
  cases hm : re.node.matchLength? front.getLast? [] with
  | none => exact .inr ⟨fun n hn => (nomatch hn.1), rfl⟩
  | some m =>
    obtain rfl : m = 0 := Nat.le_zero.1 (Node.matchLength?_le hm)
    cases afterMatch with
    | false => exact .inl ⟨⟨rfl, fun hn => Bool.false_ne_true hn.1⟩, rfl⟩
    | true => exact .inr ⟨fun n hn => hn.2 ⟨rfl, (Option.some.inj hn.1).symm⟩, rfl⟩

/-- One step of a search: a match counts here and is found, or none does and the search goes on
behind the character. -/
theorem next?_cons_cases (re : Regex) (front : List Char) (afterMatch : Bool) (passed : List Char)
    (c : Char) (text : List Char) :
    (∃ m, re.CountsAt front afterMatch (c :: text) 0 m ∧
        re.next? front.getLast? afterMatch passed (c :: text) =
          some (passed.reverse, (c :: text).take m, (c :: text).drop m)) ∨
      (∀ n, ¬ re.CountsAt front afterMatch (c :: text) 0 n) ∧
        re.next? front.getLast? afterMatch passed (c :: text) =
          re.next? (front ++ [c]).getLast? false (c :: passed) text := by
  simp only [countsAt_zero, List.getLast?_concat]
  rw [next?]
  cases re.node.matchLength? front.getLast? (c :: text) with
  | none => exact .inr ⟨fun n hn => (nomatch hn.1), rfl⟩
  | some m =>
    by_cases hskip : afterMatch = true ∧ m = 0
    · obtain ⟨rfl, rfl⟩ := hskip
      exact .inr ⟨fun n hn => hn.2 ⟨rfl, (Option.some.inj hn.1).symm⟩, rfl⟩
    · refine .inl ⟨m, ⟨rfl, hskip⟩, if_neg fun h => hskip ?_⟩
      rw [Bool.and_eq_true, decide_eq_true_iff] at h
      exact h.symm

/-- Nothing is found only where no match counts. -/
theorem not_countsAt_of_next? {re : Regex} : ∀ {text front : List Char} {afterMatch : Bool}
    {passed : List Char}, re.next? front.getLast? afterMatch passed text = none →
      ∀ i ≤ text.length, ∀ n, ¬ re.CountsAt front afterMatch text i n
  | [], front, afterMatch, passed, h, i, hi => by
    obtain rfl := Nat.le_zero.1 hi
    obtain ⟨-, hnext⟩ | ⟨hnone, -⟩ := next?_nil_cases re front afterMatch passed
    · rw [hnext] at h
      cases h
    · exact hnone
  | c :: text, front, afterMatch, passed, h, i, hi => by
    obtain ⟨m, -, hnext⟩ | ⟨hnone, hnext⟩ := next?_cons_cases re front afterMatch passed c text
    · rw [hnext] at h
      cases h
    · rw [hnext] at h
      cases i with
      | zero => exact hnone
      | succ i =>
        intro n hn
        exact not_countsAt_of_next? h i (Nat.le_of_succ_le_succ hi) n (countsAt_succ.1 hn)

/-- **What is found is the leftmost match that counts.** -/
theorem leftmost_of_next? {re : Regex} : ∀ {text front : List Char} {afterMatch : Bool}
    {passed found hit rest : List Char},
      re.next? front.getLast? afterMatch passed text = some (found, hit, rest) →
      ∃ gap, found = passed.reverse ++ gap ∧ text = gap ++ (hit ++ rest) ∧
        re.CountsAt front afterMatch text gap.length hit.length ∧
        ∀ i < gap.length, ∀ n, ¬ re.CountsAt front afterMatch text i n
  | [], front, afterMatch, passed, found, hit, rest, h => by
    obtain ⟨hcounts, hnext⟩ | ⟨-, hnext⟩ := next?_nil_cases re front afterMatch passed
    · rw [hnext] at h
      obtain ⟨rfl, rfl, rfl⟩ : passed.reverse = found ∧ [] = hit ∧ [] = rest := by simpa using h
      exact ⟨[], (List.append_nil _).symm, rfl, hcounts, fun i hi => absurd hi (Nat.not_lt_zero i)⟩
    · rw [hnext] at h
      cases h
  | c :: text, front, afterMatch, passed, found, hit, rest, h => by
    obtain ⟨m, hcounts, hnext⟩ | ⟨hnone, hnext⟩ :=
      next?_cons_cases re front afterMatch passed c text
    · rw [hnext] at h
      obtain ⟨rfl, rfl, rfl⟩ : passed.reverse = found ∧ (c :: text).take m = hit ∧
        (c :: text).drop m = rest := by simpa using h
      refine ⟨[], (List.append_nil _).symm, (List.take_append_drop m _).symm, ?_,
        fun i hi => absurd hi (Nat.not_lt_zero i)⟩
      rwa [List.length_take_of_le (Node.matchLength?_le (countsAt_zero.1 hcounts).1)]
    · rw [hnext] at h
      obtain ⟨gap, rfl, rfl, hcounts, hleft⟩ := leftmost_of_next? h
      refine ⟨c :: gap, by simp, rfl, countsAt_succ.2 hcounts, fun i hi n hn => ?_⟩
      cases i with
      | zero => exact hnone n hn
      | succ i => exact hleft i (Nat.lt_of_succ_lt_succ hi) n (countsAt_succ.1 hn)

/-! ## All matches -/

theorem lastBefore_getLast? (front gap hit : List Char) :
    lastBefore front.getLast? gap hit = (front ++ (gap ++ hit)).getLast? := by
  rw [lastBefore, List.getLast?_append, List.getLast?_append]
  cases hit.getLast? with
  | some c => rfl
  | none => cases gap.getLast? <;> rfl

/-- The cut from some place on. Behind a match each further one takes a character with the gap
before it, so as many matches as there are characters are enough, and one more in front. -/
theorem allMatches_cutFrom (re : Regex) : ∀ (fuel : Nat) (front : List Char) (afterMatch : Bool)
    (text : List Char), text.length + (if afterMatch then 0 else 1) ≤ fuel →
      re.AllMatches front afterMatch text (re.cutFrom fuel front.getLast? afterMatch text)
  | 0, front, afterMatch, text, hfuel => by
    cases afterMatch with
    | false => exact absurd hfuel (Nat.not_succ_le_zero _)
    | true =>
      obtain rfl := List.length_eq_zero_iff.1 (Nat.le_zero.1 hfuel)
      refine .done fun i hi n hcounts => hcounts.2 ⟨rfl, Nat.le_zero.1 hi, ?_⟩
      have hle := Node.matchLength?_le hcounts.1
      rw [List.drop_nil] at hle
      exact Nat.le_zero.1 hle
  | fuel + 1, front, afterMatch, text, hfuel => by
    rw [cutFrom]
    cases hnext : re.next? front.getLast? afterMatch [] text with
    | none => exact .done (not_countsAt_of_next? hnext)
    | some found =>
      obtain ⟨found, hit, rest⟩ := found
      obtain ⟨gap, hfound, rfl, hcounts, hleft⟩ := leftmost_of_next? hnext
      obtain rfl : gap = found := hfound.symm
      dsimp only
      rw [lastBefore_getLast?]
      refine .next hcounts hleft (allMatches_cutFrom re fuel _ true rest ?_)
      have hprogress : afterMatch = true → 0 < gap.length + hit.length := by
        intro hafter
        by_contra hzero
        exact hcounts.2 ⟨hafter, by omega, by omega⟩
      rw [List.length_append, List.length_append] at hfuel
      cases afterMatch with
      | false =>
        simp only [Bool.false_eq_true, if_false, if_true] at hfuel ⊢
        omega
      | true =>
        have := hprogress rfl
        simp only [if_true] at hfuel ⊢
        omega

/-- There is only one way to cut a text at all matches. -/
theorem AllMatches.unique {re : Regex} {front : List Char} {afterMatch : Bool} {text : List Char}
    {cut : Cut} (h : re.AllMatches front afterMatch text cut) :
    ∀ {cut' : Cut}, re.AllMatches front afterMatch text cut' → cut = cut' := by
  induction h with
  | @done front afterMatch text hnone =>
    intro cut' h'
    cases h' with
    | done => rfl
    | next hhit => exact absurd hhit (hnone _ (by rw [List.length_append]; omega) _)
  | @next front afterMatch gap hit rest cut hhit hgap hrest ih =>
    intro cut' h'
    generalize htext : gap ++ (hit ++ rest) = text at hhit hgap h'
    cases h' with
    | done hnone =>
      exact absurd hhit (hnone _ (by rw [← htext, List.length_append]; omega) _)
    | @next _ _ gap' hit' rest' cut' hhit' hgap' hrest' =>
      -- Both first matches are the leftmost one, and a match at a place has one length.
      have hlength : gap.length = gap'.length :=
        Nat.le_antisymm (Nat.not_lt.1 fun hlt => hgap _ hlt _ hhit')
          (Nat.not_lt.1 fun hlt => hgap' _ hlt _ hhit)
      obtain ⟨rfl, hsame⟩ := List.append_inj htext hlength
      obtain ⟨rfl, rfl⟩ := List.append_inj hsame (Option.some.inj (hhit.1.symm.trans hhit'.1))
      obtain rfl := ih hrest'
      rfl

/-- **A text is cut at all matches**, and in no other way. -/
theorem allMatches_iff {re : Regex} {text : List Char} {cut : Cut} :
    re.AllMatches [] false text cut ↔ cut = re.cut text := by
  have hcut : re.AllMatches [] false text (re.cut text) :=
    allMatches_cutFrom re (text.length + 1) [] false text (Nat.le_refl _)
  constructor
  · exact fun h => h.unique hcut
  · rintro rfl
    exact hcut

theorem AllMatches.text_eq {re : Regex} {front : List Char} {afterMatch : Bool} {text : List Char}
    {cut : Cut} (h : re.AllMatches front afterMatch text cut) : cut.text = text := by
  induction h with
  | done => rfl
  | next _ _ _ ih =>
    rw [← ih, Cut.text, Cut.text, List.flatMap_cons, List.append_assoc, List.append_assoc]

/-- The pattern matches somewhere in the text. -/
def Matches (re : Regex) (text : List Char) : Prop :=
  ∃ front rest n, front ++ rest = text ∧ re.node.matchLength? front.getLast? rest = some n

/-- **A pattern is found exactly if it matches somewhere.** -/
theorem first?_eq_none_iff {re : Regex} {text : List Char} :
    re.first? text = none ↔ ¬ re.Matches text := by
  constructor
  · rintro h ⟨front, rest, n, rfl, hmatch⟩
    have hnone := @not_countsAt_of_next? re (front ++ rest) [] false [] h
    refine hnone front.length (by rw [List.length_append]; omega) n ⟨?_, by simp⟩
    rwa [List.nil_append, List.take_left, List.drop_left]
  · intro h
    cases hfirst : re.first? text with
    | none => rfl
    | some found =>
      obtain ⟨found, hit, rest⟩ := found
      obtain ⟨gap, -, -, hcounts, -⟩ := @leftmost_of_next? re text [] false [] found hit rest hfirst
      exact absurd ⟨_, _, _, List.take_append_drop gap.length text, hcounts.1⟩ h

end TableGuard.Regex
