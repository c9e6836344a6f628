import TableGuard.Regex

/-!
# Following a single way

For many patterns there is never more than one way to go on, and a match can be found by taking that
way apart from its front.

* `follow_push`, `follow_stop` : a way that is alone consumes the next character, or ends;
* `follow_chars`, `follow_cat`, `follow_set` : what the node at the front does;
* `follow_loop` : a loop over a set, with a literal behind it that begins outside of the set.
-/

namespace TableGuard

theorem CharSet.contains_single (c d : Char) : (CharSet.single c).contains d = decide (c = d) := by
  have h : c = d ↔ c.toNat = d.toNat := ⟨fun h => h ▸ rfl, fun h => Char.toNat_inj.1 h⟩
  unfold CharSet.contains CharSet.single
  simp only [CharSet.covers, h]
  split
  · rw [eq_comm, decide_eq_false_iff_not]; omega
  · split
    · rw [eq_comm, decide_eq_true_iff]; omega
    · rw [eq_comm, decide_eq_false_iff_not]; omega

namespace Regex

/-- A way with nothing left to pass is a match. -/
theorem follow_done (before : Option Char) (n : Nat) (subject : List Char) :
    follow [[]] before n none subject = some n := by
  cases subject <;> rfl

/-- A way that is alone and consumes the next character is alone after it. -/
theorem follow_push (way next : List Node) (before : Option Char) (n : Nat) (d : Char)
    (subject : List Char) (h : (resume ⟨before, some d⟩ way .start).live = [next])
    (ha : (resume ⟨before, some d⟩ way .start).accepted = false) :
    follow [way] before n none (d :: subject) = follow [next] (some d) (n + 1) none subject := by
  simp [follow, h, ha]

/-- A way that is alone and does not consume the next character ends without a match. -/
theorem follow_stop (way : List Node) (before : Option Char) (n : Nat) (subject : List Char)
    (h : (resume ⟨before, subject.head?⟩ way .start).live = [])
    (ha : (resume ⟨before, subject.head?⟩ way .start).accepted = false) :
    follow [way] before n none subject = none := by
  cases subject with
  | nil =>
    rw [List.head?_nil] at ha
    simp [follow, ha]
  | cons d subject =>
    rw [List.head?_cons] at h ha
    simp [follow, h, ha]

theorem resume_chars_cons (here : Spot) (c : Char) (text : List Char) (ways : List Node)
    (f : Front) :
    resume here (.chars (c :: text) :: ways) f =
      if here.after = some c then f.push (.chars text :: ways) else f := by
  obtain ⟨before, after⟩ := here
  cases after with
  | none => rfl
  | some d =>
    change (if (CharSet.single c).contains d then f.push (.chars text :: ways) else f) = _
    simp only [CharSet.contains_single, decide_eq_true_eq, Option.some.injEq]
    by_cases hd : c = d
    · simp [hd]
    · simp [hd, Ne.symm hd]

/-- **A literal at the front of a way is consumed as a whole, or the way ends.** -/
theorem follow_chars (text : List Char) (ways : List Node) :
    ∀ (before : Option Char) (n : Nat) (subject : List Char),
      follow [.chars text :: ways] before n none subject =
        if text <+: subject then
          follow [ways] (text.foldl (fun _ c => some c) before) (n + text.length) none
            (subject.drop text.length)
        else none := by
  induction text with
  | nil =>
    intro before n subject
    rw [if_pos (List.nil_prefix)]
    cases subject <;> rfl
  | cons c text ih =>
    intro before n subject
    cases subject with
    | nil =>
      rw [if_neg (by simp), follow_stop]
      · rw [resume_chars_cons, if_neg (by simp)]; rfl
      · rw [resume_chars_cons, if_neg (by simp)]; rfl
    | cons d subject =>
      by_cases hd : d = c
      · subst hd
        rw [follow_push _ (.chars text :: ways), ih, List.foldl_cons, List.length_cons,
          List.drop_succ_cons, Nat.add_assoc, Nat.add_comm 1]
        · simp only [List.cons_prefix_cons, true_and]
        · rw [resume_chars_cons, if_pos rfl]; rfl
        · rw [resume_chars_cons, if_pos rfl]; rfl
      · rw [if_neg (by simp [List.cons_prefix_cons, Ne.symm hd]), follow_stop]
        · rw [resume_chars_cons, if_neg (by simpa using hd)]; rfl
        · rw [resume_chars_cons, if_neg (by simpa using hd)]; rfl

theorem follow_cat (a b : Node) (ways : List Node) (before : Option Char) (n : Nat)
    (subject : List Char) :
    follow [.cat a b :: ways] before n none subject =
      follow [a :: b :: ways] before n none subject := by
  cases subject <;> rfl

theorem follow_empty (ways : List Node) (before : Option Char) (n : Nat) (subject : List Char) :
    follow [.empty :: ways] before n none subject = follow [ways] before n none subject := by
  cases subject <;> rfl

theorem resume_set (here : Spot) (s : CharSet) (ways : List Node) (f : Front) :
    resume here (.set s :: ways) f =
      if here.after.any s.contains then f.push ways else f := by
  obtain ⟨before, after⟩ := here
  cases after <;> rfl

theorem follow_set (s : CharSet) (ways : List Node) (before : Option Char) (n : Nat)
    (subject : List Char) :
    follow [.set s :: ways] before n none subject =
      match subject with
      | [] => none
      | d :: rest => if s.contains d then follow [ways] (some d) (n + 1) none rest else none := by
  cases subject with
  | nil => rfl
  | cons d rest =>
    by_cases hd : s.contains d = true
    · rw [follow_push _ ways]
      · simp only [hd, if_true]
      · rw [resume_set, if_pos (by simpa using hd)]; rfl
      · rw [resume_set, if_pos (by simpa using hd)]; rfl
    · rw [follow_stop]
      · simp only [hd, if_false, Bool.false_eq_true]
      · rw [resume_set, if_neg (by simpa using hd)]; rfl
      · rw [resume_set, if_neg (by simpa using hd)]; rfl

theorem resume_loop (here : Spot) (label : Nat) (s : CharSet) (ways : List Node) :
    resume here (.loop label true (.set s) :: ways) .start =
      resume here ways
        (if here.after.any s.contains then
          (Front.start.mark label).push (.loop label true (.set s) :: ways)
        else Front.start.mark label) := by
  change (if (∅ : Std.HashSet Nat).contains label then _ else _) = _
  rw [Std.HashSet.contains_empty, if_neg Bool.false_ne_true, ← resume_set]
  rfl

/-- **A loop over a set takes all members there are**, if what comes after it is a literal that
begins outside of the set. -/
theorem follow_loop (label : Nat) (s : CharSet) (c : Char) (text : List Char)
    (hc : s.contains c = false) : ∀ (before : Option Char) (n : Nat) (subject : List Char),
      follow [[.loop label true (.set s), .chars (c :: text)]] before n none subject =
        if c :: text <+: subject.dropWhile s.contains then
          some (n + (subject.takeWhile s.contains).length + (c :: text).length)
        else none := by
  intro before n subject
  induction subject generalizing before n with
  | nil =>
    rw [if_neg (by simp), follow_stop]
    · rw [resume_loop, resume_chars_cons, if_neg (by simp)]; rfl
    · rw [resume_loop, resume_chars_cons, if_neg (by simp)]; rfl
  | cons d rest ih =>
    by_cases hd : s.contains d = true
    · -- One more member: the literal cannot begin here, and only the loop goes on.
      have hne : d ≠ c := by
        rintro rfl
        rw [hd] at hc
        cases hc
      rw [follow_push _ [.loop label true (.set s), .chars (c :: text)], ih,
        List.dropWhile_cons_of_pos hd, List.takeWhile_cons_of_pos hd]
      · simp only [List.length_cons, Nat.add_assoc, Nat.add_comm 1]
      · rw [resume_loop, resume_chars_cons, if_neg (by simpa using hne), if_pos (by simpa using hd)]
        rfl
      · rw [resume_loop, resume_chars_cons, if_neg (by simpa using hne), if_pos (by simpa using hd)]
        rfl
    · -- No further member: the loop ends, and the literal begins here or nowhere.
      rw [List.dropWhile_cons_of_neg hd, List.takeWhile_cons_of_neg hd]
      by_cases hdc : d = c
      · subst hdc
        rw [follow_push _ [.chars text], follow_chars, follow_done]
        · simp only [List.cons_prefix_cons, true_and, List.length_nil, List.length_cons,
            Nat.add_zero, Nat.add_assoc, Nat.add_comm 1]
        · rw [resume_loop, resume_chars_cons, if_pos rfl, if_neg (by simpa using hd)]
          rfl
        · rw [resume_loop, resume_chars_cons, if_pos rfl, if_neg (by simpa using hd)]
          rfl
      · rw [if_neg (by simp [List.cons_prefix_cons, Ne.symm hdc]), follow_stop]
        · rw [resume_loop, resume_chars_cons, if_neg (by simpa using hdc),
            if_neg (by simpa using hd)]
          rfl
        · rw [resume_loop, resume_chars_cons, if_neg (by simpa using hdc),
            if_neg (by simpa using hd)]
          rfl

end Regex

end TableGuard
