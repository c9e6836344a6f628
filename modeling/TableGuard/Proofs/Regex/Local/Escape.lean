import Mathlib.Tactic.SplitIfs
import TableGuard.Regex.Escape

/-!
# Escapes in front of a word

A piece of a pattern that is read to its end is read the same in front of a word, for no reader looks
beyond the end of a piece for anything but signs. This is shown reader by reader, for patterns in
which white space has its own meaning; first for runs of characters and for escapes.

* `StartsWord` : a text that begins with a word character;
* `span_append`, `takeLoose_append` : runs of characters with more text behind them;
* `escape?_append` : an escape in front of a word.
-/

namespace TableGuard.Regex

def StartsWord (text : List Char) : Prop :=
  ∃ c rest, text = c :: rest ∧ Unicode.isWord c = true

/-- A sign in front of a word stands where it stood without the word. -/
theorem StartsWord.eq_cons {u : List Char} (hu : StartsWord u) {text rest : List Char} {d : Char}
    (h : text ++ u = d :: rest) (hd : Unicode.isWord d = false) :
    ∃ after, text = d :: after ∧ rest = after ++ u := by
  obtain ⟨c, tail, rfl, hc⟩ := hu
  cases text with
  | nil =>
    obtain ⟨rfl, rfl⟩ := List.cons_eq_cons.1 h
    rw [hc] at hd
    cases hd
  | cons e after =>
    obtain ⟨rfl, rfl⟩ := List.cons_eq_cons.1 h
    exact ⟨after, rfl, rfl⟩

theorem StartsWord.eq_cons_cons {u : List Char} (hu : StartsWord u) {text rest : List Char}
    {d e : Char} (h : text ++ u = d :: e :: rest) (hd : Unicode.isWord d = false)
    (he : Unicode.isWord e = false) : ∃ after, text = d :: e :: after := by
  obtain ⟨after, rfl, hafter⟩ := hu.eq_cons h hd
  obtain ⟨after', rfl, -⟩ := hu.eq_cons hafter.symm he
  exact ⟨after', rfl⟩

@[simp] theorem skip_false (text : List Char) : skip false text = text := rfl

/-! ## Runs of characters -/

/-- The end of a run within a text stays its end when text is added. -/
theorem span_append {p : Char → Bool} {text rest : List Char} {d : Char}
    (h : text.dropWhile p = d :: rest) (u : List Char) :
    (text ++ u).takeWhile p = text.takeWhile p ∧
      (text ++ u).dropWhile p = d :: (rest ++ u) := by
  induction text with
  | nil => cases h
  | cons c text ih =>
    rw [List.cons_append]
    by_cases hc : p c = true
    · rw [List.dropWhile_cons_of_pos hc] at h
      obtain ⟨htake, hdrop⟩ := ih h
      rw [List.takeWhile_cons_of_pos hc, List.takeWhile_cons_of_pos hc,
        List.dropWhile_cons_of_pos hc, htake, hdrop]
      exact ⟨rfl, rfl⟩
    · rw [List.dropWhile_cons_of_neg hc] at h
      obtain ⟨rfl, rfl⟩ := List.cons_eq_cons.1 h
      rw [List.takeWhile_cons_of_neg hc, List.takeWhile_cons_of_neg hc,
        List.dropWhile_cons_of_neg hc]
      exact ⟨rfl, rfl⟩

theorem takeLoose_succ (p : Char → Bool) (limit : Nat) (c : Char) (text : List Char) :
    takeLoose false p (limit + 1) false (c :: text) =
      if p c then (c :: (takeLoose false p limit false text).1, (takeLoose false p limit false text).2)
      else ([], c :: text) := by
  simp [takeLoose]

theorem takeLoose_eq_span (p : Char → Bool) : ∀ (text : List Char) (limit : Nat),
    text.length ≤ limit →
      takeLoose false p limit false text = (text.takeWhile p, text.dropWhile p)
  | [], _, _ => rfl
  | c :: text, 0, hle => absurd hle (Nat.not_succ_le_zero _)
  | c :: text, limit + 1, hle => by
    rw [takeLoose_succ, takeLoose_eq_span p text limit (Nat.le_of_succ_le_succ hle)]
    by_cases hc : p c = true
    · rw [if_pos hc, List.takeWhile_cons_of_pos hc, List.dropWhile_cons_of_pos hc]
    · rw [if_neg hc, List.takeWhile_cons_of_neg hc, List.dropWhile_cons_of_neg hc]

theorem spanLoose_false (p : Char → Bool) (text : List Char) :
    spanLoose false p text = (text.takeWhile p, text.dropWhile p) :=
  takeLoose_eq_span p text text.length (Nat.le_refl _)

theorem spanLoose_append {p : Char → Bool} {text taken rest : List Char} {d : Char}
    (h : spanLoose false p text = (taken, d :: rest)) (u : List Char) :
    spanLoose false p (text ++ u) = (taken, d :: (rest ++ u)) := by
  rw [spanLoose_false, Prod.mk.injEq] at h
  obtain ⟨htake, hdrop⟩ := span_append h.2 u
  rw [spanLoose_false, htake, hdrop, h.1]

/-- A number of characters that was reached is not exceeded. -/
theorem takeLoose_append {p : Char → Bool} (u : List Char) : ∀ (text : List Char) (limit : Nat),
    limit ≤ (takeLoose false p limit false text).1.length →
      takeLoose false p limit false (text ++ u) =
        ((takeLoose false p limit false text).1, (takeLoose false p limit false text).2 ++ u)
  | [], limit, hlimit => by
    obtain rfl := Nat.le_zero.1 hlimit
    cases u <;> rfl
  | c :: text, 0, _ => rfl
  | c :: text, limit + 1, hlimit => by
    rw [takeLoose_succ] at hlimit
    rw [List.cons_append, takeLoose_succ, takeLoose_succ]
    by_cases hc : p c = true
    · rw [if_pos hc, List.length_cons] at hlimit
      rw [if_pos hc, if_pos hc, takeLoose_append u text limit (Nat.le_of_succ_le_succ hlimit)]
    · rw [if_neg hc] at hlimit
      exact absurd hlimit (Nat.not_succ_le_zero _)

/-! ## Escapes -/

section Escapes

variable {f : Flags} (hf : f.verbose = false) {u : List Char}
include hf

theorem property?_cons {negated : Bool} {c : Char} (hslash : c ≠ '\\') (hbrace : c ≠ '{')
    (text : List Char) :
    property? f negated (c :: text) = (propertySet? f negated [c]).map fun s => (.set s, text) := by
  simp only [property?, hf, skip_false]

theorem property?_append {negated : Bool} {text rest : List Char} {a : Atom}
    (h : property? f negated text = some (a, rest)) :
    property? f negated (text ++ u) = some (a, rest ++ u) := by
  cases text with
  | nil =>
    rw [property?, hf] at h
    cases h
  | cons c text =>
    rw [List.cons_append]
    by_cases hslash : c = '\\'
    · rw [property?, hf, hslash] at h
      cases h
    · by_cases hbrace : c = '{'
      · subst hbrace
        simp only [property?, hf, skip_false] at h ⊢
        split at h
        · rename_i name after hspan
          obtain ⟨s, hs, h⟩ := Option.map_eq_some_iff.1 h
          obtain ⟨rfl, rfl⟩ := Prod.mk.injEq .. ▸ h
          simp only [spanLoose_append hspan, hs, Option.map_some]
        · cases h
      · rw [property?_cons hf hslash hbrace] at h ⊢
        obtain ⟨s, hs, h⟩ := Option.map_eq_some_iff.1 h
        obtain ⟨rfl, rfl⟩ := Prod.mk.injEq .. ▸ h
        rw [hs, Option.map_some]

variable (hu : StartsWord u)
include hu

theorem codePoint?_append {width : Nat} {text rest : List Char} {a : Atom}
    (h : codePoint? f width text = some (a, rest)) :
    codePoint? f width (text ++ u) = some (a, rest ++ u) := by
  simp only [codePoint?, hf, skip_false] at h ⊢
  split at h
  · rename_i inner
    split at h
    · rename_i d ds after hspan
      obtain ⟨c, hc, h⟩ := Option.map_eq_some_iff.1 h
      obtain ⟨rfl, rfl⟩ := Prod.mk.injEq .. ▸ h
      simp only [List.cons_append, spanLoose_append hspan, hc, Option.map_some]
    · cases h
  · rename_i hbrace
    split
    · rename_i inner hcons
      obtain ⟨after, rfl, -⟩ := hu.eq_cons hcons (by decide)
      exact absurd rfl (hbrace after)
    · split at h
      · cases h
      · rename_i hlength
        rw [takeLoose_append u text width (Nat.not_lt.1 hlength), if_neg hlength]
        split at h
        · cases h
        · rename_i hbyte
          obtain ⟨c, hc, h⟩ := Option.map_eq_some_iff.1 h
          obtain ⟨rfl, rfl⟩ := Prod.mk.injEq .. ▸ h
          rw [if_neg hbyte, hc, Option.map_some]

theorem wordBoundary?_append {text rest : List Char} {a : Atom}
    (h : wordBoundary? f text = some (a, rest)) :
    wordBoundary? f (text ++ u) = some (a, rest ++ u) := by
  simp only [wordBoundary?, hf, skip_false] at h ⊢
  split at h
  · rename_i inner
    split at h
    · cases h
    · rename_i c after
      simp only [List.cons_append]
      split at h
      · rename_i hletter
        rw [if_pos hletter]
        split at h
        · rename_i name tail hspan
          obtain ⟨k, hk, h⟩ := Option.map_eq_some_iff.1 h
          obtain ⟨rfl, rfl⟩ := Prod.mk.injEq .. ▸ h
          have hspan' := spanLoose_append hspan u
          rw [List.cons_append] at hspan'
          simp only [hspan', hk, Option.map_some]
        · cases h
      · rename_i hletter
        obtain ⟨rfl, rfl⟩ := Prod.mk.injEq .. ▸ Option.some.inj h
        rw [if_neg hletter]
        rfl
  · rename_i hbrace
    obtain ⟨rfl, rfl⟩ := Prod.mk.injEq .. ▸ Option.some.inj h
    split
    · rename_i inner hcons
      obtain ⟨after, rfl, -⟩ := hu.eq_cons hcons (by decide)
      exact absurd rfl (hbrace after)
    · rfl

omit hf hu in
theorem setAtom?_append {negated : Bool} {s : CharSet} {text rest : List Char} {a : Atom}
    (h : setAtom? f negated s text = some (a, rest)) :
    setAtom? f negated s (text ++ u) = some (a, rest ++ u) := by
  obtain ⟨s', hs', h⟩ := Option.map_eq_some_iff.1 h
  obtain ⟨rfl, rfl⟩ := Prod.mk.injEq .. ▸ h
  rw [setAtom?, hs', Option.map_some]

/-- **An escape in front of a word.** -/
theorem escape?_append {text rest : List Char} {a : Atom} (h : escape? f text = some (a, rest)) :
    escape? f (text ++ u) = some (a, rest ++ u) := by
  cases text with
  | nil => cases h
  | cons c text =>
    unfold escape? at h
    dsimp only at h
    split at h
    -- Either another reader takes over, or nothing is read behind the letter.
    all_goals first
      | exact codePoint?_append hf hu h
      | exact property?_append hf h
      | exact setAtom?_append h
      | exact wordBoundary?_append hf hu h
      | obtain ⟨rfl, rfl⟩ := Prod.mk.injEq .. ▸ Option.some.inj h
        rfl
      | split_ifs at h with hquotable
        obtain ⟨rfl, rfl⟩ := Prod.mk.injEq .. ▸ Option.some.inj h
        simp only [List.cons_append, escape?, hquotable, if_true]

end Escapes

end TableGuard.Regex
