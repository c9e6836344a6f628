import Mathlib.Tactic.SplitIfs
import TableGuard.Proofs.Regex.Local.Class
import TableGuard.Regex.Pattern

/-!
# Pieces in front of a word

Any piece of a pattern is read the same in front of a word, as long as white space has its own
meaning.

* `openGroup?_append` : an opening parenthesis and what belongs to it;
* `repeatSign?_append`, `repeatBraces?_append` : repetition;
* `step?_append` : a piece in front of a word.
-/

namespace TableGuard.Regex

namespace Reading

/-! ## Groups -/

theorem enterNamed?_append {r r' : Reading} {text rest : List Char}
    (h : r.enterNamed? text = some (r', rest)) (u : List Char) :
    r.enterNamed? (text ++ u) = some (r', rest ++ u) := by
  unfold enterNamed? at h
  dsimp only at h
  split at h
  · rename_i c cs d after hname hdrop
    obtain ⟨htake', hdrop'⟩ := span_append hdrop u
    split_ifs at h with hvalid
    obtain ⟨rfl, rfl⟩ := Prod.mk.injEq .. ▸ Option.some.inj h
    rw [enterNamed?, htake', hdrop', hname]
    dsimp only
    rw [← hname, if_pos hvalid]
  · cases h

theorem readFlags?_append (u : List Char) : ∀ (text : List Char) {flags flags' : Flags}
    {seen seen' : List Char} {on : Bool} {c : Char} {rest : List Char},
    readFlags? flags seen on text = some (flags', seen', c, rest) →
      readFlags? flags seen on (text ++ u) = some (flags', seen', c, rest ++ u)
  | [], flags, flags', seen, seen', on, c, rest, h => by cases h
  | d :: text, flags, flags', seen, seen', on, c, rest, h => by
    rw [List.cons_append]
    rw [readFlags?] at h ⊢
    split_ifs at h ⊢
    · obtain ⟨rfl, rfl, rfl, rfl⟩ : flags = flags' ∧ seen = seen' ∧ d = c ∧ text = rest := by
        simpa using h
      rfl
    · exact readFlags?_append u text h
    · obtain ⟨flags₁, hset, h⟩ := Option.bind_eq_some_iff.1 h
      rw [hset, Option.bind_some]
      exact readFlags?_append u text h

/-- The group, or the setting of flags, behind an opening parenthesis and a question mark. -/
def flagGroup? (r : Reading) (text : List Char) : Option (Reading × List Char) :=
  match readFlags? r.flags [] true text with
  | some (flags, _, ':', rest) => some (r.enter flags none, rest)
  | some (flags, _ :: _, _, rest) =>
    some ({ r with flags := flags, scope := r.scope.push .flags }, rest)
  | _ => none

theorem flagGroup?_append {r r' : Reading} {text rest : List Char}
    (h : r.flagGroup? text = some (r', rest)) (u : List Char) :
    r.flagGroup? (text ++ u) = some (r', rest ++ u) := by
  unfold flagGroup? at h ⊢
  split at h
  · rename_i hread
    obtain ⟨rfl, rfl⟩ := Prod.mk.injEq .. ▸ Option.some.inj h
    rw [readFlags?_append u _ hread]
    rfl
  · rename_i hcolon hread
    obtain ⟨rfl, rfl⟩ := Prod.mk.injEq .. ▸ Option.some.inj h
    rw [readFlags?_append u _ hread]
    simp only
  · cases h

section Group

variable {r : Reading} (hr : r.flags.verbose = false)
include hr

theorem openGroup?_plain {text : List Char} (h : ∀ rest, text ≠ '?' :: rest) :
    r.openGroup? text = some (r.enterNumbered, text) := by
  simp only [openGroup?, hr, skip_false]
  split <;> simp_all

theorem openGroup?_named {c : Char} (hahead : c ≠ '=') (hnot : c ≠ '!') (text : List Char) :
    r.openGroup? ('?' :: '<' :: c :: text) = r.enterNamed? (c :: text) := by
  simp only [openGroup?, hr, skip_false]
  split
  case h_7 =>
    rename_i hname heq
    exact absurd (List.cons_eq_cons.1 heq).2.symm (hname _)
  all_goals simp_all

theorem openGroup?_flags {c : Char} (hahead : c ≠ '=') (hnot : c ≠ '!') (hangle : c ≠ '<')
    (hp : c ≠ 'P') (text : List Char) :
    r.openGroup? ('?' :: c :: text) = r.flagGroup? (c :: text) := by
  simp only [openGroup?, hr, skip_false]
  split
  case h_7 =>
    rename_i heq
    rw [(List.cons_eq_cons.1 heq).2]
    rfl
  all_goals simp_all

theorem openGroup?_letter {text : List Char} (h : ∀ rest, text ≠ '<' :: rest) :
    r.openGroup? ('?' :: 'P' :: text) = none := by
  simp only [openGroup?, hr, skip_false]
  split
  case h_7 =>
    rename_i heq
    rw [← (List.cons_eq_cons.1 heq).2]
    rfl
  all_goals simp_all

theorem openGroup?_append {r' : Reading} {text rest u : List Char} (hu : StartsWord u)
    (h : r.openGroup? text = some (r', rest)) :
    r.openGroup? (text ++ u) = some (r', rest ++ u) := by
  by_cases hmark : ∃ inner, text = '?' :: inner
  · obtain ⟨inner, rfl⟩ := hmark
    rcases inner with - | ⟨c, inner⟩
    · rw [openGroup?, hr] at h
      cases h
    · by_cases hlook : c = '=' ∨ c = '!'
      · rw [openGroup?, hr] at h
        rcases hlook with rfl | rfl <;> cases h
      · rw [not_or] at hlook
        by_cases hangle : c = '<'
        · subst hangle
          rcases inner with - | ⟨d, inner⟩
          · rw [openGroup?, hr] at h
            cases h
          · by_cases hbehind : d = '=' ∨ d = '!'
            · rw [openGroup?, hr] at h
              rcases hbehind with rfl | rfl <;> cases h
            · rw [not_or] at hbehind
              rw [openGroup?_named hr hbehind.1 hbehind.2] at h
              simp only [List.cons_append]
              rw [openGroup?_named hr hbehind.1 hbehind.2]
              exact enterNamed?_append h u
        · by_cases hp : c = 'P'
          · subst hp
            by_cases hname : ∃ tail, inner = '<' :: tail
            · obtain ⟨tail, rfl⟩ := hname
              rw [openGroup?, hr] at h
              rw [openGroup?, hr]
              exact enterNamed?_append h u
            · rw [openGroup?_letter hr fun tail heq => hname ⟨tail, heq⟩] at h
              cases h
          · rw [openGroup?_flags hr hlook.1 hlook.2 hangle hp] at h
            simp only [List.cons_append]
            rw [openGroup?_flags hr hlook.1 hlook.2 hangle hp]
            exact flagGroup?_append h u
  · have hplain : ∀ rest, text ≠ '?' :: rest := fun rest htext => hmark ⟨rest, htext⟩
    rw [openGroup?_plain hr hplain] at h
    obtain ⟨rfl, rfl⟩ := Prod.mk.injEq .. ▸ Option.some.inj h
    rw [openGroup?_plain hr]
    intro rest heq
    obtain ⟨after, htext, -⟩ := hu.eq_cons heq (by decide)
    exact hplain after htext

end Group

/-! ## Repetition -/

section Repetition

variable {r r' : Reading} {u : List Char} (hu : StartsWord u)
include hu

theorem repeatSign?_append {least : Nat} {most : Option Nat} {text rest : List Char}
    (h : r.repeatSign? least most text = some (r', rest)) :
    r.repeatSign? least most (text ++ u) = some (r', rest ++ u) := by
  unfold repeatSign? at h
  split at h
  · rename_i inner
    obtain ⟨r₁, hrepeat, h⟩ := Option.map_eq_some_iff.1 h
    obtain ⟨rfl, rfl⟩ := Prod.mk.injEq .. ▸ h
    simp only [List.cons_append, repeatSign?, hrepeat, Option.map_some]
  · rename_i hmark
    obtain ⟨r₁, hrepeat, h⟩ := Option.map_eq_some_iff.1 h
    obtain ⟨rfl, rfl⟩ := Prod.mk.injEq .. ▸ h
    unfold repeatSign?
    split
    · rename_i heq
      obtain ⟨after, htext, -⟩ := hu.eq_cons heq (by decide)
      exact absurd htext (hmark after)
    · rw [hrepeat, Option.map_some]

omit hu in
theorem readCount_append {n : Option Nat} {text rest : List Char} {d : Char}
    (h : readCount false text = (n, d :: rest)) (u : List Char) :
    readCount false (text ++ u) = (n, d :: (rest ++ u)) := by
  unfold readCount at h ⊢
  simp only [spanLoose_false, skip_false, Prod.mk.injEq] at h ⊢
  obtain ⟨hcount, hrest⟩ := h
  -- What is left behind the digits is within the text, and so are the digits.
  obtain ⟨e, digits, hdigits⟩ : ∃ e digits, text.dropWhile Unicode.isBlank = e :: digits :=
    List.exists_cons_of_ne_nil fun hnil => by rw [hnil] at hrest; cases hrest
  obtain ⟨-, hdigits'⟩ := span_append hdigits u
  rw [hdigits] at hcount hrest
  obtain ⟨e', after, hafter⟩ : ∃ e' after, (e :: digits).dropWhile Char.isDigit = e' :: after :=
    List.exists_cons_of_ne_nil fun hnil => by rw [hnil] at hrest; cases hrest
  obtain ⟨htake, hafter'⟩ := span_append hafter u
  rw [hafter] at hrest
  rw [List.cons_append] at htake hafter'
  rw [hdigits', htake, hafter']
  exact ⟨hcount, (span_append hrest u).2⟩

theorem readBounds?_append {least : Nat} {most : Option Nat} {text rest : List Char}
    (h : readBounds? false text = some (least, most, rest)) :
    readBounds? false (text ++ u) = some (least, most, rest ++ u) := by
  unfold readBounds? at h
  simp only [skip_false] at h
  split at h
  · rename_i n after hcount
    obtain ⟨rfl, rfl, rfl⟩ : n = least ∧ some n = most ∧ after = rest := by simpa using h
    simp only [readBounds?, skip_false, readCount_append hcount u]
  · rename_i n after hcount
    simp only [readBounds?, skip_false, readCount_append hcount u]
    split at h
    · rename_i tail
      obtain ⟨rfl, rfl, rfl⟩ : n = least ∧ none = most ∧ tail = rest := by simpa using h
      rfl
    · rename_i hbrace
      split at h
      · rename_i n' tail hcount'
        split_ifs at h with hle
        obtain ⟨rfl, rfl, rfl⟩ : n = least ∧ some n' = most ∧ tail = rest := by simpa using h
        split
        · rename_i heq
          obtain ⟨after', htext, -⟩ := hu.eq_cons heq (by decide)
          exact absurd htext (hbrace after')
        · simp only [readCount_append hcount' u, if_pos hle]
      · cases h
  · cases h

theorem repeatBraces?_append (hr : r.flags.verbose = false) {text rest : List Char}
    (h : r.repeatBraces? text = some (r', rest)) :
    r.repeatBraces? (text ++ u) = some (r', rest ++ u) := by
  simp only [repeatBraces?, hr, skip_false] at h ⊢
  obtain ⟨⟨least, most, after⟩, hbounds, h⟩ := Option.bind_eq_some_iff.1 h
  rw [readBounds?_append hu hbounds, Option.bind_some]
  exact repeatSign?_append hu h

end Repetition

/-- **A piece in front of a word.** -/
theorem step?_append {r r' : Reading} (hr : r.flags.verbose = false) {c : Char}
    {text rest u : List Char} (hu : StartsWord u) (h : r.step? c text = some (r', rest)) :
    r.step? c (text ++ u) = some (r', rest ++ u) := by
  unfold step? at h
  split at h
  · exact openGroup?_append hr hu h
  · obtain ⟨r₁, hclose, h⟩ := Option.map_eq_some_iff.1 h
    obtain ⟨rfl, rfl⟩ := Prod.mk.injEq .. ▸ h
    simp only [step?, hclose, Option.map_some]
  · obtain ⟨rfl, rfl⟩ := Prod.mk.injEq .. ▸ Option.some.inj h
    rfl
  · obtain ⟨⟨s, after⟩, hclass, h⟩ := Option.map_eq_some_iff.1 h
    obtain ⟨rfl, rfl⟩ := Prod.mk.injEq .. ▸ h
    simp only [step?, bracket?_append hr hu hclass, Option.map_some]
  · exact repeatSign?_append hu h
  · exact repeatSign?_append hu h
  · exact repeatSign?_append hu h
  · exact repeatBraces?_append hu hr h
  · obtain ⟨⟨a, after⟩, hescape, h⟩ := Option.map_eq_some_iff.1 h
    obtain ⟨rfl, rfl⟩ := Prod.mk.injEq .. ▸ h
    simp only [step?, escape?_append hr hu hescape, Option.map_some]
  · obtain ⟨e, hdot, h⟩ := Option.map_eq_some_iff.1 h
    obtain ⟨rfl, rfl⟩ := Prod.mk.injEq .. ▸ h
    simp only [step?, hdot, Option.map_some]
  · obtain ⟨rfl, rfl⟩ := Prod.mk.injEq .. ▸ Option.some.inj h
    rfl
  · obtain ⟨rfl, rfl⟩ := Prod.mk.injEq .. ▸ Option.some.inj h
    rfl
  · obtain ⟨rfl, rfl⟩ := Prod.mk.injEq .. ▸ Option.some.inj h
    simp only [step?]

end Reading

end TableGuard.Regex
