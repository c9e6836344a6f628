import TableGuard.Regex

/-!
# Searching with a solid pattern

A pattern is solid if its matches depend on nothing before them and are never empty. A search with
such a pattern is a walk through the text that takes a match wherever there is one and otherwise one
character.

* `Regex.Solid re len?` : `len?` gives the length of the match of `re` at the beginning of a text;
* `Solid.first?_hit`, `Solid.first?_miss` : one step of the search for the first match;
* `Solid.cut_hit`, `Solid.cut_miss`, `Cut.lead` : one step of cutting a text at all matches;
* `Solid.induction` : induction along such a walk.
-/

namespace TableGuard.Regex

/-- `len?` gives the length of the match at the beginning of a text, whatever stands before it, and
no match is empty. -/
structure Solid (re : Regex) (len? : List Char → Option Nat) : Prop where
  matchLength : ∀ before text, re.node.matchLength? before text = len? text
  bounds : ∀ text n, len? text = some n → 0 < n ∧ n ≤ text.length

/-- The cut of a text with one more character in front that no match takes. -/
def Cut.lead (c : Char) (cut : Cut) : Cut :=
  match cut.hits with
  | [] => ⟨[], c :: cut.tail⟩
  | (gap, hit) :: hits => ⟨(c :: gap, hit) :: hits, cut.tail⟩

theorem Cut.replace_lead (c : Char) (cut : Cut) (new : List Char) :
    (cut.lead c).replace new = c :: cut.replace new := by
  unfold Cut.lead Cut.replace
  split
  · rename_i h
    simp [h]
  · rename_i gap hit hits h
    simp [h]

theorem Cut.length_hits_lead (c : Char) (cut : Cut) :
    (cut.lead c).hits.length = cut.hits.length := by
  unfold Cut.lead
  split
  · rename_i h
    rw [h]
  · rename_i h
    rw [h, List.length_cons, List.length_cons]

theorem Cut.mem_hits_lead (c : Char) (cut : Cut) (hit : List Char) :
    hit ∈ (cut.lead c).hits.map Prod.snd ↔ hit ∈ cut.hits.map Prod.snd := by
  unfold Cut.lead
  split
  · rename_i h
    rw [h]
  · rename_i h
    rw [h, List.map_cons, List.map_cons]

namespace Solid

variable {re : Regex} {len? : List Char → Option Nat}

theorem len?_nil (h : Solid re len?) : len? [] = none := by
  cases hn : len? [] with
  | none => rfl
  | some n =>
    have := h.bounds [] n hn
    simp only [List.length_nil] at this
    omega

/-! ## The next match -/

theorem next?_nil (h : Solid re len?) (before : Option Char) (afterMatch : Bool)
    (gap : List Char) : re.next? before afterMatch gap [] = none := by
  rw [next?, h.matchLength, h.len?_nil]

theorem next?_hit (h : Solid re len?) (before : Option Char) (afterMatch : Bool)
    (gap text : List Char) (n : Nat) (hn : len? text = some n) :
    re.next? before afterMatch gap text = some (gap.reverse, text.take n, text.drop n) := by
  have hpos : n ≠ 0 := Nat.ne_of_gt (h.bounds text n hn).1
  cases text with
  | nil => rw [h.len?_nil] at hn; cases hn
  | cons c rest =>
    rw [next?, h.matchLength, hn]
    simp [hpos]

theorem next?_miss (h : Solid re len?) (before : Option Char) (afterMatch : Bool)
    (gap : List Char) (c : Char) (rest : List Char) (hn : len? (c :: rest) = none) :
    re.next? before afterMatch gap (c :: rest) = re.next? (some c) false (c :: gap) rest := by
  rw [next?, h.matchLength, hn]

/-- What was passed over before comes in front of the gap, and nothing else depends on the
past. -/
theorem next?_eq_first? (h : Solid re len?) (text : List Char) :
    ∀ (before : Option Char) (afterMatch : Bool) (gap : List Char),
      re.next? before afterMatch gap text =
        (re.first? text).map fun (g, hit, rest) => (gap.reverse ++ g, hit, rest) := by
  induction text with
  | nil =>
    intro before afterMatch gap
    rw [first?, h.next?_nil, h.next?_nil]
    rfl
  | cons c rest ih =>
    intro before afterMatch gap
    rw [first?]
    cases hn : len? (c :: rest) with
    | some n =>
      rw [h.next?_hit before afterMatch gap _ n hn, h.next?_hit none false [] _ n hn]
      simp
    | none =>
      rw [h.next?_miss before afterMatch gap c rest hn, h.next?_miss none false [] c rest hn,
        ih (some c) false (c :: gap), ih (some c) false [c], Option.map_map]
      congr 1
      funext ⟨g, hit, rest⟩
      simp

theorem first?_nil (h : Solid re len?) : re.first? [] = none := h.next?_nil none false []

theorem first?_hit (h : Solid re len?) (text : List Char) (n : Nat) (hn : len? text = some n) :
    re.first? text = some ([], text.take n, text.drop n) := h.next?_hit none false [] text n hn

theorem first?_miss (h : Solid re len?) (c : Char) (rest : List Char)
    (hn : len? (c :: rest) = none) :
    re.first? (c :: rest) =
      (re.first? rest).map fun (gap, hit, after) => (c :: gap, hit, after) := by
  rw [first?, h.next?_miss none false [] c rest hn, h.next?_eq_first? rest]
  rfl

theorem first?_eq_some (h : Solid re len?) :
    ∀ {text gap hit rest : List Char}, re.first? text = some (gap, hit, rest) →
      text = gap ++ (hit ++ rest) ∧ hit ≠ [] := by
  intro text
  induction text with
  | nil =>
    intro gap hit rest hf
    rw [h.first?_nil] at hf
    cases hf
  | cons c text ih =>
    intro gap hit rest hf
    cases hn : len? (c :: text) with
    | some n =>
      obtain ⟨hpos, hle⟩ := h.bounds _ n hn
      rw [h.first?_hit _ n hn] at hf
      obtain ⟨rfl, rfl, rfl⟩ : [] = gap ∧ (c :: text).take n = hit ∧ (c :: text).drop n = rest := by
        simpa using hf
      refine ⟨by rw [List.nil_append, List.take_append_drop], ?_⟩
      intro hnil
      have hlen := congrArg List.length hnil
      rw [List.length_take, List.length_nil] at hlen
      omega
    | none =>
      rw [h.first?_miss c text hn] at hf
      obtain ⟨⟨g, hit', rest'⟩, hf', heq⟩ := Option.map_eq_some_iff.1 hf
      obtain ⟨rfl, rfl, rfl⟩ : c :: g = gap ∧ hit' = hit ∧ rest' = rest := by simpa using heq
      obtain ⟨htext, hne⟩ := ih hf'
      exact ⟨by rw [List.cons_append, ← htext], hne⟩

/-! ## All matches -/

/-- With enough fuel for the text, neither the fuel nor the past of the search matters. -/
theorem cutFrom_eq (h : Solid re len?) :
    ∀ (fuel : Nat) (text : List Char), text.length < fuel →
      ∀ (fuel' : Nat), text.length < fuel' → ∀ (before before' : Option Char) (am am' : Bool),
        re.cutFrom fuel before am text = re.cutFrom fuel' before' am' text := by
  intro fuel
  induction fuel with
  | zero => intro text hlt; omega
  | succ fuel ih =>
    intro text hlt fuel' hlt' before before' am am'
    cases fuel' with
    | zero => omega
    | succ fuel' =>
      rw [cutFrom, cutFrom, h.next?_eq_first? text before am [], h.next?_eq_first? text before' am' []]
      cases hf : re.first? text with
      | none => rfl
      | some found =>
        obtain ⟨gap, hit, rest⟩ := found
        obtain ⟨htext, hne⟩ := h.first?_eq_some hf
        have hlen : rest.length < text.length := by
          have : 0 < hit.length := List.length_pos_iff.2 hne
          rw [htext, List.length_append, List.length_append]
          omega
        simp only [Option.map_some, List.reverse_nil, List.nil_append]
        rw [ih rest (by omega) fuel' (by omega) _ (lastBefore before' gap hit) true true]

theorem cut_nil (h : Solid re len?) : re.cut [] = ⟨[], []⟩ := by
  rw [cut, cutFrom, h.next?_nil]

theorem cut_eq_first? (h : Solid re len?) (text : List Char) :
    re.cut text =
      match re.first? text with
      | none => ⟨[], text⟩
      | some (gap, hit, rest) => ⟨(gap, hit) :: (re.cut rest).hits, (re.cut rest).tail⟩ := by
  rw [cut, cutFrom, show re.next? none false [] text = re.first? text from rfl]
  cases hf : re.first? text with
  | none => rfl
  | some found =>
    obtain ⟨gap, hit, rest⟩ := found
    obtain ⟨htext, hne⟩ := h.first?_eq_some hf
    have hlen : rest.length < text.length := by
      have : 0 < hit.length := List.length_pos_iff.2 hne
      rw [htext, List.length_append, List.length_append]
      omega
    have hcut := h.cutFrom_eq text.length rest hlen (rest.length + 1) (by omega)
      (lastBefore none gap hit) none true false
    simp only [hcut]
    rfl

theorem cut_hit (h : Solid re len?) (text : List Char) (n : Nat) (hn : len? text = some n) :
    re.cut text =
      ⟨([], text.take n) :: (re.cut (text.drop n)).hits, (re.cut (text.drop n)).tail⟩ := by
  rw [h.cut_eq_first? text, h.first?_hit text n hn]

theorem cut_miss (h : Solid re len?) (c : Char) (rest : List Char)
    (hn : len? (c :: rest) = none) : re.cut (c :: rest) = (re.cut rest).lead c := by
  rw [h.cut_eq_first? (c :: rest), h.first?_miss c rest hn, h.cut_eq_first? rest]
  cases re.first? rest with
  | none => rfl
  | some found => rfl

theorem replace_cut_hit (h : Solid re len?) (new text : List Char) (n : Nat)
    (hn : len? text = some n) :
    (re.cut text).replace new = new ++ (re.cut (text.drop n)).replace new := by
  rw [h.cut_hit text n hn]
  simp only [Cut.replace, List.flatMap_cons, List.nil_append, List.append_assoc]

theorem replace_cut_miss (h : Solid re len?) (new : List Char) (c : Char) (rest : List Char)
    (hn : len? (c :: rest) = none) :
    (re.cut (c :: rest)).replace new = c :: (re.cut rest).replace new := by
  rw [h.cut_miss c rest hn, Cut.replace_lead]

/-- Induction along a search: what a match takes is passed at once, and all else character by
character. -/
theorem induction {P : List Char → Prop} (h : Solid re len?) (nil : P [])
    (hit : ∀ text n, len? text = some n → P (text.drop n) → P text)
    (miss : ∀ c rest, len? (c :: rest) = none → P rest → P (c :: rest)) (text : List Char) :
    P text := by
  induction hk : text.length using Nat.strongRecOn generalizing text with
  | ind k ih =>
    cases text with
    | nil => exact nil
    | cons c rest =>
      rw [List.length_cons] at hk
      cases hn : len? (c :: rest) with
      | none => exact miss c rest hn (ih rest.length (by omega) rest rfl)
      | some n =>
        obtain ⟨hpos, hle⟩ := h.bounds _ n hn
        have hlen : ((c :: rest).drop n).length = k - n := by
          rw [List.length_drop, List.length_cons, hk]
        exact hit _ n hn (ih (k - n) (by omega) _ hlen)

end Solid

end TableGuard.Regex
