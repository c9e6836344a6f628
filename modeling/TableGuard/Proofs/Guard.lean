import Mathlib.Data.List.Infix
import TableGuard.Proofs.Regex.Literal
import TableGuard.Rule

/-!
# Guarding calls in one pass

A call hands one of the payloads of a response to the setter of a variable. Its argument can be
replaced by the guarded form of the payload. All the calls of some setters can be guarded in one
pass over the text.

* `Payload` : what a response can be asked for, with the rule for it;
* `siteAt?` : the payload of the argument that begins here, if it belongs to one of the calls;
* `guardCalls` : the text with all arguments of the calls guarded;
* `guardCalls_guardCalls` : guarding some calls after others is guarding all of them at once;
* `guardCalls_congr` : order and repetition of the calls do not matter.

The passes do not interfere since nothing that is written has the form of a call, and nothing in
front of an argument changes in the letters that directly precede it.
-/

namespace TableGuard

/-- A non-empty text of word characters. -/
def IsWord (text : List Char) : Prop := text ≠ [] ∧ ∀ c ∈ text, Unicode.isWord c = true

instance (text : List Char) : Decidable (IsWord text) :=
  decidable_of_iff (text ≠ [] ∧ text.all Unicode.isWord = true) (by rw [IsWord, List.all_eq_true])

theorem Template.flatMap_fillPart_some (filling text : List Char) :
    (text.map some).flatMap (fillPart filling) = text := by
  induction text with
  | nil => rfl
  | cons c text ih => rw [List.map_cons, List.flatMap_cons, ih]; rfl

theorem Template.fill_of_parts {template before after : List Char}
    (h : parts template = before.map some ++ none :: after.map some) (filling : List Char) :
    fill template filling = before ++ (filling ++ after) := by
  rw [fill, h, List.flatMap_append, List.flatMap_cons, flatMap_fillPart_some,
    flatMap_fillPart_some]
  rfl

/-! ## Payloads and calls -/

/-- What a response can be asked for. -/
inductive Payload where
  /-- The data of the response. -/
  | data
  /-- The data within the data. -/
  | nestedData
  /-- The list within the data. -/
  | nestedList
deriving DecidableEq

def setter (var : List Char) : List Char := 's' :: 'e' :: 't' :: var

namespace Payload

def all : List Payload := [.data, .nestedData, .nestedList]

def text : Payload → List Char
  | .data => "response.data".toList
  | .nestedData => "response.data.data".toList
  | .nestedList => "response.data.list".toList

def rule : Payload → Rule
  | .data => Registry.directData
  | .nestedData => Registry.nestedData
  | .nestedList => Registry.nestedList

/-- The payload of a builtin rule. -/
def ofRule? (rule : Rule) : Option Payload := all.find? fun p => p.rule = rule

/-- The payload in parentheses. -/
def argument (p : Payload) : List Char := '(' :: (p.text ++ [')'])

/-- The payload in parentheses, unless it is no array. -/
def guarded (p : Payload) : List Char :=
  "(Array.isArray(".toList ++ p.text ++ ") ? ".toList ++ p.text ++ " : [])".toList

/-- The call that hands the payload to the setter of a variable. -/
def call (p : Payload) (var : List Char) : List Char := setter var ++ p.argument

/-- The call with a guarded argument. -/
def guardedCall (p : Payload) (var : List Char) : List Char := setter var ++ p.guarded

theorem map_rule_all : all.map rule = Registry.builtin.rules := rfl

theorem ofRule?_rule (p : Payload) : ofRule? p.rule = some p := by
  cases p <;> decide

theorem ofRule?_eq_some_iff (r : Rule) (p : Payload) : ofRule? r = some p ↔ r = p.rule := by
  constructor
  · intro h
    have := List.find?_some h
    simpa using (of_decide_eq_true this).symm
  · rintro rfl
    exact p.ofRule?_rule

theorem exists_of_mem_builtin {r : Rule} (h : r ∈ Registry.builtin.rules) : ∃ p : Payload, r = p.rule := by
  rw [← map_rule_all, List.mem_map] at h
  obtain ⟨p, -, rfl⟩ := h
  exact ⟨p, rfl⟩

theorem parts_detect (p : Payload) : Template.parts p.rule.detect.toList =
    ['s', 'e', 't'].map some ++ none :: (Regex.quote p.argument).map some := by
  cases p <;> decide

theorem parts_replace (p : Payload) : Template.parts p.rule.replace.toList =
    ['s', 'e', 't'].map some ++ none :: p.guarded.map some := by
  cases p <;> decide

theorem pattern_rule (p : Payload) (var : String) :
    p.rule.pattern var = Regex.quote (p.call var.toList) := by
  rw [Rule.pattern, Template.fill_of_parts p.parts_detect, call, Regex.quote_append]
  rfl

theorem replacement_rule (p : Payload) (var : String) :
    (p.rule.replacement var).toList = p.guardedCall var.toList := by
  rw [Rule.replacement, String.toList_ofList, Template.fill_of_parts p.parts_replace]
  rfl

/-- At most one payload in parentheses begins a text. -/
theorem argument_unique {p q : Payload} {subject : List Char} (hp : p.argument <+: subject)
    (hq : q.argument <+: subject) : p = q := by
  have h : p.argument <+: q.argument ∨ q.argument <+: p.argument :=
    List.prefix_or_prefix_of_prefix hp hq
  cases p <;> cases q <;> first | rfl | exact absurd h (by decide)

theorem paren_notMem_text (p : Payload) : '(' ∉ p.text ++ [')'] := by
  cases p <;> decide

theorem length_argument_lt_length_guarded (p : Payload) :
    p.argument.length < p.guarded.length := by
  cases p <;> decide

end Payload

/-! ## The pass -/

/-- Calls, each given by its payload and its variable. -/
abbrev Sites := List (Payload × List Char)

/-- The payload of the argument that begins here, if it belongs to one of the calls. `before` is the
text in front, latest character first. -/
def siteAt? (sites : Sites) (before text : List Char) : Option Payload :=
  (sites.find? fun (p, var) =>
    (setter var).reverse.isPrefixOf before && p.argument.isPrefixOf text).map Prod.fst

/-- The text with the arguments of all the calls guarded. `before` is the text in front, latest
character first. -/
def guardCalls (sites : Sites) (before : List Char) : List Char → List Char
  | [] => []
  | c :: rest =>
    match siteAt? sites before (c :: rest) with
    | some p =>
      p.guarded ++
        guardCalls sites (p.argument.reverse ++ before) (rest.drop (p.text ++ [')']).length)
    | none => c :: guardCalls sites (c :: before) rest
termination_by text => text.length
decreasing_by
  · rw [List.length_drop, List.length_cons]; omega
  · rw [List.length_cons]; omega

theorem siteAt?_eq_some_iff {sites : Sites} {before text : List Char} {p : Payload} :
    siteAt? sites before text = some p ↔
      p.argument <+: text ∧ ∃ var, (p, var) ∈ sites ∧ (setter var).reverse <+: before := by
  rw [siteAt?, Option.map_eq_some_iff]
  constructor
  · rintro ⟨⟨q, var⟩, hfind, rfl⟩
    have hsite := List.find?_some hfind
    rw [Bool.and_eq_true, List.isPrefixOf_iff_prefix, List.isPrefixOf_iff_prefix] at hsite
    exact ⟨hsite.2, var, List.mem_of_find?_eq_some hfind, hsite.1⟩
  · rintro ⟨harg, var, hmem, hset⟩
    have hsome : (sites.find? fun (p, var) => (setter var).reverse.isPrefixOf before &&
        p.argument.isPrefixOf text).isSome := by
      rw [List.find?_isSome]
      refine ⟨(p, var), hmem, ?_⟩
      rw [Bool.and_eq_true, List.isPrefixOf_iff_prefix, List.isPrefixOf_iff_prefix]
      exact ⟨hset, harg⟩
    obtain ⟨⟨q, var'⟩, hfind⟩ := Option.isSome_iff_exists.1 hsome
    have hsite := List.find?_some hfind
    rw [Bool.and_eq_true, List.isPrefixOf_iff_prefix, List.isPrefixOf_iff_prefix] at hsite
    exact ⟨(q, var'), hfind, Payload.argument_unique hsite.2 harg⟩

theorem siteAt?_eq_none_iff {sites : Sites} {before text : List Char} :
    siteAt? sites before text = none ↔
      ∀ p, p.argument <+: text → ∀ var, (p, var) ∈ sites → ¬ (setter var).reverse <+: before := by
  rw [Option.eq_none_iff_forall_ne_some]
  constructor
  · intro h p harg var hmem hset
    exact h p (siteAt?_eq_some_iff.2 ⟨harg, var, hmem, hset⟩)
  · intro h p hsite
    obtain ⟨harg, var, hmem, hset⟩ := siteAt?_eq_some_iff.1 hsite
    exact h p harg var hmem hset

theorem siteAt?_of_ne_paren (sites : Sites) (before : List Char) (c : Char) (rest : List Char)
    (hc : c ≠ '(') : siteAt? sites before (c :: rest) = none := by
  rw [siteAt?_eq_none_iff]
  intro p harg
  rw [Payload.argument, List.cons_prefix_cons] at harg
  exact absurd harg.1.symm hc

theorem guardCalls_nil (sites : Sites) (before : List Char) : guardCalls sites before [] = [] := by
  rw [guardCalls]

theorem guardCalls_miss (sites : Sites) (before : List Char) (c : Char) (rest : List Char)
    (h : siteAt? sites before (c :: rest) = none) :
    guardCalls sites before (c :: rest) = c :: guardCalls sites (c :: before) rest := by
  rw [guardCalls, h]

theorem guardCalls_site (sites : Sites) (before : List Char) (p : Payload) (rest : List Char)
    (h : siteAt? sites before (p.argument ++ rest) = some p) :
    guardCalls sites before (p.argument ++ rest) =
      p.guarded ++ guardCalls sites (p.argument.reverse ++ before) rest := by
  rw [Payload.argument, List.cons_append] at h ⊢
  rw [guardCalls, h]
  simp only [List.drop_left]
  rfl

theorem guardCalls_induction (sites : Sites) {P : List Char → List Char → Prop}
    (nil : ∀ before, P before [])
    (site : ∀ before p rest, siteAt? sites before (p.argument ++ rest) = some p →
      P (p.argument.reverse ++ before) rest → P before (p.argument ++ rest))
    (miss : ∀ before c rest, siteAt? sites before (c :: rest) = none →
      P (c :: before) rest → P before (c :: rest)) (before text : List Char) : P before text := by
  induction hk : text.length using Nat.strongRecOn generalizing before text with
  | ind k ih =>
    cases text with
    | nil => exact nil before
    | cons c rest =>
      rw [List.length_cons] at hk
      cases hs : siteAt? sites before (c :: rest) with
      | none => exact miss before c rest hs (ih rest.length (by omega) _ rest rfl)
      | some p =>
        obtain ⟨after, hafter⟩ := (siteAt?_eq_some_iff.1 hs).1
        have hlen : after.length < k := by
          have := congrArg List.length hafter
          rw [List.length_append, Payload.argument, List.length_cons, List.length_cons] at this
          omega
        rw [← hafter] at hs ⊢
        exact site before p after hs (ih after.length hlen _ after rfl)

/-! ## What the pass keeps -/

/-- Order and repetition of the calls do not matter. -/
theorem guardCalls_congr {sites sites' : Sites} (h : ∀ s, s ∈ sites ↔ s ∈ sites')
    (before text : List Char) : guardCalls sites before text = guardCalls sites' before text := by
  have hsite : ∀ before text, siteAt? sites before text = siteAt? sites' before text := by
    intro before text
    ext p
    rw [siteAt?_eq_some_iff, siteAt?_eq_some_iff]
    simp only [h]
  induction before, text using guardCalls_induction sites with
  | nil before => rw [guardCalls_nil, guardCalls_nil]
  | site before p rest hs ih =>
    rw [guardCalls_site _ _ _ _ hs, guardCalls_site _ _ _ _ (hsite _ _ ▸ hs), ih]
  | miss before c rest hs ih =>
    rw [guardCalls_miss _ _ _ _ hs, guardCalls_miss _ _ _ _ (hsite _ _ ▸ hs), ih]

theorem guardCalls_of_no_sites (before text : List Char) : guardCalls [] before text = text := by
  induction text generalizing before with
  | nil => rw [guardCalls_nil]
  | cons c rest ih => rw [guardCalls_miss _ _ _ _ rfl, ih]

/-- A text in which no argument begins is passed over. -/
theorem guardCalls_pass (sites : Sites) (rest : List Char) : ∀ (plain before : List Char),
    (∀ mid tail, plain = mid ++ tail → tail ≠ [] →
      siteAt? sites (mid.reverse ++ before) (tail ++ rest) = none) →
    guardCalls sites before (plain ++ rest) =
      plain ++ guardCalls sites (plain.reverse ++ before) rest
  | [], before, _ => rfl
  | c :: plain, before, h => by
    have hfirst : siteAt? sites before (c :: (plain ++ rest)) = none :=
      h [] (c :: plain) rfl (List.cons_ne_nil _ _)
    have ih := guardCalls_pass sites rest plain (c :: before) fun mid tail hplain hne => by
      have := h (c :: mid) tail (congrArg (c :: ·) hplain) hne
      rwa [List.reverse_cons, List.append_assoc] at this
    rw [List.cons_append, guardCalls_miss _ _ _ _ hfirst, ih, List.reverse_cons, List.append_assoc]
    rfl

theorem guardCalls_append (sites : Sites) (plain rest : List Char) (h : '(' ∉ plain)
    (before : List Char) : guardCalls sites before (plain ++ rest) =
      plain ++ guardCalls sites (plain.reverse ++ before) rest := by
  refine guardCalls_pass sites rest plain before fun mid tail hplain hne => ?_
  obtain ⟨c, tail, rfl⟩ := List.exists_cons_of_ne_nil hne
  refine siteAt?_of_ne_paren _ _ _ _ fun hc => h ?_
  rw [hplain, hc]
  exact List.mem_append_right _ List.mem_cons_self

theorem guardCalls_paren (sites : Sites) (before rest : List Char) :
    ∃ rest', guardCalls sites before ('(' :: rest) = '(' :: rest' := by
  cases hs : siteAt? sites before ('(' :: rest) with
  | none => exact ⟨_, guardCalls_miss _ _ _ _ hs⟩
  | some p =>
    rw [guardCalls, hs]
    exact ⟨_, rfl⟩

theorem prefix_guardCalls_iff (sites : Sites) (plain : List Char) (h : '(' ∉ plain) :
    ∀ before text, plain <+: guardCalls sites before text ↔ plain <+: text := by
  induction plain with
  | nil => intro before text; simp only [List.nil_prefix]
  | cons d plain ih =>
    intro before text
    rw [List.mem_cons, not_or] at h
    cases text with
    | nil => rw [guardCalls_nil]
    | cons c rest =>
      by_cases hc : c = '('
      · subst hc
        obtain ⟨rest', hrest'⟩ := guardCalls_paren sites before rest
        rw [hrest', List.cons_prefix_cons, List.cons_prefix_cons]
        exact ⟨fun hd => absurd hd.1.symm h.1, fun hd => absurd hd.1.symm h.1⟩
      · rw [guardCalls_miss _ _ _ _ (siteAt?_of_ne_paren _ _ _ _ hc), List.cons_prefix_cons,
          List.cons_prefix_cons, ih h.2]

/-! ## One pass after another -/

/-- Calls whose variables are words. -/
def ProperSites (sites : Sites) : Prop := ∀ p var, (p, var) ∈ sites → IsWord var

theorem properSites_singleton {var : List Char} (hvar : IsWord var) (p : Payload) :
    ProperSites [(p, var)] := by
  intro q w hmem
  obtain ⟨rfl, rfl⟩ : q = p ∧ w = var := by simpa using hmem
  exact hvar

theorem IsWord.setter {var : List Char} (h : IsWord var) :
    ∀ c ∈ setter var, Unicode.isWord c = true := by
  intro c hc
  simp only [TableGuard.setter, List.mem_cons] at hc
  rcases hc with rfl | rfl | rfl | hc
  · decide
  · decide
  · decide
  · exact h.2 c hc

theorem IsWord.notMem_setter {var : List Char} (h : IsWord var) {c : Char}
    (hc : Unicode.isWord c = false) : c ∉ TableGuard.setter var := by
  intro hmem
  rw [h.setter c hmem] at hc
  cases hc

/-- A beginning of word characters only lies within the word at the beginning. -/
theorem prefix_takeWhile_iff {q : Char → Bool} {text before : List Char}
    (h : ∀ c ∈ text, q c = true) : text <+: before.takeWhile q ↔ text <+: before := by
  constructor
  · exact fun hp => hp.trans (List.takeWhile_prefix q)
  · rintro ⟨rest, rfl⟩
    rw [List.takeWhile_append_of_pos h]
    exact List.prefix_append _ _

/-- Only the word directly in front decides whether an argument belongs to a call. -/
theorem siteAt?_congr_word {sites : Sites} (hs : ProperSites sites) {before before' : List Char}
    (h : before.takeWhile Unicode.isWord = before'.takeWhile Unicode.isWord) (text : List Char) :
    siteAt? sites before text = siteAt? sites before' text := by
  have hset : ∀ p var, (p, var) ∈ sites →
      ((setter var).reverse <+: before ↔ (setter var).reverse <+: before') := by
    intro p var hmem
    have hword : ∀ c ∈ (setter var).reverse, Unicode.isWord c = true := fun c hc =>
      (hs p var hmem).setter c (List.mem_reverse.1 hc)
    rw [← prefix_takeWhile_iff hword, h, prefix_takeWhile_iff hword]
  ext p
  rw [siteAt?_eq_some_iff, siteAt?_eq_some_iff]
  constructor
  · rintro ⟨harg, var, hmem, hv⟩
    exact ⟨harg, var, hmem, (hset p var hmem).1 hv⟩
  · rintro ⟨harg, var, hmem, hv⟩
    exact ⟨harg, var, hmem, (hset p var hmem).2 hv⟩

theorem Payload.guarded_eq (p : Payload) : p.guarded =
    '(' :: ("Array.isArray".toList ++
      '(' :: (p.text ++ ") ? ".toList ++ p.text ++ " : [])".toList)) := by
  cases p <;> rfl

theorem Payload.paren_notMem_guarded_end (p : Payload) :
    '(' ∉ p.text ++ ") ? ".toList ++ p.text ++ " : [])".toList := by
  cases p <;> decide

/-- Behind the first parenthesis of a guard stands another word than in an argument. -/
theorem siteAt?_outer (sites : Sites) (before text : List Char) :
    siteAt? sites before ('(' :: ("Array.isArray".toList ++ text)) = none := by
  rw [siteAt?_eq_none_iff]
  intro q harg
  change q.argument <+: '(' :: 'A' :: ("rray.isArray".toList ++ text) at harg
  have : 'r' = 'A' := by
    cases q <;>
      exact (List.cons_prefix_cons.1 (List.cons_prefix_cons.1 harg).2).1
  exact absurd this (by decide)

/-- The word in front of its second parenthesis has no `t` in it, so it ends in no setter. -/
theorem siteAt?_inner {sites : Sites} (hs : ProperSites sites) (before text : List Char) :
    siteAt? sites (('(' :: "Array.isArray".toList).reverse ++ before) ('(' :: text) = none := by
  rw [siteAt?_eq_none_iff]
  intro q _ var hmem hset
  have hword : ∀ c ∈ (setter var).reverse, Unicode.isWord c = true := fun c hc =>
    (hs q var hmem).setter c (List.mem_reverse.1 hc)
  rw [← prefix_takeWhile_iff hword] at hset
  have ht : 't' ∈ "yarrAsi".toList := hset.mem (by simp [setter])
  exact absurd ht (by decide)

theorem siteAt?_guarded {sites : Sites} (hs : ProperSites sites) {p : Payload}
    {mid rest : List Char} (h : p.guarded = mid ++ rest) (hne : rest ≠ []) (before text : List Char) :
    siteAt? sites (mid.reverse ++ before) (rest ++ text) = none := by
  obtain ⟨c, rest, rfl⟩ := List.exists_cons_of_ne_nil hne
  by_cases hc : c = '('
  · subst hc
    rw [p.guarded_eq] at h
    cases mid with
    | nil =>
      obtain rfl := (List.cons.inj h).2
      rw [List.cons_append, List.append_assoc]
      exact siteAt?_outer sites _ _
    | cons d mid =>
      rw [List.cons_append, List.cons_eq_cons] at h
      obtain ⟨rfl, hrest⟩ := h
      have hword : '(' ∉ "Array.isArray".toList := by decide
      obtain ⟨rfl, -⟩ :=
        (List.append_cons_inj_of_notMem hword p.paren_notMem_guarded_end).1 hrest
      exact siteAt?_inner hs _ _
  · exact siteAt?_of_ne_paren _ _ _ _ hc

/-- **Nothing that was written is a call.** A guarded argument is passed over. -/
theorem guardCalls_guarded {sites : Sites} (hs : ProperSites sites) (p : Payload)
    (before rest : List Char) :
    guardCalls sites before (p.guarded ++ rest) =
      p.guarded ++ guardCalls sites (p.guarded.reverse ++ before) rest :=
  guardCalls_pass sites rest p.guarded before fun _ _ hguarded hne =>
    siteAt?_guarded hs hguarded hne before rest

theorem siteAt?_append (s₁ s₂ : Sites) (before text : List Char) :
    siteAt? (s₁ ++ s₂) before text = (siteAt? s₁ before text).or (siteAt? s₂ before text) := by
  rw [siteAt?, List.find?_append, Option.map_or]
  rfl

/-- An argument that belongs to none of the calls is passed over. -/
theorem guardCalls_argument (sites : Sites) (p : Payload) (before rest : List Char)
    (h : siteAt? sites before (p.argument ++ rest) = none) :
    guardCalls sites before (p.argument ++ rest) =
      p.argument ++ guardCalls sites (p.argument.reverse ++ before) rest := by
  rw [Payload.argument, List.cons_append] at h ⊢
  rw [guardCalls_miss _ _ _ _ h, guardCalls_append _ _ _ p.paren_notMem_text]
  simp

/-- **Guarding some calls after others is guarding all of them at once.** The text in front may
differ, as long as it ends in the same word. -/
theorem guardCalls_guardCalls {s₁ s₂ : Sites} (hs : ProperSites s₂) (before text : List Char) :
    ∀ before', before.takeWhile Unicode.isWord = before'.takeWhile Unicode.isWord →
      guardCalls s₂ before' (guardCalls s₁ before text) = guardCalls (s₁ ++ s₂) before text := by
  induction before, text using guardCalls_induction (s₁ ++ s₂) with
  | nil before => intro before' _; simp only [guardCalls_nil]
  | site before p rest hsite ih =>
    intro before' htail
    rw [guardCalls_site _ _ _ _ hsite]
    rw [siteAt?_append] at hsite
    cases h₁ : siteAt? s₁ before (p.argument ++ rest) with
    | some q =>
      -- Guarded in the first pass: the second finds nothing to do within the guard.
      obtain rfl : q = p := by rw [h₁] at hsite; exact Option.some.inj hsite
      rw [guardCalls_site _ _ _ _ h₁, guardCalls_guarded hs]
      rw [ih (q.guarded.reverse ++ before') (by cases q <;> rfl)]
    | none =>
      -- Left to the second pass: the first copies the argument, and the setter in front of it.
      rw [h₁, Option.none_or] at hsite
      have hsite' : siteAt? s₂ before' (p.argument ++
          guardCalls s₁ (p.argument.reverse ++ before) rest) = some p := by
        rw [← siteAt?_congr_word hs htail]
        obtain ⟨-, hvar⟩ := siteAt?_eq_some_iff.1 hsite
        exact siteAt?_eq_some_iff.2 ⟨List.prefix_append _ _, hvar⟩
      rw [guardCalls_argument _ _ _ _ h₁, guardCalls_site _ _ _ _ hsite',
        ih (p.argument.reverse ++ before') (by cases p <;> rfl)]
  | miss before c rest hmiss ih =>
    intro before' htail
    rw [guardCalls_miss _ _ _ _ hmiss]
    rw [siteAt?_append, Option.or_eq_none_iff] at hmiss
    obtain ⟨h₁, h₂⟩ := hmiss
    -- Behind `c`, the first pass neither makes nor breaks a text without opening parentheses.
    have h₂' : siteAt? s₂ before' (c :: guardCalls s₁ (c :: before) rest) = none := by
      rw [← siteAt?_congr_word hs htail]
      rw [siteAt?_eq_none_iff] at h₂ ⊢
      intro p harg
      apply h₂ p
      rw [Payload.argument, List.cons_prefix_cons] at harg ⊢
      exact ⟨harg.1, (prefix_guardCalls_iff s₁ _ p.paren_notMem_text _ _).1 harg.2⟩
    rw [guardCalls_miss _ _ _ _ h₁, guardCalls_miss _ _ _ _ h₂', ih (c :: before')]
    rw [List.takeWhile_cons, List.takeWhile_cons, htail]

end TableGuard
