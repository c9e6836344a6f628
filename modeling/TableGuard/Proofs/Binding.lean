import Mathlib.Data.String.Basic
import Mathlib.Data.List.TakeWhile
import TableGuard.Analysis
import TableGuard.Config
import TableGuard.Proofs.Guard
import TableGuard.Proofs.Regex.Size
import TableGuard.Proofs.Text.Sorted
import TableGuard.Proofs.Text.Utf8

/-!
# Bindings

A binding gives the attribute a variable in braces. The pattern for bindings finds exactly those
whose variable is a word, and for a proper attribute it finds all of them: no two bindings overlap.

* `bindingText` : the text of a binding;
* `parse?_bindingPattern`, `fits_bindingExpr` : the expression of the pattern, and its size;
* `Analyzer.make_eq_ok` : attributes up to `maxAttribute` bytes make an analyzer;
* `solid_binding` : what the pattern matches;
* `binding_of_mem_boundVariables` : a bound variable is a word in a binding, whatever the attribute;
* `mem_boundVariables` : for a plain attribute the bound variables are the words in bindings.
-/

namespace TableGuard

def bindingText (attr var : List Char) : List Char := attr ++ ('=' :: '{' :: (var ++ ['}']))

theorem mark_infix_bindingText (attr var : List Char) : attr ++ ['='] <:+: bindingText attr var :=
  ⟨[], '{' :: (var ++ ['}']), by simp [bindingText]⟩

/-! ## The pattern -/

def bindingExpr (attr : List Char) : Regex.Expr :=
  .seq (.literal (attr ++ ['=', '{']))
    (.seq (.group 1 (.repeated 1 none true (.set .characters Unicode.word))) (.literal ['}']))

open Regex in
/-- The pattern behind the attribute: a group with a word in it, and a brace. -/
theorem run?_wordGroup (fuel : Nat) (text : List Char) :
    Reading.run? (fuel + 6) (Reading.start.pushChars text) ['(', '\\', 'w', '+', ')', '\\', '}'] =
      Reading.finish? { Reading.start with
        count := 1
        scope := ⟨[], .expr ⟨.literal ['}'], 0⟩ ::
          .expr ⟨.group 1 (.repeated 1 none true (.set .characters Unicode.word)), 2⟩ ::
          (Reading.start.pushChars text).scope.parts⟩ } := rfl

theorem sequence_binding (text : List Char) (hne : text ≠ []) (e : Regex.Expr) (i : Nat) :
    Regex.Expr.sequence ((text.map fun c => Regex.Expr.literal [c]) ++
        [.group i e, .literal ['}']]) =
      .seq (.literal text) (.seq (.group i e) (.literal ['}'])) := by
  rw [Regex.Expr.sequence, List.flatMap_append, Regex.Expr.flatMap_factors_chars,
    List.foldr_append]
  change Regex.Expr.ofFactors (List.foldr Regex.Expr.consFactor [.group i e, .literal ['}']] _) = _
  rw [Regex.Expr.foldr_consFactor_chars text _ hne (by simp)]
  rfl

theorem levels_binding (text : List Char) (hne : text ≠ []) :
    Regex.levels ((text.map fun _ => 0) ++ [2, 0]) = 3 := by
  cases text with
  | nil => exact absurd rfl hne
  | cons c text =>
    have hlevels : Regex.levels (((c :: text).map fun _ => 0) ++ [2, 0]) =
        (((c :: text).map fun _ => 0) ++ [2, 0]).foldl max 0 + 1 := by
      cases text <;> rfl
    rw [hlevels, List.foldl_append, Regex.foldl_max_zeros]
    rfl

open Regex in
theorem branch_binding (text : List Char) (hne : text ≠ []) (e : Expr) (i : Nat) :
    (Scope.mk [] (.expr ⟨.literal ['}'], 0⟩ :: .expr ⟨.group i e, 2⟩ ::
      (Reading.start.pushChars text).scope.parts)).branch =
        ⟨.seq (.literal text) (.seq (.group i e) (.literal ['}'])), 3⟩ := by
  have hparts : (Part.expr ⟨.literal ['}'], 0⟩ :: .expr ⟨.group i e, 2⟩ ::
      (Reading.start.pushChars text).scope.parts).reverse.map Part.toNested =
      (text.map fun c => ⟨.literal [c], 0⟩) ++ [⟨.group i e, 2⟩, ⟨.literal ['}'], 0⟩] := by
    simp [Reading.pushChars, Reading.start, Scope.start, Part.toNested]
  rw [Scope.branch, hparts, beside, List.map_append, List.map_append, List.map_map, List.map_map]
  simp only [Function.comp_def, List.map_cons, List.map_nil]
  rw [sequence_binding _ hne, levels_binding _ hne]

open Regex in
/-- **The pattern for bindings**: the attribute and a brace, a word, and a brace. -/
theorem parse?_bindingPattern (attr : String) :
    parse? (Analyzer.bindingPattern attr) = some (bindingExpr attr.toList) := by
  have hne : attr.toList ++ ['=', '{'] ≠ [] := by simp
  have hpattern : Analyzer.bindingPattern attr =
      quote (attr.toList ++ ['=', '{']) ++ ['(', '\\', 'w', '+', ')', '\\', '}'] := by
    rw [Analyzer.bindingPattern, quote_append, List.append_assoc]
    rfl
  obtain ⟨fuel, hfuel⟩ : ∃ fuel, (Analyzer.bindingPattern attr).length + 1 =
      (fuel + 6) + (attr.toList ++ ['=', '{']).length := by
    have hle := length_le_length_quote (attr.toList ++ ['=', '{'])
    refine ⟨(quote (attr.toList ++ ['=', '{'])).length - (attr.toList ++ ['=', '{']).length + 2, ?_⟩
    rw [hpattern, List.length_append]
    simp only [List.length_cons, List.length_nil]
    omega
  rw [parse?, hfuel, hpattern, Reading.run?_quote _ _ _ _ rfl, run?_wordGroup]
  change (if (Scope.whole _).levels ≤ maxLevels then some (Scope.whole _).value else none) = _
  rw [Scope.whole, branch_binding _ hne]
  rfl

/-! ## The size of the pattern -/

/-- Attributes of so many bytes always make a pattern. -/
def maxAttribute : Nat := 320000

theorem weight_word : Regex.weight Unicode.word.byteSequences = 3388 ∧
    Unicode.word.byteSequences.length = 995 := by decide +kernel

open Regex in
theorem within_wordGroup (d : Direction) :
    (((Piece.ofSet d Unicode.word).repeated true 1 none).grouped d).Within 3393 31092 := by
  have hascii : (Unicode.word.ranges.all fun r => r.2 < 0x80) = false := by decide
  have hset := Piece.Within.ofSet hascii d
  rw [weight_word.1, weight_word.2] at hset
  have hlink : (Piece.ofSet d Unicode.word).link = 0 := by
    rw [Piece.ofSet, if_neg (by rw [hascii]; exact Bool.false_ne_true)]
    cases d <;> rfl
  have hgroup := (hset.plus true).grouped d
  rw [hlink] at hgroup
  exact hgroup

open Regex in
theorem piece_bindingExpr_forward (attr : List Char) :
    (bindingExpr attr).piece .forward =
      (Piece.ofWord (attr ++ ['=', '{'])).followedBy
        ((((Piece.ofSet .forward Unicode.word).repeated true 1 none).grouped .forward).followedBy
          (Piece.ofWord ['}'])) := rfl

open Regex in
theorem piece_bindingExpr_backward (attr : List Char) :
    (bindingExpr attr).piece .backward =
      ((Piece.ofWord ['}']).followedBy
        (((Piece.ofSet .backward Unicode.word).repeated true 1 none).grouped .backward)).followedBy
          (Piece.ofWord (attr ++ ['=', '{'])) := rfl

open Regex in
theorem within_bindingExpr (attr : List Char) (d : Direction) :
    ((bindingExpr attr).piece d).Within (Utf8.size attr + 3396) 31096 := by
  have hattr := Piece.Within.ofWord (attr ++ ['=', '{'])
  have hbrace := Piece.Within.ofWord ['}']
  have hgroup := within_wordGroup d
  rw [Utf8.size_append, show Utf8.size ['=', '{'] = 2 from rfl] at hattr
  rw [show Utf8.size ['}'] = 1 from rfl] at hbrace
  cases d with
  | forward =>
    have hlink : ∀ word, (Piece.ofWord word).link = 0 := fun _ => rfl
    have hgroupLink : (((Piece.ofSet .forward Unicode.word).repeated true 1 none).grouped
      .forward).link = 0 := rfl
    rw [piece_bindingExpr_forward]
    exact (hattr.followedBy (hgroup.followedBy hbrace)).mono (by omega)
      (by rw [hlink, hgroupLink]; omega)
  | backward =>
    have hlink : (Piece.ofWord ['}']).link = 0 := rfl
    have hgroupLink : ((Piece.ofWord ['}']).followedBy (((Piece.ofSet .backward
      Unicode.word).repeated true 1 none).grouped .backward)).link = 4 := rfl
    rw [piece_bindingExpr_backward]
    exact ((hbrace.followedBy hgroup).followedBy hattr).mono (by omega)
      (by rw [hlink, hgroupLink])

open Regex in
theorem fits_bindingExpr {attr : List Char} (h : Utf8.size attr ≤ maxAttribute) :
    (bindingExpr attr).fits = true := by
  have hforward := ((within_bindingExpr attr .forward).grouped .forward) ⟨3, 16⟩
  have hbackward := (within_bindingExpr attr .backward) ⟨3, 16⟩
  have hlink : ((bindingExpr attr).piece .forward).link = 0 := rfl
  have hlink' : ((bindingExpr attr).piece .backward).link = 0 := rfl
  have hstart : Expr.lead (bindingExpr attr).startsText = ⟨3, 16⟩ := rfl
  have hend : Expr.lead (bindingExpr attr).endsText = ⟨3, 16⟩ := rfl
  rw [hlink] at hforward
  dsimp only at hforward hbackward
  unfold maxAttribute at h
  rw [Expr.fits_of_branches rfl, Bool.and_eq_true, Bool.not_eq_true', Bool.not_eq_true',
    Tally.exceeds_eq_false, Tally.exceeds_eq_false, Expr.forwardTally, Expr.backwardTally, hstart,
    hend]
  simp only [Tally.add, hlink']
  omega

open Regex in
/-- The attribute alone takes too many states. -/
theorem not_fits_bindingExpr {attr : List Char} (h : maxLiteral < Utf8.size attr) :
    (bindingExpr attr).fits = false := by
  have hsize : Utf8.size (attr ++ ['=', '{']) = Utf8.size attr + 2 := by
    rw [Utf8.size_append]
    rfl
  have hexceeds : Tally.exceeds ⟨3 + 1 + Utf8.size (attr ++ ['=', '{']), 16⟩ = true := by
    rw [← Bool.not_eq_false, Tally.exceeds_eq_false, hsize]
    dsimp only
    unfold maxLiteral at h
    omega
  have htally : (bindingExpr attr).forwardTally =
      ⟨3 + 1 + Utf8.size (attr ++ ['=', '{']) + 1 + 1, 16⟩ := by
    unfold Expr.forwardTally
    rw [piece_bindingExpr_forward]
    change (((if Tally.exceeds ⟨3 + 1 + Utf8.size (attr ++ ['=', '{']), 16⟩ = true then
      Tally.mk (3 + 1 + Utf8.size (attr ++ ['=', '{'])) 16 else _).add 1 _).add 1 0) = _
    rw [if_pos hexceeds]
    rfl
  have hforward : (bindingExpr attr).forwardTally.exceeds = true := by
    rw [← Bool.not_eq_false, Tally.exceeds_eq_false] at hexceeds ⊢
    rw [htally]
    dsimp only at hexceeds ⊢
    omega
  rw [Expr.fits_of_branches rfl, hforward]
  rfl

/-! ## Matching -/

/-- The length of a word and a closing brace at the beginning of a text. -/
def wordLength? (text : List Char) : Option Nat :=
  if text.takeWhile Unicode.isWord ≠ [] ∧ ['}'] <+: text.dropWhile Unicode.isWord then
    some ((text.takeWhile Unicode.isWord).length + 1)
  else none

/-- The length of a binding at the beginning of a text. -/
def bindingLength? (attr text : List Char) : Option Nat :=
  if attr ++ ['=', '{'] <+: text then
    (wordLength? (text.drop (attr.length + 2))).map (attr.length + 2 + ·)
  else none

theorem wordLength?_eq_some_iff {text : List Char} {n : Nat} :
    wordLength? text = some n ↔
      ∃ var rest, IsWord var ∧ text = var ++ '}' :: rest ∧ n = var.length + 1 := by
  unfold wordLength?
  constructor
  · intro h
    split at h
    · rename_i hword
      obtain ⟨hne, rest, hrest⟩ := hword
      refine ⟨text.takeWhile Unicode.isWord, rest, ⟨hne, fun c hc => List.mem_takeWhile_imp hc⟩,
        ?_, (Option.some.inj h).symm⟩
      rw [← List.singleton_append, hrest, List.takeWhile_append_dropWhile]
    · cases h
  · rintro ⟨var, rest, ⟨hne, hvar⟩, rfl, rfl⟩
    have hbrace : ¬ Unicode.isWord '}' = true := by decide
    rw [List.takeWhile_append_of_pos hvar, List.dropWhile_append_of_pos hvar,
      List.takeWhile_cons_of_neg hbrace, List.dropWhile_cons_of_neg hbrace, List.append_nil,
      if_pos ⟨hne, List.prefix_append ['}'] rest⟩]

theorem bindingText_eq (attr var : List Char) :
    bindingText attr var = (attr ++ ['=', '{']) ++ (var ++ ['}']) := by
  rw [bindingText, List.append_assoc]
  rfl

theorem bindingLength?_eq_some_iff {attr text : List Char} {n : Nat} :
    bindingLength? attr text = some n ↔
      ∃ var rest, IsWord var ∧ text = bindingText attr var ++ rest ∧
        n = (bindingText attr var).length := by
  have hlength : (attr ++ ['=', '{']).length = attr.length + 2 := by simp
  have hdrop : ∀ rest, ((attr ++ ['=', '{']) ++ rest).drop (attr.length + 2) = rest := by
    intro rest
    rw [← hlength, List.drop_left]
  unfold bindingLength?
  constructor
  · intro h
    split at h
    · rename_i hpre
      obtain ⟨rest, rfl⟩ := hpre
      obtain ⟨k, hk, rfl⟩ := Option.map_eq_some_iff.1 h
      rw [hdrop] at hk
      obtain ⟨var, rest, hvar, rfl, rfl⟩ := wordLength?_eq_some_iff.1 hk
      refine ⟨var, rest, hvar, ?_, ?_⟩
      · rw [bindingText_eq]
        simp
      · rw [bindingText_eq, List.length_append, hlength, List.length_append]
        rfl
    · cases h
  · rintro ⟨var, rest, hvar, rfl, rfl⟩
    rw [bindingText_eq, List.append_assoc, if_pos (List.prefix_append _ _), hdrop,
      wordLength?_eq_some_iff.2 ⟨var, rest, hvar, by simp, rfl⟩, List.length_append, hlength,
      List.length_append]
    rfl

open Regex in
theorem node_bindingExpr (attr : List Char) : Node.ofExpr (bindingExpr attr) =
    .cat (.chars (attr ++ ['=', '{'])) (.cat (.cat .empty
      (.cat (.set Unicode.word) (.loop 0 true (.set Unicode.word)))) (.chars ['}'])) := rfl

open Regex in
theorem follow_word (before : Option Char) (n : Nat) (text : List Char) :
    follow [[.set Unicode.word, .loop 0 true (.set Unicode.word), .chars ['}']]] before n none text =
      (wordLength? text).map (n + ·) := by
  have hbrace : Unicode.word.contains '}' = false := by decide
  rw [follow_set]
  unfold wordLength? Unicode.isWord
  cases text with
  | nil => simp
  | cons c rest =>
    by_cases hc : Unicode.word.contains c = true
    · dsimp only
      rw [if_pos hc, follow_loop 0 Unicode.word '}' [] hbrace, List.takeWhile_cons_of_pos hc,
        List.dropWhile_cons_of_pos hc]
      by_cases hend : ['}'] <+: rest.dropWhile Unicode.word.contains
      · rw [if_pos hend, if_pos ⟨List.cons_ne_nil _ _, hend⟩, Option.map_some, List.length_singleton,
          List.length_cons]
        congr 1
        omega
      · rw [if_neg hend, if_neg (fun h => hend h.2), Option.map_none]
    · dsimp only
      rw [if_neg hc, List.takeWhile_cons_of_neg hc, if_neg (fun h => h.1 rfl), Option.map_none]

open Regex in
/-- **The pattern matches bindings of words and nothing else.** -/
theorem solid_binding (attr : List Char) :
    Solid ⟨.ofExpr (bindingExpr attr)⟩ (bindingLength? attr) where
  matchLength before text := by
    rw [node_bindingExpr, Node.matchLength?, follow_cat, follow_chars, Nat.zero_add,
      List.length_append, List.length_cons, List.length_singleton, bindingLength?]
    simp only [follow_cat, follow_empty, follow_word]
  bounds text n hn := by
    obtain ⟨var, rest, -, rfl, rfl⟩ := bindingLength?_eq_some_iff.1 hn
    rw [List.length_append]
    refine ⟨?_, Nat.le_add_right _ _⟩
    rw [bindingText, List.length_append, List.length_cons]
    omega

/-! ## Bound variables -/

/-- An attribute that has no part of the rest of a binding in it. -/
structure PlainAttribute (attr : List Char) : Prop where
  ne_nil : attr ≠ []
  equals : '=' ∉ attr
  brace : '}' ∉ attr
  paren : '(' ∉ attr
  paren' : ')' ∉ attr

theorem plainAttribute {attr : String} (h : Config.isAttribute attr = true) :
    PlainAttribute attr.toList := by
  rw [Config.isAttribute, Bool.and_eq_true, Bool.not_eq_true', List.isEmpty_eq_false_iff,
    List.all_eq_true] at h
  have hnot : ∀ c, Config.isAttributeChar c = false → c ∉ attr.toList := by
    intro c hc hmem
    rw [h.2 c hmem] at hc
    cases hc
  exact ⟨h.1, hnot _ (by decide), hnot _ (by decide), hnot _ (by decide),
    hnot _ (by decide)⟩

theorem equals_notMem_braces {var : List Char} (hvar : IsWord var) : '=' ∉ '{' :: (var ++ ['}']) := by
  intro hmem
  simp only [List.mem_cons, List.mem_append, List.not_mem_nil, or_false] at hmem
  rcases hmem with h | h | h
  · exact absurd h (by decide)
  · exact absurd (hvar.2 _ h) (by decide)
  · exact absurd h (by decide)

theorem not_suffix_bindingText {attr var text : List Char} (hattr : PlainAttribute attr)
    (hne : text ≠ []) (htext : text ⊆ attr) : ¬ text <:+ bindingText attr var := by
  rintro ⟨start, h⟩
  obtain ⟨init, c, rfl⟩ := List.eq_nil_or_concat' text |>.resolve_left hne
  have hend : bindingText attr var = (attr ++ '=' :: '{' :: var) ++ ['}'] := by
    rw [bindingText, List.append_assoc]
    rfl
  rw [hend, ← List.append_assoc] at h
  obtain rfl : c = '}' := List.singleton_inj.1 (List.append_inj' h rfl).2
  exact hattr.brace (htext (by simp))

/-- The word in front of a brace is determined by the text. -/
theorem word_unique {var var' rest rest' : List Char} (hvar : IsWord var) (hvar' : IsWord var')
    (h : var' ++ '}' :: rest' = var ++ '}' :: rest) : var' = var := by
  have hbrace : ¬ Unicode.isWord '}' = true := by decide
  have htake := congrArg (List.takeWhile Unicode.isWord) h
  rwa [List.takeWhile_append_of_pos hvar'.2, List.takeWhile_append_of_pos hvar.2,
    List.takeWhile_cons_of_neg hbrace, List.takeWhile_cons_of_neg hbrace, List.append_nil,
    List.append_nil] at htake

/-- **Bindings do not overlap.** One that occurs in a text that begins with a binding is that
binding, or it lies behind it. -/
theorem infix_bindingText_append {attr var var' rest : List Char} (hattr : PlainAttribute attr)
    (hvar : IsWord var) (hvar' : IsWord var')
    (h : bindingText attr var' <:+: bindingText attr var ++ rest) :
    var' = var ∨ bindingText attr var' <:+: rest := by
  obtain ⟨start, after, h⟩ := h
  have hsplit : (start ++ attr) ++ ('=' :: '{' :: (var' ++ ['}']) ++ after) =
      bindingText attr var ++ rest := by
    rw [← h, bindingText]
    simp
  -- The sign of the binding that occurs stands in the first binding, or behind it.
  rcases List.append_eq_append_iff.1 hsplit with ⟨mid, hblock, hmid⟩ | ⟨mid, hblock, hrest⟩
  · left
    cases mid with
    | nil =>
      rw [List.append_nil] at hblock
      exact absurd ⟨start, hblock.symm⟩
        (not_suffix_bindingText hattr hattr.ne_nil (List.Subset.refl _))
    | cons c mid =>
      obtain ⟨rfl, hmid⟩ := List.cons.inj hmid
      obtain ⟨-, -, rfl⟩ := (List.append_cons_inj_of_notMem hattr.equals
        (equals_notMem_braces hvar)).1 hblock
      have hword : var' ++ '}' :: after = var ++ '}' :: rest := by simpa using hmid
      exact word_unique hvar hvar' hword
  · right
    rcases List.append_eq_append_iff.1 hblock with ⟨part, hpart, hattr'⟩ | ⟨part, -, hpart⟩
    · by_cases hne : part = []
      · rw [hne, List.nil_append] at hattr'
        refine ⟨[], after, ?_⟩
        rw [hrest, ← hattr', bindingText]
        simp
      · exact absurd ⟨start, hpart.symm⟩
          (not_suffix_bindingText hattr hne (hattr' ▸ List.subset_append_left _ _))
    · refine ⟨part, after, ?_⟩
      rw [hrest, hpart, bindingText]
      simp

/-- What the pattern finds are bindings of words. -/
theorem binding_of_mem_hits_cut {attr text hit : List Char}
    (hmem : hit ∈ ((Regex.mk (.ofExpr (bindingExpr attr))).cut text).hits.map Prod.snd) :
    ∃ var, IsWord var ∧ hit = bindingText attr var ∧ hit <:+: text := by
  have hsolid := solid_binding attr
  induction text using hsolid.induction with
  | nil =>
    rw [hsolid.cut_nil] at hmem
    exact absurd hmem List.not_mem_nil
  | hit text n hn ih =>
    obtain ⟨var, rest, hvar, rfl, rfl⟩ := bindingLength?_eq_some_iff.1 hn
    rw [hsolid.cut_hit _ _ hn, List.map_cons, List.mem_cons, List.take_left, List.drop_left] at hmem
    rw [List.drop_left] at ih
    rcases hmem with rfl | hmem
    · exact ⟨var, hvar, rfl, (List.prefix_append _ _).isInfix⟩
    · obtain ⟨var', hvar', rfl, hoccurs⟩ := ih hmem
      exact ⟨var', hvar', rfl, hoccurs.trans (List.suffix_append _ _).isInfix⟩
  | miss c rest hn ih =>
    rw [hsolid.cut_miss _ _ hn, Regex.Cut.mem_hits_lead] at hmem
    obtain ⟨var, hvar, rfl, hoccurs⟩ := ih hmem
    exact ⟨var, hvar, rfl, hoccurs.trans (List.suffix_cons c rest).isInfix⟩

/-- The pattern finds all bindings of words. -/
theorem mem_hits_cut_binding {attr var text : List Char} (hattr : PlainAttribute attr)
    (hvar : IsWord var) (hoccurs : bindingText attr var <:+: text) :
    bindingText attr var ∈
      ((Regex.mk (.ofExpr (bindingExpr attr))).cut text).hits.map Prod.snd := by
  have hsolid := solid_binding attr
  induction text using hsolid.induction with
  | nil =>
    rw [List.infix_nil, bindingText, List.append_eq_nil_iff] at hoccurs
    exact absurd hoccurs.1 hattr.ne_nil
  | hit text n hn ih =>
    -- Bindings do not overlap, so none is lost by going on behind a match.
    obtain ⟨var', rest, hvar', rfl, rfl⟩ := bindingLength?_eq_some_iff.1 hn
    rw [hsolid.cut_hit _ _ hn, List.map_cons, List.mem_cons, List.take_left]
    rw [List.drop_left] at ih ⊢
    rcases infix_bindingText_append hattr hvar' hvar hoccurs with rfl | hrest
    · exact .inl rfl
    · exact .inr (ih hrest)
  | miss c rest hn ih =>
    rw [hsolid.cut_miss _ _ hn, Regex.Cut.mem_hits_lead]
    refine ih ((List.infix_cons_iff.1 hoccurs).resolve_left ?_)
    rintro ⟨after, hafter⟩
    have hsome := bindingLength?_eq_some_iff.2 ⟨var, after, hvar, hafter.symm, rfl⟩
    rw [hn] at hsome
    cases hsome

theorem Analyzer.make_eq_ok_iff {attr : String} {registry : Registry} {analyzer : Analyzer} :
    Analyzer.make attr registry = .ok analyzer ↔
      (bindingExpr attr.toList).fits = true ∧
        analyzer = ⟨attr, ⟨.ofExpr (bindingExpr attr.toList)⟩, registry⟩ := by
  rw [Analyzer.make, Regex.compile?, parse?_bindingPattern, Option.bind_some]
  by_cases hfits : (bindingExpr attr.toList).fits = true
  · rw [if_pos hfits]
    exact ⟨fun h => ⟨hfits, (Except.ok.inj h).symm⟩, fun h => congrArg Except.ok h.2.symm⟩
  · rw [if_neg hfits]
    exact ⟨fun h => (by cases h), fun h => absurd h.1 hfits⟩

/-- Attributes of at most `maxAttribute` bytes make an analyzer. -/
theorem Analyzer.make_eq_ok (attr : String) (h : Utf8.size attr.toList ≤ maxAttribute)
    (registry : Registry) : Analyzer.make attr registry =
      .ok ⟨attr, ⟨.ofExpr (bindingExpr attr.toList)⟩, registry⟩ :=
  Analyzer.make_eq_ok_iff.2 ⟨fits_bindingExpr h, rfl⟩

theorem Analyzer.make_eq_error {attr : String} (h : Regex.maxLiteral < Utf8.size attr.toList)
    (registry : Registry) : ∃ e, Analyzer.make attr registry = .error e := by
  cases hmake : Analyzer.make attr registry with
  | error e => exact ⟨e, rfl⟩
  | ok analyzer =>
    have hfits := (Analyzer.make_eq_ok_iff.1 hmake).1
    rw [not_fits_bindingExpr h] at hfits
    cases hfits

section Variables

variable {attr : String} {registry : Registry} {analyzer : Analyzer}
  (hmake : Analyzer.make attr registry = .ok analyzer)
include hmake

theorem Analyzer.boundName_bindingText (var : List Char) :
    analyzer.boundName (bindingText attr.toList var) = String.ofList var := by
  obtain ⟨-, rfl⟩ := Analyzer.make_eq_ok_iff.1 hmake
  rw [Analyzer.boundName, bindingText_eq,
    show attr.toList.length + 2 = (attr.toList ++ ['=', '{']).length by simp, List.drop_left,
    List.dropLast_concat]

theorem mem_boundVariables_iff_exists {content var : String} :
    var ∈ analyzer.boundVariables content ↔
      ∃ hit ∈ ((Regex.mk (.ofExpr (bindingExpr attr.toList))).cut content.toList).hits.map Prod.snd,
        analyzer.boundName hit = var := by
  obtain ⟨-, rfl⟩ := Analyzer.make_eq_ok_iff.1 hmake
  rw [Analyzer.boundVariables, mem_sortDistinct, ← List.mem_map, List.map_map]
  rfl

theorem binding_of_mem_boundVariables {content var : String}
    (hmem : var ∈ analyzer.boundVariables content) :
    IsWord var.toList ∧ bindingText attr.toList var.toList <:+: content.toList := by
  obtain ⟨hit, hhit, rfl⟩ := (mem_boundVariables_iff_exists hmake).1 hmem
  obtain ⟨var, hvar, rfl, hoccurs⟩ := binding_of_mem_hits_cut hhit
  rw [Analyzer.boundName_bindingText hmake, String.toList_ofList]
  exact ⟨hvar, hoccurs⟩

end Variables

/-- **The bound variables are the words in bindings**, for a plain attribute. -/
theorem mem_boundVariables {attr : String} {registry : Registry} {analyzer : Analyzer}
    (hattr : PlainAttribute attr.toList) (hmake : Analyzer.make attr registry = .ok analyzer)
    (content var : String) :
    var ∈ analyzer.boundVariables content ↔
      IsWord var.toList ∧ bindingText attr.toList var.toList <:+: content.toList := by
  refine ⟨binding_of_mem_boundVariables hmake, fun ⟨hvar, hoccurs⟩ => ?_⟩
  refine (mem_boundVariables_iff_exists hmake).2
    ⟨_, mem_hits_cut_binding hattr hvar hoccurs, ?_⟩
  rw [Analyzer.boundName_bindingText hmake, String.ofList_toList]

end TableGuard
