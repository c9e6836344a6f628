import Mathlib.Data.List.Basic
import TableGuard.Proofs.Regex.Follow
import TableGuard.Proofs.Regex.Search
import TableGuard.Text.Basic

/-!
# Quoted texts as patterns

A quoted text is a pattern for that text and nothing else.

* `Reading.run?_quote` : reading a quoted text pushes its characters one by one;
* `parse?_quote` : its expression is one literal;
* `Expr.fits_literal` : its automata stay within the limit up to `maxLiteral` bytes;
* `compile?_quote` : when it is ready for matching, and what it has become;
* `solid_chars` : it matches the text and nothing else;
* `first?_chars_eq_none_iff`, `replace_cut_chars_eq_iff` : nothing is found, and nothing replaced,
  exactly if the text does not occur;
* `firstAt_of_first?_chars` : what is found is the leftmost occurrence.
-/

namespace TableGuard

theorem occurs_iff_infix (needle text : List Char) : occurs needle text = true ↔ needle <:+: text := by
  induction text with
  | nil => rw [occurs, List.isEmpty_iff, List.infix_nil]
  | cons c rest ih =>
    rw [occurs, Bool.or_eq_true, List.isPrefixOf_iff_prefix, ih, List.infix_cons_iff]

namespace Regex

/-! ## Reading -/

theorem escape?_metaChar (f : Flags) (c : Char) (rest : List Char) (hc : c ∈ metaChars) :
    escape? f (c :: rest) = some (.char c, rest) := by
  simp only [metaChars, List.mem_cons, List.not_mem_nil, or_false] at hc
  rcases hc with rfl | rfl | rfl | rfl | rfl | rfl | rfl | rfl | rfl | rfl | rfl | rfl | rfl | rfl |
    rfl | rfl | rfl | rfl <;> rfl

namespace Reading

theorem step?_plain (r : Reading) (c : Char) (rest : List Char) (hc : c ∉ metaChars) :
    r.step? c rest = some (r.push (r.flags.char c) 0, rest) := by
  unfold step?
  split
  all_goals first
    | exact absurd (by decide) hc
    | rfl

def pushChars (r : Reading) (text : List Char) : Reading :=
  { r with scope := { r.scope with
      parts := (text.map fun c => Part.expr ⟨.literal [c], 0⟩).reverse ++ r.scope.parts } }

theorem pushChars_cons (r : Reading) (c : Char) (text : List Char) :
    r.pushChars (c :: text) = (r.push (.literal [c]) 0).pushChars text := by
  simp [pushChars, push, Scope.push]

theorem run?_step (fuel : Nat) (r : Reading) (c : Char) (rest : List Char)
    (hr : r.flags = .initial) :
    run? (fuel + 1) r (c :: rest) = (r.step? c rest).bind fun (r, rest) => run? fuel r rest := by
  rw [run?, hr]
  rfl

theorem run?_quoteChar (fuel : Nat) (r : Reading) (c : Char) (rest : List Char)
    (hr : r.flags = .initial) :
    run? (fuel + 1) r (quoteChar c ++ rest) = run? fuel (r.push (.literal [c]) 0) rest := by
  by_cases hc : c ∈ metaChars
  · have hq : quoteChar c = ['\\', c] := by
      rw [quoteChar, if_pos (List.contains_iff_mem.2 hc)]
    rw [hq, List.cons_append, List.cons_append, List.nil_append, run?_step _ _ _ _ hr]
    have hstep : r.step? '\\' (c :: rest) = (escape? r.flags (c :: rest)).map fun out =>
        (r.push (atomExpr r.flags out.1) 0, out.2) := rfl
    rw [hstep, escape?_metaChar _ _ _ hc, hr]
    rfl
  · have hq : quoteChar c = [c] := by
      rw [quoteChar, if_neg (by simpa using hc)]
    rw [hq, List.cons_append, List.nil_append, run?_step _ _ _ _ hr, step?_plain _ _ _ hc, hr]
    rfl

theorem run?_quote (text : List Char) : ∀ (fuel : Nat) (r : Reading) (rest : List Char),
    r.flags = .initial →
      run? (fuel + text.length) r (quote text ++ rest) = run? fuel (r.pushChars text) rest := by
  induction text with
  | nil => intro fuel r rest _; rfl
  | cons c text ih =>
    intro fuel r rest hr
    rw [quote, List.flatMap_cons, List.append_assoc, List.length_cons, ← Nat.add_assoc,
      run?_quoteChar _ _ _ _ hr]
    rw [Reading.pushChars_cons]
    exact ih fuel (r.push (.literal [c]) 0) rest hr

end Reading

theorem quote_append (text rest : List Char) : quote (text ++ rest) = quote text ++ quote rest :=
  List.flatMap_append

theorem length_le_length_quote (text : List Char) : text.length ≤ (quote text).length := by
  induction text with
  | nil => exact Nat.zero_le _
  | cons c text ih =>
    have hc : 0 < (quoteChar c).length := by
      unfold quoteChar
      split
      · exact Nat.two_pos
      · exact Nat.one_pos
    rw [quote] at ih
    rw [quote, List.flatMap_cons, List.length_append, List.length_cons]
    omega

/-! ## The expression -/

namespace Expr

/-- Literals of one character each are joined to one literal, up to the next part that is none. -/
theorem foldr_consFactor_chars (text : List Char) (es : List Expr) (hne : text ≠ [])
    (hes : ∀ t es', es ≠ .literal t :: es') :
    (text.map fun c => Expr.literal [c]).foldr consFactor es = .literal text :: es := by
  induction text with
  | nil => exact absurd rfl hne
  | cons c text ih =>
    rw [List.map_cons, List.foldr_cons]
    cases text with
    | nil =>
      cases es with
      | nil => rfl
      | cons e es =>
        cases e with
        | literal t => exact absurd rfl (hes t es)
        | _ => rfl
    | cons d text =>
      rw [ih (List.cons_ne_nil d text)]
      rfl

theorem flatMap_factors_chars (text : List Char) :
    (text.map fun c => Expr.literal [c]).flatMap factors = text.map fun c => Expr.literal [c] := by
  induction text with
  | nil => rfl
  | cons c text ih =>
    rw [List.map_cons, List.flatMap_cons, ih]
    rfl

theorem sequence_chars (text : List Char) (hne : text ≠ []) :
    sequence (text.map fun c => Expr.literal [c]) = .literal text := by
  rw [sequence, flatMap_factors_chars, foldr_consFactor_chars text [] hne (by simp)]
  rfl

end Expr

theorem foldl_max_zeros (text : List Char) (n : Nat) :
    (text.map fun _ => 0).foldl max n = n := by
  induction text with
  | nil => rfl
  | cons c text ih => rw [List.map_cons, List.foldl_cons, Nat.max_zero, ih]

theorem levels_zeros (text : List Char) : levels (text.map fun _ => 0) ≤ 1 := by
  match text with
  | [] => exact Nat.zero_le 1
  | [_] => exact Nat.zero_le 1
  | c :: d :: text =>
    have h := foldl_max_zeros (c :: d :: text) 0
    change ((c :: d :: text).map fun _ => 0).foldl max 0 + 1 ≤ 1
    exact Nat.succ_le_succ (Nat.le_of_eq h)

theorem branch_pushChars (text : List Char) (hne : text ≠ []) :
    (Reading.start.pushChars text).scope.branch =
      ⟨.literal text, levels (text.map fun _ => 0)⟩ := by
  have hparts : (Reading.start.pushChars text).scope.parts.reverse.map Part.toNested =
      text.map fun c => ⟨.literal [c], 0⟩ := by
    simp [Reading.pushChars, Reading.start, Scope.start, Function.comp_def, Part.toNested]
  rw [Scope.branch, hparts, beside, List.map_map, List.map_map]
  simp only [Function.comp_def]
  rw [Expr.sequence_chars text hne]

/-- **A quoted text is one literal.** -/
theorem parse?_quote (text : List Char) (hne : text ≠ []) :
    parse? (quote text) = some (.literal text) := by
  obtain ⟨fuel, hfuel⟩ : ∃ fuel, (quote text).length + 1 = (fuel + 1) + text.length := by
    have := length_le_length_quote text
    exact ⟨(quote text).length - text.length, by omega⟩
  have hrun := Reading.run?_quote text (fuel + 1) .start [] rfl
  rw [List.append_nil] at hrun
  rw [parse?, hfuel, hrun, Reading.run?]
  change Reading.finish? (Reading.start.pushChars text) = _
  have hwhole : (Reading.start.pushChars text).scope.whole =
      ⟨.literal text, levels (text.map fun _ => 0)⟩ := by
    rw [Scope.whole, branch_pushChars text hne]
    rfl
  have hlevels : levels (text.map fun _ => 0) ≤ maxLevels :=
    Nat.le_trans (levels_zeros text) (by decide)
  change (if _ then _ else _) = _
  rw [hwhole, if_pos hlevels]

/-! ## The size -/

/-- The most bytes of a literal whose automata stay within the limit. -/
def maxLiteral : Nat := 327673

theorem Expr.forwardTally_literal (text : List Char) :
    (Expr.literal text).forwardTally = ⟨Utf8.size text + 6, 16⟩ := by
  change Tally.mk (3 + 1 + Utf8.size text + 1 + 1) 16 = _
  congr 1
  omega

theorem Expr.backwardTally_literal (text : List Char) :
    (Expr.literal text).backwardTally = ⟨Utf8.size text + 4, 16⟩ := by
  change Tally.mk (3 + Utf8.size text + 1) 16 = _
  congr 1
  omega

theorem Tally.exceeds_eq_false (t : Tally) :
    t.exceeds = false ↔ 32 * t.states + t.extra ≤ 10485760 := by
  rw [exceeds, decide_eq_false_iff_not, Nat.not_lt]
  rfl

theorem Expr.fits_of_branches {e : Expr} (h : e.branches = [e]) :
    e.fits = (!e.forwardTally.exceeds && !e.backwardTally.exceeds) := by
  have hfew : e.isWordList = false := by
    unfold isWordList
    rw [h]
    rfl
  rw [fits, hfew, Bool.false_or]

theorem Expr.fits_literal (text : List Char) :
    (Expr.literal text).fits = true ↔ Utf8.size text ≤ maxLiteral := by
  rw [fits_of_branches rfl, Bool.and_eq_true, Bool.not_eq_true', Bool.not_eq_true',
    Tally.exceeds_eq_false, Tally.exceeds_eq_false, forwardTally_literal, backwardTally_literal,
    maxLiteral]
  dsimp only
  omega

/-- **A quoted text is ready for matching exactly if it is short enough.** -/
theorem compile?_quote (text : List Char) (hne : text ≠ []) :
    compile? (quote text) = if Utf8.size text ≤ maxLiteral then some ⟨.chars text⟩ else none := by
  rw [compile?, parse?_quote text hne]
  change (if (Expr.literal text).fits = true then some (Regex.mk (Node.ofExpr (.literal text)))
    else none) = _
  simp only [Expr.fits_literal]
  rfl

/-! ## Matching -/

def literalLength? (text : List Char) (subject : List Char) : Option Nat :=
  if text.isPrefixOf subject then some text.length else none

/-- **A quoted text matches itself and nothing else.** -/
theorem solid_chars (text : List Char) (hne : text ≠ []) :
    Solid ⟨.chars text⟩ (literalLength? text) where
  matchLength before subject := by
    rw [Node.matchLength?, follow_chars, Nat.zero_add, follow_done, literalLength?]
    simp only [List.isPrefixOf_iff_prefix]
  bounds subject n hn := by
    unfold literalLength? at hn
    split at hn
    · rename_i hp
      have hle := (List.isPrefixOf_iff_prefix.1 hp).length_le
      have hpos := List.length_pos_iff.2 hne
      obtain rfl := Option.some.inj hn
      exact ⟨hpos, hle⟩
    · cases hn

/-! ## Occurrences -/

theorem literalLength?_eq_some_iff {text subject : List Char} {n : Nat} :
    literalLength? text subject = some n ↔ text <+: subject ∧ n = text.length := by
  unfold literalLength?
  split
  · rename_i hp
    rw [List.isPrefixOf_iff_prefix] at hp
    simp only [Option.some.injEq, hp, true_and, eq_comm]
  · rename_i hp
    rw [List.isPrefixOf_iff_prefix] at hp
    simp [hp]

theorem literalLength?_eq_none_iff {text subject : List Char} :
    literalLength? text subject = none ↔ ¬ text <+: subject := by
  unfold literalLength?
  split
  · rename_i hp
    simpa using List.isPrefixOf_iff_prefix.1 hp
  · rename_i hp
    rw [List.isPrefixOf_iff_prefix] at hp
    simpa using hp

theorem first?_chars_eq_none_iff {text : List Char} (hne : text ≠ []) (subject : List Char) :
    (Regex.mk (.chars text)).first? subject = none ↔ ¬ text <:+: subject := by
  have hsolid := solid_chars text hne
  induction subject using hsolid.induction with
  | nil => simp [hsolid.first?_nil, List.infix_nil, hne]
  | hit subject n hn _ =>
    rw [hsolid.first?_hit _ _ hn]
    have hoccurs := (literalLength?_eq_some_iff.1 hn).1.isInfix
    simp [hoccurs]
  | miss c rest hn ih =>
    have hnone := literalLength?_eq_none_iff.1 hn
    rw [hsolid.first?_miss _ _ hn, Option.map_eq_none_iff, List.infix_cons_iff, not_or]
    exact ⟨fun h => ⟨hnone, ih.1 h⟩, fun h => ih.2 h.2⟩

/-- The text begins with `before`, `needle` follows, and it occurs nowhere further left. -/
def FirstAt (needle text before : List Char) : Prop :=
  before ++ needle <+: text ∧
    ∀ before', before' ++ needle <+: text → before.length ≤ before'.length

/-- **The first match of a literal is its leftmost occurrence.** -/
theorem firstAt_of_first?_chars {text : List Char} (hne : text ≠ []) :
    ∀ {subject before hit after : List Char},
      (Regex.mk (.chars text)).first? subject = some (before, hit, after) →
      hit = text ∧ FirstAt text subject before := by
  have hsolid := solid_chars text hne
  intro subject
  induction subject using hsolid.induction with
  | nil =>
    intro before hit after hfirst
    rw [hsolid.first?_nil] at hfirst
    cases hfirst
  | hit subject n hn _ =>
    intro before hit after hfirst
    obtain ⟨⟨rest, rfl⟩, rfl⟩ := literalLength?_eq_some_iff.1 hn
    rw [hsolid.first?_hit _ _ hn, List.take_left] at hfirst
    obtain ⟨rfl, rfl, -⟩ : [] = before ∧ text = hit ∧ _ = after := by simpa using hfirst
    exact ⟨rfl, List.prefix_append _ _, fun _ _ => Nat.zero_le _⟩
  | miss c rest hn ih =>
    intro before hit after hfirst
    rw [hsolid.first?_miss _ _ hn] at hfirst
    obtain ⟨⟨gap, hit', after'⟩, hfirst', heq⟩ := Option.map_eq_some_iff.1 hfirst
    obtain ⟨rfl, rfl, rfl⟩ : c :: gap = before ∧ hit' = hit ∧ after' = after := by simpa using heq
    obtain ⟨hhit, hpre, hleft⟩ := ih hfirst'
    refine ⟨hhit, List.cons_prefix_cons.2 ⟨rfl, hpre⟩, ?_⟩
    -- The only other place that is not behind `c` is that of the miss.
    intro before' hbefore'
    cases before' with
    | nil => exact absurd hbefore' (literalLength?_eq_none_iff.1 hn)
    | cons d before' =>
      exact Nat.succ_le_succ (hleft before' (List.cons_prefix_cons.1 hbefore').2)

theorem hits_cut_chars_eq_nil_iff {text : List Char} (hne : text ≠ []) (subject : List Char) :
    ((Regex.mk (.chars text)).cut subject).hits = [] ↔ ¬ text <:+: subject := by
  rw [← first?_chars_eq_none_iff hne, (solid_chars text hne).cut_eq_first?]
  cases (Regex.mk (.chars text)).first? subject with
  | none => simp
  | some found => simp

/-- Every hit of a literal makes the text as much longer as the replacement is. -/
theorem length_replace_cut_chars {text : List Char} (hne : text ≠ []) (new subject : List Char) :
    (((Regex.mk (.chars text)).cut subject).replace new).length +
        ((Regex.mk (.chars text)).cut subject).hits.length * text.length =
      subject.length + ((Regex.mk (.chars text)).cut subject).hits.length * new.length := by
  have hsolid := solid_chars text hne
  induction subject using hsolid.induction with
  | nil => simp [hsolid.cut_nil, Cut.replace]
  | hit subject n hn ih =>
    obtain ⟨⟨rest, rfl⟩, rfl⟩ := literalLength?_eq_some_iff.1 hn
    rw [hsolid.cut_hit _ _ hn]
    rw [List.drop_left] at ih ⊢
    simp only [Cut.replace, List.flatMap_cons, List.length_append, List.length_cons,
      List.nil_append, Nat.add_mul, Nat.one_mul] at ih ⊢
    omega
  | miss c rest hn ih =>
    rw [hsolid.cut_miss _ _ hn, Cut.replace_lead, Cut.length_hits_lead, List.length_cons,
      List.length_cons]
    omega

theorem replace_cut_chars_eq_iff {text new : List Char} (hne : text ≠ [])
    (hlt : text.length < new.length) (subject : List Char) :
    ((Regex.mk (.chars text)).cut subject).replace new = subject ↔ ¬ text <:+: subject := by
  have hlen := length_replace_cut_chars hne new subject
  have hsolid := solid_chars text hne
  rw [← hits_cut_chars_eq_nil_iff hne]
  constructor
  · intro heq
    rw [heq, Nat.add_left_cancel_iff] at hlen
    by_contra hhits
    have := Nat.mul_lt_mul_of_pos_left hlt (List.length_pos_iff.2 hhits)
    omega
  · intro hhits
    have hfirst : (Regex.mk (.chars text)).first? subject = none := by
      rw [first?_chars_eq_none_iff hne, ← hits_cut_chars_eq_nil_iff hne, hhits]
    rw [hsolid.cut_eq_first?, hfirst]
    rfl

end Regex

end TableGuard
