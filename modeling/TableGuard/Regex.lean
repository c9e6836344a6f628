import TableGuard.Regex.Footprint
import TableGuard.Regex.Matching
import TableGuard.Regex.Pattern
import TableGuard.Text.Utf8

/-!
# Searching with a pattern

* `Regex.compile?` : a pattern ready for matching;
* `Regex.next?` : the next match from some position on;
* `Regex.cut` : a text cut into the matches and the gaps between them;
* `Cut.spans`, `Cut.replace` : where the matches are, and the text with each replaced.

Matches do not overlap. After a match the search goes on at its end, but an empty match right there
does not count.
-/

namespace TableGuard

/-- A pattern ready for matching. -/
structure Regex where
  node : Regex.Node

namespace Regex

/-- A pattern ready for matching; none if it is not well formed, or if its automata would be too
large. -/
def compile? (pattern : List Char) : Option Regex :=
  (parse? pattern).bind fun e => if e.fits then some ⟨.ofExpr e⟩ else none

/-! ## Searching -/

/-- The next match in the text: what lies before it, the match and the rest. `before` is the
character in front of the text, `afterMatch` says whether a match ended there, and `gap` holds what
has been passed over, latest first. -/
def next? (re : Regex) (before : Option Char) (afterMatch : Bool) (gap : List Char) :
    List Char → Option (List Char × List Char × List Char)
  | [] =>
    match re.node.matchLength? before [] with
    | some _ => if afterMatch then none else some (gap.reverse, [], [])
    | none => none
  | c :: cs =>
    match re.node.matchLength? before (c :: cs) with
    | some n =>
      if n = 0 && afterMatch then re.next? (some c) false (c :: gap) cs
      else some (gap.reverse, (c :: cs).take n, (c :: cs).drop n)
    | none => re.next? (some c) false (c :: gap) cs

/-- The first match in a text: what lies before it, the match and the rest. -/
def first? (re : Regex) (text : List Char) : Option (List Char × List Char × List Char) :=
  re.next? none false [] text

/-- A text cut at the matches of a pattern: each match with the gap before it, and what follows the
last one. -/
structure Cut where
  hits : List (List Char × List Char)
  tail : List Char

/-- The last character of a match, or of the gap before it, or the one before both. -/
def lastBefore (before : Option Char) (gap hit : List Char) : Option Char :=
  match hit.getLast? with
  | some c => some c
  | none =>
    match gap.getLast? with
    | some c => some c
    | none => before

/-- Cuts the text from some position on. There is at most one match per position, and `fuel` bounds
their number. -/
def cutFrom (re : Regex) : Nat → Option Char → Bool → List Char → Cut
  | 0, _, _, text => ⟨[], text⟩
  | fuel + 1, before, afterMatch, text =>
    match re.next? before afterMatch [] text with
    | none => ⟨[], text⟩
    | some (gap, hit, rest) =>
      let cut := re.cutFrom fuel (lastBefore before gap hit) true rest
      ⟨(gap, hit) :: cut.hits, cut.tail⟩

/-- The text cut at all matches. -/
def cut (re : Regex) (text : List Char) : Cut :=
  re.cutFrom (text.length + 1) none false text

namespace Cut

/-- The matches as pairs of byte offsets, the text beginning at `start`. -/
def spansFrom (start : Nat) : List (List Char × List Char) → List (Nat × Nat)
  | [] => []
  | (gap, hit) :: hits =>
    let lo := start + Utf8.size gap
    let hi := lo + Utf8.size hit
    (lo, hi) :: spansFrom hi hits

def spans (cut : Cut) : List (Nat × Nat) := spansFrom 0 cut.hits

def replace (cut : Cut) (new : List Char) : List Char :=
  cut.hits.flatMap (fun (gap, _) => gap ++ new) ++ cut.tail

def text (cut : Cut) : List Char :=
  cut.hits.flatMap (fun (gap, hit) => gap ++ hit) ++ cut.tail

end Cut

end Regex

end TableGuard
