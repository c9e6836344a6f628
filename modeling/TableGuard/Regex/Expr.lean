import TableGuard.Regex.Look

/-!
# Regular expressions

The meaning of a pattern once groups, flags and classes are resolved. Sequences and choices are
binary and lean to the right; `Expr.factors` and `Expr.branches` are their list views. Expressions
are built by `Expr.sequence`, `Expr.choice`, `Expr.ofSet` and `Expr.times`, which bring them into
a normal form:

* neighbouring literals of a sequence are one literal, and empty parts are dropped;
* a choice among single characters is a set, and a choice whose branches begin alike is the common
  beginning followed by the choice among the rests; sets of characters and sets of bytes are not
  alike;
* what matches only the empty text is repeated at most once.

The normal form decides which of several possible matches is preferred, so it is part of what a
pattern means.
-/

namespace TableGuard.Regex

/-- What the members of a set are. A pattern that knows ASCII only makes sets of bytes. -/
inductive Alphabet where
  | characters
  | bytes
deriving DecidableEq

/-- A regular expression. -/
inductive Expr where
  /-- Matches the empty text. -/
  | empty
  /-- Matches exactly these characters. -/
  | literal (text : List Char)
  /-- Matches one character of the set. -/
  | set (alphabet : Alphabet) (chars : CharSet)
  /-- Matches the empty text where the condition holds. -/
  | look (condition : Look)
  /-- From `least` to `most` matches in a row, as many as possible if `greedy`. -/
  | repeated (least : Nat) (most : Option Nat) (greedy : Bool) (body : Expr)
  /-- A numbered group. -/
  | group (index : Nat) (body : Expr)
  /-- One match after another. -/
  | seq (first second : Expr)
  /-- A match of either, the first one preferred. -/
  | alt (first second : Expr)
deriving DecidableEq

namespace Expr

/-! ## Sequences -/

def factors : Expr → List Expr
  | .empty => []
  | .seq a b => a :: factors b
  | e => [e]

/-- The sequence with the given parts, without any simplification. -/
def ofFactors : List Expr → Expr
  | [] => .empty
  | [e] => e
  | e :: es => .seq e (ofFactors es)

/-- Puts a part in front of others, joining it with a literal that follows. -/
def consFactor : Expr → List Expr → List Expr
  | .literal s, .literal t :: es => .literal (s ++ t) :: es
  | e, es => e :: es

def sequence (es : List Expr) : Expr :=
  ofFactors ((es.flatMap factors).foldr consFactor [])

/-! ## Choices -/

def branches : Expr → List Expr
  | .alt a b => a :: branches b
  | e => [e]

/-- The choice with the given branches, without any simplification. -/
def ofBranches : List Expr → Expr
  | [] => .set .bytes .empty
  | [e] => e
  | e :: es => .alt e (ofBranches es)

/-- A set as an expression; a set of one character is a literal, and one without members a set of
bytes. -/
def ofSet (alphabet : Alphabet) (s : CharSet) : Expr :=
  match s.only? with
  | some c => .literal [c]
  | none => if s.isEmpty then .set .bytes .empty else .set alphabet s

def char? : Expr → Option Char
  | .literal [c] => some c
  | _ => none

def set? : Expr → Option CharSet
  | .set _ s => some s
  | _ => none

/-- The union of the sets that all the branches denote, if each of them is a single character, or
each of them is a set. -/
def mergedSet? (es : List Expr) : Option CharSet :=
  match es.mapM char? with
  | some cs => some (cs.foldl CharSet.insert CharSet.empty)
  | none => (es.mapM set?).map fun ss => ss.foldl CharSet.union CharSet.empty

/-- The longest common beginning of two lists. -/
def commonStart : List Expr → List Expr → List Expr
  | a :: as, b :: bs => if a = b then a :: commonStart as bs else []
  | _, _ => []

/-- The parts of a sequence of at least two parts. -/
def factors? : Expr → Option (List Expr)
  | .seq a b => some (factors (.seq a b))
  | _ => none

/-- The parts with which every branch begins; none if some branch is not a sequence. -/
def sharedStart (es : List Expr) : List Expr :=
  match es.mapM factors? with
  | some (fs :: rest) => rest.foldl commonStart fs
  | _ => []

/-- The choice among branches that do not begin alike. -/
def plainChoice (es : List Expr) : Expr :=
  match mergedSet? es with
  | some s => ofSet .characters s
  | none => ofBranches es

def choice (es : List Expr) : Expr :=
  let es := es.flatMap branches
  match es with
  | [e] => e
  | _ =>
    match sharedStart es with
    | [] => plainChoice es
    | start =>
      let rests := es.map fun e => ofFactors (e.factors.drop start.length)
      sequence (start ++ [plainChoice (rests.flatMap branches)])

/-! ## Repetition -/

/-- Whether the expression cannot match anything but the empty text. -/
def isVoid : Expr → Bool
  | .empty => true
  | .literal _ => false
  | .set _ _ => false
  | .look _ => true
  | .repeated _ most _ body => most.isSome && isVoid body
  | .group _ body => isVoid body
  | .seq a b => isVoid a && isVoid b
  | .alt a b => isVoid a && isVoid b

/-- The least number of characters of a match; none if there can be no match. -/
def shortest? : Expr → Option Nat
  | .empty => some 0
  | .literal text => some text.length
  | .set _ s => if s.isEmpty then none else some 1
  | .look _ => some 0
  | .repeated least _ _ body => (shortest? body).map (least * ·)
  | .group _ body => shortest? body
  | .seq a b => (shortest? a).bind fun n => (shortest? b).map (n + ·)
  | .alt a b => (shortest? a).bind fun n => (shortest? b).map (min n ·)

/-- Whether there are matches, and every one has at least one character. -/
def isSolid (e : Expr) : Bool :=
  match e.shortest? with
  | some n => 0 < n
  | none => false

/-- Repetition with the bounds made as simple as possible. -/
def ofBounds (least : Nat) (most : Option Nat) (greedy : Bool) (body : Expr) : Expr :=
  match least, most with
  | 0, some 0 => .empty
  | 1, some 1 => body
  | _, _ => .repeated least most greedy body

/-- The expression from `least` to `most` times; what matches only the empty text is repeated at
most once. -/
def times (least : Nat) (most : Option Nat) (greedy : Bool) (body : Expr) : Expr :=
  if body.isVoid then ofBounds (min least 1) (some (min (most.getD 1) 1)) greedy body
  else ofBounds least most greedy body

end Expr

end TableGuard.Regex
