import TableGuard.Regex.Escape

/-!
# Bracketed classes

A class in brackets is a union of characters, ranges, escapes, named ASCII classes and classes in
brackets. Unions can be joined by intersection `&&`, difference `--` and symmetric difference `~~`,
which bind weaker than union and group to the left.

A pattern may be nested only so deep. A group, a repetition and a class are a level above what they
hold, and so are several pieces side by side, while a piece alone adds nothing.

* `Regex.Nested`, `Regex.levels` : something read from a pattern, with the levels in it;
* `Regex.Bracket` : an open bracket, with what has been read of it;
* `Regex.bracket?` : reads a class after its opening bracket.
-/

namespace TableGuard.Regex

/-! ## Levels of nesting -/

/-- Something read from a pattern, with the number of levels in it. -/
structure Nested (α : Type) where
  value : α
  levels : Nat

def maxLevels : Nat := 250

/-- The levels of pieces side by side, given those of each piece. -/
def levels : List Nat → Nat
  | [] => 0
  | [n] => n
  | ns => ns.foldl max 0 + 1

/-! ## Open brackets -/

/-- The operations between unions. -/
inductive SetOp where
  | inter
  | diff
  | symmDiff

/-- What an operation computes. -/
def SetOp.apply : SetOp → CharSet → CharSet → CharSet
  | .inter => CharSet.inter
  | .diff => CharSet.diff
  | .symmDiff => CharSet.symmDiff

/-- An open bracket: whether it is negated, the operation that waits for its right side, and the
members read since, latest first. -/
structure Bracket where
  negated : Bool
  left : Option (SetOp × Nested CharSet)
  members : List (Nested CharSet)

namespace Bracket

def add (b : Bracket) (member : Nested CharSet) : Bracket :=
  { b with members := member :: b.members }

def union (b : Bracket) : Nested CharSet :=
  ⟨b.members.foldr (fun member s => s.union member.value) .empty,
    Regex.levels (b.members.map Nested.levels)⟩

def value (f : Flags) (b : Bracket) : Nested CharSet :=
  match b.left with
  | none => b.union
  | some (op, left) =>
    ⟨op.apply (f.fold left.value) (f.fold b.union.value), max left.levels b.union.levels + 1⟩

/-- The bracket after an operator. -/
def operator (f : Flags) (b : Bracket) (op : SetOp) : Bracket :=
  { b with left := some (op, b.value f), members := [] }

def close? (f : Flags) (b : Bracket) : Option (Nested CharSet) :=
  (f.negate? b.negated (f.fold (b.value f).value)).map (⟨·, (b.value f).levels + 1⟩)

end Bracket

/-! ## Named ASCII classes -/

/-- The set of an ASCII class. -/
def asciiClass? (name : List Char) : Option CharSet :=
  match String.ofList name with
  | "alnum" => some ⟨[(0x30, 0x39), (0x41, 0x5A), (0x61, 0x7A)]⟩
  | "alpha" => some ⟨[(0x41, 0x5A), (0x61, 0x7A)]⟩
  | "ascii" => some ⟨[(0x00, 0x7F)]⟩
  | "blank" => some ⟨[(0x09, 0x09), (0x20, 0x20)]⟩
  | "cntrl" => some ⟨[(0x00, 0x1F), (0x7F, 0x7F)]⟩
  | "digit" => some ⟨[(0x30, 0x39)]⟩
  | "graph" => some ⟨[(0x21, 0x7E)]⟩
  | "lower" => some ⟨[(0x61, 0x7A)]⟩
  | "print" => some ⟨[(0x20, 0x7E)]⟩
  | "punct" => some ⟨[(0x21, 0x2F), (0x3A, 0x40), (0x5B, 0x60), (0x7B, 0x7E)]⟩
  | "space" => some ⟨[(0x09, 0x0D), (0x20, 0x20)]⟩
  | "upper" => some ⟨[(0x41, 0x5A)]⟩
  | "word" => some Unicode.asciiWord
  | "xdigit" => some ⟨[(0x30, 0x39), (0x41, 0x46), (0x61, 0x66)]⟩
  | _ => none

/-- A named ASCII class after its opening bracket: its set before negation, whether it is negated,
and the rest. Anything else that begins with a bracket is a class of its own. -/
def namedClass? : List Char → Option (CharSet × Bool × List Char)
  | ':' :: rest =>
    let (negated, rest) :=
      match rest with
      | '^' :: rest => (true, rest)
      | rest => (false, rest)
    match rest.dropWhile (· != ':') with
    | ':' :: ']' :: after =>
      (asciiClass? (rest.takeWhile (· != ':'))).map fun s => (s, negated, after)
    | _ => none
  | _ => none

/-! ## Members -/

/-- A character as a member; without `unicode` only ASCII can be a member. -/
def member? (f : Flags) (c : Char) : Option CharSet :=
  if f.unicode || c.toNat < 128 then some (.single c) else none

def classAtom? (f : Flags) : List Char → Option (Atom × List Char)
  | [] => none
  | '\\' :: rest => escape? f rest
  | c :: rest => some (.char c, rest)

/-- The character that comes next once white space and the start of a comment are passed over. -/
def peekLoose (verbose : Bool) (text : List Char) : Option Char :=
  if verbose then
    match text.dropWhile Unicode.isBlank with
    | '#' :: rest => (rest.dropWhile Unicode.isBlank).head?
    | rest => rest.head?
  else text.head?

/-- Whether a hyphen before the text joins the ends of a range: it does not before the closing
bracket or another hyphen. -/
def joinsRange (f : Flags) (text : List Char) : Bool :=
  match peekLoose f.verbose text with
  | some ']' => false
  | some '-' => false
  | _ => true

/-- The set of a single atom; conditions are no members. -/
def atomSet? (f : Flags) : Atom → Option CharSet
  | .char c => member? f c
  | .set s => some s
  | .look _ => none

def rangeSet? (f : Flags) : Atom → Atom → Option CharSet
  | .char a, .char b =>
    if a ≤ b then (member? f a).bind fun _ => (member? f b).map fun _ => ⟨[(a.toNat, b.toNat)]⟩
    else none
  | _, _ => none

/-- One member of a class: an atom or a range. -/
def classItem? (f : Flags) (text : List Char) : Option (CharSet × List Char) :=
  (classAtom? f text).bind fun (a, rest) =>
    match skip f.verbose rest with
    | '-' :: after =>
      if joinsRange f after then
        (classAtom? f (skip f.verbose after)).bind fun (b, rest) =>
          (rangeSet? f a b).map (·, rest)
      else (atomSet? f a).map (·, '-' :: after)
    | rest => (atomSet? f a).map (·, rest)

/-! ## Brackets -/

/-- Opens a bracket. A circumflex negates it; hyphens right at its beginning are members, and so is
a closing bracket. -/
def openBracket (f : Flags) (text : List Char) : Bracket × List Char :=
  let (negated, rest) :=
    match skip f.verbose text with
    | '^' :: rest => (true, skip f.verbose rest)
    | rest => (false, rest)
  match spanLoose f.verbose (· == '-') rest with
  | ([], ']' :: rest) => (⟨negated, none, [⟨.single ']', 0⟩]⟩, rest)
  | (hyphens, rest) => (⟨negated, none, hyphens.map fun c => ⟨.single c, 0⟩⟩, rest)

/-- Reads members, operators and inner brackets until the outermost bracket is closed. Every round
consumes a character, and `fuel` bounds the rounds. -/
def readBracket? (f : Flags) : Nat → List Bracket → Bracket → List Char →
    Option (Nested CharSet × List Char)
  | 0, _, _, _ => none
  | fuel + 1, outer, b, text =>
    match skip f.verbose text with
    | [] => none
    | '[' :: rest =>
      match namedClass? rest with
      | some (s, negated, rest) =>
        (f.negate? negated (f.fold s)).bind fun s => readBracket? f fuel outer (b.add ⟨s, 0⟩) rest
      | none =>
        let (inner, rest) := openBracket f rest
        readBracket? f fuel (b :: outer) inner rest
    | ']' :: rest =>
      (b.close? f).bind fun s =>
        match outer with
        | [] => some (s, rest)
        | o :: outer => readBracket? f fuel outer (o.add s) rest
    | '&' :: '&' :: rest => readBracket? f fuel outer (b.operator f .inter) rest
    | '-' :: '-' :: rest => readBracket? f fuel outer (b.operator f .diff) rest
    | '~' :: '~' :: rest => readBracket? f fuel outer (b.operator f .symmDiff) rest
    | rest =>
      (classItem? f rest).bind fun (s, rest) => readBracket? f fuel outer (b.add ⟨s, 0⟩) rest

def bracket? (f : Flags) (text : List Char) : Option (Nested CharSet × List Char) :=
  let (b, rest) := openBracket f text
  readBracket? f (text.length + 1) [] b rest

end TableGuard.Regex
