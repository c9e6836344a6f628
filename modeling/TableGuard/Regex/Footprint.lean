import Std.Data.HashMap
import TableGuard.Regex.ByteRange
import TableGuard.Regex.Expr

/-!
# The size of a pattern

A pattern is accepted only if the automata for it, where it needs any, stay within a limit: one that
reads a text forward and notes where groups begin and end, and one that reads it backward. Both read
bytes. Nothing is searched with these automata; what matters of them is how many states they have,
and how much the states hold.

* `Regex.Tally` : the states of an automaton so far, and what they hold;
* `Regex.Piece` : what an expression adds to an automaton;
* `Piece.ofSet`, `Piece.ofWords`, `Piece.choice`, … : the pieces of the kinds of expressions;
* `Expr.piece` : the piece of an expression;
* `Expr.fits` : whether an expression can be searched for: both automata stay within the limit, or
  it is a choice among so many words that they are looked for otherwise.

A state for a set is not made twice if its like is still remembered. What is remembered depends on a
hash of numbers of states, so states are counted in the order in which they are made.
-/

namespace TableGuard.Regex

/-- The way in which an automaton reads a text. -/
inductive Direction where
  | forward
  | backward
deriving DecidableEq

/-- The states of an automaton, and the bytes that they take beyond what every state does. -/
structure Tally where
  states : Nat
  extra : Nat

namespace Tally

def stateSize : Nat := 32

def transitionSize : Nat := 8

def linkSize : Nat := 4

def bytes (t : Tally) : Nat := stateSize * t.states + t.extra

def limit : Nat := 10485760

def exceeds (t : Tally) : Bool := limit < t.bytes

def add (t : Tally) (states extra : Nat) : Tally := ⟨t.states + states, t.extra + extra⟩

end Tally

/-! ## Sets of characters -/

/-- One step of the hash: takes in one more number. -/
def hashStep (h : UInt64) (n : Nat) : UInt64 := (h ^^^ n.toUInt64) * 1099511628211

def hashStart : UInt64 := 14695981039346656037

/-- A transition: the bytes that take it, and the state to which it leads. -/
abbrev Transition := ByteRange × Nat

/-- Takes the numbers of a transition into a hash. -/
def hashTransition (h : UInt64) (t : Transition) : UInt64 :=
  hashStep (hashStep (hashStep h t.1.1.toNat) t.1.2.toNat) t.2

/-- The place of transitions among the ten thousand that are remembered when reading forward. -/
def forwardSlot (transitions : List Transition) : Nat :=
  (transitions.foldl hashTransition hashStart).toNat % 10000

/-- The place of a transition among the thousand that are remembered when reading backward. -/
def backwardSlot (t : Transition) : Nat :=
  (hashStep (hashStep (hashStep hashStart t.2) t.1.1.toNat) t.1.2.toNat).toNat % 1000

/-- The states so far, and those that are remembered by place. A later state takes the place of an
earlier one. -/
structure Memory (key : Type) where
  tally : Tally
  known : Std.HashMap Nat (key × Nat)

/-- A new state for a key, which is remembered in the given place. -/
def Memory.make {key : Type} (m : Memory key) (k : key) (slot extra : Nat) : Nat × Memory key :=
  (m.tally.states, ⟨m.tally.add 1 extra, m.known.insert slot (k, m.tally.states)⟩)

/-- The state for a key: the one remembered in its place, or a new one. -/
def Memory.intern {key : Type} [BEq key] (m : Memory key) (k : key) (slot extra : Nat) :
    Nat × Memory key :=
  match m.known[slot]? with
  | some (k', id) => if k' == k then (id, m) else m.make k slot extra
  | none => m.make k slot extra

/-- The state that reads one of the sequences and then goes to `target`. Sequences that begin with
the same range are taken together. No sequence is longer than `depth`. -/
def Memory.reading (target : Nat) :
    Nat → List (List ByteRange) → Memory (List Transition) → Nat × Memory (List Transition)
  | 0, _, m => (target, m)
  | depth + 1, seqs, m =>
    let (transitions, m) :=
      (seqs.splitBy fun a b => a.head? == b.head?).foldl (fun (transitions, m) group =>
        match group.head? with
        | some [range] => ((range, target) :: transitions, m)
        | some (range :: _) =>
          let (next, m) := Memory.reading target depth (group.map List.tail) m
          ((range, next) :: transitions, m)
        | _ => (transitions, m)) ([], m)
    let transitions := transitions.reverse
    m.intern transitions (forwardSlot transitions) (Tally.transitionSize * transitions.length)

/-- The state that reads a sequence backward and then goes to `next`. -/
def Memory.readingBack (next : Nat) :
    List ByteRange → Memory Transition → Nat × Memory Transition
  | [], m => (next, m)
  | range :: ranges, m =>
    let (id, m) := m.intern (range, next) (backwardSlot (range, next)) 0
    Memory.readingBack id ranges m

namespace Tally

/-- With the states for sequences of bytes, read forward: an end, and a tree over the sequences. -/
def addForward (seqs : List (List ByteRange)) (t : Tally) : Tally :=
  (Memory.reading t.states 4 seqs ⟨t.add 1 0, ∅⟩).2.tally

/-- With the states for sequences of bytes, read backward: a start with a link per sequence, an end,
and the states of each sequence. -/
def addBackward (seqs : List (List ByteRange)) (t : Tally) : Tally :=
  (seqs.foldl (fun (m : Memory Transition) seq =>
    let (_, m) := Memory.readingBack (t.states + 1) seq m
    { m with tally := m.tally.add 0 linkSize }) ⟨t.add 2 0, ∅⟩).tally

/-! ## Choices of words -/

/-- Words up to each place where one ends, and after the last such place. -/
def sections : List (List UInt8) → List (List (List UInt8))
  | [] => [[]]
  | [] :: words => [] :: sections words
  | word :: words =>
    match sections words with
    | part :: parts => (word :: part) :: parts
    | [] => [[word]]

/-- The words without repetition of the empty one at the beginning. -/
def trimWords : List (List UInt8) → List (List UInt8)
  | [] :: words => [] :: words.dropWhile List.isEmpty
  | words => words

/-- With the states of a tree over words, earlier words preferred: a node chooses among its parts,
and a part is a state with a transition per first byte. Where nothing but the empty word is left the
end of the tree is reached. No word is longer than `depth`. -/
def addTree : Nat → List (List UInt8) → Tally → Tally
  | 0, _, t => t
  | depth + 1, words, t =>
    if words.all List.isEmpty then t
    else
      let parts := sections (trimWords words)
      let t := parts.foldl (fun t part =>
        match (part.filterMap List.head?).eraseDups with
        | [] => t
        | [first] =>
          (addTree depth ((part.filter (·.head? == some first)).map List.tail) t).add 1 linkSize
        | firsts =>
          let t := firsts.foldl (fun t first =>
            addTree depth ((part.filter (·.head? == some first)).map List.tail) t) t
          t.add 1 (transitionSize * firsts.length + linkSize)) t
      t.add 1 (linkSize * (parts.length - 1))

/-! ## Repetition -/

/-- With `n` more copies of something, each joined to what is before it. Once the limit is exceeded
nothing more is added. -/
def addCopies (copy : Tally → Tally) (link : Nat) : Nat → Tally → Tally
  | 0, t => t
  | n + 1, t => if t.exceeds then t else addCopies copy link n ((copy t).add 0 link)

/-- With exactly `n` copies of something, joined to each other; no copy at all is one state. -/
def addExactly (copy : Tally → Tally) (link : Nat) : Nat → Tally → Tally
  | 0, t => t.add 1 0
  | n + 1, t => addCopies copy link n (copy t)

/-- With a repetition that has no upper bound. What can be empty is tried before the loop. -/
def addAtLeast (copy : Tally → Tally) (link : Nat) (solid : Bool) : Nat → Tally → Tally
  | 0, t =>
    if solid then (copy (t.add 1 0)).add 0 (linkSize + link)
    else (copy t).add 3 (4 * linkSize + link)
  | 1, t => (copy t).add 1 (linkSize + link)
  | n + 2, t => (copy (addExactly copy link (n + 1) t)).add 1 (linkSize + 2 * link)

/-- With a repetition that has an upper bound: the copies that must be there, then for each other
copy a choice between it and the end. -/
def addBounded (copy : Tally → Tally) (link least most : Nat) (t : Tally) : Tally :=
  if least = 0 && most = 1 then (copy (t.add 1 0)).add 1 (2 * linkSize + link)
  else if least = most then addExactly copy link least t
  else
    let t := (addExactly copy link least t).add 1 (if least = 0 then 0 else link)
    addCopies (fun t => copy (t.add 1 (2 * linkSize))) link (most - least) t

end Tally

/-! ## Pieces -/

/-- What an expression adds to an automaton. -/
structure Piece where
  /-- The word, if the expression is one. -/
  word? : Option (List Char)
  /-- The bytes that joining something to the end takes: the end of a loop without upper bound is a
  choice, which gets one more link. -/
  link : Nat
  /-- The automaton with the states of the expression. -/
  add : Tally → Tally

namespace Piece

def states (n : Nat) : Piece := ⟨none, 0, fun t => t.add n 0⟩

/-- A word: a state per byte. -/
def ofWord (word : List Char) : Piece := ⟨some word, 0, fun t => t.add (Utf8.size word) 0⟩

/-- A set of characters. For ASCII ones that is a state with a transition per range, and an end. -/
def ofSet (d : Direction) (s : CharSet) : Piece :=
  if s.ranges.all (fun r => r.2 < 0x80) then
    ⟨none, 0, fun t => t.add 2 (Tally.transitionSize * s.ranges.length)⟩
  else
    let seqs := s.byteSequences
    match d with
    | .forward => ⟨none, 0, Tally.addForward seqs⟩
    | .backward => ⟨none, 0, Tally.addBackward seqs⟩

/-- A numbered group, whose beginning and end are noted when reading forward. -/
def grouped (d : Direction) (p : Piece) : Piece :=
  match d with
  | .forward => ⟨none, 0, fun t => (p.add (t.add 1 0)).add 1 p.link⟩
  | .backward => ⟨none, p.link, p.add⟩

/-- One piece after the other, in the order of reading. Once the limit is exceeded nothing more is
added. -/
def followedBy (p q : Piece) : Piece :=
  ⟨none, q.link, fun t =>
    let t := (p.add t).add 0 p.link
    if t.exceeds then t else q.add t⟩

/-- The words of pieces, if all of them are words. -/
def words? (ps : List Piece) : Option (List (List Char)) := ps.mapM Piece.word?

/-- A choice of words: an end and a tree. -/
def ofWords (d : Direction) (words : List (List Char)) : Piece :=
  let words := words.map Utf8.encode
  let words := match d with
    | .forward => words
    | .backward => words.map List.reverse
  let depth := words.foldl (fun n word => max n word.length) 0 + 1
  ⟨none, 0, fun t => Tally.addTree depth words (t.add 1 0)⟩

/-- With a branch of a choice, and the links to and from it. Once the limit is exceeded nothing more
is added. -/
def addBranch (t : Tally) (p : Piece) : Tally :=
  if t.exceeds then t else (p.add t).add 0 (Tally.linkSize + p.link)

/-- A choice among pieces. Two states hold it together, which are made after the first two
branches. -/
def choice (d : Direction) (ps : List Piece) : Piece :=
  match ps with
  | [p] => p
  | ps =>
    match words? ps with
    | some words => ofWords d words
    | none =>
      ⟨none, 0, fun t => (ps.drop 2).foldl addBranch (((ps.take 2).foldl addBranch t).add 2 0)⟩

/-- A repetition; `solid` says that the piece has no empty match. -/
def repeated (p : Piece) (solid : Bool) (least : Nat) (most : Option Nat) : Piece :=
  match most with
  | some most =>
    ⟨none, if least = most then p.link else 0, Tally.addBounded p.add p.link least most⟩
  | none =>
    ⟨none, if 0 < least || solid then Tally.linkSize else 0,
      Tally.addAtLeast p.add p.link solid least⟩

end Piece

/-! ## Expressions -/

namespace Expr

def pieces (d : Direction) : Expr → List Piece
  | .empty => [.states 1]
  | .literal text => [.ofWord text]
  | .set _ s => [.ofSet d s]
  | .look _ => [.states 1]
  | .repeated least most _ body =>
    [(Piece.choice d (pieces d body)).repeated body.isSolid least most]
  | .group _ body => [(Piece.choice d (pieces d body)).grouped d]
  | .seq a b =>
    let a := Piece.choice d (pieces d a)
    let b := Piece.choice d (pieces d b)
    match d with
    | .forward => [a.followedBy b]
    | .backward => [b.followedBy a]
  | .alt a b => pieces d a ++ pieces d b

def piece (d : Direction) (e : Expr) : Piece := Piece.choice d (e.pieces d)

/-- Whether every match begins at the beginning of the text, by a condition that says so. -/
def startsText : Expr → Bool
  | .look .textStart => true
  | .repeated least _ _ body => 0 < least && startsText body
  | .group _ body => startsText body
  | .seq a b => startsText a || (isVoid a && startsText b)
  | .alt a b => startsText a && startsText b
  | _ => false

/-- Whether every match ends at the end of the text, by a condition that says so. -/
def endsText : Expr → Bool
  | .look .textEnd => true
  | .repeated least _ _ body => 0 < least && endsText body
  | .group _ body => endsText body
  | .seq a b => endsText b || (isVoid b && endsText a)
  | .alt a b => endsText a && endsText b
  | _ => false

/-- The states before those of the expression: one if every match is bound to the side of the text
where reading begins, otherwise a loop over any bytes. -/
def lead (bound : Bool) : Tally :=
  if bound then ⟨1, 0⟩ else ⟨3, Tally.transitionSize + 2 * Tally.linkSize⟩

/-- The automaton that reads forward. The whole match is a group, and there is a last state. -/
def forwardTally (e : Expr) : Tally :=
  (((e.piece .forward).grouped .forward).add (lead e.startsText)).add 1 0

/-- The automaton that reads backward, with a last state. -/
def backwardTally (e : Expr) : Tally :=
  let p := e.piece .backward
  (p.add (lead e.endsText)).add 1 p.link

/-- The number of words from which on they are looked for without automata. -/
def manyWords : Nat := 3000

/-- Whether the expression is a choice among many words. -/
def isWordList (e : Expr) : Bool :=
  manyWords ≤ e.branches.length && e.branches.all fun branch => (branch matches .literal _)

/-- Whether both automata of the expression stay within the limit, or none is needed. -/
def fits (e : Expr) : Bool :=
  e.isWordList || (!e.forwardTally.exceeds && !e.backwardTally.exceeds)

end Expr

end TableGuard.Regex
