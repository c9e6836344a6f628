import TableGuard.Regex.Expr

/-!
# The matching form of an expression

Matching knows four things only: consume a character, check a condition, do one thing after another,
and choose. Repetition is unrolled as far as its bounds go, and what is left is a loop. Every place
where a choice is made has a label of its own, also in the copies of an unrolled body, so a label
together with a position says all about the future of a match.

* `Regex.Node` : the matching form;
* `Node.ofExpr` : the matching form of an expression.
-/

namespace TableGuard.Regex

/-- The matching form of an expression. -/
inductive Node where
  /-- Matches the empty text. -/
  | empty
  /-- Consumes one character of the set. -/
  | set (chars : CharSet)
  /-- Goes on where the condition holds. -/
  | look (condition : Look)
  /-- One after the other. -/
  | cat (first second : Node)
  /-- Either, the first one preferred. -/
  | alt (label : Nat) (first second : Node)
  /-- The body again and then this choice once more, or nothing; `greedy` says which is
  preferred. -/
  | loop (label : Nat) (greedy : Bool) (body : Node)

namespace Node

def chars : List Char → Node
  | [] => .empty
  | c :: cs => .cat (.set (.single c)) (chars cs)

def optional (label : Nat) (greedy : Bool) (body : Node) : Node :=
  if greedy then .alt label body .empty else .alt label .empty body

/-- As many copies in a row; `make` gives a copy for the next free label, and the next one after. -/
def copies (make : Nat → Node × Nat) : Nat → Nat → Node × Nat
  | 0, next => (.empty, next)
  | n + 1, next =>
    let (a, next) := make next
    let (b, next) := copies make n next
    (.cat a b, next)

/-- At most so many copies in a row, each one inside the choice for the one before. -/
def upTo (make : Nat → Node × Nat) (greedy : Bool) : Nat → Nat → Node × Nat
  | 0, next => (.empty, next)
  | n + 1, next =>
    let (a, next') := make (next + 1)
    let (b, next') := upTo make greedy n next'
    (optional next greedy (.cat a b), next')

/-- At least one match of the body in a row. -/
def oneOrMore (make : Nat → Node × Nat) (greedy : Bool) (next : Nat) : Node × Nat :=
  let (a, next') := make (next + 1)
  (.cat a (.loop next greedy a), next')

/-- Any number of matches of the body in a row. A body that can be empty is tried once before the
loop is entered, which keeps its empty match in its place among the alternatives. -/
def zeroOrMore (make : Nat → Node × Nat) (solid greedy : Bool) (next : Nat) : Node × Nat :=
  if solid then
    let (a, next') := make (next + 1)
    (.loop next greedy a, next')
  else
    let (a, next') := oneOrMore make greedy (next + 1)
    (optional next greedy a, next')

def repeated (make : Nat → Node × Nat) (solid : Bool) (least : Nat) (most : Option Nat)
    (greedy : Bool) (next : Nat) : Node × Nat :=
  match most with
  | some most =>
    let (a, next) := copies make least next
    let (b, next) := upTo make greedy (most - least) next
    (.cat a b, next)
  | none =>
    match least with
    | 0 => zeroOrMore make solid greedy next
    | least + 1 =>
      let (a, next) := copies make least next
      let (b, next) := oneOrMore make greedy next
      (.cat a b, next)

/-- The matching form of an expression, and the first label that it leaves free. -/
def build : Expr → Nat → Node × Nat
  | .empty, next => (.empty, next)
  | .literal text, next => (chars text, next)
  | .set _ s, next => (.set s, next)
  | .look k, next => (.look k, next)
  | .repeated least most greedy body, next =>
    repeated (build body) body.isSolid least most greedy next
  | .group _ body, next => build body next
  | .seq a b, next =>
    let (a, next) := build a next
    let (b, next) := build b next
    (.cat a b, next)
  | .alt a b, next =>
    let (a, next') := build a (next + 1)
    let (b, next') := build b next'
    (.alt next a b, next')

def ofExpr (e : Expr) : Node := (build e 0).1

end Node

end TableGuard.Regex
