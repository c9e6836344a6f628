/-!
# Texts

* `occurs` : whether a text stands somewhere in another;
* `insertDistinct`, `sortDistinct` : sorted lists without repetition;
* `Template.parts`, `Template.fill`, `Template.hasHole` : texts in which `{var}` marks the places for
  the name of a variable.
-/

namespace TableGuard

def occurs (needle : List Char) : List Char → Bool
  | [] => needle.isEmpty
  | c :: rest => needle.isPrefixOf (c :: rest) || occurs needle rest

/-! ## Sorted lists -/

/-- Puts a value in its place in an increasing list, unless it is there already. -/
def insertDistinct {α : Type} [LT α] [DecidableLT α] (x : α) : List α → List α
  | [] => [x]
  | y :: ys =>
    if x < y then x :: y :: ys
    else if y < x then y :: insertDistinct x ys
    else y :: ys

/-- The values of a list in increasing order, each once. -/
def sortDistinct {α : Type} [LT α] [DecidableLT α] (xs : List α) : List α :=
  xs.foldl (fun acc x => insertDistinct x acc) []

/-! ## Templates -/

namespace Template

/-- The characters of a template, with nothing for each place. -/
def parts : List Char → List (Option Char)
  | '{' :: 'v' :: 'a' :: 'r' :: '}' :: rest => none :: parts rest
  | c :: rest => some c :: parts rest
  | [] => []

def fillPart (filling : List Char) : Option Char → List Char
  | none => filling
  | some c => [c]

def fill (template filling : List Char) : List Char :=
  (parts template).flatMap (fillPart filling)

def hasHole (template : List Char) : Bool := (parts template).contains none

end Template

end TableGuard
