import TableGuard.Regex.Class
import TableGuard.Unicode.Alphabetic

/-!
# Patterns

A pattern is read from left to right, one piece at a time. What has been read of the enclosing
groups waits on a stack; flags hold to the end of the group in which they are set.

* `Regex.Scope` : what has been read of one group: finished branches and the parts of the current
  one;
* `Regex.Reading` : the state of reading a pattern;
* `Reading.step?` : reads one piece;
* `Regex.parse?` : the expression of a pattern, none if the pattern is not well formed.
-/

namespace TableGuard.Regex

/-! ## The state of reading -/

/-- A part of a branch. Setting flags is a part too: it matches the empty text, but nothing can be
repeated there. -/
inductive Part where
  | expr (e : Nested Expr)
  | flags

def Part.toNested : Part → Nested Expr
  | .expr e => e
  | .flags => ⟨.empty, 0⟩

/-- A combination of expressions side by side. -/
def beside (combine : List Expr → Expr) (es : List (Nested Expr)) : Nested Expr :=
  ⟨combine (es.map Nested.value), levels (es.map Nested.levels)⟩

/-- What has been read of a group: the finished branches and the parts of the current one, both
latest first. -/
structure Scope where
  branches : List (Nested Expr)
  parts : List Part

namespace Scope

def start : Scope := ⟨[], []⟩

/-- The scope with one more part. -/
def push (s : Scope) (p : Part) : Scope := { s with parts := p :: s.parts }

def branch (s : Scope) : Nested Expr := beside .sequence (s.parts.reverse.map Part.toNested)

def nextBranch (s : Scope) : Scope := ⟨s.branch :: s.branches, []⟩

def whole (s : Scope) : Nested Expr := beside .choice (s.branch :: s.branches).reverse

end Scope

/-- A group that is still open: what surrounds it, the flags to go back to, and its number if it
has one. -/
structure OpenGroup where
  outer : Scope
  flags : Flags
  index : Option Nat

/-- The state of reading a pattern. -/
structure Reading where
  flags : Flags
  scope : Scope
  groups : List OpenGroup
  count : Nat
  names : List (List Char)

namespace Reading

def start : Reading := ⟨.initial, .start, [], 0, []⟩

/-- The state with one more part, which holds so many levels. -/
def push (r : Reading) (e : Expr) (levels : Nat) : Reading :=
  { r with scope := r.scope.push (.expr ⟨e, levels⟩) }

/-! ## Groups -/

def isNameChar (first : Bool) (c : Char) : Bool :=
  c == '_' || Unicode.nameLetter.contains c ||
    (!first && (c == '.' || c == '[' || c == ']' || Unicode.nameCharacter.contains c))

def enter (r : Reading) (flags : Flags) (index : Option Nat) : Reading :=
  { r with flags := flags, scope := .start, groups := ⟨r.scope, r.flags, index⟩ :: r.groups }

/-- Opens the next numbered group. -/
def enterNumbered (r : Reading) : Reading :=
  { r.enter r.flags (some (r.count + 1)) with count := r.count + 1 }

/-- Opens a named group; a name is used once. -/
def enterNamed? (r : Reading) (text : List Char) : Option (Reading × List Char) :=
  let name := text.takeWhile (· != '>')
  match name, text.dropWhile (· != '>') with
  | c :: cs, _ :: rest =>
    if isNameChar true c && cs.all (isNameChar false) && !r.names.contains name then
      some ({ r.enterNumbered with names := name :: r.names }, rest)
    else none
  | _, _ => none

/-- Reads flags up to the colon or the parenthesis that ends them. `seen` holds the letters so far,
`on` says whether flags are switched on or, after a hyphen, off. -/
def readFlags? (flags : Flags) (seen : List Char) (on : Bool) :
    List Char → Option (Flags × List Char × Char × List Char)
  | [] => none
  | c :: rest =>
    if c = ':' || c = ')' then
      if seen.head? = some '-' then none else some (flags, seen, c, rest)
    else if seen.contains c then none
    else if c = '-' then readFlags? flags (c :: seen) false rest
    else (flags.set? c on).bind fun flags => readFlags? flags (c :: seen) on rest

/-- Reads what follows an opening parenthesis. -/
def openGroup? (r : Reading) (text : List Char) : Option (Reading × List Char) :=
  match skip r.flags.verbose text with
  | '?' :: '=' :: _ => none
  | '?' :: '!' :: _ => none
  | '?' :: '<' :: '=' :: _ => none
  | '?' :: '<' :: '!' :: _ => none
  | '?' :: 'P' :: '<' :: rest => r.enterNamed? rest
  | '?' :: '<' :: rest => r.enterNamed? rest
  | '?' :: rest =>
    match readFlags? r.flags [] true rest with
    | some (flags, _, ':', rest) => some (r.enter flags none, rest)
    | some (flags, _ :: _, _, rest) =>
      some ({ r with flags := flags, scope := r.scope.push .flags }, rest)
    | _ => none
  | rest => some (r.enterNumbered, rest)

/-- Closes the innermost group. -/
def closeGroup? (r : Reading) : Option Reading :=
  match r.groups with
  | [] => none
  | g :: groups =>
    let body := r.scope.whole
    let e := match g.index with
      | some i => .group i body.value
      | none => body.value
    some { r with
      flags := g.flags
      scope := g.outer.push (.expr ⟨e, body.levels + 1⟩)
      groups := groups }

/-! ## Repetition -/

/-- Repeats the last part, which must be there and be no setting of flags. -/
def repeatLast? (r : Reading) (least : Nat) (most : Option Nat) (lazy : Bool) : Option Reading :=
  match r.scope.parts with
  | .expr e :: parts =>
    let e := ⟨r.flags.times least most lazy e.value, e.levels + 1⟩
    some { r with scope := { r.scope with parts := .expr e :: parts } }
  | _ => none

/-- Repeats the last part after one of the signs for repetition; a question mark after the sign
makes it lazy. -/
def repeatSign? (r : Reading) (least : Nat) (most : Option Nat) (text : List Char) :
    Option (Reading × List Char) :=
  match text with
  | '?' :: rest => (r.repeatLast? least most true).map (·, rest)
  | rest => (r.repeatLast? least most false).map (·, rest)

/-- A count: digits within white space, below `2 ^ 32`. -/
def readCount (verbose : Bool) (text : List Char) : Option Nat × List Char :=
  let (digits, rest) := spanLoose verbose Char.isDigit (text.dropWhile Unicode.isBlank)
  let n := digits.foldl (fun n c => 10 * n + (c.toNat - '0'.toNat)) 0
  (if digits.isEmpty || UInt32.size ≤ n then none else some n,
    skip verbose (rest.dropWhile Unicode.isBlank))

/-- The bounds in braces, and what follows the closing brace. -/
def readBounds? (verbose : Bool) (text : List Char) : Option (Nat × Option Nat × List Char) :=
  match readCount verbose (skip verbose text) with
  | (some least, '}' :: rest) => some (least, some least, rest)
  | (some least, ',' :: rest) =>
    match skip verbose rest with
    | '}' :: rest => some (least, none, rest)
    | rest =>
      match readCount verbose rest with
      | (some most, '}' :: rest) => if least ≤ most then some (least, some most, rest) else none
      | _ => none
  | _ => none

/-- Repeats the last part after an opening brace. -/
def repeatBraces? (r : Reading) (text : List Char) : Option (Reading × List Char) :=
  (readBounds? r.flags.verbose text).bind fun (least, most, rest) =>
    r.repeatSign? least most (skip r.flags.verbose rest)

/-! ## Reading -/

def atomExpr (f : Flags) : Atom → Expr
  | .char c => f.char c
  | .set s => .ofSet f.alphabet s
  | .look k => .look k

def step? (r : Reading) (c : Char) (rest : List Char) : Option (Reading × List Char) :=
  match c with
  | '(' => r.openGroup? rest
  | ')' => r.closeGroup?.map (·, rest)
  | '|' => some ({ r with scope := r.scope.nextBranch }, rest)
  | '[' => (bracket? r.flags rest).map fun (s, rest) =>
      (r.push (.ofSet r.flags.alphabet s.value) s.levels, rest)
  | '?' => r.repeatSign? 0 (some 1) rest
  | '*' => r.repeatSign? 0 none rest
  | '+' => r.repeatSign? 1 none rest
  | '{' => r.repeatBraces? rest
  | '\\' => (escape? r.flags rest).map fun (a, rest) => (r.push (atomExpr r.flags a) 0, rest)
  | '.' => r.flags.dot?.map fun e => (r.push e 0, rest)
  | '^' => some (r.push (.look r.flags.lineStart) 0, rest)
  | '$' => some (r.push (.look r.flags.lineEnd) 0, rest)
  | c => some (r.push (r.flags.char c) 0, rest)

/-- The expression of the whole pattern, if every group is closed and it is not nested too deep. -/
def finish? (r : Reading) : Option Expr :=
  match r.groups with
  | [] => if r.scope.whole.levels ≤ maxLevels then some r.scope.whole.value else none
  | _ => none

/-- Reads a pattern to its end. Every round consumes a character, and `fuel` bounds the rounds. -/
def run? : Nat → Reading → List Char → Option Expr
  | 0, _, _ => none
  | fuel + 1, r, text =>
    match skip r.flags.verbose text with
    | [] => r.finish?
    | c :: rest => (r.step? c rest).bind fun (r, rest) => run? fuel r rest

end Reading

def parse? (text : List Char) : Option Expr :=
  Reading.start.run? (text.length + 1) text

end TableGuard.Regex
