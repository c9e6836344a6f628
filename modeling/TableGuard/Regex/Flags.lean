import TableGuard.Unicode.CaseOrbit
import TableGuard.Regex.Expr

/-!
# Flags of a pattern

Flags hold from where they are set to the end of the enclosing group, and decide what characters,
classes and conditions mean.

* `Regex.Flags`, `Flags.set?` : the flags and their letters;
* `Flags.char`, `Flags.dot?`, `Flags.fold`, `Flags.lineStart`, … : what a piece of a pattern means
  under them.
-/

namespace TableGuard.Regex

/-- The flags in force at some place of a pattern. -/
structure Flags where
  /-- Letters match in either case. -/
  ignoreCase : Bool
  /-- Lines, and not only the text, begin and end. -/
  multiLine : Bool
  /-- The dot matches line ends too. -/
  dotAll : Bool
  /-- Repetition prefers few matches unless marked. -/
  swapGreed : Bool
  /-- Classes and conditions know all characters and not only ASCII. -/
  unicode : Bool
  /-- A carriage return ends a line too. -/
  crlf : Bool
  /-- White space and comments in the pattern mean nothing. -/
  verbose : Bool

namespace Flags

def initial : Flags := ⟨false, false, false, false, true, false, false⟩

/-- The flags with the one of the given letter switched. -/
def set? (f : Flags) (letter : Char) (on : Bool) : Option Flags :=
  match letter with
  | 'i' => some { f with ignoreCase := on }
  | 'm' => some { f with multiLine := on }
  | 's' => some { f with dotAll := on }
  | 'U' => some { f with swapGreed := on }
  | 'u' => some { f with unicode := on }
  | 'R' => some { f with crlf := on }
  | 'x' => some { f with verbose := on }
  | _ => none

/-- The orbits that `ignoreCase` joins. -/
def orbits (f : Flags) : List (List Nat) :=
  if f.unicode then Unicode.caseOrbits else Unicode.asciiCaseOrbits

/-- The set together with the other cases of its members, if case is ignored. -/
def fold (f : Flags) (s : CharSet) : CharSet :=
  if f.ignoreCase then s.closeUnder f.orbits else s

/-- What the sets of the pattern are made of. -/
def alphabet (f : Flags) : Alphabet := if f.unicode then .characters else .bytes

def char (f : Flags) (c : Char) : Expr :=
  if f.ignoreCase then .ofSet f.alphabet (f.fold (.single c)) else .literal [c]

/-- The dot. Without `unicode` it would match parts of characters and is refused. -/
def dot? (f : Flags) : Option Expr :=
  if !f.unicode then none
  else if f.dotAll then some (.set .characters .all)
  else if f.crlf then
    some (.set .characters (CharSet.ofRanges [(0x0A, 0x0A), (0x0D, 0x0D)]).compl)
  else some (.set .characters (CharSet.single '\n').compl)

def lineStart (f : Flags) : Look :=
  if f.multiLine then (if f.crlf then .anyLineStart else .lineStart) else .textStart

def lineEnd (f : Flags) : Look :=
  if f.multiLine then (if f.crlf then .anyLineEnd else .lineEnd) else .textEnd

def wordRule (f : Flags) : WordRule :=
  if f.unicode then .unicode else .ascii

/-- The complement of a set, if asked for. Without `unicode` a complement would match parts of
characters and is refused. -/
def negate? (f : Flags) (negated : Bool) (s : CharSet) : Option CharSet :=
  if negated then (if f.unicode then some s.compl else none) else some s

/-- A repetition, with the preference that the flags and the pattern ask for. -/
def times (f : Flags) (least : Nat) (most : Option Nat) (lazy : Bool) (body : Expr) : Expr :=
  body.times least most (lazy == f.swapGreed)

end Flags

end TableGuard.Regex
