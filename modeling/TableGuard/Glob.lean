/-!
# Globs

A glob describes file names: `?` is any character, `*` any run of characters, and a class in
brackets one of its members. `**` as a whole component of a path is any number of components.

* `Glob.parse` : the tokens of a glob, or what is wrong with it;
* `Glob.covers` : whether a glob describes a name;
* `Glob.Fault` : the ways to go wrong, with the position in characters.
-/

namespace TableGuard

namespace Glob

/-- What can be wrong with a glob. -/
inductive Problem where
  /-- Three or more stars in a row. -/
  | stars
  /-- Two stars that are not a whole component. -/
  | component
  /-- A class that is empty or not closed. -/
  | bracket
deriving DecidableEq

def Problem.message : Problem → String
  | .stars => "wildcards are either regular `*` or recursive `**`"
  | .component => "recursive wildcards must form a single path component"
  | .bracket => "invalid range pattern"

/-- A problem with a glob and where it lies. -/
structure Fault where
  position : Nat
  problem : Problem
deriving DecidableEq

def Fault.message (fault : Fault) : String :=
  s!"Pattern syntax error near position {fault.position}: {fault.problem.message}"

/-- A piece of a glob. -/
inductive Token where
  /-- A character that stands for itself. -/
  | char (c : Char)
  /-- Any one character. -/
  | anyChar
  /-- Any run of characters. -/
  | anyRun
  /-- Any number of path components. -/
  | anyComponents
  /-- One character in one of the ranges, or in none of them if `negated`. -/
  | oneOf (negated : Bool) (ranges : List (Char × Char))
deriving DecidableEq

end Glob

/-- A glob, given by its pieces. -/
structure Glob where
  tokens : List Glob.Token
deriving DecidableEq

namespace Glob

/-! ## Reading -/

def ranges : List Char → List (Char × Char)
  | a :: '-' :: b :: rest => (a, b) :: ranges rest
  | a :: rest => (a, a) :: ranges rest
  | [] => []

/-- The members of a class and what follows its closing bracket. The first character after the
opening is a member whatever it is. -/
def classBody? : List Char → Option (List Char × List Char)
  | first :: rest =>
    match rest.dropWhile (· != ']') with
    | _ :: after => some (first :: rest.takeWhile (· != ']'), after)
    | [] => none
  | [] => none

/-- A class after its opening bracket, and what follows it. -/
def class? : List Char → Option (Token × List Char)
  | '!' :: rest => (classBody? rest).map fun (members, rest) => (.oneOf true (ranges members), rest)
  | rest => (classBody? rest).map fun (members, rest) => (.oneOf false (ranges members), rest)

/-- Adds a piece, latest first. Components that repeat are collapsed, except at the beginning. -/
def pushToken (token : Token) (done : List Token) : List Token :=
  match token, done with
  | .anyComponents, .anyComponents :: _ :: _ => done
  | _, _ => token :: done

/-- Reads a glob from the position `index` on. `before` is the character in front of it and `done`
the pieces so far, latest first. Every round consumes a character, and `fuel` bounds the rounds. -/
def parseFrom : Nat → Nat → Option Char → List Token → List Char → Except Fault (List Token)
  | 0, _, _, done, _ => .ok done.reverse
  | fuel + 1, index, before, done, text =>
    match text with
    | [] => .ok done.reverse
    | '?' :: rest => parseFrom fuel (index + 1) (some '?') (.anyChar :: done) rest
    | '*' :: '*' :: '*' :: _ => .error ⟨index + 2, .stars⟩
    | '*' :: '*' :: rest =>
      if before.isNone || before = some '/' then
        match rest with
        | '/' :: rest =>
          parseFrom fuel (index + 3) (some '/') (pushToken .anyComponents done) rest
        | [] => .ok (pushToken .anyComponents done).reverse
        | _ => .error ⟨index + 2, .component⟩
      else .error ⟨index - 1, .component⟩
    | '*' :: rest => parseFrom fuel (index + 1) (some '*') (.anyRun :: done) rest
    | '[' :: rest =>
      match class? rest with
      | some (token, after) =>
        parseFrom fuel (index + 1 + (rest.length - after.length)) (some ']') (token :: done) after
      | none => .error ⟨index, .bracket⟩
    | c :: rest => parseFrom fuel (index + 1) (some c) (.char c :: done) rest

def parse (text : String) : Except Fault Glob :=
  (parseFrom (text.toList.length + 1) 0 none [] text.toList).map Glob.mk

/-! ## Matching -/

/-- Whether a piece that is one character fits the given one. -/
def Token.fits : Token → Char → Bool
  | .char c, d => c == d
  | .anyChar, _ => true
  | .oneOf negated ranges, c => (ranges.any fun (a, b) => a ≤ c && c ≤ b) != negated
  | _, _ => false

/-- The verdicts once a piece that is one character is put in front: it must fit the first character
of an end of the text, and the verdict on what follows must be good. -/
def consumeOne (fits : Char → Bool) : List Char → List Bool → List Bool
  | c :: text, _ :: verdicts => (fits c && verdicts.headD false) :: consumeOne fits text verdicts
  | _, _ => [false]

/-- For every end of the text, whether the verdict on it or on a shorter one is good. -/
def consumeAny : List Bool → List Bool
  | [] => []
  | v :: verdicts =>
    let later := consumeAny verdicts
    (v || later.headD false) :: later

/-- For every end of the text, whether the verdict on the empty end, or on what follows one of its
separators, is good. -/
def consumeComponents : List Char → List Bool → List Bool
  | c :: text, _ :: verdicts =>
    let later := consumeComponents text verdicts
    ((c == '/' && verdicts.headD false) || later.headD false) :: later
  | _, verdicts => verdicts

/-- The verdicts once a piece is put in front. -/
def Token.consume (text : List Char) (verdicts : List Bool) : Token → List Bool
  | .anyRun => consumeAny verdicts
  | .anyComponents => List.zipWith or verdicts (consumeComponents text verdicts)
  | token => consumeOne token.fits text verdicts

/-- For every end of the text, longest first and the empty one last, whether the pieces describe
it. -/
def verdicts (text : List Char) (tokens : List Token) : List Bool :=
  tokens.foldr (fun token vs => token.consume text vs) (text.map (fun _ => false) ++ [true])

def covers (glob : Glob) (name : String) : Bool :=
  (verdicts name.toList glob.tokens).headD false

end Glob

end TableGuard
