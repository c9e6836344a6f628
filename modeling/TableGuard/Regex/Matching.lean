import Std.Data.HashSet
import TableGuard.Regex.Node

/-!
# Matching at a place

All ways to match are followed side by side, one character at a time, in order of preference. A way
is the list of nodes that it still has to pass. At each position the ways are first taken forward as
far as they go without consuming a character; a choice that was already reached at this position by
a preferred way is not followed again. A way that has nothing left to pass is a match, and ways that
are less preferred end there.

* `Regex.Front` : the ways that consume the next character, and whether a match ends here;
* `Node.close`, `resume` : take a way forward without consuming anything;
* `Node.matchLength?` : the length of the preferred match at the beginning of a text.
-/

namespace TableGuard.Regex

/-- What is known at one position: the ways that can consume the next character, least preferred
first; the choices already reached; and whether a match ends here. -/
structure Front where
  live : List (List Node)
  seen : Std.HashSet Nat
  accepted : Bool

namespace Front

def start : Front := ⟨[], ∅, false⟩

/-- Adds a way, unless a preferred one has already matched. -/
def push (f : Front) (rest : List Node) : Front :=
  if f.accepted then f else { f with live := rest :: f.live }

/-- Notes that a choice has been reached. -/
def mark (f : Front) (label : Nat) : Front := { f with seen := f.seen.insert label }

/-- Notes that a match ends here. -/
def accept (f : Front) : Front := { f with accepted := true }

end Front

/-- Takes a node forward at a place. `rest` is what follows it once a character has been consumed,
and `done` takes that forward when the node is passed without consuming one. -/
def Node.close (here : Spot) : Node → List Node → (Front → Front) → Front → Front
  | .empty, _, done, f => done f
  | .set s, rest, _, f =>
    match here.after with
    | some c => if s.contains c then f.push rest else f
    | none => f
  | .look k, _, done, f => if k.holds here then done f else f
  | .cat a b, rest, done, f => a.close here (b :: rest) (b.close here rest done) f
  | .alt label a b, rest, done, f =>
    if f.seen.contains label then f
    else b.close here rest done (a.close here rest done (f.mark label))
  | .loop label greedy body, rest, done, f =>
    if f.seen.contains label then f
    else if greedy then
      done (body.close here (.loop label greedy body :: rest) id (f.mark label))
    else
      body.close here (.loop label greedy body :: rest) id (done (f.mark label))

/-- Takes a way forward at a place. -/
def resume (here : Spot) : List Node → Front → Front
  | [], f => f.accept
  | n :: rest, f => n.close here rest (resume here rest) f

/-- Follows the ways through the text. `n` characters have been consumed, and `best` is the length
of the preferred match so far. -/
def follow (ways : List (List Node)) (before : Option Char) (n : Nat) (best : Option Nat) :
    List Char → Option Nat
  | [] =>
    let front := ways.foldl (fun f way => resume ⟨before, none⟩ way f) .start
    if front.accepted then some n else best
  | c :: cs =>
    let front := ways.foldl (fun f way => resume ⟨before, some c⟩ way f) .start
    let best := if front.accepted then some n else best
    match front.live with
    | [] => best
    | live => follow live.reverse (some c) (n + 1) best cs

/-- The length of the preferred match at the beginning of the text; `before` is the character in
front of it. -/
def Node.matchLength? (node : Node) (before : Option Char) (text : List Char) : Option Nat :=
  follow [[node]] before 0 none text

end TableGuard.Regex
