/-!
# Sets of characters

A set of characters is a list of ranges of code points, in increasing order and with a gap between
neighbours, so that two sets with the same members are the same value.

* `CharSet.contains` : membership;
* `CharSet.insertRange`, `CharSet.union` : more members, in order and with gaps again;
* `CharSet.compl`, `CharSet.inter`, `CharSet.diff`, `CharSet.symmDiff` : the other set operations,
  by complement and union.
-/

namespace TableGuard

/-- A set of characters as ranges of code points, each given by its first and last member. -/
structure CharSet where
  ranges : List (Nat × Nat)
deriving DecidableEq

namespace CharSet

def maxCode : Nat := 0x10FFFF

/-- Whether a code point lies in one of the ranges; the search ends at the first range beyond it. -/
def covers (n : Nat) : List (Nat × Nat) → Bool
  | [] => false
  | (lo, hi) :: rest => if n < lo then false else if n ≤ hi then true else covers n rest

def contains (s : CharSet) (c : Char) : Bool :=
  covers c.toNat s.ranges

/-- Adds the code points from `lo` to `hi`, joining every range that they touch. -/
def addRange (lo hi : Nat) : List (Nat × Nat) → List (Nat × Nat)
  | [] => [(lo, hi)]
  | (a, b) :: rest =>
    if hi + 1 < a then (lo, hi) :: (a, b) :: rest
    else if b + 1 < lo then (a, b) :: addRange lo hi rest
    else addRange (min lo a) (max hi b) rest

def empty : CharSet := ⟨[]⟩

def all : CharSet := ⟨[(0, maxCode)]⟩

def single (c : Char) : CharSet := ⟨[(c.toNat, c.toNat)]⟩

/-- The set with the code points from `lo` to `hi` added. -/
def insertRange (s : CharSet) (lo hi : Nat) : CharSet :=
  ⟨addRange lo hi s.ranges⟩

def insert (s : CharSet) (c : Char) : CharSet :=
  s.insertRange c.toNat c.toNat

/-- A range at its place in an ordered list, where `rest` merges what comes after the range. -/
def mergeRange (r : Nat × Nat) (rest : List (Nat × Nat) → List (Nat × Nat)) :
    List (Nat × Nat) → List (Nat × Nat)
  | [] => r :: rest []
  | x :: xs => if r.1 ≤ x.1 then r :: rest (x :: xs) else x :: mergeRange r rest xs

/-- Two ordered lists of ranges as one, ordered by the first members. -/
def mergeRanges : List (Nat × Nat) → List (Nat × Nat) → List (Nat × Nat)
  | [], ys => ys
  | x :: xs, ys => mergeRange x (mergeRanges xs) ys

/-- An ordered list of ranges after the range from `lo` to `hi`, where ranges that touch are one. -/
def joinRanges (lo hi : Nat) : List (Nat × Nat) → List (Nat × Nat)
  | [] => [(lo, hi)]
  | (a, b) :: rest =>
    if hi + 1 < a then (lo, hi) :: joinRanges a b rest else joinRanges lo (max hi b) rest

def union (s t : CharSet) : CharSet :=
  match mergeRanges s.ranges t.ranges with
  | [] => empty
  | (lo, hi) :: rest => ⟨joinRanges lo hi rest⟩

def unions (sets : List CharSet) : CharSet := sets.foldl union empty

def ofRanges (rs : List (Nat × Nat)) : CharSet :=
  ⟨rs.foldl (fun acc r => addRange r.1 r.2 acc) []⟩

/-- The gaps between the ranges, from the code point `next` on. -/
def gaps (next : Nat) : List (Nat × Nat) → List (Nat × Nat)
  | [] => if next ≤ maxCode then [(next, maxCode)] else []
  | (a, b) :: rest => if next < a then (next, a - 1) :: gaps (b + 1) rest else gaps (b + 1) rest

def compl (s : CharSet) : CharSet := ⟨gaps 0 s.ranges⟩

def inter (s t : CharSet) : CharSet := (s.compl.union t.compl).compl

def diff (s t : CharSet) : CharSet := (s.compl.union t).compl

def symmDiff (s t : CharSet) : CharSet := (s.union t).diff (s.inter t)

def isEmpty (s : CharSet) : Bool := s.ranges.isEmpty

/-- The only member, if there is exactly one. -/
def only? (s : CharSet) : Option Char :=
  match s.ranges with
  | [(lo, hi)] => if lo = hi then some (Char.ofNat lo) else none
  | _ => none

/-- Every second code point of each range, the first and the last included. -/
def ofAlternating (rs : List (Nat × Nat)) : CharSet :=
  ⟨rs.foldl (fun acc r => (List.range ((r.2 - r.1) / 2 + 1)).foldl
    (fun acc k => addRange (r.1 + 2 * k) (r.1 + 2 * k) acc) acc) []⟩

end CharSet

end TableGuard
