import TableGuard.CharSet
import TableGuard.Text.Utf8

/-!
# The bytes of a set of characters

An automaton that reads bytes knows a set of characters as sequences of ranges of bytes: a character
is a member exactly if its bytes lie in the ranges of one of the sequences, one by one.

* `Regex.byteSequences` : the sequences of a range of characters;
* `CharSet.byteSequences` : those of a set, in increasing order.
-/

namespace TableGuard

namespace Regex

/-- A range of bytes, given by its first and last member. -/
abbrev ByteRange := UInt8 × UInt8

/-- The code points whose encodings take two bytes, three and four, without surrogates. -/
def longBlocks : List (Nat × Nat) :=
  [(0x80, 0x7FF), (0x800, 0xD7FF), (0xE000, 0xFFFF), (0x10000, 0x10FFFF)]

/-- The part of a range that lies in a block. -/
def clip (range block : Nat × Nat) : List (Nat × Nat) :=
  let lo := max range.1 block.1
  let hi := min range.2 block.2
  if lo ≤ hi then [(lo, hi)] else []

/-- A range cut so that each piece lies within one multiple of `unit` or covers whole ones: what
comes before the first whole one, the whole ones, and what comes after. -/
def cutAt (unit : Nat) (range : Nat × Nat) : List (Nat × Nat) :=
  let (lo, hi) := range
  if lo / unit = hi / unit then [(lo, hi)]
  else
    let first := (lo + unit - 1) / unit * unit
    let last := (hi + 1) / unit * unit
    (if lo < first then [(lo, first - 1)] else []) ++
      (if first < last then [(first, last - 1)] else []) ++
      (if last ≤ hi then [(last, hi)] else [])

/-- The ranges of bytes between the encodings of two code points of the same length. -/
def bytesBetween (range : Nat × Nat) : List ByteRange :=
  (Utf8.encodeCode range.1).zip (Utf8.encodeCode range.2)

/-- The sequences of a range of code points: each continuation byte carries six bits, so the range
is cut at multiples of the powers of 64. -/
def byteSequences (range : Nat × Nat) : List (List ByteRange) :=
  ((clip range (0, 0x7F)) ++
    (((longBlocks.flatMap (clip range)).flatMap (cutAt 64)).flatMap (cutAt 4096)).flatMap
      (cutAt 262144)).map bytesBetween

end Regex

/-- The sequences of bytes of the members of a set. -/
def CharSet.byteSequences (s : CharSet) : List (List Regex.ByteRange) :=
  s.ranges.flatMap Regex.byteSequences

end TableGuard
