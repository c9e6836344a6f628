/-!
# Places in a text

A place is reported as the number of its line, its column counted in characters, and the text of the
line. Lines end in a line feed; the text of a line is given without the carriage returns at its end.

* `splitAtByte?` : a text split at a byte offset, if a character begins there or the text ends;
* `Location.between` : the place between two parts of a text;
* `Location.atByte?` : the place at a byte offset.
-/

namespace TableGuard

/-- A place in a text; lines and columns count from one. -/
structure Location where
  line : Nat
  column : Nat
  sourceLine : String
deriving DecidableEq

/-- The text before and after a byte offset; none beyond the end or inside a character. -/
def splitAtByte? : Nat → List Char → Option (List Char × List Char)
  | 0, text => some ([], text)
  | _ + 1, [] => none
  | offset + 1, c :: text =>
    if c.utf8Size ≤ offset + 1 then
      (splitAtByte? (offset + 1 - c.utf8Size) text).map fun (a, b) => (c :: a, b)
    else none

namespace Location

def lineStart (before : List Char) : List Char :=
  (before.reverse.takeWhile (· != '\n')).reverse

/-- The text without the carriage returns at its end. -/
def trimReturns (text : List Char) : List Char :=
  (text.reverse.dropWhile (· == '\r')).reverse

/-- The place between two parts of a text. -/
def between (before after : List Char) : Location where
  line := before.count '\n' + 1
  column := (lineStart before).length + 1
  sourceLine := String.ofList (trimReturns (lineStart before ++ after.takeWhile (· != '\n')))

/-- The place at a byte offset; none beyond the end or inside a character. -/
def atByte? (content : String) (offset : Nat) : Option Location :=
  (splitAtByte? offset content.toList).map fun (before, after) => between before after

end Location

end TableGuard
