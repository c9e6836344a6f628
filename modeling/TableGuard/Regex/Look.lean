import TableGuard.Unicode.Word

/-!
# Conditions on a position

A regular expression can ask about the place between two characters without consuming anything:
whether a line or a word begins or ends there.

* `Regex.Spot` : a place in a text, given by the characters on either side of it;
* `Regex.Look` : the conditions, and `Look.holds` what they mean.
-/

namespace TableGuard.Regex

/-- A place in a text: the character before it and the one after it, if there are any. -/
structure Spot where
  before : Option Char
  after : Option Char

/-- Which characters count as word characters for a boundary. -/
inductive WordRule where
  | unicode
  | ascii
deriving DecidableEq

/-- Whether the neighbour exists and is a word character. -/
def WordRule.isWord (rule : WordRule) : Option Char → Bool
  | none => false
  | some c =>
    match rule with
    | .unicode => Unicode.isWord c
    | .ascii => Unicode.asciiWord.contains c

/-- Conditions on a place in the text. -/
inductive Look where
  /-- The text begins here. -/
  | textStart
  /-- The text ends here. -/
  | textEnd
  /-- A line begins here; lines end in a line feed. -/
  | lineStart
  /-- A line ends here; lines end in a line feed. -/
  | lineEnd
  /-- A line begins here; lines end in a line feed, a carriage return or both together. -/
  | anyLineStart
  /-- A line ends here; lines end in a line feed, a carriage return or both together. -/
  | anyLineEnd
  /-- Exactly one neighbour is a word character. -/
  | boundary (rule : WordRule)
  /-- Both neighbours are word characters or neither is. -/
  | noBoundary (rule : WordRule)
  /-- A word begins here. -/
  | wordStart (rule : WordRule)
  /-- A word ends here. -/
  | wordEnd (rule : WordRule)
  /-- No word reaches here from before. -/
  | wordStartHalf (rule : WordRule)
  /-- No word goes on from here. -/
  | wordEndHalf (rule : WordRule)
deriving DecidableEq

/-- Whether the condition holds at the place. -/
def Look.holds (here : Spot) : Look → Bool
  | .textStart => here.before.isNone
  | .textEnd => here.after.isNone
  | .lineStart => here.before.isNone || here.before == some '\n'
  | .lineEnd => here.after.isNone || here.after == some '\n'
  | .anyLineStart =>
    here.before.isNone || here.before == some '\n' ||
      (here.before == some '\r' && here.after != some '\n')
  | .anyLineEnd =>
    here.after.isNone || here.after == some '\r' ||
      (here.after == some '\n' && here.before != some '\r')
  | .boundary rule => rule.isWord here.before != rule.isWord here.after
  | .noBoundary rule => rule.isWord here.before == rule.isWord here.after
  | .wordStart rule => !rule.isWord here.before && rule.isWord here.after
  | .wordEnd rule => rule.isWord here.before && !rule.isWord here.after
  | .wordStartHalf rule => !rule.isWord here.before
  | .wordEndHalf rule => !rule.isWord here.after

end TableGuard.Regex
