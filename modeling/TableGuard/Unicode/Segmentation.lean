import TableGuard.Unicode.Alphabetic
import TableGuard.Unicode.Case
import TableGuard.Unicode.Emoji
import TableGuard.Unicode.Mark
import TableGuard.Unicode.Punctuation
import TableGuard.Unicode.Script
import TableGuard.Unicode.Symbol
import TableGuard.Unicode.Word

/-!
# Where clusters, words and sentences break

The Unicode properties by which text is cut: each sorts the characters that matter to it into
classes. A class is given by the rule for it, on top of other properties.

* `Unicode.graphemeBreakTable`, `Unicode.wordBreakTable`, `Unicode.sentenceBreakTable` : the classes
  under their long and short names.
-/

namespace TableGuard.Unicode

namespace Segmentation

def carriageReturn : CharSet := ⟨[(0xD, 0xD)]⟩

def lineFeed : CharSet := ⟨[(0xA, 0xA)]⟩

def joiner : CharSet := ⟨[(0x200D, 0x200D)]⟩

def ofScript (name : String) : CharSet := (script? name).getD CharSet.empty

/-! ## Clusters -/

/-- What ends a cluster on both sides. -/
def control : CharSet :=
  ((CharSet.unions [Category.control, Category.format, Category.lineSeparator,
    Category.paragraphSeparator, Category.unassigned.inter defaultIgnorable]).diff
    (prependedMark.union graphemeExtend)).diff
    (CharSet.unions [carriageReturn, lineFeed, joiner])

/-- What continues a cluster. -/
def extend : CharSet := graphemeExtend.union emojiModifier

/-- Consonants that are written before the cluster they belong to. -/
def prefixedConsonant : CharSet := ⟨
  [(0xD4E, 0xD4E), (0x111C2, 0x111C3), (0x113D1, 0x113D1), (0x1193F, 0x1193F), (0x11941, 0x11941),
  (0x11A3A, 0x11A3A), (0x11A84, 0x11A89), (0x11D46, 0x11D46), (0x11F02, 0x11F02)]⟩

/-- What begins a cluster before another character. -/
def prepend : CharSet := prependedMark.union prefixedConsonant

/-- Spacing marks that stand on their own. -/
def standingMark : CharSet := ⟨
  [(0x102B, 0x102C), (0x1038, 0x1038), (0x1062, 0x1064), (0x1067, 0x106D), (0x1083, 0x1083),
  (0x1087, 0x108C), (0x108F, 0x108F), (0x109A, 0x109C), (0x1A61, 0x1A61), (0x1A63, 0x1A64),
  (0xAA7B, 0xAA7B), (0xAA7D, 0xAA7D), (0x11720, 0x11721)]⟩

/-- What continues a cluster and takes a place. -/
def spacingMark : CharSet :=
  ((Category.spacingMark.union ⟨[(0xE33, 0xE33), (0xEB3, 0xEB3)]⟩).diff extend).diff standingMark

def hangulLeading : CharSet := ⟨[(0x1100, 0x115F), (0xA960, 0xA97C)]⟩

/-- Vowels of Hangul, and those of Kirat Rai, which join in the same way. -/
def hangulVowel : CharSet :=
  ⟨[(0x1160, 0x11A7), (0xD7B0, 0xD7C6), (0x16D63, 0x16D63), (0x16D67, 0x16D6A)]⟩

def hangulTrailing : CharSet := ⟨[(0x11A8, 0x11FF), (0xD7CB, 0xD7FB)]⟩

/-- Syllables of Hangul without a trailing consonant: every twenty-eighth. -/
def hangulOpen : CharSet :=
  ⟨(List.range 399).map fun k => (0xAC00 + 28 * k, 0xAC00 + 28 * k)⟩

/-- Syllables of Hangul with a trailing consonant. -/
def hangulClosed : CharSet :=
  ⟨(List.range 399).map fun k => (0xAC01 + 28 * k, 0xAC1B + 28 * k)⟩

/-! ## Words -/

/-- What ends a line, apart from the carriage return and the line feed. -/
def newline : CharSet := ⟨[(0xB, 0xC), (0x85, 0x85), (0x2028, 0x2029)]⟩

/-- What continues a word without being part of it. -/
def wordExtend : CharSet :=
  (CharSet.unions [graphemeExtend, Category.spacingMark, emojiModifier]).diff joiner

/-- Format characters inside of words. -/
def wordFormat : CharSet :=
  (Category.format.diff (prependedMark.union wordExtend)).diff
    ⟨[(0x200B, 0x200B), (0x200D, 0x200D)]⟩

def katakana : CharSet :=
  (ofScript "katakana").union ⟨
  [(0x3031, 0x3035), (0x309B, 0x309C), (0x30A0, 0x30A0), (0x30FC, 0x30FC), (0xFF70, 0xFF70)]⟩

def hebrewLetter : CharSet := (ofScript "hebrew").inter Category.otherLetter

/-- Scripts in which words are found by a dictionary. -/
def dictionaryScript : CharSet :=
  CharSet.unions (["thai", "lao", "myanmar", "khmer", "taile", "newtailue", "taitham", "taiviet",
    "ahom"].map ofScript)

/-- Symbols that count as letters of words. -/
def letterlike : CharSet := ⟨
  [(0x2C2, 0x2C5), (0x2D2, 0x2D7), (0x2DE, 0x2DF), (0x2E5, 0x2EB), (0x2ED, 0x2ED), (0x2EF, 0x2FF),
  (0x55A, 0x55C), (0x55E, 0x55E), (0x58A, 0x58A), (0x5F3, 0x5F3), (0x70F, 0x70F), (0xA708, 0xA716),
  (0xA720, 0xA721), (0xA789, 0xA78A), (0xAB5B, 0xAB5B)]⟩

def wordLetter : CharSet :=
  (alphabetic.union letterlike).diff (CharSet.unions [ideographic, katakana, hebrewLetter,
    dictionaryScript, ofScript "hiragana", wordExtend])

/-- Digits, signs before a number, and the Arabic marks within numbers. -/
def numeric : CharSet :=
  (CharSet.unions [Category.decimalNumber, prependedMark, ⟨[(0x66B, 0x66C)]⟩]).diff
    ⟨[(0x70F, 0x70F)]⟩

/-- Spaces at which words are cut, but not from each other. -/
def wordSpace : CharSet :=
  Category.spaceSeparator.diff ⟨[(0xA0, 0xA0), (0x2007, 0x2007), (0x202F, 0x202F)]⟩

/-! ## Sentences -/

/-- What continues a sentence without being part of it. -/
def sentenceExtend : CharSet := CharSet.unions [graphemeExtend, Category.spacingMark, joiner]

/-- What ends a paragraph. -/
def separator : CharSet := ⟨[(0x85, 0x85), (0x2028, 0x2029)]⟩

/-- Format characters inside of sentences. -/
def sentenceFormat : CharSet := Category.format.diff (numeric.union sentenceExtend)

/-- Spaces inside of sentences. -/
def space : CharSet := blank.diff (CharSet.unions [separator, carriageReturn, lineFeed])

def lower : CharSet := lowercase.diff (graphemeExtend.union georgianSmall)

def upper : CharSet :=
  (uppercase.union Category.titlecaseLetter).diff ⟨[(0x1C90, 0x1CBA), (0x1CBD, 0x1CBF)]⟩

def otherLetter : CharSet :=
  (alphabetic.insertRange 0x5F3 0x5F3).diff (CharSet.unions [lower, upper, sentenceExtend])

/-- Full stops, which may end a sentence. -/
def fullStop : CharSet :=
  ⟨[(0x2E, 0x2E), (0x2024, 0x2024), (0xFE52, 0xFE52), (0xFF0E, 0xFF0E)]⟩

/-- What always ends a sentence. -/
def sentenceEnd : CharSet := sentenceTerminal.diff fullStop

/-- What shows that a sentence goes on. -/
def sentenceContinue : CharSet := ⟨
  [(0x2C, 0x2D), (0x3A, 0x3B), (0x37E, 0x37E), (0x55D, 0x55D), (0x60C, 0x60D), (0x7F8, 0x7F8),
  (0x1802, 0x1802), (0x1808, 0x1808), (0x2013, 0x2014), (0x3001, 0x3001), (0xFE10, 0xFE11),
  (0xFE13, 0xFE14), (0xFE31, 0xFE32), (0xFE50, 0xFE51), (0xFE54, 0xFE55), (0xFE58, 0xFE58),
  (0xFE63, 0xFE63), (0xFF0C, 0xFF0D), (0xFF1A, 0xFF1B), (0xFF64, 0xFF64)]⟩

def otherQuotation : CharSet := ⟨
  [(0x22, 0x22), (0x27, 0x27), (0x275B, 0x2760), (0x2E00, 0x2E01), (0x2E06, 0x2E08),
  (0x2E0B, 0x2E0B), (0x1F676, 0x1F678)]⟩

/-- Brackets and quotation marks. -/
def close : CharSet :=
  (CharSet.unions [Category.openPunctuation, Category.closePunctuation, Category.initialPunctuation,
    Category.finalPunctuation, otherQuotation]).diff (fullStop.union sentenceEnd)

end Segmentation

open Segmentation

def graphemeBreakTable : List (List String × CharSet) :=
   [(["cn", "control"], Segmentation.control),
    (["cr"], carriageReturn),
    (["ex", "extend"], extend),
    (["l"], hangulLeading),
    (["lf"], lineFeed),
    (["lv"], hangulOpen),
    (["lvt"], hangulClosed),
    (["pp", "prepend"], prepend),
    (["regionalindicator", "ri"], regionalIndicator),
    (["sm", "spacingmark"], Segmentation.spacingMark),
    (["t"], hangulTrailing),
    (["v"], hangulVowel),
    (["zwj"], joiner)]

def wordBreakTable : List (List String × CharSet) :=
   [(["aletter", "le"], wordLetter),
    (["cr"], carriageReturn),
    (["doublequote", "dq"], ⟨[(0x22, 0x22)]⟩),
    (["extend"], wordExtend),
    (["ex", "extendnumlet"], Category.connectorPunctuation.insertRange 0x202F 0x202F),
    (["fo", "format"], wordFormat),
    (["hebrewletter", "hl"], hebrewLetter),
    (["ka", "katakana"], katakana),
    (["lf"], lineFeed),
    (["midletter", "ml"], ⟨
      [(0x3A, 0x3A), (0xB7, 0xB7), (0x387, 0x387), (0x55F, 0x55F), (0x5F4, 0x5F4),
      (0x2027, 0x2027), (0xFE13, 0xFE13), (0xFE55, 0xFE55), (0xFF1A, 0xFF1A)]⟩),
    (["midnum", "mn"], ⟨
      [(0x2C, 0x2C), (0x3B, 0x3B), (0x37E, 0x37E), (0x589, 0x589), (0x60C, 0x60D),
      (0x66C, 0x66C), (0x7F8, 0x7F8), (0x2044, 0x2044), (0xFE10, 0xFE10), (0xFE14, 0xFE14),
      (0xFE50, 0xFE50), (0xFE54, 0xFE54), (0xFF0C, 0xFF0C), (0xFF1B, 0xFF1B)]⟩),
    (["mb", "midnumlet"], ⟨
      [(0x2E, 0x2E), (0x2018, 0x2019), (0x2024, 0x2024), (0xFE52, 0xFE52), (0xFF07, 0xFF07),
      (0xFF0E, 0xFF0E)]⟩),
    (["newline", "nl"], newline),
    (["nu", "numeric"], numeric.diff ⟨[(0x66C, 0x66C)]⟩),
    (["regionalindicator", "ri"], regionalIndicator),
    (["singlequote", "sq"], ⟨[(0x27, 0x27)]⟩),
    (["wsegspace"], wordSpace),
    (["zwj"], joiner)]

def sentenceBreakTable : List (List String × CharSet) :=
   [(["at", "aterm"], fullStop),
    (["cl", "close"], close),
    (["cr"], carriageReturn),
    (["ex", "extend"], sentenceExtend),
    (["fo", "format"], sentenceFormat),
    (["le", "oletter"], Segmentation.otherLetter),
    (["lf"], lineFeed),
    (["lo", "lower"], lower),
    (["nu", "numeric"], numeric),
    (["sc", "scontinue"], sentenceContinue),
    (["se", "sep"], Segmentation.separator),
    (["sp"], Segmentation.space),
    (["st", "sterm"], sentenceEnd),
    (["up", "upper"], upper)]

end TableGuard.Unicode
