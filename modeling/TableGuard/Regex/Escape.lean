import TableGuard.Regex.Blank
import TableGuard.Regex.Flags
import TableGuard.Unicode.Property

/-!
# Escapes

What a backslash and the characters after it stand for, inside and outside of classes.

* `Regex.Atom` : a character, a set of characters or a condition;
* `Regex.escape?` : reads what follows a backslash;
* `Regex.quote` : writes a text so that it stands for itself.
-/

namespace TableGuard.Regex

/-- What an escape stands for. -/
inductive Atom where
  | char (c : Char)
  | set (s : CharSet)
  | look (k : Look)

/-! ## Quoting -/

def metaChars : List Char :=
  ['\\', '.', '+', '*', '?', '(', ')', '|', '[', ']', '{', '}', '^', '$', '#', '&', '-', '~']

/-- A character as a pattern for itself. -/
def quoteChar (c : Char) : List Char :=
  if metaChars.contains c then ['\\', c] else [c]

/-- A text as a pattern for itself. -/
def quote (text : List Char) : List Char := text.flatMap quoteChar

/-- Whether a backslash before the character makes it stand for itself: any ASCII character that is
neither a letter nor a digit, angle brackets excepted. -/
def isQuotable (c : Char) : Bool :=
  c.toNat < 128 && !c.isAlphanum && c != '<' && c != '>'

/-! ## Characters by number -/

def isHexDigit (c : Char) : Bool :=
  c.isDigit || ('a' ≤ c && c ≤ 'f') || ('A' ≤ c && c ≤ 'F')

def hexValue (c : Char) : Nat :=
  if c.isDigit then c.toNat - '0'.toNat
  else if 'a' ≤ c && c ≤ 'f' then c.toNat - 'a'.toNat + 10
  else c.toNat - 'A'.toNat + 10

def hexNumber (digits : List Char) : Nat :=
  digits.foldl (fun n c => 16 * n + hexValue c) 0

/-- The character of a code point. -/
def scalar? (n : Nat) : Option Char :=
  if n.isValidChar then some (Char.ofNat n) else none

/-- A character by its code point: in braces, or with exactly `width` digits. Two digits name a byte
when `unicode` is off, and a byte beyond ASCII is no character. -/
def codePoint? (f : Flags) (width : Nat) (text : List Char) : Option (Atom × List Char) :=
  match skip f.verbose text with
  | '{' :: rest =>
    match spanLoose f.verbose isHexDigit rest with
    | (d :: ds, '}' :: rest) => (scalar? (hexNumber (d :: ds))).map fun c => (.char c, rest)
    | _ => none
  | rest =>
    let (digits, rest) := takeLoose f.verbose isHexDigit width false rest
    let n := hexNumber digits
    if digits.length < width then none
    else if width = 2 && !f.unicode && 0x80 ≤ n then none
    else (scalar? n).map fun c => (.char c, rest)

/-! ## Classes by name -/

/-- The text around the first occurrence of a separator. -/
def splitFirst? (separator : List Char) : List Char → Option (List Char × List Char)
  | [] => none
  | c :: rest =>
    if separator.isPrefixOf (c :: rest) then some ([], (c :: rest).drop separator.length)
    else (splitFirst? separator rest).map fun (a, b) => (c :: a, b)

/-- The set that a property stands for, and whether its complement is meant. -/
def propertyQuery? (name : List Char) : Option (CharSet × Bool) :=
  match splitFirst? ['!', '='] name with
  | some (property, value) => (Unicode.propertyValue? property value).map (·, true)
  | none =>
    match splitFirst? [':'] name with
    | some (property, value) => (Unicode.propertyValue? property value).map (·, false)
    | none =>
      match splitFirst? ['='] name with
      | some (property, value) => (Unicode.propertyValue? property value).map (·, false)
      | none => (Unicode.property? name).map (·, false)

/-- The set of a query, under the flags. -/
def propertySet? (f : Flags) (negated : Bool) (name : List Char) : Option CharSet :=
  if f.unicode then
    (propertyQuery? name).bind fun (s, opposite) => f.negate? (negated != opposite) (f.fold s)
  else none

def property? (f : Flags) (negated : Bool) (text : List Char) : Option (Atom × List Char) :=
  match skip f.verbose text with
  | [] => none
  | '\\' :: _ => none
  | '{' :: rest =>
    match spanLoose f.verbose (· != '}') rest with
    | (name, '}' :: rest) => (propertySet? f negated name).map fun s => (.set s, rest)
    | _ => none
  | c :: rest => (propertySet? f negated [c]).map fun s => (.set s, rest)

def digitSet (f : Flags) : CharSet :=
  if f.unicode then Unicode.Category.decimalNumber else ⟨[(0x30, 0x39)]⟩

def spaceSet (f : Flags) : CharSet :=
  if f.unicode then Unicode.blank else ⟨[(0x09, 0x0D), (0x20, 0x20)]⟩

def wordSet (f : Flags) : CharSet :=
  if f.unicode then Unicode.word else Unicode.asciiWord

/-- A set or its complement as an atom. -/
def setAtom? (f : Flags) (negated : Bool) (s : CharSet) (rest : List Char) :
    Option (Atom × List Char) :=
  (f.negate? negated s).map fun s => (.set s, rest)

/-! ## Word boundaries -/

/-- Whether the character can stand in the name of a boundary. -/
def isBoundaryLetter (c : Char) : Bool := c.isAlpha || c == '-'

def boundary? (rule : WordRule) (name : List Char) : Option Look :=
  match String.ofList name with
  | "start" => some (.wordStart rule)
  | "end" => some (.wordEnd rule)
  | "start-half" => some (.wordStartHalf rule)
  | "end-half" => some (.wordEndHalf rule)
  | _ => none

/-- A word boundary, perhaps with a name in braces. Braces that do not begin with a letter or a
hyphen are left for the repetition that they must be. -/
def wordBoundary? (f : Flags) (text : List Char) : Option (Atom × List Char) :=
  match text with
  | '{' :: inner =>
    match skip f.verbose inner with
    | [] => none
    | c :: rest =>
      if isBoundaryLetter c then
        match spanLoose f.verbose isBoundaryLetter (c :: rest) with
        | (name, '}' :: rest) => (boundary? f.wordRule name).map fun k => (.look k, rest)
        | _ => none
      else some (.look (.boundary f.wordRule), text)
  | _ => some (.look (.boundary f.wordRule), text)

/-! ## Escapes -/

def escape? (f : Flags) : List Char → Option (Atom × List Char)
  | [] => none
  | c :: rest =>
    match c with
    | 'x' => codePoint? f 2 rest
    | 'u' => codePoint? f 4 rest
    | 'U' => codePoint? f 8 rest
    | 'p' => property? f false rest
    | 'P' => property? f true rest
    | 'd' => setAtom? f false (digitSet f) rest
    | 'D' => setAtom? f true (digitSet f) rest
    | 's' => setAtom? f false (spaceSet f) rest
    | 'S' => setAtom? f true (spaceSet f) rest
    | 'w' => setAtom? f false (wordSet f) rest
    | 'W' => setAtom? f true (wordSet f) rest
    | 'a' => some (.char '\x07', rest)
    | 'f' => some (.char '\x0c', rest)
    | 't' => some (.char '\t', rest)
    | 'n' => some (.char '\n', rest)
    | 'r' => some (.char '\r', rest)
    | 'v' => some (.char '\x0b', rest)
    | 'A' => some (.look .textStart, rest)
    | 'z' => some (.look .textEnd, rest)
    | 'b' => wordBoundary? f rest
    | 'B' => some (.look (.noBoundary f.wordRule), rest)
    | '<' => some (.look (.wordStart f.wordRule), rest)
    | '>' => some (.look (.wordEnd f.wordRule), rest)
    | c => if isQuotable c then some (.char c, rest) else none

end TableGuard.Regex
