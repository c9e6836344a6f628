import TableGuard.Unicode.Width

/-!
# The columns of a text

The width of a text on a screen is the sum of the widths of its characters, except where characters
join: a carriage return and a line feed, an emoji with the selectors, skin tones, flags and joiners
around it, and letters of some scripts. Each character is counted knowing what follows it; where two
characters share a column, the earlier one takes none, or gives one back.

* `Columns.Joint` : what follows a character that it may join;
* `Columns.Follow` : the same, with a selector in between;
* `Columns.step` : the columns of a character before such a text;
* `columns` : the columns of a text.
-/

namespace TableGuard

namespace Columns

open Unicode.Width

/-- What follows a character that it may join. -/
inductive Joint where
  /-- Nothing that matters. -/
  | plain
  /-- A line feed. -/
  | lineFeed
  /-- A skin tone. -/
  | skinTone
  /-- A letter of a flag. -/
  | flagLetter
  /-- Several letters of flags. -/
  | flagLetters
  /-- An emoji. -/
  | emoji
  /-- A joiner and an emoji. -/
  | joinedEmoji
  /-- A keycap, a joiner and an emoji. -/
  | joinedKeycap
  /-- A letter of a flag, a joiner and an emoji. -/
  | joinedFlagLetter
  /-- An even number of letters of flags, a joiner and an emoji. -/
  | joinedEven
  /-- An odd number of letters of flags above one, a joiner and an emoji. -/
  | joinedOdd
  /-- So many letters in tags, the end of tags, a joiner and an emoji. -/
  | tagLetters (count : Nat)
  /-- So many digits in tags, perhaps letters in tags, the end of tags, a joiner and an emoji. -/
  | tagDigits (count : Nat)
  /-- The Arabic letter alef. -/
  | alef
  /-- The Hebrew letter lamed, perhaps after a joiner. -/
  | lamed (joined : Bool)
  /-- The Buginese letter ya, perhaps after a joiner. -/
  | ya (joined : Bool)
  /-- The Buginese vowel i, a joiner and the letter ya. -/
  | vowelYa
  /-- A consonant of Tifinagh, perhaps after a joiner. -/
  | tifinagh (joined : Bool)
  /-- The joiner of Tifinagh and a consonant. -/
  | joinedTifinagh
  /-- A Lisu tone that stands below another. -/
  | lisuTone
  /-- The Old Turkic letter i, perhaps after a joiner. -/
  | orkhon (joined : Bool)
  /-- A letter of Khmer that has a form below others. -/
  | khmer
  /-- The Kirat Rai vowel e. -/
  | kiratE
  /-- The Kirat Rai vowel ai. -/
  | kiratAi
deriving DecidableEq

/-- A character that selects one of the forms of the character before it. -/
inductive Selector where
  | emoji
  | text
  | wide
deriving DecidableEq

/-- What matters of the text that follows a character. -/
structure Follow where
  selector : Option Selector
  joint : Joint

/-- Nothing that matters follows. -/
def Follow.plain : Follow := ⟨none, .plain⟩

/-- Whether a selector lies in between without harm. -/
def Joint.bearsSelector : Joint → Bool
  | .alef | .lamed _ | .ya _ | .vowelYa | .tifinagh _ | .joinedTifinagh | .lisuTone | .orkhon _
  | .khmer => true
  | _ => false

/-- Whether ignorable marks and joiners lie in between without harm. -/
def Joint.bearsMarks (joint : Joint) : Bool :=
  joint.bearsSelector && joint != .alef

/-- Whether an emoji with its selector joins. -/
def Joint.bearsEmoji (joint : Joint) : Bool :=
  joint == .joinedEmoji || joint == .joinedKeycap

/-- What is left of a joint when a selector that selected nothing is passed over. -/
def Joint.underSelector (joint : Joint) : Joint :=
  if joint.bearsSelector then joint else .plain

/-- What a joint becomes after a joiner, where marks lie in between without harm. -/
def Joint.joined : Joint → Joint
  | .lamed _ => .lamed true
  | .ya _ => .ya true
  | .tifinagh _ => .tifinagh true
  | .orkhon _ => .orkhon true
  | joint => joint

def selector? (c : Char) : Option Selector :=
  match c.toNat with
  | 0xFE0F => some .emoji
  | 0xFE0E => some .text
  | 0xFE01 => some .wide
  | _ => none

def between (lo hi : Nat) (c : Char) : Bool := lo ≤ c.toNat && c.toNat ≤ hi

def isSkinTone : Char → Bool := between 0x1F3FB 0x1F3FF

def isFlagLetter : Char → Bool := between 0x1F1E6 0x1F1FF

def isJoiner (c : Char) : Bool := c.toNat = 0x200D

/-- What a character is to those before it, if that matters. -/
def jointOf (c : Char) : Joint :=
  if isSkinTone c then .skinTone
  else if isFlagLetter c then .flagLetter
  else if emojiPresentation.contains c then .emoji
  else if Unicode.Width.alef.contains c then .alef
  else if khmerBelow.contains c then .khmer
  else if tifinaghConsonant.contains c then .tifinagh false
  else if between 0xA4FC 0xA4FD c then .lisuTone
  else
    match c.toNat with
    | 0x5DC => .lamed false
    | 0x1A10 => .ya false
    | 0x10C03 => .orkhon false
    | 0x16D67 => .kiratE
    | 0x16D68 => .kiratAi
    | _ => .plain

def width (c : Char) : Int :=
  if zeroWidth.contains c then 0
  else if wide.contains c then 2
  else if c.toNat = 0x17D8 then 3
  else 1

/-- The columns of a character before something that it does not join. -/
def alone (c : Char) : Int × Joint := (width c, jointOf c)

/-- The columns of a character before something that it may join, and what it is to those before
it. -/
def meet (c : Char) (next : Joint) : Int × Joint :=
  match next with
  | .plain | .lineFeed | .joinedKeycap => alone c
  | .skinTone =>
    if Unicode.emojiModifierBase.contains c then (0, .emoji)
    else if isJoiner c then (0, .joinedEmoji) else alone c
  | .flagLetter => if isFlagLetter c then (1, .flagLetters) else alone c
  | .flagLetters =>
    if isFlagLetter c then (1, .flagLetters)
    else if isJoiner c then (0, .joinedEmoji) else alone c
  | .emoji => if isJoiner c then (0, .joinedEmoji) else alone c
  | .joinedEmoji =>
    if c.toNat = 0x20E3 then (0, .joinedKeycap)
    else if c.toNat = 0xE007F then (0, .tagLetters 0)
    else if isFlagLetter c then (1, .joinedFlagLetter)
    else if isSkinTone c then (0, .skinTone)
    else if emojiPresentation.contains c then (0, .emoji)
    else alone c
  | .joinedFlagLetter => if isFlagLetter c then (-1, .joinedEven) else alone c
  | .joinedOdd =>
    if isFlagLetter c then (-1, .joinedEven)
    else if isJoiner c then (0, .joinedEmoji) else alone c
  | .joinedEven =>
    if isFlagLetter c then (3, .joinedOdd)
    else if isJoiner c then (0, .joinedEmoji) else alone c
  | .tagLetters n =>
    if between 0xE0061 0xE007A c && n < 6 then (0, .tagLetters (n + 1))
    else if between 0xE0030 0xE0039 c && n < 5 then (0, .tagDigits 1)
    else if c.toNat = 0x1F3F4 && 3 ≤ n then (0, .emoji)
    else alone c
  | .tagDigits n =>
    if between 0xE0030 0xE0039 c && n < 3 then (0, .tagDigits (n + 1))
    else if c.toNat = 0x1F3F4 && n = 3 then (0, .emoji)
    else alone c
  | .alef =>
    if lam.contains c then (0, .plain)
    else if zeroWidth.contains c && !parting.contains c then (0, .alef)
    else alone c
  | .lamed joined => if joined && c.toNat = 0x5D0 then (0, .plain) else alone c
  | .ya joined => if joined && c.toNat = 0x1A17 then (0, .vowelYa) else alone c
  | .vowelYa => if c.toNat = 0x1A15 then (0, .plain) else alone c
  | .tifinagh joined =>
    if c.toNat = 0x2D7F then (1, .joinedTifinagh)
    else if joined && tifinaghConsonant.contains c then (0, .plain)
    else alone c
  | .joinedTifinagh => if tifinaghConsonant.contains c then (-1, .plain) else alone c
  | .lisuTone => if between 0xA4F8 0xA4FB c then (0, .plain) else alone c
  | .orkhon joined => if joined && c.toNat = 0x10C32 then (0, .plain) else alone c
  | .khmer => if c.toNat = 0x17D2 then (-1, .plain) else alone c
  | .kiratE =>
    match c.toNat with
    | 0x16D63 | 0x16D69 => (0, .plain)
    | 0x16D67 => (0, .kiratAi)
    | 0x16D68 => (1, .kiratE)
    | _ => alone c
  | .kiratAi => if c.toNat = 0x16D63 then (0, .plain) else alone c

/-- The columns of a character up to the first one beyond ASCII and the controls after it. -/
def narrow (c : Char) (next : Joint) : Int × Joint :=
  if c = '\n' then (1, .lineFeed)
  else if c = '\r' && next = .lineFeed then (0, .plain)
  else (1, .plain)

/-- The columns that a character adds before the given text, and what it is to those before it. -/
def step (c : Char) (next : Follow) : Int × Follow :=
  if next.selector = some .emoji && emojiBase.contains c then
    (if next.joint.bearsEmoji then 0 else 2, ⟨none, .emoji⟩)
  else
    let joint := if next.selector = some .emoji then next.joint.underSelector else next.joint
    if c.toNat ≤ 0xA0 then
      let (n, joint) := narrow c joint
      (n, ⟨none, joint⟩)
    else
      match selector? c with
      | some .emoji =>
        (0, ⟨some .emoji, if joint.bearsEmoji then joint else joint.underSelector⟩)
      | some s => (0, ⟨some s, joint.underSelector⟩)
      | none =>
        if next.selector = some .text && textBase.contains c then (1, .plain)
        else if next.selector = some .wide && wideQuote.contains c then (2, .plain)
        else if joint.bearsMarks && isJoiner c then (0, ⟨none, joint.joined⟩)
        else if joint.bearsMarks && ignorableMark.contains c then (0, ⟨none, joint⟩)
        else
          let (n, joint) := meet c joint
          (n, ⟨none, joint⟩)

end Columns

def columns (text : List Char) : Nat :=
  (text.reverse.foldl (fun (sum, next) c =>
    let (width, next) := Columns.step c next
    (sum + width, next)) ((0 : Int), Columns.Follow.plain)).1.toNat

end TableGuard
