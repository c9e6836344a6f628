import TableGuard.Unicode.Age
import TableGuard.Unicode.Identifier
import TableGuard.Unicode.ScriptExtension
import TableGuard.Unicode.Segmentation

/-!
# Properties by name

A class of characters can be asked for by the name of a Unicode property: a property that characters
have or lack, a general category or a script; or by a property and its value. Case, white space,
hyphens, underscores and a leading `is` do not matter in names.

* `Unicode.normalName` : what is left of a name;
* `Unicode.property?` : the set that a name such as `Lu` or `Greek` stands for;
* `Unicode.propertyValue?` : the set of a pair such as `script=Greek`.
-/

namespace TableGuard.Unicode

/-- A name without what does not matter in names. A lone `isc` is a name of its own and is kept. -/
def normalName (name : List Char) : String :=
  let clean (cs : List Char) : List Char :=
    (cs.filter fun c => c.toNat < 128 && c != ' ' && c != '_' && c != '-').map Char.toLower
  match name with
  | i :: s :: rest =>
    if i.toLower = 'i' && s.toLower = 's' then
      let rest := clean rest
      if rest = ['c'] then "isc" else String.ofList rest
    else String.ofList (clean name)
  | _ => String.ofList (clean name)

open Category in
def categoryTable : List (List String × CharSet) :=
   [(["lu", "uppercaseletter"], uppercaseLetter),
    (["ll", "lowercaseletter"], lowercaseLetter),
    (["lt", "titlecaseletter"], titlecaseLetter),
    (["casedletter", "lc"], casedLetter),
    (["lm", "modifierletter"], modifierLetter),
    (["lo", "otherletter"], otherLetter),
    (["l", "letter"], letter),
    (["mn", "nonspacingmark"], nonspacingMark),
    (["mc", "spacingmark"], spacingMark),
    (["enclosingmark", "me"], enclosingMark),
    (["combiningmark", "m", "mark"], mark),
    (["decimalnumber", "digit", "nd"], decimalNumber),
    (["letternumber", "nl"], letterNumber),
    (["no", "othernumber"], otherNumber),
    (["n", "number"], number),
    (["connectorpunctuation", "pc"], connectorPunctuation),
    (["dashpunctuation", "pd"], dashPunctuation),
    (["openpunctuation", "ps"], openPunctuation),
    (["closepunctuation", "pe"], closePunctuation),
    (["initialpunctuation", "pi"], initialPunctuation),
    (["finalpunctuation", "pf"], finalPunctuation),
    (["otherpunctuation", "po"], otherPunctuation),
    (["p", "punct", "punctuation"], punctuation),
    (["mathsymbol", "sm"], mathSymbol),
    (["currencysymbol", "sc"], currencySymbol),
    (["modifiersymbol", "sk"], modifierSymbol),
    (["othersymbol", "so"], otherSymbol),
    (["s", "symbol"], symbol),
    (["spaceseparator", "zs"], spaceSeparator),
    (["lineseparator", "zl"], lineSeparator),
    (["paragraphseparator", "zp"], paragraphSeparator),
    (["separator", "z"], separator),
    (["cc", "cntrl", "control"], control),
    (["cf", "format"], format),
    (["co", "privateuse"], privateUse),
    (["cn", "unassigned"], unassigned),
    (["c", "other"], other),
    (["any"], CharSet.all),
    (["ascii"], ⟨[(0, 0x7F)]⟩),
    (["assigned"], assigned)]

def otherAlphabetic : CharSet := alphabetic.diff (Category.letter.union Category.letterNumber)

def flagTable : List (List String × CharSet) :=
   [(["ahex", "asciihexdigit"], asciiHexDigit),
    (["alpha", "alphabetic"], alphabetic),
    (["bidic", "bidicontrol"], bidiControl),
    (["bidim", "bidimirrored"], bidiMirrored),
    (["caseignorable", "ci"], caseIgnorable),
    (["cased"], cased),
    (["changeswhencasefolded", "cwcf"], changesWhenCasefolded),
    (["changeswhencasemapped", "cwcm"], changesWhenCasemapped),
    (["changeswhenlowercased", "cwl"], changesWhenLowercased),
    (["changeswhentitlecased", "cwt"], changesWhenTitlecased),
    (["changeswhenuppercased", "cwu"], changesWhenUppercased),
    (["dash"], dash),
    (["defaultignorablecodepoint", "di"], defaultIgnorable),
    (["dep", "deprecated"], deprecatedCharacter),
    (["dia", "diacritic"], diacritic),
    (["emoji"], emoji),
    (["ecomp", "emojicomponent"], emojiComponent),
    (["emod", "emojimodifier"], emojiModifier),
    (["ebase", "emojimodifierbase"], emojiModifierBase),
    (["emojipresentation", "epres"], emojiPresentation),
    (["extendedpictographic", "extpict"], extendedPictographic),
    (["ext", "extender"], extender),
    (["graphemebase", "grbase"], graphemeBase),
    (["graphemeextend", "grext"], graphemeExtend),
    (["graphemelink", "grlink"], graphemeLink),
    (["hex", "hexdigit"], hexDigit),
    (["hyphen"], hyphen),
    (["idcompatmathcontinue"], idCompatMathContinue),
    (["idcompatmathstart"], idCompatMathStart),
    (["idc", "idcontinue"], idContinue),
    (["ids", "idstart"], idStart),
    (["ideo", "ideographic"], ideographic),
    (["idsb", "idsbinaryoperator"], idsBinaryOperator),
    (["idst", "idstrinaryoperator"], idsTrinaryOperator),
    (["idsu", "idsunaryoperator"], idsUnaryOperator),
    (["joinc", "joincontrol"], joinControl),
    (["loe", "logicalorderexception"], logicalOrderException),
    (["lower", "lowercase"], lowercase),
    (["math"], math),
    (["mcm", "modifiercombiningmark"], modifierCombiningMark),
    (["nchar", "noncharactercodepoint"], noncharacter),
    (["oalpha", "otheralphabetic"], otherAlphabetic),
    (["odi", "otherdefaultignorablecodepoint"], otherDefaultIgnorable),
    (["ogrext", "othergraphemeextend"], otherGraphemeExtend),
    (["oidc", "otheridcontinue"], otherIdContinue),
    (["oids", "otheridstart"], otherIdStart),
    (["olower", "otherlowercase"], otherLowercase),
    (["omath", "othermath"], otherMath),
    (["otheruppercase", "oupper"], otherUppercase),
    (["patsyn", "patternsyntax"], patternSyntax),
    (["patternwhitespace", "patws"], patternSpace),
    (["pcm", "prependedconcatenationmark"], prependedMark),
    (["qmark", "quotationmark"], quotationMark),
    (["radical"], radical),
    (["regionalindicator", "ri"], regionalIndicator),
    (["sd", "softdotted"], softDotted),
    (["sentenceterminal", "sterm"], sentenceTerminal),
    (["space", "whitespace", "wspace"], blank),
    (["term", "terminalpunctuation"], terminalPunctuation),
    (["uideo", "unifiedideograph"], unifiedIdeograph),
    (["upper", "uppercase"], uppercase),
    (["variationselector", "vs"], variationSelector),
    (["xidc", "xidcontinue"], xidContinue),
    (["xids", "xidstart"], xidStart)]

/-- The set under a name in a table. -/
def lookUp? (table : List (List String × CharSet)) (name : String) : Option CharSet :=
  (named? table name).map (·.2)

def category? (name : String) : Option CharSet := lookUp? categoryTable name

/-- The characters that are used with the script of a name. -/
def scriptExtension? (name : String) : Option CharSet :=
  (named? scriptTable name).map fun entry => usedWith entry.1 ⟨entry.2⟩

/-- The set that the name of a property, a general category or a script stands for. -/
def property? (name : List Char) : Option CharSet :=
  let name := normalName name
  match lookUp? flagTable name with
  | some s => some s
  | none =>
    match category? name with
    | some s => some s
    | none => script? name

/-- A property that takes values. -/
inductive Valued where
  | category
  | script
  | scriptExtension
  | age
  | graphemeBreak
  | wordBreak
  | sentenceBreak

def valuedTable : List (List String × Valued) :=
   [(["gc", "generalcategory"], .category),
    (["sc", "script"], .script),
    (["scriptextensions", "scx"], .scriptExtension),
    (["age"], .age),
    (["gcb", "graphemeclusterbreak"], .graphemeBreak),
    (["wb", "wordbreak"], .wordBreak),
    (["sb", "sentencebreak"], .sentenceBreak)]

/-- The characters that have the named value. -/
def Valued.set? (name : String) : Valued → Option CharSet
  | .category => category? name
  | .script => script? name
  | .scriptExtension => scriptExtension? name
  | .age => presentIn? name
  | .graphemeBreak => lookUp? graphemeBreakTable name
  | .wordBreak => lookUp? wordBreakTable name
  | .sentenceBreak => lookUp? sentenceBreakTable name

/-- The set of the characters that have the given value for a property. -/
def propertyValue? (name value : List Char) : Option CharSet :=
  (named? valuedTable (normalName name)).bind fun entry => entry.2.set? (normalName value)

end TableGuard.Unicode
