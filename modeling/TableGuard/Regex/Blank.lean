import TableGuard.Unicode.Word

/-!
# White space and comments inside a pattern

Under the verbose flag white space means nothing, and a number sign begins a comment that ends with
its line. Both may also stand between the digits of a number or the letters of a name.
-/

namespace TableGuard.Regex

/-- Drops white space and comments; `comment` says whether the text begins inside a comment. -/
def dropBlanks (comment : Bool) : List Char → List Char
  | [] => []
  | c :: rest =>
    if comment then dropBlanks (c != '\n') rest
    else if Unicode.isBlank c then dropBlanks false rest
    else if c = '#' then dropBlanks true rest
    else c :: rest

/-- Drops white space and comments under the verbose flag. -/
def skip (verbose : Bool) (text : List Char) : List Char :=
  if verbose then dropBlanks false text else text

/-- Splits off at most `limit` characters that satisfy `p`, passing over white space and comments
between them under the verbose flag. -/
def takeLoose (verbose : Bool) (p : Char → Bool) (limit : Nat) (comment : Bool) :
    List Char → List Char × List Char
  | [] => ([], [])
  | c :: rest =>
    if comment then takeLoose verbose p limit (c != '\n') rest
    else if limit = 0 then ([], c :: rest)
    else if verbose && Unicode.isBlank c then takeLoose verbose p limit false rest
    else if verbose && c = '#' then takeLoose verbose p limit true rest
    else if p c then
      let (taken, rest) := takeLoose verbose p (limit - 1) false rest
      (c :: taken, rest)
    else ([], c :: rest)

/-- Splits off every character up to the first that does not satisfy `p`. -/
def spanLoose (verbose : Bool) (p : Char → Bool) (text : List Char) : List Char × List Char :=
  takeLoose verbose p text.length false text

end TableGuard.Regex
