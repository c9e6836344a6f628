import TableGuard.Number.Shortest

/-!
# Numbers in JSON

A number without fraction and exponent is an integer as long as it fits into 64 bits; any other
number is a floating point number. Digits beyond what 64 bits hold only move the point, and the
power of ten is applied in one multiplication or division.

* `Json.Number`, `Number.describe` : the two kinds and how they are named in messages;
* `Json.readNumber?` : reads a number; none if it is malformed or too large;
* `Json.skipNumber?` : passes over a number of any size.
-/

namespace TableGuard.Json

/-- A number as it is read. -/
inductive Number where
  | natural (n : Nat)
  | negative (n : Nat)
  | floating (x : Float)

def Number.describe : Number → String
  | .natural n => s!"integer `{n}`"
  | .negative n => s!"integer `-{n}`"
  | .floating x => s!"floating point `{Shortest.render x}`"

def spanDigits (text : List Char) : List Char × List Char :=
  (text.takeWhile Char.isDigit, text.dropWhile Char.isDigit)

def digitValue (c : Char) : Nat := c.toNat - '0'.toNat

/-- Adds digits to a significand as long as 64 bits hold it; the rest of the digits is left. -/
def gather (significand : Nat) : List Char → Nat × List Char
  | [] => (significand, [])
  | d :: ds =>
    let next := 10 * significand + digitValue d
    if UInt64.size ≤ next then (significand, d :: ds) else gather next ds

/-- The power of ten nearest to `10 ^ n`, for `n` up to 308. -/
def powerOfTen (n : Nat) : Float := Float.ofScientific 1 false n

/-- Divides by `10 ^ n`, in steps of at most `10 ^ 308`. -/
def scaleDown (x : Float) : Nat → Nat → Float
  | 0, _ => x
  | fuel + 1, n =>
    if n ≤ 308 then x / powerOfTen n
    else if x == 0 then x
    else scaleDown (x / powerOfTen 308) fuel (n - 308)

/-- The number `significand * 10 ^ exponent`; none if it is too large. -/
def assemble? (negative : Bool) (significand : Nat) (exponent : Int) : Option Number :=
  let x := Float.ofNat significand
  let signed (y : Float) : Number := .floating (if negative then -y else y)
  if exponent < 0 then some (signed (scaleDown x 4 exponent.natAbs))
  else if 308 < exponent then (if significand = 0 then some (signed x) else none)
  else
    let y := x * powerOfTen exponent.toNat
    if y.isInf then none else some (signed y)

/-- The largest exponent that is kept apart from all larger ones. -/
def maxExponent : Nat := 0x7FFFFFFF

/-- An exponent after its letter, and the rest. -/
def readExponent? (text : List Char) : Option (Int × List Char) :=
  let (negative, text) := match text with
    | '+' :: rest => (false, rest)
    | '-' :: rest => (true, rest)
    | rest => (false, rest)
  match spanDigits text with
  | ([], _) => none
  | (ds, rest) =>
    let n := ds.foldl (fun n d => 10 * n + digitValue d) 0
    some (if negative then -(n : Int) else n, rest)

/-- Reads an exponent, if there is one, and assembles the number. -/
def finishNumber? (negative : Bool) (significand : Nat) (exponent : Int) (text : List Char) :
    Option (Number × List Char) :=
  match text with
  | c :: rest =>
    if c = 'e' || c = 'E' then
      (readExponent? rest).bind fun (e, rest) =>
        if (maxExponent : Int) < e then
          if significand = 0 then some (.floating (if negative then -0.0 else 0.0), rest) else none
        else if e < -(maxExponent : Int) then
          some (.floating (if negative then -0.0 else 0.0), rest)
        else (assemble? negative significand (exponent + e)).map (·, rest)
    else (assemble? negative significand exponent).map (·, text)
  | [] => (assemble? negative significand exponent).map (·, [])

/-- Reads a fraction after its point; at least one digit has to be there. -/
def readFraction? (negative : Bool) (significand : Nat) (exponent : Int) (text : List Char) :
    Option (Number × List Char) :=
  match spanDigits text with
  | ([], _) => none
  | (ds, rest) =>
    let (significand, left) := gather significand ds
    finishNumber? negative significand (exponent - (ds.length - left.length : Nat)) rest

/-- An integer as a number: minus zero and what 64 bits do not hold are floating point numbers. -/
def integer (negative : Bool) (n : Nat) : Number :=
  if !negative then .natural n
  else if n = 0 || 0x8000000000000000 < n then .floating (-(Float.ofNat n))
  else .negative n

def readUnsigned? (negative : Bool) (text : List Char) : Option (Number × List Char) :=
  match spanDigits text with
  | ([], _) => none
  | ('0' :: _ :: _, _) => none
  | (ds, rest) =>
    let (significand, left) := gather 0 ds
    match rest with
    | '.' :: fraction => readFraction? negative significand left.length fraction
    | c :: _ =>
      if c = 'e' || c = 'E' || !left.isEmpty then
        finishNumber? negative significand left.length rest
      else some (integer negative significand, rest)
    | [] =>
      if left.isEmpty then some (integer negative significand, [])
      else finishNumber? negative significand left.length []

def readNumber? : List Char → Option (Number × List Char)
  | '-' :: rest => readUnsigned? true rest
  | text => readUnsigned? false text

/-! ## Passing over a number -/

def skipExponent? (text : List Char) : Option (List Char) :=
  match text with
  | 'e' :: rest => (readExponent? rest).map (·.2)
  | 'E' :: rest => (readExponent? rest).map (·.2)
  | _ => some text

def skipUnsigned? (text : List Char) : Option (List Char) :=
  match spanDigits text with
  | ([], _) => none
  | ('0' :: _ :: _, _) => none
  | (_, '.' :: fraction) =>
    match spanDigits fraction with
    | ([], _) => none
    | (_, rest) => skipExponent? rest
  | (_, rest) => skipExponent? rest

/-- Passes over a number of any size. -/
def skipNumber? : List Char → Option (List Char)
  | '-' :: rest => skipUnsigned? rest
  | text => skipUnsigned? text

end TableGuard.Json
