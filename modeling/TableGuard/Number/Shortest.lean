/-!
# The shortest decimal of a floating point number

A floating point number is written with the fewest digits that read back as the same number, and of
those with the ones nearest to it. Everything is computed exactly: the number is `m * 2 ^ q`, and a
decimal reads back as it when it lies in the interval half way to its neighbours, whose ends belong
to it when `m` is even.

* `Shortest.Binary` : a positive number as `m * 2 ^ q`, and `Binary.ofBits` from its bits;
* `Shortest.digits` : its shortest decimal, as digits and the position of the point;
* `Shortest.render` : the text, positional from `10 ^ -5` to below `10 ^ 16`, otherwise with an
  exponent.
-/

namespace TableGuard.Shortest

/-- A positive number `m * 2 ^ q`; `edge` says that the neighbour below is at half the distance. -/
structure Binary where
  m : Nat
  q : Int
  edge : Bool

/-- The number of fractions that a double can have. -/
def fractionSize : Nat := 0x10000000000000

def signBit : Nat := 0x8000000000000000

/-- The number that the bits of a finite double stand for, its sign apart. -/
def Binary.ofBits (bits : Nat) : Binary :=
  let fraction : Nat := bits % fractionSize
  let exponent : Nat := bits / fractionSize % 2048
  if exponent = 0 then ⟨fraction, -1074, false⟩
  else ⟨fractionSize + fraction, (exponent : Int) - 1075, fraction = 0 && 1 < exponent⟩

/-- A quotient of natural numbers that equals `a * 2 ^ q * 10 ^ e`. -/
def scaled (a : Nat) (q e : Int) : Nat × Nat :=
  (a * Nat.pow 2 q.toNat * Nat.pow 10 e.toNat, Nat.pow 2 (-q).toNat * Nat.pow 10 (-e).toNat)

/-- Whether the decimal `c * 10 ^ e` reads back as the number. -/
def Binary.readsBack (x : Binary) (c : Nat) (e : Int) : Bool :=
  let below := scaled (4 * x.m - (if x.edge then 1 else 2)) (x.q - 2) (-e)
  let above := scaled (4 * x.m + 2) (x.q - 2) (-e)
  if x.m % 2 = 0 then below.1 ≤ c * below.2 && c * above.2 ≤ above.1
  else below.1 < c * below.2 && c * above.2 < above.1

/-- The decimal with the unit `10 ^ e` that is nearest to the number and reads back as it; of two at
the same distance the even one. -/
def Binary.onGrid? (x : Binary) (e : Int) : Option Nat :=
  let (num, den) := scaled x.m x.q (-e)
  let low := num / den
  let twice := 2 * (num % den)
  let high := low + 1
  let lowFirst := twice < den || (twice = den && low % 2 = 0)
  let (near, far) := if lowFirst then (low, high) else (high, low)
  if x.readsBack near e then some near
  else if x.readsBack far e then some far
  else none

/-- The number of decimal digits before the point of a number of at least one, or minus the number
of zeros after the point of a smaller one; `bound` limits the search. -/
def magnitude (x : Binary) : Nat → Int → Int
  | 0, e => e
  | bound + 1, e =>
    let (num, den) := scaled x.m x.q (-(e - 1))
    if num < den then magnitude x bound (e - 1) else e

/-- The first grid, from coarse to fine, with a decimal that reads back. -/
def search (x : Binary) : Nat → Int → Nat × Int
  | 0, e => ((x.onGrid? e).getD 0, e)
  | fuel + 1, e =>
    match x.onGrid? e with
    | some c => (c, e)
    | none => search x fuel (e - 1)

def dropZeros : Nat → Nat → Int → Nat × Int
  | 0, c, e => (c, e)
  | fuel + 1, c, e => if c % 10 = 0 then dropZeros fuel (c / 10) (e + 1) else (c, e)

def digits (x : Binary) : Nat × Int :=
  let top := magnitude x 640 310
  let (c, e) := search x 17 (top - 1)
  dropZeros 20 c e

def renderDecimal (c : Nat) (e : Int) : String :=
  let ds := Nat.toDigits 10 c
  let point : Int := ds.length + e
  if 0 ≤ e && point ≤ 16 then String.ofList (ds ++ List.replicate e.toNat '0' ++ ['.', '0'])
  else if 0 < point && point ≤ 16 then
    String.ofList (ds.take point.toNat ++ '.' :: ds.drop point.toNat)
  else if -5 < point && point ≤ 0 then
    String.ofList ('0' :: '.' :: List.replicate (-point).toNat '0' ++ ds)
  else
    let mantissa := match ds with
      | [d] => [d]
      | d :: ds => d :: '.' :: ds
      | [] => []
    let exponent := point - 1
    let sign := if exponent < 0 then '-' else '+'
    String.ofList (mantissa ++ 'e' :: sign :: Nat.toDigits 10 exponent.natAbs)

def render (x : Float) : String :=
  let bits := x.toBits.toNat
  let sign := if signBit ≤ bits then "-" else ""
  if bits % signBit = 0 then sign ++ "0.0"
  else
    let (c, e) := digits (.ofBits (bits % signBit))
    sign ++ renderDecimal c e

end TableGuard.Shortest
