/-!
# UTF-8

* `Utf8.encode`, `Utf8.size` : the bytes of a text, and their number;
* `Utf8.decode` : the text of some bytes, or the first place where they are no text;
* `Utf8.Fault` : what is wrong there;
* `Utf8.lossy` : the text of any bytes, with a replacement character for every fault.

A sequence is a lead byte and one to three continuation bytes. The lead byte fixes their number and
the range of the first of them, which rules out long forms, surrogates and values beyond Unicode.
-/

namespace TableGuard.Utf8

/-- Why some bytes are no text. -/
inductive Fault where
  /-- `length` bytes from `index` on begin no sequence that goes on as the bytes do. -/
  | invalid (length index : Nat)
  /-- The bytes end within the sequence that begins at `index`. -/
  | incomplete (index : Nat)
deriving DecidableEq

def Fault.message : Fault → String
  | .invalid length index => s!"invalid utf-8 sequence of {length} bytes from index {index}"
  | .incomplete index => s!"incomplete utf-8 byte sequence from index {index}"

/-! ## Writing -/

def encodeCode (n : Nat) : List UInt8 :=
  if n < 0x80 then [n.toUInt8]
  else if n < 0x800 then [(0xC0 + n / 64).toUInt8, (0x80 + n % 64).toUInt8]
  else if n < 0x10000 then
    [(0xE0 + n / 4096).toUInt8, (0x80 + n / 64 % 64).toUInt8, (0x80 + n % 64).toUInt8]
  else
    [(0xF0 + n / 262144).toUInt8, (0x80 + n / 4096 % 64).toUInt8, (0x80 + n / 64 % 64).toUInt8,
      (0x80 + n % 64).toUInt8]

def encode (text : List Char) : List UInt8 := text.flatMap fun c => encodeCode c.toNat

def size : List Char → Nat
  | [] => 0
  | c :: text => c.utf8Size + size text

/-! ## Reading -/

/-- What a lead byte announces: the number of continuation bytes, and the range of the first. -/
def lead? (b : UInt8) : Option (Nat × UInt8 × UInt8) :=
  if b < 0xC2 then none
  else if b < 0xE0 then some (1, 0x80, 0xBF)
  else if b = 0xE0 then some (2, 0xA0, 0xBF)
  else if b = 0xED then some (2, 0x80, 0x9F)
  else if b < 0xF0 then some (2, 0x80, 0xBF)
  else if b = 0xF0 then some (3, 0x90, 0xBF)
  else if b < 0xF4 then some (3, 0x80, 0xBF)
  else if b = 0xF4 then some (3, 0x80, 0x8F)
  else none

def isContinuation (b : UInt8) : Bool := 0x80 ≤ b && b ≤ 0xBF

/-- The six bits that a continuation byte carries. -/
def payload (b : UInt8) : Nat := b.toNat - 0x80

/-- Reads the bytes from `index` on; `done` is the text before them, latest character first. -/
def decodeFrom (index : Nat) (done : List Char) : List UInt8 → Except Fault (List Char)
  | [] => .ok done.reverse
  | b :: rest =>
    if b < 0x80 then decodeFrom (index + 1) (Char.ofNat b.toNat :: done) rest
    else
      match lead? b with
      | none => .error (.invalid 1 index)
      | some (count, lo, hi) =>
        match rest with
        | [] => .error (.incomplete index)
        | c :: rest =>
          if c < lo || hi < c then .error (.invalid 1 index)
          else if count = 1 then
            decodeFrom (index + 2) (Char.ofNat ((b.toNat - 0xC0) * 64 + payload c) :: done) rest
          else
            match rest with
            | [] => .error (.incomplete index)
            | d :: rest =>
              if !isContinuation d then .error (.invalid 2 index)
              else if count = 2 then
                decodeFrom (index + 3)
                  (Char.ofNat ((b.toNat - 0xE0) * 4096 + payload c * 64 + payload d) :: done) rest
              else
                match rest with
                | [] => .error (.incomplete index)
                | e :: rest =>
                  if !isContinuation e then .error (.invalid 3 index)
                  else
                    decodeFrom (index + 4)
                      (Char.ofNat ((b.toNat - 0xF0) * 262144 + payload c * 4096 + payload d * 64
                        + payload e) :: done) rest

def decode (bytes : List UInt8) : Except Fault (List Char) := decodeFrom 0 [] bytes

/-! ## Reading whatever there is -/

/-- The character that stands for bytes that are no text. -/
def replacement : Char := '\uFFFD'

/-- The text of the bytes in front of a fault. -/
def textBefore (index : Nat) (bytes : List UInt8) : List Char :=
  (decode (bytes.take index)).toOption.getD []

/-- Reads the bytes after the first `passed` ones. The bytes of a fault count as one character, and
reading goes on behind them. -/
def lossyFrom : Nat → List UInt8 → List Char
  | _, [] => []
  | passed + 1, _ :: rest => lossyFrom passed rest
  | 0, b :: rest =>
    match decode (b :: rest) with
    | .ok text => text
    | .error (.incomplete index) => textBefore index (b :: rest) ++ [replacement]
    | .error (.invalid length index) =>
      -- The byte `b` has been split off already, so one less is left to pass over.
      textBefore index (b :: rest) ++ replacement :: lossyFrom (index + length - 1) rest

def lossy (bytes : List UInt8) : List Char := lossyFrom 0 bytes

end TableGuard.Utf8
