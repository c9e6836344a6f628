import Mathlib.Data.List.Forall2
import TableGuard.Json.Reader

/-!
# JSON as it is written

What a JSON text looks like, said without a reader: which texts are strings, numbers and values, and
which strings, sequences and records a text stands for. Between the parts of a value there can be any
white space, and a character of a string can be spelled in several ways.

* `SpellsChar`, `Spells` : what stands between the quotes of a string, and the text it spells;
* `IsString`, `IsNumber`, `IsValue` : strings, numbers and values that need not stand for anything;
* `Padded`, `Member`, `listed` : parts with white space around them, and with commas between them;
* `WritesString`, `WritesList`, `GivesAll` : the strings, sequences and fields that are written.

A string that is passed over can hold halves of a pair by themselves, which spell no character; its
value is of no interest then.
-/

namespace TableGuard.Json

/-! ## Strings -/

/-- The digits of hexadecimal numbers, and their values. -/
def hexDigits : List (Char × Nat) :=
  "0123456789abcdef".toList.zipIdx ++ "ABCDEF".toList.zipIdx 10

/-- Four hexadecimal digits and the number that they write. -/
inductive WritesUnit : List Char → Nat → Prop
  | digits {a b c d : Char} {w x y z : Nat} : (a, w) ∈ hexDigits → (b, x) ∈ hexDigits →
      (c, y) ∈ hexDigits → (d, z) ∈ hexDigits →
      WritesUnit [a, b, c, d] (((w * 16 + x) * 16 + y) * 16 + z)

def escapes : List (Char × Char) :=
  [('"', '"'), ('\\', '\\'), ('/', '/'), ('b', '\x08'), ('f', '\x0c'), ('n', '\n'), ('r', '\r'),
    ('t', '\t')]

/-- What spells a character: the character itself, a letter for it, its number, or two halves of a
pair that make up its number. -/
inductive SpellsChar : List Char → Char → Prop
  | plain {c : Char} : c ≠ '"' → c ≠ '\\' → 0x20 ≤ c.toNat → SpellsChar [c] c
  | escape {letter c : Char} : (letter, c) ∈ escapes → SpellsChar ['\\', letter] c
  | unit {digits : List Char} {n : Nat} : WritesUnit digits n → n < 0xD800 ∨ 0xE000 ≤ n →
      SpellsChar ('\\' :: 'u' :: digits) (Char.ofNat n)
  | pair {digits digits' : List Char} {high low : Nat} : WritesUnit digits high →
      WritesUnit digits' low → 0xD800 ≤ high → high < 0xDC00 → 0xDC00 ≤ low → low < 0xE000 →
      SpellsChar ('\\' :: 'u' :: (digits ++ '\\' :: 'u' :: digits'))
        (Char.ofNat (0x10000 + (high - 0xD800) * 0x400 + (low - 0xDC00)))

/-- What stands between quotes, and the text that it spells. -/
inductive Spells : List Char → List Char → Prop
  | nil : Spells [] []
  | cons {piece body text : List Char} {c : Char} : SpellsChar piece c → Spells body text →
      Spells (piece ++ body) (c :: text)

/-- What can stand between the quotes of a string, if it need not spell anything. -/
inductive IsString : List Char → Prop
  | nil : IsString []
  | char {piece body : List Char} {c : Char} : SpellsChar piece c → IsString body →
      IsString (piece ++ body)
  | unit {digits body : List Char} {n : Nat} : WritesUnit digits n → IsString body →
      IsString ('\\' :: 'u' :: (digits ++ body))

theorem Spells.isString {body text : List Char} (h : Spells body text) : IsString body := by
  induction h with
  | nil => exact .nil
  | cons hpiece _ ih => exact .char hpiece ih

/-- Whether a character needs no escape. -/
def isPlain (c : Char) : Bool := c != '"' && c != '\\' && 0x20 ≤ c.toNat

theorem spells_self {text : List Char} (h : text.all isPlain = true) : Spells text text := by
  induction text with
  | nil => exact .nil
  | cons c text ih =>
    rw [List.all_cons, Bool.and_eq_true] at h
    obtain ⟨hc, htext⟩ := h
    simp only [isPlain, Bool.and_eq_true, bne_iff_ne, decide_eq_true_eq] at hc
    exact .cons (.plain hc.1.1 hc.1.2 hc.2) (ih htext)

/-! ## Numbers -/

def IsDigits (ds : List Char) : Prop := ds ≠ [] ∧ ds.all Char.isDigit = true

/-- A fraction, with the point in front of it, or nothing. -/
def IsFraction (text : List Char) : Prop := text = [] ∨ ∃ ds, IsDigits ds ∧ text = '.' :: ds

/-- An exponent, with the letter in front of it, or nothing. -/
def IsExponent (text : List Char) : Prop :=
  text = [] ∨ ∃ e sign ds, (e = 'e' ∨ e = 'E') ∧ (sign = [] ∨ sign = ['+'] ∨ sign = ['-']) ∧
    IsDigits ds ∧ text = e :: (sign ++ ds)

/-- A number of any size: a sign, digits that do not begin with a needless zero, a fraction and an
exponent. -/
inductive IsNumber : List Char → Prop
  | parts {sign digits fraction exponent : List Char} : sign = [] ∨ sign = ['-'] →
      IsDigits digits → (digits.head? = some '0' → digits = ['0']) → IsFraction fraction →
      IsExponent exponent → IsNumber (sign ++ (digits ++ (fraction ++ exponent)))

/-! ## Values -/

/-- Something with white space around it. -/
structure Padded (α : Type) where
  before : List Char
  item : α
  after : List Char
  blank_before : before.all isBlank = true := by decide
  blank_after : after.all isBlank = true := by decide

/-- The key of an object, as it stands between its quotes, and its value, with the white space around
the colon. -/
structure Member where
  key : List Char
  gap : List Char
  pad : List Char
  value : List Char
  blank_gap : gap.all isBlank = true := by decide
  blank_pad : pad.all isBlank = true := by decide

namespace Member

/-- What follows the key: the colon and the value. -/
def tail (m : Member) : List Char := m.gap ++ ':' :: (m.pad ++ m.value)

/-- A key and its value as a text. -/
def text (m : Member) : List Char := '"' :: (m.key ++ '"' :: m.tail)

theorem text_append (m : Member) (rest : List Char) :
    m.text ++ rest = '"' :: (m.key ++ '"' :: (m.tail ++ rest)) := by
  simp [text]

theorem tail_append (m : Member) (rest : List Char) :
    m.tail ++ rest = m.gap ++ ':' :: (m.pad ++ (m.value ++ rest)) := by
  simp [tail]

end Member

section Lists

variable {α : Type} (write : α → List Char)

def Padded.text (p : Padded α) : List Char := p.before ++ (write p.item ++ p.after)

/-- Parts behind others, each with a comma in front. -/
def further (ps : List (Padded α)) : List Char := ps.flatMap fun p => ',' :: p.text write

/-- Parts with commas between them. -/
def listed : List (Padded α) → List Char
  | [] => []
  | p :: ps => p.text write ++ further write ps

theorem further_nil : further write [] = [] := rfl

theorem further_cons (p : Padded α) (ps : List (Padded α)) :
    further write (p :: ps) =
      ',' :: (p.before ++ (write p.item ++ (p.after ++ further write ps))) := by
  simp [further, Padded.text]

theorem listed_cons (p : Padded α) (ps : List (Padded α)) :
    listed write (p :: ps) = p.before ++ (write p.item ++ (p.after ++ further write ps)) := by
  simp [listed, Padded.text]

theorem length_le_further (ps : List (Padded α)) : ps.length ≤ (further write ps).length := by
  induction ps with
  | nil => exact Nat.zero_le _
  | cons p ps ih =>
    rw [further_cons]
    simp only [List.length_cons, List.length_append]
    omega

theorem length_le_listed (ps : List (Padded α)) : ps.length ≤ (listed write ps).length + 1 := by
  cases ps with
  | nil => exact Nat.zero_le _
  | cons p ps =>
    have hfurther := length_le_further write ps
    rw [listed_cons]
    simp only [List.length_cons, List.length_append]
    omega

end Lists

/-- A sequence of elements; `pad` is white space, which is all there is if there are no elements. -/
def sequence (pad : List Char) (elements : List (Padded (List Char))) : List Char :=
  '[' :: (pad ++ (listed id elements ++ [']']))

def object (pad : List Char) (members : List (Padded Member)) : List Char :=
  '{' :: (pad ++ (listed Member.text members ++ ['}']))

def words : List (List Char) := ["null".toList, "true".toList, "false".toList]

/-- A value, without white space around it. -/
inductive IsValue : List Char → Prop
  | word {text : List Char} : text ∈ words → IsValue text
  | number {text : List Char} : IsNumber text → IsValue text
  | string {body : List Char} : IsString body → IsValue ('"' :: (body ++ ['"']))
  | sequence {pad : List Char} {elements : List (Padded (List Char))} :
      pad.all isBlank = true → (∀ e ∈ elements, IsValue e.item) → IsValue (sequence pad elements)
  | object {pad : List Char} {members : List (Padded Member)} :
      pad.all isBlank = true → (∀ m ∈ members, IsString m.item.key) →
      (∀ m ∈ members, IsValue m.item.value) → IsValue (object pad members)

/-! ## What is written -/

/-- The text is a string that stands for `s`. -/
def WritesString (text : List Char) (s : String) : Prop :=
  ∃ body, text = '"' :: (body ++ ['"']) ∧ Spells body s.toList

/-- The text is a sequence, and its elements stand for those of `xs`. -/
def WritesList {α : Type} (writes : List Char → α → Prop) (text : List Char) (xs : List α) : Prop :=
  ∃ pad elements, pad.all isBlank = true ∧ text = sequence pad elements ∧
    elements.Forall₂ (fun e x => writes e.item x) xs

/-- The member of an object gives a field the value that it is to have, or its key is not that of a
field and its value does not matter. -/
inductive Gives {φ : Type} (key : φ → String) (writes : φ → List Char → Prop) :
    Member → Option φ → Prop
  | field {m : Member} {f : φ} : Spells m.key (key f).toList → writes f m.value →
      Gives key writes m (some f)
  | unknown {m : Member} {name : String} : Spells m.key name.toList → (∀ f, name ≠ key f) →
      IsValue m.value → Gives key writes m none

/-- The members of an object give these fields in this order, each at most once. -/
structure GivesAll {φ : Type} (key : φ → String) (writes : φ → List Char → Prop)
    (members : List (Padded Member)) (fields : List φ) : Prop where
  slots : ∃ slots, members.Forall₂ (fun m slot => Gives key writes m.item slot) slots ∧
    slots.reduceOption = fields
  nodup : fields.Nodup

end TableGuard.Json
