import TableGuard.Json.Fault
import TableGuard.Json.Text

/-!
# Reading JSON

Values are read straight into what is wanted, and what is not wanted is passed over. A reader takes
a text and gives a value and the rest of the text, or the first fault.

* `Json.skipValue?` : passes over any value;
* `Json.readString`, `Json.readList`, `Json.readObject` : readers for strings, for sequences with a
  reader for their elements, and for objects with a reader for their fields;
* `Json.nextElement` : where the next element of a sequence begins.
-/

namespace TableGuard.Json

def isBlank (c : Char) : Bool := c == ' ' || c == '\n' || c == '\t' || c == '\r'

def dropBlanks (text : List Char) : List Char := text.dropWhile isBlank

/-- The rest of a text that begins with the given word. -/
def word? (word : List Char) (text : List Char) : Option (List Char) :=
  if word.isPrefixOf text then some (text.drop word.length) else none

/-! ## Passing over values -/

mutual

/-- Passes over a value. `fuel` bounds how deep values are nested and how many there are. -/
def skipValue? : Nat → List Char → Option (List Char)
  | 0, _ => none
  | fuel + 1, text =>
    match dropBlanks text with
    | 'n' :: rest => word? ['u', 'l', 'l'] rest
    | 't' :: rest => word? ['r', 'u', 'e'] rest
    | 'f' :: rest => word? ['a', 'l', 's', 'e'] rest
    | '"' :: rest => skipText? rest
    | '[' :: rest =>
      match dropBlanks rest with
      | ']' :: rest => some rest
      | rest => (skipValue? fuel rest).bind (skipElements? fuel)
    | '{' :: rest =>
      match dropBlanks rest with
      | '}' :: rest => some rest
      | rest => (skipMember? fuel rest).bind (skipMembers? fuel)
    | rest => skipNumber? rest

/-- Passes over the rest of a sequence after one of its elements. -/
def skipElements? : Nat → List Char → Option (List Char)
  | 0, _ => none
  | fuel + 1, text =>
    match dropBlanks text with
    | ']' :: rest => some rest
    | ',' :: rest => (skipValue? fuel rest).bind (skipElements? fuel)
    | _ => none

def skipMember? : Nat → List Char → Option (List Char)
  | 0, _ => none
  | fuel + 1, text =>
    match dropBlanks text with
    | '"' :: rest =>
      (skipText? rest).bind fun rest =>
        match dropBlanks rest with
        | ':' :: rest => skipValue? fuel rest
        | _ => none
    | _ => none

def skipMembers? : Nat → List Char → Option (List Char)
  | 0, _ => none
  | fuel + 1, text =>
    match dropBlanks text with
    | '}' :: rest => some rest
    | ',' :: rest => (skipMember? fuel rest).bind (skipMembers? fuel)
    | _ => none

end

def skip (text : List Char) : Except Fault (List Char) :=
  match skipValue? (2 * text.length + 2) text with
  | some rest => .ok rest
  | none => .error .malformed

/-! ## Values of the wrong kind -/

/-- The fault of a value that is not of the wanted kind. Of a simple value all is read first, and of
a compound one nothing. -/
def mismatch (wanted : Wanted) (text : List Char) : Fault :=
  let fault (found : Option Found) : Fault :=
    match found with
    | some found => .wrongKind found wanted
    | none => .malformed
  match dropBlanks text with
  | [] => .malformed
  | 'n' :: rest => fault ((word? ['u', 'l', 'l'] rest).map fun _ => .null)
  | 't' :: rest => fault ((word? ['r', 'u', 'e'] rest).map fun _ => .boolean true)
  | 'f' :: rest => fault ((word? ['a', 'l', 's', 'e'] rest).map fun _ => .boolean false)
  | '"' :: rest => fault ((readText? rest).map fun (s, _) => .text s)
  | '[' :: _ => .wrongKind .sequence wanted
  | '{' :: _ => .wrongKind .map wanted
  | rest => fault ((readNumber? rest).map fun (n, _) => .number n)

/-! ## Readers -/

abbrev Reader (α : Type) := List Char → Except Fault (α × List Char)

def readString : Reader String := fun text =>
  match dropBlanks text with
  | '"' :: rest =>
    match readText? rest with
    | some (s, rest) => .ok (String.ofList s, rest)
    | none => .error .malformed
  | rest => .error (mismatch .text rest)

/-- Where the next element of a sequence begins, if there is one. `first` says that none has been
read yet. -/
def nextElement (first : Bool) (text : List Char) : Except Fault (Option (List Char)) :=
  match dropBlanks text with
  | [] => .error .malformed
  | ']' :: _ => .ok none
  | c :: rest =>
    if first then .ok (some (c :: rest))
    else if c = ',' then
      match dropBlanks rest with
      | [] => .error .malformed
      | ']' :: _ => .error .malformed
      | rest => .ok (some rest)
    else .error .malformed

/-- The rest of a text after the bracket that closes a sequence. -/
def endSequence (text : List Char) : Except Fault (List Char) :=
  match dropBlanks text with
  | ']' :: rest => .ok rest
  | _ => .error .malformed

def readElements {α : Type} (element : Reader α) : Nat → List α → Reader (List α)
  | 0, _, _ => .error .malformed
  | fuel + 1, done, text => do
    match ← nextElement done.isEmpty text with
    | none => return (done.reverse, ← endSequence text)
    | some text =>
      let (x, rest) ← element text
      readElements element fuel (x :: done) rest

def readList {α : Type} (element : Reader α) : Reader (List α) := fun text =>
  match dropBlanks text with
  | '[' :: rest => readElements element (rest.length + 1) [] rest
  | rest => .error (mismatch .sequence rest)

/-- Reads a value after the colon that follows its key. -/
def afterColon {α : Type} (value : Reader α) : Reader α := fun text =>
  match dropBlanks text with
  | ':' :: rest => value rest
  | _ => .error .malformed

/-- Reads a key after its opening quote, and then its field. -/
def readMember {σ : Type} (field : String → σ → Reader σ) (state : σ) : Reader σ := fun text =>
  match readText? text with
  | some (key, rest) => field (String.ofList key) state rest
  | none => .error .malformed

/-- Reads the rest of an object after one of its members. -/
def readMembers {σ : Type} (field : String → σ → Reader σ) : Nat → σ → Reader σ
  | 0, _, _ => .error .malformed
  | fuel + 1, state, text =>
    match dropBlanks text with
    | '}' :: rest => .ok (state, rest)
    | ',' :: rest =>
      match dropBlanks rest with
      | '"' :: rest => do
        let (state, rest) ← readMember field state rest
        readMembers field fuel state rest
      | _ => .error .malformed
    | _ => .error .malformed

/-- Reads an object after its opening brace. `field` is given a key, what has been gathered, and the
text from the colon on. -/
def readObject {σ : Type} (field : String → σ → Reader σ) (state : σ) : Reader σ := fun text =>
  match dropBlanks text with
  | '}' :: rest => .ok (state, rest)
  | '"' :: rest => do
    let (state, rest) ← readMember field state rest
    readMembers field (rest.length + 1) state rest
  | _ => .error .malformed

/-- Fails if a field has been given before. -/
def fresh {α : Type} (name : String) : Option α → Except Fault Unit
  | none => .ok ()
  | some _ => .error (.duplicate name)

/-- The value of a field that has to be there. -/
def required {α : Type} (name : String) : Option α → Except Fault α
  | some x => .ok x
  | none => .error (.missing name)

def readAll {α : Type} (value : Reader α) (text : List Char) : Except Fault α := do
  let (x, rest) ← value text
  match dropBlanks rest with
  | [] => return x
  | _ => .error .malformed

end TableGuard.Json
