import TableGuard.Text.Utf8

/-!
# Raw texts

The names of files, paths and the arguments of a command come from the system as bytes, which need
not be those of a text. They are compared and put together as bytes; a message shows them with a
replacement character for whatever is no text.

* `RawText`, `RawText.ofString` : bytes, and those of a text;
* `RawText.text?` : the text, if the bytes are those of one;
* `RawText.lossy` : the text to show.
-/

namespace TableGuard

/-- Bytes that are meant as a text, whether or not they are one. -/
structure RawText where
  bytes : List UInt8
deriving DecidableEq

namespace RawText

def ofString (text : String) : RawText := ⟨Utf8.encode text.toList⟩

instance : Coe String RawText := ⟨ofString⟩

def text? (raw : RawText) : Option String :=
  (Utf8.decode raw.bytes).toOption.map String.ofList

def lossy (raw : RawText) : String := String.ofList (Utf8.lossy raw.bytes)

/-- Raw texts are in the order of their bytes, the first that differs counting. -/
instance : LT RawText := ⟨fun a b => a.bytes < b.bytes⟩

instance : DecidableLT RawText := fun a b => inferInstanceAs (Decidable (a.bytes < b.bytes))

end RawText

end TableGuard
