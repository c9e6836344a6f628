import TableGuard.Json.Number
import TableGuard.Text.Quoted

/-!
# What can be wrong with a JSON text

Either the text is no JSON, or it is, but its values are not those that are asked for. A text is
read from left to right, and the first problem counts.
-/

namespace TableGuard.Json

/-- A value that was found where another kind was wanted. -/
inductive Found where
  | null
  | boolean (b : Bool)
  | number (n : Number)
  | text (s : List Char)
  | sequence
  | map

def Found.describe : Found → String
  | .null => "null"
  | .boolean b => s!"boolean `{b}`"
  | .number n => n.describe
  | .text s => s!"string {Quoted.render s}"
  | .sequence => "sequence"
  | .map => "map"

/-- The kind of value that is wanted. -/
inductive Wanted where
  | text
  | sequence
  | record (name : String)

def Wanted.describe : Wanted → String
  | .text => "a string"
  | .sequence => "a sequence"
  | .record name => s!"struct {name}"

/-- What can be wrong with a JSON text. -/
inductive Fault where
  /-- The text is no JSON. -/
  | malformed
  /-- A value is of the wrong kind. -/
  | wrongKind (found : Found) (wanted : Wanted)
  /-- A record written as a sequence has too few elements. -/
  | tooShort (length : Nat) (record : String) (size : Nat)
  /-- A field is missing. -/
  | missing (field : String)
  /-- A field is given twice. -/
  | duplicate (field : String)

/-- The wording of a fault, given that of a text that is no JSON and where the fault lies. -/
def Fault.message (malformed place : String) : Fault → String
  | .malformed => malformed
  | .wrongKind found wanted =>
    s!"invalid type: {found.describe}, expected {wanted.describe}" ++ place
  | .tooShort length record size =>
    s!"invalid length {length}, expected struct {record} with {size} elements" ++ place
  | .missing field => s!"missing field `{field}`" ++ place
  | .duplicate field => s!"duplicate field `{field}`" ++ place

end TableGuard.Json
