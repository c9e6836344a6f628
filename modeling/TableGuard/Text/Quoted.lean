import TableGuard.Unicode.Mark
import TableGuard.Unicode.Newcomer

/-!
# Quoted text in messages

A text is shown between double quotes. Characters that cannot be seen, or that would join the one
before them, are written by their code point.
-/

namespace TableGuard.Quoted

/-- Marks that join the character before them. -/
def joining : CharSet :=
  (Unicode.graphemeExtend.inter Unicode.Category.mark).union Unicode.Newcomer.graphemeExtend

/-- Characters that show as themselves: the space, and all that is assigned and neither a control, a
format character, a separator, ignorable, for private use nor a joining mark. -/
def visible : CharSet :=
  ((Unicode.Category.assigned.union Unicode.Newcomer.all).diff
    (CharSet.unions [Unicode.Category.control, Unicode.Category.format,
      Unicode.Category.privateUse, Unicode.Category.separator, Unicode.defaultIgnorable,
      joining])).insert ' '

def byCode (c : Char) : List Char :=
  ['\\', 'u', '{'] ++ Nat.toDigits 16 c.toNat ++ ['}']

def showChar (c : Char) : List Char :=
  match c with
  | '\x00' => ['\\', '0']
  | '\t' => ['\\', 't']
  | '\r' => ['\\', 'r']
  | '\n' => ['\\', 'n']
  | '"' => ['\\', '"']
  | '\\' => ['\\', '\\']
  | c => if visible.contains c then [c] else byCode c

def render (text : List Char) : String :=
  String.ofList ('"' :: text.flatMap showChar ++ ['"'])

end TableGuard.Quoted
