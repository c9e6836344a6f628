/-!
# Coloured text

A piece of text is coloured by an escape sequence before it and one after it. Where the text itself
ends all colours, they begin again. Without colours the text stands alone.
-/

namespace TableGuard

/-- What can be done to a piece of text. -/
inductive Ink where
  | bold
  | dimmed
  | red
  | green
  | yellow
  | blue
  | cyan
deriving DecidableEq

def Ink.code : Ink → String
  | .bold => "1"
  | .dimmed => "2"
  | .red => "31"
  | .green => "32"
  | .yellow => "33"
  | .blue => "34"
  | .cyan => "36"

def startInks (inks : List Ink) : List Char :=
  ("\x1b[" ++ ";".intercalate (inks.map Ink.code) ++ "m").toList

def stopInks : List Char := ['\x1b', '[', '0', 'm']

/-- A text in which `start` follows every escape sequence that turns all inks off. -/
def restartInks (start : List Char) : List Char → List Char
  | '\x1b' :: '[' :: '0' :: 'm' :: rest => stopInks ++ start ++ restartInks start rest
  | c :: rest => c :: restartInks start rest
  | [] => []

/-- The text in the given inks, if colours are on. -/
def paint (color : Bool) (inks : List Ink) (text : String) : String :=
  if color then
    let start := startInks inks
    String.ofList (start ++ restartInks start text.toList ++ stopInks)
  else text

end TableGuard
