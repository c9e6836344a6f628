import TableGuard.Config
import TableGuard.Json.Text

/-!
# Writing a configuration

A configuration is written as a JSON object with its fields in a fixed order, one value a line and
indented by two spaces.
-/

namespace TableGuard

namespace Json

def indent (level : Nat) : List Char := List.replicate (2 * level) ' '

/-- Values on lines of their own, with commas between them. -/
def lines (level : Nat) : List (List Char) → List Char
  | [] => []
  | [x] => '\n' :: indent level ++ x
  | x :: xs => '\n' :: indent level ++ x ++ ',' :: lines level xs

/-- Values between brackets, one a line; without values the brackets stand together. -/
def block (opening closing : Char) (level : Nat) (values : List (List Char)) : List Char :=
  if values.isEmpty then [opening, closing]
  else opening :: lines (level + 1) values ++ '\n' :: indent level ++ [closing]

def member (key : String) (value : List Char) : List Char :=
  renderText key.toList ++ ':' :: ' ' :: value

end Json

open Json

def Rule.render (level : Nat) (rule : Rule) : List Char :=
  block '{' '}' level
    [member "kind" (renderText rule.kind.toList),
      member "detect" (renderText rule.detect.toList),
      member "replace" (renderText rule.replace.toList)]

namespace Config

def renderTexts (level : Nat) (texts : List String) : List Char :=
  block '[' ']' level (texts.map fun s => renderText s.toList)

def render (config : Config) : String :=
  String.ofList <| block '{' '}' 0
    [member "sourceRoot" (renderText config.sourceRoot.toList),
      member "extensions" (renderTexts 1 config.extensions),
      member "ignores" (renderTexts 1 config.ignores),
      member "bindingAttribute" (renderText config.bindingAttribute.toList),
      member "patterns" (block '[' ']' 1 (config.patterns.map (Rule.render 2)))]

end Config

end TableGuard
