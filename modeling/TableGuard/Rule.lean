import TableGuard.Error
import TableGuard.Regex
import TableGuard.Text.Basic

/-!
# Rules

A rule recognises one shape of unchecked assignment and says what to write instead. Both its
detection pattern and its replacement are templates for the name of the variable.

* `Rule.detector`, `Rule.replacement` : pattern and replacement for one variable;
* `Rule.validate` : the conditions on a rule;
* `Registry` : the rules in force, `Registry.builtin` those that are always there;
* `Registry.validate` : all rules are valid and their kinds differ.
-/

namespace TableGuard

/-- One shape of unchecked assignment and its guarded form. -/
structure Rule where
  kind : String
  detect : String
  replace : String
deriving DecidableEq

namespace Rule

/-- The detection pattern for a variable, whose name stands for itself in it. -/
def pattern (rule : Rule) (var : String) : List Char :=
  Template.fill rule.detect.toList (Regex.quote var.toList)

def detector (rule : Rule) (var : String) : Except Error Regex :=
  let pattern := rule.pattern var
  match Regex.compile? pattern with
  | some re => .ok re
  | none =>
    let text := String.ofList pattern
    .error ⟨[.compiling rule.kind text], .badPattern text⟩

def replacement (rule : Rule) (var : String) : String :=
  String.ofList (Template.fill rule.replace.toList var.toList)

/-- Checks a rule: its kind is not blank, both templates have a place for the variable, and the
pattern for a sample variable is well formed. -/
def validate (rule : Rule) : Except Error Unit :=
  if Unicode.isBlankText rule.kind.toList then .error (.plain .emptyKind)
  else if !Template.hasHole rule.detect.toList then .error (.plain (.detectLacksHole rule.kind))
  else if !Template.hasHole rule.replace.toList then .error (.plain (.replaceLacksHole rule.kind))
  else (rule.detector "Sample").map fun _ => ()

end Rule

/-- The rules in force, in order. -/
structure Registry where
  rules : List Rule

namespace Registry

/-- The response itself is assigned. -/
def directData : Rule where
  kind := "direct-response-data"
  detect := "set\x7bvar\x7d\\(response\\.data\\)"
  replace := "set\x7bvar\x7d(Array.isArray(response.data) ? response.data : [])"

/-- The payload is one level down. -/
def nestedData : Rule where
  kind := "response-data-data"
  detect := "set\x7bvar\x7d\\(response\\.data\\.data\\)"
  replace := "set\x7bvar\x7d(Array.isArray(response.data.data) ? response.data.data : [])"

/-- The payload is a list one level down. -/
def nestedList : Rule where
  kind := "response-data-list"
  detect := "set\x7bvar\x7d\\(response\\.data\\.list\\)"
  replace := "set\x7bvar\x7d(Array.isArray(response.data.list) ? response.data.list : [])"

def builtin : Registry := ⟨[directData, nestedData, nestedList]⟩

def withExtra (extra : List Rule) : Registry := ⟨builtin.rules ++ extra⟩

def get? (registry : Registry) (kind : String) : Option Rule :=
  registry.rules.find? fun rule => rule.kind == kind

/-- Checks rules in order, each by itself and then against the kinds of those before. -/
def validateRules (seen : List String) : List Rule → Except Error Unit
  | [] => .ok ()
  | rule :: rules => do
    rule.validate
    if seen.contains rule.kind then .error (.plain (.duplicateKind rule.kind))
    else validateRules (rule.kind :: seen) rules

/-- Checks that all rules are valid and their kinds differ. -/
def validate (registry : Registry) : Except Error Unit := validateRules [] registry.rules

end Registry

end TableGuard
