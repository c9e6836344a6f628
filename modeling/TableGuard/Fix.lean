import TableGuard.Analysis

/-!
# Fixing a file

The issues of a file are fixed one after another, each in the text that the ones before have left.
All matches of a detection pattern are replaced by the same text. A change is recorded when the text
has become a different one.

* `Change`, `Change.describe` : a recorded change;
* `Outcome` : the final text and the changes;
* `fixContent` : fixes a list of issues.
-/

namespace TableGuard

/-- A replacement that altered a text, and how many matches were replaced. -/
structure Change where
  kind : String
  var : String
  replacements : Nat
deriving DecidableEq

def Change.describe (change : Change) : String :=
  let times := if 1 < change.replacements then s!" ({change.replacements} occurrences)" else ""
  s!"fixed {change.kind}: {change.var}{times}"

/-- A text after fixing, and the changes that led to it. -/
structure Outcome where
  content : String
  changes : List Change
deriving DecidableEq

def Outcome.isChanged (outcome : Outcome) : Bool := !outcome.changes.isEmpty

def fixIssue (outcome : Outcome) (issue : Issue) : Except Error Outcome := do
  let detector ← issue.rule.detector issue.var
  let cut := detector.cut outcome.content.toList
  let updated := String.ofList (cut.replace (issue.rule.replacement issue.var).toList)
  if updated = outcome.content then return outcome
  else
    return ⟨updated, outcome.changes ++ [⟨issue.rule.kind, issue.var, cut.hits.length⟩]⟩

def fixContent (content : String) (issues : List Issue) : Except Error Outcome :=
  issues.foldlM fixIssue ⟨content, []⟩

end TableGuard
