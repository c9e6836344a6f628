import TableGuard.Rule
import TableGuard.Text.Location

/-!
# Analysis of a file

A variable is bound as table data where the binding attribute is given it in braces. It is an issue
when a rule recognises an assignment to a bound variable anywhere in the same file.

* `Issue` : a rule, a variable and the place of the first assignment;
* `Analyzer.usesBinding`, `Analyzer.boundVariables` : whether there are bindings, and of what;
* `Analyzer.analyze` : the issues of a file.
-/

namespace TableGuard

/-- An unchecked assignment to the setter of a bound variable. -/
structure Issue where
  rule : Rule
  var : String
  location : Location
deriving DecidableEq

/-- What is looked for: a binding attribute, its pattern, and rules. -/
structure Analyzer where
  attr : String
  binding : Regex
  registry : Registry

/-- The outcome for one file. -/
inductive Analysis where
  /-- The file does not mention the binding attribute. -/
  | notApplicable
  /-- The bound variables in increasing order, and the issues. -/
  | applicable (vars : List String) (issues : List Issue)
deriving DecidableEq

namespace Analysis

def issues : Analysis → List Issue
  | .notApplicable => []
  | .applicable _ issues => issues

def isApplicable : Analysis → Bool
  | .notApplicable => false
  | .applicable _ _ => true

end Analysis

namespace Analyzer

/-- The pattern of a binding: the attribute, and a word in braces. -/
def bindingPattern (attr : String) : List Char :=
  Regex.quote attr.toList ++ ['=', '\\', '{', '(', '\\', 'w', '+', ')', '\\', '}']

def make (attr : String) (registry : Registry) : Except Error Analyzer :=
  match Regex.compile? (bindingPattern attr) with
  | some binding => .ok ⟨attr, binding, registry⟩
  | none => .error ⟨[.bindingAttribute attr], .badPattern (String.ofList (bindingPattern attr))⟩

/-- Whether the text mentions the binding attribute at all. -/
def usesBinding (analyzer : Analyzer) (content : String) : Bool :=
  occurs (analyzer.attr.toList ++ ['=']) content.toList

/-- The variable of a binding: what stands between the opening and the closing brace. -/
def boundName (analyzer : Analyzer) (hit : List Char) : String :=
  String.ofList (hit.drop (analyzer.attr.toList.length + 2)).dropLast

def boundVariables (analyzer : Analyzer) (content : String) : List String :=
  sortDistinct ((analyzer.binding.cut content.toList).hits.map fun (_, hit) =>
    analyzer.boundName hit)

/-- The issue of a rule and a variable, if there is one. -/
def issue? (content var : String) (rule : Rule) : Except Error (Option Issue) := do
  let detector ← rule.detector var
  return (detector.first? content.toList).map fun (before, hit, after) =>
    ⟨rule, var, .between before (hit ++ after)⟩

def issuesOf (content var : String) : List Rule → Except Error (List Issue)
  | [] => .ok []
  | rule :: rules => do
    let issue ← issue? content var rule
    let issues ← issuesOf content var rules
    return issue.toList ++ issues

def allIssues (content : String) (registry : Registry) : List String → Except Error (List Issue)
  | [] => .ok []
  | var :: vars => do
    let first ← issuesOf content var registry.rules
    let rest ← allIssues content registry vars
    return first ++ rest

def analyze (analyzer : Analyzer) (content : String) : Except Error Analysis :=
  if analyzer.usesBinding content then do
    let vars := analyzer.boundVariables content
    return .applicable vars (← allIssues content analyzer.registry vars)
  else .ok .notApplicable

end Analyzer

end TableGuard
