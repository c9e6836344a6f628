import TableGuard.Config
import TableGuard.Json.Reader

/-!
# Reading a configuration

A configuration is a JSON object with any of the five fields in any order; fields that are not known
are passed over. Objects can also be written as sequences of their values in order, of which the
last ones can be left out for a configuration but not for a rule.

* `Rule.read` : reads a rule;
* `Config.read` : reads the settings;
* `Config.parse` : the configuration of a text.
-/

namespace TableGuard

open Json

/-! ## Rules -/

/-- The fields of a rule that have been read. -/
structure Rule.Draft where
  kind : Option String
  detect : Option String
  replace : Option String

namespace Rule

def readField (key : String) (draft : Draft) : Reader Draft := fun text => do
  match key with
  | "kind" =>
    fresh key draft.kind
    let (x, rest) ← afterColon readString text
    return ({ draft with kind := some x }, rest)
  | "detect" =>
    fresh key draft.detect
    let (x, rest) ← afterColon readString text
    return ({ draft with detect := some x }, rest)
  | "replace" =>
    fresh key draft.replace
    let (x, rest) ← afterColon readString text
    return ({ draft with replace := some x }, rest)
  | _ =>
    let (_, rest) ← afterColon (fun text => (skip text).map ((), ·)) text
    return (draft, rest)

def ofDraft (draft : Draft) : Except Fault Rule := do
  let kind ← required "kind" draft.kind
  let detect ← required "detect" draft.detect
  let replace ← required "replace" draft.replace
  return ⟨kind, detect, replace⟩

/-- Reads the string at an index of a rule that is written as a sequence. -/
def readAt (index : Nat) : Reader String := fun text => do
  match ← nextElement (index == 0) text with
  | some text => readString text
  | none => .error (.tooShort index "PatternEntry" 3)

def read : Reader Rule := fun text =>
  match dropBlanks text with
  | '{' :: rest => do
    let (draft, rest) ← readObject readField ⟨none, none, none⟩ rest
    return (← ofDraft draft, rest)
  | '[' :: rest => do
    let (kind, rest) ← readAt 0 rest
    let (detect, rest) ← readAt 1 rest
    let (replace, rest) ← readAt 2 rest
    return (⟨kind, detect, replace⟩, ← endSequence rest)
  | rest => .error (mismatch (.record "PatternEntry") rest)

end Rule

/-! ## Settings -/

/-- The settings that have been read. -/
structure Config.Draft where
  sourceRoot : Option String
  extensions : Option (List String)
  ignores : Option (List String)
  bindingAttribute : Option String
  patterns : Option (List Rule)

namespace Config

def Draft.start : Draft := ⟨none, none, none, none, none⟩

def ofDraft (draft : Draft) : Config where
  sourceRoot := draft.sourceRoot.getD standard.sourceRoot
  extensions := draft.extensions.getD standard.extensions
  ignores := draft.ignores.getD standard.ignores
  bindingAttribute := draft.bindingAttribute.getD standard.bindingAttribute
  patterns := draft.patterns.getD standard.patterns

def readField (key : String) (draft : Draft) : Reader Draft := fun text => do
  match key with
  | "sourceRoot" =>
    fresh key draft.sourceRoot
    let (x, rest) ← afterColon readString text
    return ({ draft with sourceRoot := some x }, rest)
  | "extensions" =>
    fresh key draft.extensions
    let (x, rest) ← afterColon (readList readString) text
    return ({ draft with extensions := some x }, rest)
  | "ignores" =>
    fresh key draft.ignores
    let (x, rest) ← afterColon (readList readString) text
    return ({ draft with ignores := some x }, rest)
  | "bindingAttribute" =>
    fresh key draft.bindingAttribute
    let (x, rest) ← afterColon readString text
    return ({ draft with bindingAttribute := some x }, rest)
  | "patterns" =>
    fresh key draft.patterns
    let (x, rest) ← afterColon (readList Rule.read) text
    return ({ draft with patterns := some x }, rest)
  | _ =>
    let (_, rest) ← afterColon (fun text => (skip text).map ((), ·)) text
    return (draft, rest)

/-- Reads the next value of a configuration that is written as a sequence, if there is one. -/
def readNext {α : Type} (first : Bool) (value : Reader α) : Reader (Option α) := fun text => do
  match ← nextElement first text with
  | some text =>
    let (x, rest) ← value text
    return (some x, rest)
  | none => return (none, text)

def read : Reader Config := fun text =>
  match dropBlanks text with
  | '{' :: rest => do
    let (draft, rest) ← readObject readField .start rest
    return (ofDraft draft, rest)
  | '[' :: rest => do
    let (sourceRoot, rest) ← readNext true readString rest
    let (extensions, rest) ← readNext false (readList readString) rest
    let (ignores, rest) ← readNext false (readList readString) rest
    let (bindingAttribute, rest) ← readNext false readString rest
    let (patterns, rest) ← readNext false (readList Rule.read) rest
    return (ofDraft ⟨sourceRoot, extensions, ignores, bindingAttribute, patterns⟩,
      ← endSequence rest)
  | rest => .error (mismatch (.record "Config") rest)

def parse (text : String) : Except Fault Config := readAll read text.toList

end Config

end TableGuard
