import TableGuard.Proofs.Json.Layout
import TableGuard.Proofs.PartialSettings

/-!
# Settings written and read back

Settings that are written are read back as they were, whatever their texts and however many
extensions, globs and rules there are. Reading, writing and reading again is therefore the same as
reading once.

* `Rule.writes_render` : a rule, at any level of indentation;
* `Field.writes_render`, `read_part`, `read_render` : the fields of the settings, some of them and all;
* `parse_render` : the settings.
-/

namespace TableGuard

open Json

theorem Rule.writes_render (level : Nat) (rule : Rule) : Rule.Writes (rule.render level) rule := by
  have hvalues (f : Field) : f.Writes rule (renderText (f.value rule).toList) :=
    writesString_renderText _
  obtain ⟨members, hgives, hblock⟩ := exists_object_eq_block Field.key hvalues level
    (show [Field.kind, .detect, .replace].Nodup by decide)
  have hwrites := Rule.Writes.object (show [].all isBlank = true from rfl) hgives
    (by intro f; cases f <;> decide)
  rw [hblock] at hwrites
  exact hwrites

namespace Config

def Field.render (config : Config) : Field → List Char
  | .sourceRoot => renderText config.sourceRoot.toList
  | .extensions => renderTexts 1 config.extensions
  | .ignores => renderTexts 1 config.ignores
  | .bindingAttribute => renderText config.bindingAttribute.toList
  | .patterns => block '[' ']' 1 (config.patterns.map (Rule.render 2))

theorem Field.writes_render (config : Config) (f : Field) : f.Writes config (f.render config) := by
  cases f with
  | sourceRoot | bindingAttribute => exact writesString_renderText _
  | extensions | ignores => exact writesList_block 1 writesString_renderText _
  | patterns => exact writesList_block 1 (Rule.writes_render 2) _

end Config

theorem read_part (config : Config) {given : List Config.Field} (hnodup : given.Nodup) :
    Config.read (block '{' '}' 0 (given.map fun f => member f.key (f.render config))) =
      .ok (config.part given, []) := by
  obtain ⟨members, hgives, hblock⟩ := exists_object_eq_block Config.Field.key
    (Config.Field.writes_render config) 0 hnodup
  have hread := (Config.read_object (show [].all isBlank = true from rfl) hgives).read_here []
  rwa [hblock, List.append_nil] at hread

/-- If all are written, nothing is left of the standard settings. -/
theorem read_render (config : Config) : Config.read config.render.toList = .ok (config, []) := by
  rw [Config.render, String.toList_ofList]
  exact read_part config (show [Config.Field.sourceRoot, .extensions, .ignores, .bindingAttribute,
    .patterns].Nodup by decide)

/-- **Settings are read back as they were written**, and settings that were read are the same after
they have been written and read once more. -/
theorem parse_render :
    (∀ config : Config, Config.parse config.render = .ok config) ∧
    ∀ text : String, (Config.parse text >>= fun config => Config.parse config.render) =
      Config.parse text := by
  have hback : ∀ config : Config, Config.parse config.render = .ok config := by
    intro config
    rw [Config.parse, readAll, read_render]
    rfl
  refine ⟨hback, fun text => ?_⟩
  cases Config.parse text with
  | error fault => simp only [bind, Except.bind]
  | ok config => simp only [bind, Except.bind, hback config]

end TableGuard
