import TableGuard.Config.Reader
import TableGuard.Proofs.Json.Exact

/-!
# Settings given in part

A configuration need not give all of the settings, and those that it gives can stand in any order,
with any white space and among fields that are not known. What it does not give has its standard
value. A setting cannot be given twice.

* `Rule.Writes`, `Config.Field.Writes` : the texts of rules and of single settings;
* `Rule.reads`, `Config.read_object` : rules and objects of settings are read;
* `Rule.exact_read`, `Config.exactFields` : whatever values there are, they are read to their ends;
* `Config.took_once` : no setting has been read twice;
* `Config.parse_object` : settings given in part.
-/

namespace TableGuard

open Json

/-! ## Rules -/

namespace Rule

/-- The fields of a rule. -/
inductive Field where
  | kind
  | detect
  | replace
deriving DecidableEq

def Field.key : Field → String
  | .kind => "kind"
  | .detect => "detect"
  | .replace => "replace"

def Field.value (rule : Rule) : Field → String
  | .kind => rule.kind
  | .detect => rule.detect
  | .replace => rule.replace

/-- The text stands for the text that a field has in the rule. -/
def Field.Writes (rule : Rule) (f : Field) (text : List Char) : Prop :=
  WritesString text (f.value rule)

/-- The draft in which the given fields of a rule have been read. -/
def draft (rule : Rule) (given : List Field) : Draft where
  kind := if .kind ∈ given then some rule.kind else none
  detect := if .detect ∈ given then some rule.detect else none
  replace := if .replace ∈ given then some rule.replace else none

/-- The text is a rule: a sequence of its three texts, or an object with its three fields in any order
and perhaps others. -/
inductive Writes : List Char → Rule → Prop
  | sequence {text : List Char} {rule : Rule} :
      WritesList WritesString text [rule.kind, rule.detect, rule.replace] → Writes text rule
  | object {pad : List Char} {members : List (Padded Member)} {fields : List Field} {rule : Rule} :
      pad.all isBlank = true → GivesAll Field.key (Field.Writes rule) members fields →
      (∀ f, f ∈ fields) → Writes (object pad members) rule

theorem readField_known {rule : Rule} {given : List Field} {f : Field} {m : Member}
    (rest : List Char) (hnew : f ∉ given) (hvalue : f.Writes rule m.value) :
    readField f.key (rule.draft given) (m.tail ++ rest) = .ok (rule.draft (given ++ [f]), rest) := by
  have hread := afterColon_tail (reads_string hvalue) rest
  cases f
  all_goals
    simp only [readField, Field.key, Field.value, draft, hnew, if_false, fresh] at hread ⊢
    simp [bind, Except.bind, pure, Except.pure, hread]

theorem readField_unknown {name : String} (h : ∀ f : Field, name ≠ f.key) (s : Draft)
    (text : List Char) :
    readField name s text =
      (afterColon (fun text => (skip text).map ((), ·)) text).map fun p => (s, p.2) := by
  unfold readField
  split
  · exact absurd rfl (h .kind)
  · exact absurd rfl (h .detect)
  · exact absurd rfl (h .replace)
  · rfl

theorem readField_skip {name : String} (h : ∀ f : Field, name ≠ f.key) (s : Draft) {m : Member}
    {rest : List Char} (hvalue : IsValue m.value) (hrest : Stops rest) :
    readField name s (m.tail ++ rest) = .ok (s, rest) := by
  rw [readField_unknown h, afterColon_skip hvalue hrest]
  rfl

theorem ofDraft_draft {rule : Rule} {given : List Field} (h : ∀ f, f ∈ given) :
    ofDraft (rule.draft given) = .ok rule := by
  simp [ofDraft, draft, h, required, bind, Except.bind, pure, Except.pure]

theorem readAt_cons (index : Nat) {e : Padded (List Char)} {x : String} (h : WritesString e.item x)
    {blanks : List Char} (hblanks : blanks.all isBlank = true)
    (elements : List (Padded (List Char))) (rest : List Char) :
    readAt index (blanks ++ (unread (index == 0) (e :: elements) ++ ']' :: rest)) =
      .ok (x, e.after ++ (unread false elements ++ ']' :: rest)) := by
  rw [readAt, nextElement_cons _ hblanks (reads_string h).starts]
  exact (reads_string h).read_here _

theorem reads_sequence {text : List Char} {rule : Rule}
    (h : WritesList WritesString text [rule.kind, rule.detect, rule.replace]) :
    Reads read text rule := by
  obtain ⟨pad, elements, hpad, rfl, hwrites⟩ := h
  cases hwrites with | @cons e₁ _ _ _ hkind hwrites =>
  cases hwrites with | @cons e₂ _ _ _ hdetect hwrites =>
  cases hwrites with | @cons e₃ _ _ _ hreplace hwrites =>
  cases hwrites
  refine ⟨⟨'[', _, rfl, by decide, by decide⟩, fun blanks rest hblanks => ?_⟩
  rw [Json.sequence, List.cons_append, read, dropBlanks_append_cons hblanks (by decide)]
  simp only [List.append_assoc, List.singleton_append]
  refine bind_eq_ok_iff.2 ⟨_, readAt_cons 0 hkind hpad [e₂, e₃] rest, ?_⟩
  refine bind_eq_ok_iff.2 ⟨_, readAt_cons 1 hdetect e₁.blank_after [e₃] rest, ?_⟩
  refine bind_eq_ok_iff.2 ⟨_, readAt_cons 2 hreplace e₂.blank_after [] rest, ?_⟩
  exact bind_eq_ok_iff.2 ⟨rest, endSequence_nil e₃.blank_after rest, rfl⟩

theorem reads_object {pad : List Char} {members : List (Padded Member)} {fields : List Field}
    {rule : Rule} (hpad : pad.all isBlank = true)
    (hgives : GivesAll Field.key (Field.Writes rule) members fields) (hall : ∀ f, f ∈ fields) :
    Reads read (object pad members) rule where
  starts := ⟨'{', _, rfl, by decide, by decide⟩
  read blanks rest hblanks := by
    have hfields := fields_of_gives rule.draft readField_known
      (fun hne hvalue hrest => readField_skip hne _ hvalue hrest) hgives
    have hread := readObject_listed rest hpad hfields
    rw [object, List.cons_append, read, dropBlanks_append_cons hblanks (by decide)]
    simp only [List.append_assoc, List.singleton_append]
    show (readObject readField (rule.draft []) _ >>= _) = _
    rw [hread]
    simp only [bind, Except.bind, ofDraft_draft hall]
    rfl

/-- **A rule is read**, in whichever way it is written. -/
theorem reads {text : List Char} {rule : Rule} (h : Writes text rule) : Reads read text rule := by
  cases h with
  | sequence hwrites => exact reads_sequence hwrites
  | object hpad hgives hall => exact reads_object hpad hgives hall

theorem exactFields : ExactFields readField := by
  intro name s s' m rest rest' hvalue hrest hread
  unfold readField at hread
  split at hread
  case h_4 =>
    obtain ⟨⟨⟨⟩, _⟩, hskip, hread⟩ := bind_eq_ok_iff.1 hread
    obtain ⟨-, rfl⟩ := Prod.mk.inj (Except.ok.inj hread)
    exact exact_skip.afterColon hvalue hrest hskip
  all_goals
    obtain ⟨-, -, hread⟩ := bind_eq_ok_iff.1 hread
    obtain ⟨⟨x, _⟩, hx, hread⟩ := bind_eq_ok_iff.1 hread
    obtain ⟨-, rfl⟩ := Prod.mk.inj (Except.ok.inj hread)
    exact exact_string.afterColon hvalue hrest hx

theorem exists_of_readAt (index : Nat) {elements : List (Padded (List Char))}
    (hvalues : ∀ e ∈ elements, IsValue e.item) {blanks rest rest' : List Char} {x : String}
    (hblanks : blanks.all isBlank = true)
    (hread : readAt index (blanks ++ (unread (index == 0) elements ++ ']' :: rest)) =
      .ok (x, rest')) :
    ∃ e : Padded (List Char), ∃ elements', elements = e :: elements' ∧
      rest' = e.after ++ (unread false elements' ++ ']' :: rest) := by
  cases elements with
  | nil =>
    rw [readAt, nextElement_nil _ hblanks] at hread
    cases hread
  | cons e elements =>
    obtain ⟨he, -⟩ := List.forall_mem_cons.1 hvalues
    rw [readAt, nextElement_cons _ hblanks he.starts] at hread
    exact ⟨e, elements, rfl, exact_string [] he rfl (stops_unread e elements rest) hread⟩

theorem exact_read : Exact read := by
  intro v rest rest' rule blanks hv hblanks _ hread
  rw [read, hv.starts.dropBlanks hblanks] at hread
  split at hread
  · rename_i tail htail
    obtain ⟨pad, members, hpad, hmembers, rfl⟩ := hv.object_of_append htail
    obtain ⟨⟨s, _⟩, hobject, hread⟩ := bind_eq_ok_iff.1 hread
    obtain ⟨rule', -, hread⟩ := bind_eq_ok_iff.1 hread
    obtain ⟨-, rfl⟩ := Prod.mk.inj (Except.ok.inj hread)
    exact (exactFields.readObject hpad hmembers hobject).1
  · rename_i tail htail
    obtain ⟨pad, elements, hpad, hvalues, rfl⟩ := hv.sequence_of_append htail
    obtain ⟨⟨kind, rest₁⟩, hkind, hread⟩ := bind_eq_ok_iff.1 hread
    obtain ⟨⟨detect, rest₂⟩, hdetect, hread⟩ := bind_eq_ok_iff.1 hread
    obtain ⟨⟨replace, rest₃⟩, hreplace, hread⟩ := bind_eq_ok_iff.1 hread
    obtain ⟨rest₄, hend, hread⟩ := bind_eq_ok_iff.1 hread
    obtain ⟨-, rfl⟩ := Prod.mk.inj (Except.ok.inj hread)
    obtain ⟨e₁, elements, rfl, rfl⟩ := exists_of_readAt 0 hvalues hpad hkind
    replace hvalues := (List.forall_mem_cons.1 hvalues).2
    obtain ⟨e₂, elements, rfl, rfl⟩ := exists_of_readAt 1 hvalues e₁.blank_after hdetect
    replace hvalues := (List.forall_mem_cons.1 hvalues).2
    obtain ⟨e₃, elements, rfl, rfl⟩ := exists_of_readAt 2 hvalues e₂.blank_after hreplace
    exact eq_of_endSequence e₃.blank_after hend
  · cases hread

end Rule

/-! ## Settings -/

namespace Config

/-- The fields of a configuration. -/
inductive Field where
  | sourceRoot
  | extensions
  | ignores
  | bindingAttribute
  | patterns
deriving DecidableEq

def Field.key : Field → String
  | .sourceRoot => "sourceRoot"
  | .extensions => "extensions"
  | .ignores => "ignores"
  | .bindingAttribute => "bindingAttribute"
  | .patterns => "patterns"

/-- The text stands for the value that a field has in the configuration. -/
def Field.Writes (config : Config) : Field → List Char → Prop
  | .sourceRoot, text => WritesString text config.sourceRoot
  | .extensions, text => WritesList WritesString text config.extensions
  | .ignores, text => WritesList WritesString text config.ignores
  | .bindingAttribute, text => WritesString text config.bindingAttribute
  | .patterns, text => WritesList Rule.Writes text config.patterns

/-- The settings that have only the given values of a configuration, and otherwise the standard
ones. -/
def part (config : Config) (given : List Field) : Config where
  sourceRoot := if .sourceRoot ∈ given then config.sourceRoot else standard.sourceRoot
  extensions := if .extensions ∈ given then config.extensions else standard.extensions
  ignores := if .ignores ∈ given then config.ignores else standard.ignores
  bindingAttribute :=
    if .bindingAttribute ∈ given then config.bindingAttribute else standard.bindingAttribute
  patterns := if .patterns ∈ given then config.patterns else standard.patterns

/-- The draft in which the given fields of a configuration have been read. -/
def draft (config : Config) (given : List Field) : Draft where
  sourceRoot := if .sourceRoot ∈ given then some config.sourceRoot else none
  extensions := if .extensions ∈ given then some config.extensions else none
  ignores := if .ignores ∈ given then some config.ignores else none
  bindingAttribute := if .bindingAttribute ∈ given then some config.bindingAttribute else none
  patterns := if .patterns ∈ given then some config.patterns else none

theorem ofDraft_draft (config : Config) (given : List Field) :
    ofDraft (config.draft given) = config.part given := by
  have hgetD : ∀ {α : Type} (f : Field) (x y : α),
      (if f ∈ given then some x else none).getD y = if f ∈ given then x else y := by
    intro α f x y
    split <;> rfl
  simp only [ofDraft, draft, part, hgetD]

theorem readField_known {config : Config} {given : List Field} {f : Field} {m : Member}
    (rest : List Char) (hnew : f ∉ given) (hvalue : f.Writes config m.value) :
    readField f.key (config.draft given) (m.tail ++ rest) =
      .ok (config.draft (given ++ [f]), rest) := by
  cases f
  case sourceRoot | bindingAttribute =>
    have hread := afterColon_tail (reads_string hvalue) rest
    simp only [readField, Field.key, draft, hnew, if_false, fresh, bind, Except.bind, hread]
    simp [pure, Except.pure]
  case extensions | ignores =>
    have hread := afterColon_tail (reads_list reads_string hvalue) rest
    simp only [readField, Field.key, draft, hnew, if_false, fresh, bind, Except.bind, hread]
    simp [pure, Except.pure]
  case patterns =>
    have hread := afterColon_tail (reads_list Rule.reads hvalue) rest
    simp only [readField, Field.key, draft, hnew, if_false, fresh, bind, Except.bind, hread]
    simp [pure, Except.pure]

theorem readField_unknown {name : String} (h : ∀ f : Field, name ≠ f.key) (s : Draft)
    (text : List Char) :
    readField name s text =
      (afterColon (fun text => (skip text).map ((), ·)) text).map fun p => (s, p.2) := by
  unfold readField
  split
  · exact absurd rfl (h .sourceRoot)
  · exact absurd rfl (h .extensions)
  · exact absurd rfl (h .ignores)
  · exact absurd rfl (h .bindingAttribute)
  · exact absurd rfl (h .patterns)
  · rfl

theorem readField_skip {name : String} (h : ∀ f : Field, name ≠ f.key) (s : Draft) {m : Member}
    {rest : List Char} (hvalue : IsValue m.value) (hrest : Stops rest) :
    readField name s (m.tail ++ rest) = .ok (s, rest) := by
  rw [readField_unknown h, afterColon_skip hvalue hrest]
  rfl

/-- **The settings of an object are read**, whichever of them are given and in whatever order. -/
theorem read_object {config : Config} {pad : List Char} {members : List (Padded Member)}
    {given : List Field} (hpad : pad.all isBlank = true)
    (hgives : GivesAll Field.key (Field.Writes config) members given) :
    Reads read (object pad members) (config.part given) where
  starts := ⟨'{', _, rfl, by decide, by decide⟩
  read blanks rest hblanks := by
    have hfields := fields_of_gives config.draft readField_known
      (fun hne hvalue hrest => readField_skip hne _ hvalue hrest) hgives
    have hread := readObject_listed rest hpad hfields
    rw [object, List.cons_append, read, dropBlanks_append_cons hblanks (by decide)]
    simp only [List.append_assoc, List.singleton_append]
    refine bind_eq_ok_iff.2 ⟨_, hread, ?_⟩
    rw [ofDraft_draft]
    rfl

/-! ## Fields that come twice -/

theorem exactFields : ExactFields readField := by
  intro name s s' m rest rest' hvalue hrest hread
  unfold readField at hread
  split at hread
  case h_6 =>
    obtain ⟨⟨⟨⟩, _⟩, hskip, hread⟩ := bind_eq_ok_iff.1 hread
    obtain ⟨-, rfl⟩ := Prod.mk.inj (Except.ok.inj hread)
    exact exact_skip.afterColon hvalue hrest hskip
  all_goals
    obtain ⟨-, -, hread⟩ := bind_eq_ok_iff.1 hread
    obtain ⟨⟨x, _⟩, hx, hread⟩ := bind_eq_ok_iff.1 hread
    obtain ⟨-, rfl⟩ := Prod.mk.inj (Except.ok.inj hread)
  case h_1 | h_4 => exact exact_string.afterColon hvalue hrest hx
  case h_2 | h_3 => exact Exact.afterColon (Exact.list exact_string) hvalue hrest hx
  case h_5 => exact Exact.afterColon (Exact.list Rule.exact_read) hvalue hrest hx

def Draft.holds (s : Draft) : Field → Bool
  | .sourceRoot => s.sourceRoot.isSome
  | .extensions => s.extensions.isSome
  | .ignores => s.ignores.isSome
  | .bindingAttribute => s.bindingAttribute.isSome
  | .patterns => s.patterns.isSome

theorem eq_none_of_fresh {α : Type} {name : String} {x : Option α} {u : Unit}
    (h : fresh name x = .ok u) : x = none := by
  cases x with
  | none => rfl
  | some x => cases h

/-- A field is read only if it has not been read before. What has been read stays. -/
theorem holds_of_readField_key {f : Field} {s s' : Draft} {text rest : List Char}
    (h : readField f.key s text = .ok (s', rest)) :
    s.holds f = false ∧ s'.holds f = true ∧ ∀ f', s.holds f' = true → s'.holds f' = true := by
  cases f
  all_goals
    obtain ⟨⟨⟩, hfresh, h⟩ := bind_eq_ok_iff.1 h
    obtain ⟨_, -, h⟩ := bind_eq_ok_iff.1 h
    obtain ⟨rfl, -⟩ := Prod.mk.inj (Except.ok.inj h)
    refine ⟨by rw [Draft.holds, eq_none_of_fresh hfresh]; rfl, rfl, fun f' hf' => ?_⟩
    cases f' <;> first | rfl | exact hf'

/-- **No field is read twice**, nor one that has been read at the start. -/
theorem took_once {s s' : Draft} {members : List (Padded Member)}
    (h : Took readField s members s') :
    (∀ m ∈ members, ∀ f : Field, Spells m.item.key f.key.toList → s.holds f = false) ∧
      members.Pairwise fun m m' => ∀ f : Field,
        Spells m.item.key f.key.toList → ¬ Spells m'.item.key f.key.toList := by
  induction h with
  | nil s => exact ⟨nofun, .nil⟩
  | @cons s s₁ s' name text rest m members hname hread htook ih =>
    obtain ⟨hnew, hpair⟩ := ih
    have hkept : ∀ f : Field, s₁.holds f = false → s.holds f = false := by
      intro f hf
      by_cases hknown : ∃ f : Field, name = f.key
      · obtain ⟨f₁, rfl⟩ := hknown
        have hholds := (holds_of_readField_key hread).2.2 f
        simp_all
      · rw [readField_unknown (not_exists.1 hknown)] at hread
        obtain ⟨p, -, hp⟩ := map_eq_ok_iff.1 hread
        obtain ⟨rfl, -⟩ := Prod.mk.inj hp
        exact hf
    refine ⟨List.forall_mem_cons.2 ⟨fun f hf => ?_, fun m' hm' f hf => hkept f (hnew m' hm' f hf)⟩,
      List.pairwise_cons.2 ⟨fun m' hm' f hf hf' => ?_, hpair⟩⟩
    · obtain rfl := hname _ hf
      exact (holds_of_readField_key hread).1
    · obtain rfl := hname _ hf
      have hholds := (holds_of_readField_key hread).2.1
      rw [hnew m' hm' f hf'] at hholds
      cases hholds

theorem read_object_of_twice {lead pad trail : List Char} {members : List (Padded Member)}
    (hlead : lead.all isBlank = true) (hpad : pad.all isBlank = true)
    (hmembers : ∀ m ∈ members, IsString m.item.key ∧ IsValue m.item.value) {f : Field}
    {m m' : Padded Member} (htwice : [m, m'].Sublist members)
    (hkey : Spells m.item.key f.key.toList) (hkey' : Spells m'.item.key f.key.toList)
    (p : Config × List Char) : read (lead ++ (object pad members ++ trail)) ≠ .ok p := by
  intro hread
  rw [object, List.cons_append, read, dropBlanks_append_cons hlead (by decide)] at hread
  simp only [List.append_assoc, List.singleton_append] at hread
  obtain ⟨⟨s, _⟩, hobject, -⟩ := bind_eq_ok_iff.1 hread
  have hpair := (took_once (exactFields.readObject hpad hmembers hobject).2).2
  have hpair := hpair.sublist htwice
  exact (List.pairwise_cons.1 hpair).1 m' List.mem_cons_self f hkey hkey'

/-- **Settings can be given in part**, in any order, among fields that are not known, and with white
space wherever it can stand. What is not given has its standard value. If a setting is given twice,
nothing is read, whatever the values are. -/
theorem parse_object :
    (∀ (config : Config) {lead pad trail : List Char} {members : List (Padded Member)}
        {given : List Field}, lead.all isBlank = true → pad.all isBlank = true →
      trail.all isBlank = true → GivesAll Field.key (Field.Writes config) members given →
      parse (String.ofList (lead ++ (object pad members ++ trail))) = .ok (config.part given)) ∧
    ∀ (f : Field) {lead pad : List Char} (trail : List Char) {members : List (Padded Member)}
        {m m' : Padded Member}, lead.all isBlank = true → pad.all isBlank = true →
      (∀ m ∈ members, IsString m.item.key ∧ IsValue m.item.value) → [m, m'].Sublist members →
      Spells m.item.key f.key.toList → Spells m'.item.key f.key.toList →
      ∃ fault, parse (String.ofList (lead ++ (object pad members ++ trail))) = .error fault := by
  constructor
  · intro config lead pad trail members given hlead hpad htrail hgives
    rw [parse, readAll, String.toList_ofList]
    refine bind_eq_ok_iff.2 ⟨_, (read_object hpad hgives).read lead trail hlead, ?_⟩
    have hend : dropBlanks trail = [] := by
      rw [← List.append_nil trail, dropBlanks_append htrail]
      rfl
    simp only [hend]
    rfl
  · intro f lead pad trail members m m' hlead hpad hmembers htwice hkey hkey'
    rw [parse, readAll, String.toList_ofList]
    cases hread : read (lead ++ (object pad members ++ trail)) with
    | error fault => exact ⟨fault, rfl⟩
    | ok p =>
      exact absurd hread (read_object_of_twice hlead hpad hmembers htwice hkey hkey' p)

/-- An attribute that is spelled with an escape, behind a field that is not known; and the same key
twice, spelled in two ways. -/
theorem parse_object_escapes :
    parse "\x7b\"x\": [-1.5e999, \"\\ud800\"],\n \"bindingAttribute\" :\"d\\u0061ta\"\x7d" =
        .ok { standard with bindingAttribute := "data" } ∧
      ∃ fault, parse "\x7b\"ignores\":[],\"\\u0069gnores\":null\x7d" = .error fault := by
  have hblank : [].all isBlank = true := rfl
  have hescape (c : Char) {d : Char} {n : Nat} (hd : (d, n) ∈ hexDigits)
      (hc : Char.ofNat (((0 * 16 + 0) * 16 + 6) * 16 + n) = c)
      (hn : ((0 * 16 + 0) * 16 + 6) * 16 + n < 0xD800) : SpellsChar ['\\', 'u', '0', '0', '6', d] c :=
    hc ▸ .unit (.digits (by decide) (by decide) (by decide) hd) (.inl hn)
  constructor
  · have hnumber : IsNumber (['-'] ++ (['1'] ++ (".5".toList ++ "e999".toList))) :=
      .parts (.inr rfl) ⟨by decide, by decide⟩ (by decide)
        (.inr ⟨['5'], ⟨by decide, by decide⟩, rfl⟩)
        (.inr ⟨'e', [], "999".toList, .inl rfl, .inl rfl, ⟨by decide, by decide⟩, rfl⟩)
    have hhalf : IsString "\\ud800".toList :=
      .unit (.digits (by decide : ('d', 13) ∈ _) (by decide : ('8', 8) ∈ _)
        (by decide : ('0', 0) ∈ _) (by decide : ('0', 0) ∈ _)) .nil
    have hx : IsValue (Json.sequence [] [⟨[], "-1.5e999".toList, [], rfl, rfl⟩,
        ⟨[' '], "\"\\ud800\"".toList, [], rfl, rfl⟩]) :=
      .sequence rfl (by simpa using ⟨.number hnumber, .string hhalf⟩)
    have hdata : Spells ("d".toList ++ ("\\u0061".toList ++ "ta".toList)) "data".toList :=
      .cons (.plain (by decide) (by decide) (by decide))
        (.cons (hescape 'a' (by decide : ('1', 1) ∈ _) rfl (by decide)) (spells_self (by decide)))
    have hgives : GivesAll Field.key (Field.Writes { standard with bindingAttribute := "data" })
        [⟨[], ⟨['x'], [], [' '], _, rfl, rfl⟩, [], rfl, rfl⟩,
          ⟨['\n', ' '], ⟨"bindingAttribute".toList, [' '], [], _, rfl, rfl⟩, [], rfl, rfl⟩]
        [.bindingAttribute] :=
      ⟨⟨[none, some .bindingAttribute],
        .cons (.unknown (spells_self (by decide) : Spells _ "x".toList)
          (by intro f; cases f <;> decide) hx)
        (.cons (.field (spells_self (by decide)) ⟨_, rfl, hdata⟩) .nil), rfl⟩, by decide⟩
    have hparse := parse_object.1 _ hblank hblank hblank hgives
    exact hparse
  · have hkey' : Spells ("\\u0069".toList ++ "gnores".toList) "ignores".toList :=
      .cons (hescape 'i' (by decide : ('9', 9) ∈ _) rfl (by decide)) (spells_self (by decide))
    have hkey : Spells "ignores".toList "ignores".toList := spells_self (by decide)
    have hempty : IsValue (Json.sequence [] []) := .sequence rfl nofun
    have hnull : IsValue "null".toList := .word (by decide)
    have hmembers : ∀ m ∈ ([⟨[], ⟨_, [], [], _, rfl, rfl⟩, [], rfl, rfl⟩,
        ⟨[], ⟨_, [], [], _, rfl, rfl⟩, [], rfl, rfl⟩] : List (Padded Member)),
        IsString m.item.key ∧ IsValue m.item.value :=
      List.forall_mem_cons.2 ⟨⟨hkey.isString, hempty⟩,
        List.forall_mem_cons.2 ⟨⟨hkey'.isString, hnull⟩, nofun⟩⟩
    have hparse := parse_object.2 .ignores [] hblank hblank hmembers (.refl _) hkey hkey'
    exact hparse

end Config

end TableGuard
