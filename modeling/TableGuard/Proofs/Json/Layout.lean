import Mathlib.Data.List.ReduceOption
import TableGuard.Config.Printer
import TableGuard.Proofs.Json.Grammar

/-!
# The layout of what is written

Sequences and objects are written with each part on a line of its own. That is one of the many ways
in which they can be written: the line breaks and the indentation are white space.

* `spells_renderText`, `writesString_renderText` : strings;
* `spread`, `sequence_spread`, `object_spread` : sequences and objects;
* `writesList_block` : a sequence whose elements are written one by one.
-/

namespace TableGuard.Json

/-! ## Strings -/

theorem hexDigit_mem : ∀ n < 16, (hexDigit n, n) ∈ hexDigits := by decide

theorem writesUnit_hexDigit {n : Nat} (h : n < 0x20) :
    WritesUnit ['0', '0', hexDigit (n / 16), hexDigit (n % 16)] n := by
  have hzero : ('0', 0) ∈ hexDigits := by decide
  have hunit := WritesUnit.digits hzero hzero (hexDigit_mem (n / 16) (by omega))
    (hexDigit_mem (n % 16) (by omega))
  have hn : ((0 * 16 + 0) * 16 + n / 16) * 16 + n % 16 = n := by omega
  rwa [hn] at hunit

theorem spellsChar_renderChar (c : Char) : SpellsChar (renderChar c) c := by
  unfold renderChar
  split
  case h_8 hquote hslash _ _ _ _ _ =>
    split
    · rename_i hc
      have hunit := SpellsChar.unit (writesUnit_hexDigit hc) (.inl (by omega))
      rwa [Char.ofNat_toNat] at hunit
    · rename_i hc
      exact .plain hquote hslash (Nat.not_lt.1 hc)
  all_goals exact .escape (by decide)

/-- **A text is spelled by its characters**, of which some are escaped. -/
theorem spells_renderText (text : List Char) : Spells (text.flatMap renderChar) text := by
  induction text with
  | nil => exact .nil
  | cons c text ih => exact .cons (spellsChar_renderChar c) ih

theorem writesString_renderText (s : String) : WritesString (renderText s.toList) s :=
  ⟨_, rfl, spells_renderText s.toList⟩

/-! ## Lines -/

theorem all_isBlank_newline (level : Nat) : ('\n' :: indent level).all isBlank = true := by
  simp [indent, isBlank]

/-- Parts on lines of their own, and the bracket behind them on another. -/
def spread {α : Type} (level : Nat) : List α → List (Padded α)
  | [] => []
  | [x] => [⟨'\n' :: indent (level + 1), x, '\n' :: indent level, all_isBlank_newline _,
      all_isBlank_newline _⟩]
  | x :: xs => ⟨'\n' :: indent (level + 1), x, [], all_isBlank_newline _, rfl⟩ :: spread level xs

section Spread

variable {α : Type} (write : α → List Char) (level : Nat)

theorem further_spread (x : α) (xs : List α) :
    further write (spread level (x :: xs)) =
      ',' :: (lines (level + 1) ((x :: xs).map write) ++ '\n' :: indent level) := by
  induction xs generalizing x with
  | nil => simp [spread, further_cons, further_nil, lines]
  | cons y ys ih => simp [spread, further_cons, ih y, lines]

theorem listed_spread (x : α) (xs : List α) :
    listed write (spread level (x :: xs)) =
      lines (level + 1) ((x :: xs).map write) ++ '\n' :: indent level := by
  cases xs with
  | nil => simp [spread, listed_cons, further_nil, lines]
  | cons y ys => simp [spread, listed_cons, further_spread write level y ys, lines]

theorem sequence_spread (texts : List (List Char)) :
    sequence [] (spread level texts) = block '[' ']' level texts := by
  cases texts with
  | nil => rfl
  | cons x xs => simp [sequence, block, listed_spread]

theorem object_spread (members : List Member) :
    object [] (spread level members) = block '{' '}' level (members.map Member.text) := by
  cases members with
  | nil => rfl
  | cons m members => simp [object, block, listed_spread]

theorem forall₂_spread {β : Type} {R : α → β → Prop} {xs : List α} {ys : List β}
    (h : xs.Forall₂ R ys) : (spread level xs).Forall₂ (fun p y => R p.item y) ys := by
  induction h with
  | nil => exact .nil
  | @cons x y xs ys hxy hxs ih =>
    cases hxs with
    | nil => exact .cons hxy .nil
    | cons _ _ => exact .cons hxy ih

end Spread

/-- **A sequence is written**, if its elements are. -/
theorem writesList_block {α : Type} {writes : List Char → α → Prop} {render : α → List Char}
    (level : Nat) (h : ∀ x, writes (render x) x) (xs : List α) :
    WritesList writes (block '[' ']' level (xs.map render)) xs := by
  refine ⟨[], spread level (xs.map render), rfl, (sequence_spread level _).symm,
    forall₂_spread level ?_⟩
  rw [List.forall₂_map_left_iff, List.forall₂_same]
  exact fun x _ => h x

def entry (key : String) (value : List Char) : Member where
  key := key.toList.flatMap renderChar
  gap := []
  pad := [' ']
  value := value

theorem entry_text (key : String) (value : List Char) :
    (entry key value).text = member key value := by
  simp [Member.text, Member.tail, entry, member, renderText]

/-- **An object is written**, field by field. -/
theorem exists_object_eq_block {φ : Type} (key : φ → String) {writes : φ → List Char → Prop}
    {value : φ → List Char} (h : ∀ f, writes f (value f)) (level : Nat) {fields : List φ}
    (hnodup : fields.Nodup) :
    ∃ members, GivesAll key writes members fields ∧
      object [] members = block '{' '}' level (fields.map fun f => member (key f) (value f)) := by
  refine ⟨spread level (fields.map fun f => entry (key f) (value f)),
    ⟨⟨fields.map some, forall₂_spread level ?_, ?_⟩, hnodup⟩, ?_⟩
  · rw [List.forall₂_map_left_iff, List.forall₂_map_right_iff, List.forall₂_same]
    exact fun f _ => .field (spells_renderText _) (h f)
  · simp [List.reduceOption]
  · rw [object_spread, List.map_map]
    simp only [Function.comp_def, entry_text]

end TableGuard.Json
