import Mathlib.Data.List.Forall2
import Mathlib.Tactic.SplitIfs
import TableGuard.Regex.Pattern

/-!
# Two readings side by side

Two states of reading that differ only in what has been read go on alike: the same pieces can be
read from both. If the parts of one are nested no deeper than those of the other, this stays so, and
where the other ends well so does the first.

* `Reading.Covers` : one state has the same flags and open groups as another, and parts that are
  nested at least as deep;
* `Covers.step?` : reading a piece in both;
* `Covers.isSome_run?` : reading to the end.
-/

namespace TableGuard.Regex

/-! ## Levels -/

theorem foldl_max_le_iff (ns : List Nat) : ∀ k m : Nat,
    ns.foldl max k ≤ m ↔ k ≤ m ∧ ∀ n ∈ ns, n ≤ m := by
  induction ns with
  | nil => intro k m; simp
  | cons n ns ih =>
    intro k m
    rw [List.foldl_cons, ih, Nat.max_le, List.forall_mem_cons, and_assoc]

theorem le_foldl_max {ns : List Nat} {n : Nat} (h : n ∈ ns) (k : Nat) : n ≤ ns.foldl max k :=
  ((foldl_max_le_iff ns k _).1 (Nat.le_refl _)).2 n h

theorem le_levels {ns : List Nat} {n : Nat} (h : n ∈ ns) : n ≤ levels ns := by
  match ns, h with
  | [m], h => exact Nat.le_of_eq (List.mem_singleton.1 h)
  | m :: m' :: ns, h => exact Nat.le_succ_of_le (le_foldl_max h 0)

/-- For every number of the first list there is one in the second that is not less. -/
def Below (ns' ns : List Nat) : Prop := ∀ n' ∈ ns', ∃ n ∈ ns, n' ≤ n

theorem levels_le_levels {ns ns' : List Nat} (h : Below ns' ns)
    (hlength : 2 ≤ ns'.length → 2 ≤ ns.length) : levels ns' ≤ levels ns := by
  match ns' with
  | [] => exact Nat.zero_le _
  | [n'] =>
    obtain ⟨n, hmem, hle⟩ := h n' (List.mem_singleton_self _)
    exact Nat.le_trans hle (le_levels hmem)
  | m' :: n' :: ns' =>
    match ns, hlength (by simp) with
    | m :: n :: ns, _ =>
      refine Nat.succ_le_succ ((foldl_max_le_iff _ _ _).2 ⟨Nat.zero_le _, fun k' hk' => ?_⟩)
      obtain ⟨k, hmem, hle⟩ := h k' hk'
      exact Nat.le_trans hle (le_foldl_max hmem 0)

theorem below_of_forall₂ {ns ns' : List Nat} (h : List.Forall₂ (fun n n' => n' ≤ n) ns ns') :
    Below ns' ns := by
  induction h with
  | nil => exact fun _ hmem => absurd hmem List.not_mem_nil
  | @cons n n' ns ns' hle _ ih =>
    intro m' hmem
    rcases List.mem_cons.1 hmem with rfl | hmem
    · exact ⟨n, List.mem_cons_self, hle⟩
    · obtain ⟨m, hm, hle⟩ := ih m' hmem
      exact ⟨m, List.mem_cons_of_mem n hm, hle⟩

/-! ## Parts -/

def Part.levels (p : Part) : Nat := p.toNested.levels

/-- The parts go on alike, and the second has no more levels. -/
inductive Part.Covers : Part → Part → Prop
  | expr {e e' : Nested Expr} (h : e'.levels ≤ e.levels) : Covers (.expr e) (.expr e')
  | flags : Covers .flags .flags

theorem Part.Covers.levels_le {p p' : Part} (h : p.Covers p') : p'.levels ≤ p.levels := by
  cases h with
  | expr h => exact h
  | flags => exact Nat.le_refl _

/-- The last parts, which come first here, go on alike, and the others of the second branch have no
more levels. -/
inductive PartsCover : List Part → List Part → Prop
  | nil : PartsCover [] []
  | cons {p p' : Part} {parts parts' : List Part} (last : p.Covers p')
      (others : Below (parts'.map Part.levels) (parts.map Part.levels)) :
      PartsCover (p :: parts) (p' :: parts')

namespace PartsCover

variable {parts parts' : List Part}

theorem below (h : PartsCover parts parts') :
    Below (parts'.map Part.levels) (parts.map Part.levels) := by
  cases h with
  | nil => exact fun _ hmem => absurd hmem List.not_mem_nil
  | cons last others =>
    intro n' hmem
    rcases List.mem_cons.1 hmem with rfl | hmem
    · exact ⟨_, List.mem_cons_self, last.levels_le⟩
    · obtain ⟨n, hn, hle⟩ := others n' hmem
      exact ⟨n, List.mem_cons_of_mem _ hn, hle⟩

theorem push (h : PartsCover parts parts') {p p' : Part} (hp : p.Covers p') :
    PartsCover (p :: parts) (p' :: parts') := .cons hp h.below

theorem length (h : PartsCover parts parts') (hlength : 2 ≤ parts'.length) : 2 ≤ parts.length := by
  cases h with
  | nil => exact hlength
  | @cons p p' parts parts' last others =>
    match parts', hlength with
    | q' :: parts', _ =>
      obtain ⟨n, hmem, -⟩ := others q'.levels List.mem_cons_self
      match parts, hmem with
      | q :: parts, _ => simp

end PartsCover

/-! ## States -/

/-- What has been read of a group goes on alike. -/
structure Scope.Covers (s s' : Scope) : Prop where
  branches : List.Forall₂ (fun b b' : Nested Expr => b'.levels ≤ b.levels) s.branches s'.branches
  parts : PartsCover s.parts s'.parts

structure OpenGroup.Covers (g g' : OpenGroup) : Prop where
  outer : g.outer.Covers g'.outer
  flags : g'.flags = g.flags
  index : g'.index = g.index

structure Reading.Covers (r r' : Reading) : Prop where
  flags : r'.flags = r.flags
  scope : r.scope.Covers r'.scope
  groups : List.Forall₂ OpenGroup.Covers r.groups r'.groups
  count : r'.count = r.count
  names : r'.names = r.names

theorem Scope.Covers.start : Scope.start.Covers .start := ⟨.nil, .nil⟩

theorem Scope.Covers.push {s s' : Scope} (h : s.Covers s') {p p' : Part} (hp : p.Covers p') :
    (s.push p).Covers (s'.push p') := ⟨h.branches, h.parts.push hp⟩

theorem Scope.branch_levels (s : Scope) :
    s.branch.levels = Regex.levels (s.parts.map Part.levels).reverse := by
  change Regex.levels ((s.parts.reverse.map Part.toNested).map Nested.levels) = _
  rw [List.map_map, List.map_reverse]
  rfl

theorem Scope.Covers.levels_branch {s s' : Scope} (h : s.Covers s') :
    s'.branch.levels ≤ s.branch.levels := by
  rw [Scope.branch_levels, Scope.branch_levels]
  refine levels_le_levels ?_ ?_
  · intro n' hmem
    obtain ⟨n, hn, hle⟩ := h.parts.below n' (List.mem_reverse.1 hmem)
    exact ⟨n, List.mem_reverse.2 hn, hle⟩
  · rw [List.length_reverse, List.length_reverse, List.length_map, List.length_map]
    exact h.parts.length

theorem Scope.Covers.nextBranch {s s' : Scope} (h : s.Covers s') :
    s.nextBranch.Covers s'.nextBranch := ⟨.cons h.levels_branch h.branches, .nil⟩

theorem Scope.Covers.levels_whole {s s' : Scope} (h : s.Covers s') :
    s'.whole.levels ≤ s.whole.levels := by
  have hbranches : List.Forall₂ (fun n n' : Nat => n' ≤ n)
      ((s.branch :: s.branches).reverse.map Nested.levels)
      ((s'.branch :: s'.branches).reverse.map Nested.levels) := by
    rw [List.forall₂_map_left_iff, List.forall₂_map_right_iff, List.forall₂_reverse_iff]
    exact .cons h.levels_branch h.branches
  exact levels_le_levels (below_of_forall₂ hbranches) fun hlength => hbranches.length_eq ▸ hlength

namespace Reading

/-- Two results of reading a piece: there is none, or the same is left and the states go on alike. -/
def Agree (x y : Option (Reading × List Char)) : Prop :=
  Option.Rel (fun a b => a.1.Covers b.1 ∧ b.2 = a.2) x y

theorem agree_map {x y : Option Reading}
    (h : Option.Rel Covers x y) (rest : List Char) : Agree (x.map (·, rest)) (y.map (·, rest)) := by
  cases h with
  | none => exact .none
  | some h => exact .some ⟨h, rfl⟩

namespace Covers

theorem start : Reading.start.Covers .start := ⟨rfl, .start, .nil, rfl, rfl⟩

variable {r r' : Reading} (h : r.Covers r')
include h

theorem push {levels levels' : Nat} (hlevels : levels' ≤ levels) (e e' : Expr) :
    (r.push e levels).Covers (r'.push e' levels') :=
  ⟨h.flags, h.scope.push (.expr hlevels), h.groups, h.count, h.names⟩

theorem enter (flags : Flags) (index : Option Nat) :
    (r.enter flags index).Covers (r'.enter flags index) :=
  ⟨rfl, .start, .cons ⟨h.scope, h.flags, rfl⟩ h.groups, h.count, h.names⟩

theorem enterNumbered : r.enterNumbered.Covers r'.enterNumbered := by
  unfold Reading.enterNumbered
  rw [h.flags, h.count]
  have henter := h.enter r.flags (some (r.count + 1))
  exact ⟨henter.flags, henter.scope, henter.groups, rfl, henter.names⟩

theorem enterNamed? (text : List Char) : Agree (r.enterNamed? text) (r'.enterNamed? text) := by
  unfold Reading.enterNamed?
  rw [h.names]
  dsimp only
  split
  · split_ifs
    · exact .some ⟨⟨h.enterNumbered.flags, h.enterNumbered.scope, h.enterNumbered.groups,
        h.enterNumbered.count, rfl⟩, rfl⟩
    · exact .none
  · exact .none

theorem openGroup? (text : List Char) : Agree (r.openGroup? text) (r'.openGroup? text) := by
  unfold Reading.openGroup?
  rw [h.flags]
  split
  · exact .none
  · exact .none
  · exact .none
  · exact .none
  · exact h.enterNamed? _
  · exact h.enterNamed? _
  · split
    · exact .some ⟨h.enter _ none, rfl⟩
    · exact .some ⟨⟨rfl, h.scope.push .flags, h.groups, h.count, h.names⟩, rfl⟩
    · exact .none
  · exact .some ⟨h.enterNumbered, rfl⟩

theorem closeGroup? : Option.Rel Covers r.closeGroup? r'.closeGroup? := by
  have hgroups := h.groups
  unfold Reading.closeGroup?
  generalize r.groups = gs, r'.groups = gs' at hgroups ⊢
  cases hgroups with
  | nil => exact .none
  | cons hg hgs =>
    exact .some ⟨hg.flags, hg.outer.push (.expr (Nat.succ_le_succ h.scope.levels_whole)), hgs,
      h.count, h.names⟩

theorem repeatLast? (least : Nat) (most : Option Nat) (lazy : Bool) :
    Option.Rel Covers (r.repeatLast? least most lazy) (r'.repeatLast? least most lazy) := by
  have hparts := h.scope.parts
  unfold Reading.repeatLast?
  generalize r.scope.parts = parts, r'.scope.parts = parts' at hparts ⊢
  cases hparts with
  | nil => exact .none
  | cons last others =>
    cases last with
    | flags => exact .none
    | expr hlevels =>
      exact .some ⟨h.flags, ⟨h.scope.branches, .cons (.expr (Nat.succ_le_succ hlevels)) others⟩,
        h.groups, h.count, h.names⟩

theorem repeatSign? (least : Nat) (most : Option Nat) (text : List Char) :
    Agree (r.repeatSign? least most text) (r'.repeatSign? least most text) := by
  unfold Reading.repeatSign?
  split
  · exact agree_map (h.repeatLast? least most true) _
  · exact agree_map (h.repeatLast? least most false) _

theorem repeatBraces? (text : List Char) :
    Agree (r.repeatBraces? text) (r'.repeatBraces? text) := by
  unfold Reading.repeatBraces?
  rw [h.flags]
  cases readBounds? r.flags.verbose text with
  | none => exact .none
  | some bounds =>
    obtain ⟨least, most, rest⟩ := bounds
    exact h.repeatSign? least most _

/-- **Reading a piece in both.** -/
theorem step? (c : Char) (text : List Char) : Agree (r.step? c text) (r'.step? c text) := by
  unfold Reading.step?
  rw [h.flags]
  split
  · exact h.openGroup? text
  · exact agree_map h.closeGroup? text
  · exact .some ⟨⟨rfl, h.scope.nextBranch, h.groups, h.count, h.names⟩, rfl⟩
  · cases bracket? r.flags text with
    | none => exact .none
    | some found => exact .some ⟨h.push (Nat.le_refl _) _ _, rfl⟩
  · exact h.repeatSign? 0 (some 1) text
  · exact h.repeatSign? 0 none text
  · exact h.repeatSign? 1 none text
  · exact h.repeatBraces? text
  · cases escape? r.flags text with
    | none => exact .none
    | some found => exact .some ⟨h.push (Nat.le_refl _) _ _, rfl⟩
  · cases r.flags.dot? with
    | none => exact .none
    | some e => exact .some ⟨h.push (Nat.le_refl _) _ _, rfl⟩
  · exact .some ⟨h.push (Nat.le_refl _) _ _, rfl⟩
  · exact .some ⟨h.push (Nat.le_refl _) _ _, rfl⟩
  · exact .some ⟨h.push (Nat.le_refl _) _ _, rfl⟩

theorem isSome_finish? (hfinish : r.finish?.isSome) : r'.finish?.isSome := by
  have hgroups := h.groups
  unfold Reading.finish? at hfinish ⊢
  generalize r.groups = gs, r'.groups = gs' at hgroups hfinish ⊢
  cases hgroups with
  | nil =>
    by_cases hle : r.scope.whole.levels ≤ maxLevels
    · simp only [if_pos (Nat.le_trans h.scope.levels_whole hle), Option.isSome_some]
    · simp only [if_neg hle, Option.isSome_none] at hfinish
      cases hfinish
  | cons => cases hfinish

omit h in
/-- **Reading to the end in both.** -/
theorem isSome_run? : ∀ (fuel : Nat) {r r' : Reading} (text : List Char), r.Covers r' →
    (r.run? fuel text).isSome → (r'.run? fuel text).isSome
  | 0, _, _, _, _, hrun => hrun
  | fuel + 1, r, r', text, h, hrun => by
    unfold Reading.run? at hrun ⊢
    rw [h.flags]
    cases htext : skip r.flags.verbose text with
    | nil =>
      rw [htext] at hrun
      exact h.isSome_finish? hrun
    | cons c rest =>
      rw [htext] at hrun
      have hstep := h.step? c rest
      simp only at hrun ⊢
      generalize r.step? c rest = x, r'.step? c rest = y at hstep hrun ⊢
      cases hstep with
      | none => exact hrun
      | @some a b hab =>
        obtain ⟨hcovers, hrest⟩ := hab
        rw [Option.bind_some] at hrun ⊢
        rw [hrest]
        exact isSome_run? fuel a.2 hcovers hrun

end Covers

end Reading

end TableGuard.Regex
