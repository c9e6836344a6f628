import TableGuard.Proofs.Path
import TableGuard.Proofs.Tree

/-!
# A new file in a tree without links

A new file is met only on the way to its own name. Without links a walk that does not end there
comes to the same place as before, or fails as before; the reason for a failure is another one only
if the walk tries to go through the new file.

* `Tree.LinkFree`, `Tree.lookup_set_concat`, `Tree.children_set` : what a new file changes;
* `Tree.set_comm` : a new file, and a new content of another one;
* `Tree.Undisturbed`, `Tree.walkWith_set` : a walk in the tree with the new file;
* `Tree.resolve_set`, `Tree.kindAt_set`, `Tree.readAt_set`, `Tree.writeAt_set` : the requests.
-/

namespace TableGuard.Tree

/-- There are no links in the tree. -/
def LinkFree (tree : Tree) : Prop := ∀ place target, tree.lookup place ≠ some (.link target)

theorem linkFree_of_entries {tree : Tree}
    (h : ∀ entry ∈ tree.entries, ∀ target, entry.2 ≠ .link target) : tree.LinkFree := by
  intro place target hlink
  unfold lookup at hlink
  split at hlink
  · cases hlink
  · obtain ⟨before, after, hentries, -⟩ := List.lookup_eq_some_iff.1 hlink
    refine h (place, .link target) ?_ target rfl
    rw [hentries]
    simp

variable {tree : Tree} {dir : Place} {name : RawText}

/-! ## The entries -/

theorem lookup_set_concat (tree : Tree) (dir : Place) (name : RawText) (entry : Entry) (q : Place) :
    (tree.set (dir ++ [name]) entry).lookup q =
      if q = dir ++ [name] then some entry else tree.lookup q :=
  lookup_set_of_ne_nil (List.append_ne_nil_of_right_ne_nil _ (List.cons_ne_nil _ _)) entry q

theorem lookup_concat (tree : Tree) (dir : Place) (name : RawText) :
    tree.lookup (dir ++ [name]) = tree.entries.lookup (dir ++ [name]) := by
  unfold lookup
  rw [if_neg (by simp)]

theorem put_of_lookup_eq_none {place : Place} (entry : Entry) :
    ∀ {entries : List (Place × Entry)}, entries.lookup place = none →
      put place entry entries = entries ++ [(place, entry)]
  | [], _ => rfl
  | (p, e) :: rest, h => by
    rw [List.lookup_cons] at h
    have hne : place ≠ p := by
      rintro rfl
      rw [beq_self_eq_true] at h
      cases h
    rw [beq_eq_false_iff_ne.2 hne] at h
    rw [put, if_neg (Ne.symm hne), put_of_lookup_eq_none entry h, List.cons_append]

theorem children_set (h : tree.lookup (dir ++ [name]) = none) (entry : Entry) (place : Place) :
    (tree.set (dir ++ [name]) entry).children place =
      tree.children place ++ if dir = place then [name] else [] := by
  rw [lookup_concat] at h
  unfold children set
  dsimp only
  rw [put_of_lookup_eq_none entry h, List.filterMap_append]
  congr 1
  simp only [List.filterMap_cons, List.filterMap_nil, List.dropLast_concat, List.getLast?_concat]
  split <;> rename_i hdir
  · split at hdir
    · cases hdir
    · rename_i hne
      rw [if_neg hne]
  · split at hdir
    · rename_i heq
      rw [if_pos heq, Option.some.inj hdir]
    · cases hdir

/-- Entries at two places may be put in either order, unless both are new. -/
theorem put_comm {p q : Place} (hne : p ≠ q) (e f : Entry) :
    ∀ {entries : List (Place × Entry)}, entries.lookup q ≠ none →
      put p e (put q f entries) = put q f (put p e entries)
  | [], h => absurd rfl h
  | (r, x) :: rest, h => by
    rw [List.lookup_cons] at h
    by_cases hp : r = p
    · have hq : r ≠ q := fun hq => hne (hp.symm.trans hq)
      simp only [put, if_pos hp, if_neg hq, if_neg hne]
    · by_cases hq : r = q
      · simp only [put, if_neg hp, if_pos hq, if_neg (Ne.symm hne)]
      · rw [beq_eq_false_iff_ne.2 (Ne.symm hq)] at h
        simp only [put, if_neg hp, if_neg hq, put_comm hne e f h]

/-- A new content of a file is the same before and after another file was added. -/
theorem set_comm {q : Place} (hne : dir ++ [name] ≠ q) (hq : ∃ bytes, tree.lookup q = some (.file bytes))
    (e f : Entry) :
    (tree.set (dir ++ [name]) e).set q f = (tree.set q f).set (dir ++ [name]) e := by
  obtain ⟨bytes, hfile⟩ := hq
  have hlookup : tree.entries.lookup q ≠ none := by
    unfold lookup at hfile
    split at hfile
    · cases hfile
    · rw [hfile]
      exact Option.some_ne_none _
  unfold set
  rw [put_comm hne e f hlookup]

/-! ## Walks -/

/-- The second result is the first one, or both are failures of a walk on whose way the name
stands. -/
def Undisturbed {α : Type} (name : RawText) (steps : List Step) (x x' : Except DiskError α) : Prop :=
  x' = x ∨ .down name ∈ steps ∧ ∃ e e', x = .error e ∧ x' = .error e'

namespace Undisturbed

variable {α β : Type} {steps : List Step} {x x' : Except DiskError α}

theorem cons (h : Undisturbed name steps x x') (step : Step) :
    Undisturbed name (step :: steps) x x' :=
  h.imp_right (And.imp_left (List.mem_cons_of_mem step))

theorem eq_of_notMem (h : Undisturbed name steps x x') (hname : .down name ∉ steps) : x' = x :=
  h.resolve_right fun hfail => hname hfail.1

theorem eq_ok_iff (h : Undisturbed name steps x x') {a : α} : x' = .ok a ↔ x = .ok a := by
  rcases h with rfl | ⟨-, e, e', rfl, rfl⟩
  · rfl
  · exact ⟨nofun, nofun⟩

theorem bind (h : Undisturbed name steps x x') {f f' : α → Except DiskError β}
    (hf : ∀ a, x = .ok a → f' a = f a) : Undisturbed name steps (x >>= f) (x' >>= f') := by
  rcases h with rfl | ⟨hname, e, e', rfl, rfl⟩
  · refine .inl ?_
    cases x' with
    | error e => rfl
    | ok a => exact hf a rfl
  · exact .inr ⟨hname, e, e', rfl, rfl⟩

end Undisturbed

/-- However many links may be followed, a walk is one that does something or other at a link. -/
theorem exists_walk (tree : Tree) (creating : Bool) (links : Nat) :
    ∃ onLink, walk tree creating links = walkWith tree creating onLink := by
  cases links <;> exact ⟨_, rfl⟩

section

variable (hlinks : tree.LinkFree) (hnew : tree.lookup (dir ++ [name]) = none) (bytes : List UInt8)
include hlinks hnew

/-- **A walk in the tree with the new file**, if it does not end with a step down to its name: it
comes to the same end as before, and not below the file, or it fails as before. -/
theorem walkWith_set (creating : Bool)
    (onLink onLink' : Place → RawText → List Step → Except DiskError Goal) :
    ∀ (steps : List Step) (place : Place), ¬ dir ++ [name] <+: place →
      steps.getLast? ≠ some (.down name) →
      Undisturbed name steps (walkWith tree creating onLink place steps)
        (walkWith (tree.set (dir ++ [name]) (.file bytes)) creating onLink' place steps) ∧
      ∀ q, walkWith tree creating onLink place steps = .ok (.entry q) → ¬ dir ++ [name] <+: q := by
  have hfail : ∀ (e : DiskError) q, Except.error e = .ok (Goal.entry q) → ¬ dir ++ [name] <+: q := by
    intro e q h
    cases h
  intro steps
  induction steps with
  | nil =>
    intro place hplace _
    refine ⟨.inl rfl, fun q hq => ?_⟩
    obtain rfl : place = q := Goal.entry.inj (Except.ok.inj hq)
    exact hplace
  | cons step rest ih =>
    intro place hplace hlast
    have hrest : rest.getLast? ≠ some (.down name) := by
      intro h
      rw [List.getLast?_cons, h] at hlast
      exact hlast rfl
    have hne : place ≠ dir ++ [name] := by
      rintro rfl
      exact hplace List.prefix_rfl
    have hon : ∀ place', ¬ dir ++ [name] <+: place' → _ := fun place' h =>
      (ih place' h hrest).imp_left fun hsame => hsame.cons step
    unfold walkWith
    rw [lookup_set_concat, if_neg hne]
    by_cases hdir : tree.lookup place ≠ some .directory
    · simp only [if_pos hdir]
      exact ⟨.inl rfl, hfail _⟩
    · simp only [if_neg hdir]
      cases step with
      | stay => exact hon place hplace
      | slash => exact hon place hplace
      | up => exact hon _ fun h => hplace (h.trans (List.dropLast_prefix place))
      | down m =>
        dsimp only
        split
        · exact ⟨.inl rfl, hfail _⟩
        · split
          · exact ⟨.inl rfl, hfail _⟩
          · rw [lookup_set_concat]
            by_cases hm : place ++ [m] = dir ++ [name]
            · -- Down to the file itself: the walk has more steps, and none can be taken from there.
              obtain rfl : m = name := List.singleton_inj.1 (List.append_inj' hm rfl).2
              obtain ⟨next, more, rfl⟩ : ∃ next more, rest = next :: more := by
                refine List.exists_cons_of_ne_nil ?_
                rintro rfl
                exact hlast rfl
              rw [if_pos hm, hm, hnew]
              refine ⟨.inr ⟨List.mem_cons_self, .notFound, .notDirectory, rfl, ?_⟩, hfail _⟩
              dsimp only
              unfold walkWith
              rw [lookup_set_concat, if_pos rfl, if_pos (by simp)]
            · rw [if_neg hm]
              cases hentry : tree.lookup (place ++ [m]) with
              | none =>
                refine ⟨.inl rfl, fun q hq => ?_⟩
                dsimp only at hq
                split at hq <;> cases hq
              | some entry =>
                have hbelow : ¬ dir ++ [name] <+: place ++ [m] := by
                  rw [List.prefix_concat_iff]
                  exact not_or.2 ⟨Ne.symm hm, hplace⟩
                cases entry with
                | link target => exact absurd hentry (hlinks _ target)
                | file _ => exact hon _ hbelow
                | directory => exact hon _ hbelow

variable {base : Place} (hbase : ¬ dir ++ [name] <+: base) {path : RawText}
  (hend : (steps path).getLast? ≠ some (.down name))
include hbase hend

theorem locate_set (creating : Bool) :
    Undisturbed name (steps path) (tree.locate creating base path)
      ((tree.set (dir ++ [name]) (.file bytes)).locate creating base path) ∧
    ∀ q, tree.locate creating base path = .ok (.entry q) → ¬ dir ++ [name] <+: q := by
  have horigin : ¬ dir ++ [name] <+: origin base path := by
    unfold origin
    split
    · rw [List.prefix_nil]
      exact List.append_ne_nil_of_right_ne_nil _ (List.cons_ne_nil _ _)
    · exact hbase
  obtain ⟨onLink, hwalk⟩ := exists_walk tree creating maxLinks
  obtain ⟨onLink', hwalk'⟩ := exists_walk (tree.set (dir ++ [name]) (.file bytes)) creating maxLinks
  unfold locate
  split
  · exact ⟨.inl rfl, nofun⟩
  · split
    · exact ⟨.inl rfl, nofun⟩
    · split
      · exact ⟨.inl rfl, nofun⟩
      · rw [hwalk, hwalk']
        exact walkWith_set hlinks hnew bytes creating onLink onLink' _ _ horigin hend

/-- **Where a path leads**, if it does not end with the name of the new file. -/
theorem resolve_set :
    Undisturbed name (steps path) (tree.resolve base path)
      ((tree.set (dir ++ [name]) (.file bytes)).resolve base path) ∧
    ∀ q, tree.resolve base path = .ok q → q ≠ dir ++ [name] := by
  obtain ⟨hsame, hbelow⟩ := locate_set hlinks hnew bytes hbase hend false
  refine ⟨hsame.bind fun _ _ => rfl, ?_⟩
  rintro q hq rfl
  unfold resolve at hq
  cases hgoal : tree.locate false base path with
  | error e =>
    rw [hgoal] at hq
    cases hq
  | ok goal =>
    rw [hgoal] at hq
    cases goal with
    | vacant _ => cases hq
    | entry place =>
      obtain rfl : place = dir ++ [name] := Except.ok.inj hq
      exact hbelow _ hgoal List.prefix_rfl

theorem kindAt_set :
    Undisturbed name (steps path) (tree.kindAt base path)
      ((tree.set (dir ++ [name]) (.file bytes)).kindAt base path) := by
  obtain ⟨hsame, hne⟩ := resolve_set hlinks hnew bytes hbase hend
  refine hsame.bind fun place hplace => ?_
  rw [lookup_set_concat, if_neg (hne place hplace)]

theorem readAt_set :
    Undisturbed name (steps path) (tree.readAt base path)
      ((tree.set (dir ++ [name]) (.file bytes)).readAt base path) := by
  obtain ⟨hsame, hne⟩ := resolve_set hlinks hnew bytes hbase hend
  refine hsame.bind fun place hplace => ?_
  rw [lookup_set_concat, if_neg (hne place hplace)]
  rfl

theorem writeAt_set {old : List UInt8} (hread : tree.readAt base path = .ok old)
    (content : List UInt8) :
    (tree.set (dir ++ [name]) (.file bytes)).writeAt base path content =
      (tree.writeAt base path content).map (·.set (dir ++ [name]) (.file bytes)) := by
  obtain ⟨hsame, hne⟩ := resolve_set hlinks hnew bytes hbase hend
  have hread' := (readAt_set hlinks hnew bytes hbase hend).eq_ok_iff.2 hread
  obtain ⟨place, hplace, hfile, hwrite⟩ := exists_writeAt_of_readAt hread content
  obtain ⟨place', hplace', -, hwrite'⟩ := exists_writeAt_of_readAt hread' content
  obtain rfl : place = place' := by
    rw [hsame.eq_ok_iff, hplace] at hplace'
    exact Except.ok.inj hplace'
  rw [hwrite, hwrite', set_comm (Ne.symm (hne place hplace)) ⟨old, hfile⟩]
  rfl

end

end TableGuard.Tree
