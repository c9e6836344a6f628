import Mathlib.Data.List.Basic
import TableGuard.Tree

/-!
# Writing to files that are there

Where a path leads depends on what kinds of entries stand at which places, and not on what the files
hold. Writing to a file that can be read changes what one place holds and nothing else.

* `Tree.shape` : the tree with empty files;
* `locate_shape`, `resolve_shape`, `kindAt_shape`, `namesAt_shape` : requests that only look at it;
* `lookup_set`, `shape_set` : what a new content of a file changes, and what it keeps;
* `writeAt_of_readAt`, `exists_writeAt_of_readAt` : a write to a file that can be read.
-/

namespace TableGuard.Tree

deriving instance DecidableEq for Goal

/-! ## The shape of a tree -/

/-- The entry, less the content of a file. -/
def Entry.shape : Entry → Entry
  | .file _ => .file []
  | entry => entry

/-- The tree with empty files. -/
def shape (tree : Tree) : Tree :=
  { tree with entries := tree.entries.map fun (p, e) => (p, e.shape) }

theorem Entry.shape_eq_directory_iff (e : Entry) : e.shape = .directory ↔ e = .directory := by
  cases e <;> simp [Entry.shape]

theorem lookup_shape (tree : Tree) (place : Place) :
    tree.shape.lookup place = (tree.lookup place).map Entry.shape := by
  unfold lookup
  split
  · rfl
  · unfold shape
    induction tree.entries with
    | nil => rfl
    | cons entry entries ih =>
      obtain ⟨p, e⟩ := entry
      rw [List.map_cons, List.lookup_cons, List.lookup_cons]
      cases place == p with
      | true => rfl
      | false => exact ih

theorem children_shape (tree : Tree) (place : Place) :
    tree.shape.children place = tree.children place := by
  rw [children, children, shape, List.filterMap_map]
  rfl

theorem lookup_shape_eq_directory_iff (tree : Tree) (place : Place) :
    tree.shape.lookup place = some .directory ↔ tree.lookup place = some .directory := by
  rw [lookup_shape, Option.map_eq_some_iff]
  constructor
  · rintro ⟨e, he, hshape⟩
    rw [he, (e.shape_eq_directory_iff).1 hshape]
  · intro h
    exact ⟨.directory, h, rfl⟩

theorem lookup_file_of_shape {tree tree' : Tree} (h : tree'.shape = tree.shape) {place : Place}
    {bytes : List UInt8} (hfile : tree.lookup place = some (.file bytes)) :
    ∃ bytes', tree'.lookup place = some (.file bytes') := by
  have hshape := lookup_shape tree' place
  rw [h, lookup_shape, hfile] at hshape
  obtain ⟨entry, hentry, heq⟩ := Option.map_eq_some_iff.1 hshape.symm
  cases entry with
  | file bytes' => exact ⟨bytes', hentry⟩
  | directory => cases heq
  | link target => cases heq

theorem walkWith_shape (tree : Tree) (creating : Bool)
    (onLink : Place → RawText → List Step → Except DiskError Goal) :
    ∀ (steps : List Step) (place : Place),
      walkWith tree.shape creating onLink place steps = walkWith tree creating onLink place steps := by
  intro steps
  induction steps with
  | nil => intro place; rfl
  | cons step rest ih =>
    intro place
    unfold walkWith
    simp only [ne_eq, lookup_shape_eq_directory_iff, ih]
    split
    · rfl
    · cases step with
      | down name =>
        dsimp only
        rw [lookup_shape]
        cases tree.lookup (place ++ [name]) with
        | none => rfl
        | some entry => cases entry <;> rfl
      | _ => rfl

theorem walk_shape (tree : Tree) (creating : Bool) : ∀ (links : Nat) (place : Place)
    (steps : List Step), walk tree.shape creating links place steps = walk tree creating links place steps
  | 0, place, steps => walkWith_shape tree creating _ steps place
  | links + 1, place, rest => by
    rw [walk, walk, walkWith_shape]
    congr 1
    funext place target rest
    exact walk_shape tree creating links _ _

theorem locate_shape (tree : Tree) (creating : Bool) (base : Place) (path : RawText) :
    tree.shape.locate creating base path = tree.locate creating base path := by
  unfold locate
  rw [walk_shape]

theorem resolve_shape (tree : Tree) (base : Place) (path : RawText) :
    tree.shape.resolve base path = tree.resolve base path := by
  unfold resolve
  rw [locate_shape]

theorem kindAt_shape (tree : Tree) (base : Place) (path : RawText) :
    tree.shape.kindAt base path = tree.kindAt base path := by
  unfold kindAt
  rw [resolve_shape]
  congr 1
  funext place
  rw [lookup_shape]
  cases tree.lookup place with
  | none => rfl
  | some entry => cases entry <;> rfl

theorem namesAt_shape (tree : Tree) (base : Place) (path : RawText) :
    tree.shape.namesAt base path = tree.namesAt base path := by
  unfold namesAt
  rw [resolve_shape]
  simp only [children_shape]
  rfl

/-! ## New contents -/

theorem lookup_put (place q : Place) (entry : Entry) : ∀ entries : List (Place × Entry),
    (put place entry entries).lookup q = if q = place then some entry else entries.lookup q
  | [] => by
    rw [put, List.lookup_cons]
    by_cases h : q = place
    · rw [if_pos h, beq_iff_eq.2 h]
    · rw [if_neg h, beq_eq_false_iff_ne.2 h]
  | (p, e) :: rest => by
    have ih := lookup_put place q entry rest
    unfold put
    split
    · rename_i hp
      subst hp
      rw [List.lookup_cons, List.lookup_cons]
      by_cases h : q = p
      · rw [if_pos h, beq_iff_eq.2 h]
      · rw [if_neg h, beq_eq_false_iff_ne.2 h]
    · rename_i hp
      rw [List.lookup_cons, List.lookup_cons]
      by_cases h : q = p
      · rw [beq_iff_eq.2 h, if_neg (fun hq => hp (h.symm.trans hq))]
      · rw [beq_eq_false_iff_ne.2 h]
        exact ih

theorem shape_put {place : Place} {bytes bytes' : List UInt8} : ∀ {entries : List (Place × Entry)},
    entries.lookup place = some (.file bytes) →
      (put place (.file bytes') entries).map (fun (p, e) => (p, e.shape)) =
        entries.map fun (p, e) => (p, e.shape)
  | [], h => by cases h
  | (p, e) :: rest, h => by
    rw [List.lookup_cons] at h
    unfold put
    split
    · rename_i hp
      rw [beq_iff_eq.2 hp.symm] at h
      obtain rfl : e = .file bytes := Option.some.inj h
      rw [List.map_cons, List.map_cons, hp]
      rfl
    · rename_i hp
      rw [beq_eq_false_iff_ne.2 (Ne.symm hp)] at h
      rw [List.map_cons, List.map_cons, shape_put h]

theorem lookup_set_of_ne_nil {tree : Tree} {place : Place} (hne : place ≠ []) (entry : Entry)
    (q : Place) :
    (tree.set place entry).lookup q = if q = place then some entry else tree.lookup q := by
  unfold lookup set
  by_cases hq : q = []
  · rw [hq, if_neg (Ne.symm hne)]
    rfl
  · have hempty : ¬ q.isEmpty = true := by rwa [List.isEmpty_iff]
    rw [if_neg hempty, if_neg hempty, lookup_put]

theorem lookup_set {tree : Tree} {place : Place} {bytes : List UInt8}
    (h : tree.lookup place = some (.file bytes)) (entry : Entry) (q : Place) :
    (tree.set place entry).lookup q = if q = place then some entry else tree.lookup q := by
  refine lookup_set_of_ne_nil ?_ entry q
  rintro rfl
  cases h

theorem shape_set {tree : Tree} {place : Place} {bytes bytes' : List UInt8}
    (h : tree.lookup place = some (.file bytes)) :
    (tree.set place (.file bytes')).shape = tree.shape := by
  have hne : place ≠ [] := by
    rintro rfl
    cases h
  rw [lookup, if_neg (by simpa using hne)] at h
  unfold shape set
  rw [shape_put h]

/-! ## Writing -/

/-- A walk to a place to write to leads where any other walk does. -/
theorem walkWith_of_creating {tree : Tree}
    {onLink onLink' : Place → RawText → List Step → Except DiskError Goal}
    (hlink : ∀ place target rest goal, onLink place target rest = .ok goal →
      onLink' place target rest = .ok goal) {goal : Goal} :
    ∀ (steps : List Step) (place : Place), walkWith tree true onLink place steps = .ok goal →
      walkWith tree false onLink' place steps = .ok goal := by
  intro steps
  induction steps with
  | nil => intro place h; exact h
  | cons step rest ih =>
    intro place h
    unfold walkWith at h ⊢
    split at h
    · cases h
    · rename_i hdir
      rw [if_neg hdir]
      cases step with
      | stay => exact ih _ h
      | slash => exact ih _ h
      | up => exact ih _ h
      | down name =>
        dsimp only at h ⊢
        split at h
        · cases h
        · rw [Bool.false_and, if_neg Bool.false_ne_true]
          split at h
          · cases h
          · rename_i hname
            rw [if_neg hname]
            cases hentry : tree.lookup (place ++ [name]) with
            | none =>
              rw [hentry] at h
              exact h
            | some entry =>
              rw [hentry] at h
              cases entry with
              | link target => exact hlink _ _ _ _ h
              | file _ => exact ih _ h
              | directory => exact ih _ h

theorem walk_of_creating {tree : Tree} {goal : Goal} : ∀ (links : Nat) (place : Place)
    (steps : List Step), walk tree true links place steps = .ok goal →
      walk tree false links place steps = .ok goal
  | 0, place, rest, h => walkWith_of_creating (fun _ _ _ _ h => h) rest place h
  | links + 1, place, rest, h =>
    walkWith_of_creating (fun _ _ _ _ h => walk_of_creating links _ _ h) rest place h

theorem locate_of_creating {tree : Tree} {base : Place} {path : RawText} {goal : Goal}
    (h : tree.locate true base path = .ok goal) : tree.locate false base path = .ok goal := by
  unfold locate at h ⊢
  split at h
  · cases h
  · rename_i hnul
    rw [if_neg hnul]
    split at h
    · cases h
    · rename_i hempty
      rw [if_neg hempty]
      split at h
      · cases h
      · rename_i hlong
        rw [if_neg hlong]
        exact walk_of_creating _ _ _ h

theorem walkWith_only_slash {tree : Tree} {creating : Bool}
    {onLink : Place → RawText → List Step → Except DiskError Goal} {place q : Place}
    (h : walkWith tree creating onLink place [.slash] = .ok (.entry q)) :
    tree.lookup q = some .directory := by
  simp only [walkWith] at h
  split at h
  · cases h
  · rename_i hdir
    simp only [Except.ok.injEq, Goal.entry.injEq] at h
    rw [← h]
    exact not_not.1 hdir

/-- A walk whose last step is a slash ends at a directory. -/
theorem walkWith_slash {tree : Tree} {creating : Bool}
    {onLink : Place → RawText → List Step → Except DiskError Goal} {q : Place}
    (hlink : ∀ place target rest, onLink place target (rest ++ [.slash]) = .ok (.entry q) →
      tree.lookup q = some .directory) :
    ∀ (steps : List Step) (place : Place),
      walkWith tree creating onLink place (steps ++ [.slash]) = .ok (.entry q) →
        tree.lookup q = some .directory := by
  intro steps
  induction steps with
  | nil => intro place h; exact walkWith_only_slash h
  | cons step rest ih =>
    intro place h
    rw [List.cons_append] at h
    unfold walkWith at h
    split at h
    · cases h
    · cases step with
      | stay => exact ih _ h
      | slash => exact ih _ h
      | up => exact ih _ h
      | down name =>
        dsimp only at h
        split at h
        · cases h
        · split at h
          · cases h
          · split at h
            · exact hlink _ _ _ h
            · exact ih _ h
            · simp at h

theorem walk_slash {tree : Tree} {creating : Bool} {q : Place} : ∀ (links : Nat) (place : Place)
    (steps : List Step), walk tree creating links place (steps ++ [.slash]) = .ok (.entry q) →
      tree.lookup q = some .directory
  | 0, place, rest, h => walkWith_slash (fun _ _ _ h => by cases h) rest place h
  | links + 1, place, rest, h => by
    refine walkWith_slash (fun place target rest h => ?_) rest place h
    rw [← List.append_assoc] at h
    exact walk_slash links _ _ h

/-- A walk that leads to a file leads there also as a walk to a place to write to: no slash stands
after its last name. -/
theorem walkWith_creating {tree : Tree}
    {onLink onLink' : Place → RawText → List Step → Except DiskError Goal} {q : Place}
    (hslash : ∀ place target, onLink place target [.slash] ≠ .ok (.entry q))
    (hlink : ∀ place target rest, onLink place target rest = .ok (.entry q) →
      onLink' place target rest = .ok (.entry q))
    (hfile : tree.lookup q ≠ some .directory) :
    ∀ (steps : List Step) (place : Place), walkWith tree false onLink place steps = .ok (.entry q) →
      walkWith tree true onLink' place steps = .ok (.entry q) := by
  intro steps
  induction steps with
  | nil => intro place h; exact h
  | cons step rest ih =>
    intro place h
    unfold walkWith at h ⊢
    split at h
    · cases h
    · rename_i hdir
      rw [if_neg hdir]
      cases step with
      | stay => exact ih _ h
      | slash => exact ih _ h
      | up => exact ih _ h
      | down name =>
        simp only [Bool.false_and, Bool.false_eq_true, if_false] at h
        dsimp only
        split at h
        · cases h
        · rename_i hname
          -- Behind the last name a slash would lead to a directory, and the goal is a file.
          have hrest : ¬ (true && decide (rest = [.slash])) = true := by
            simp only [Bool.true_and, decide_eq_true_eq]
            rintro rfl
            split at h
            · exact hslash _ _ h
            · exact hfile (walkWith_only_slash h)
            · simp at h
          rw [if_neg hrest, if_neg hname]
          split at h
          · exact hlink _ _ _ h
          · exact ih _ h
          · exact h

theorem walk_creating {tree : Tree} {q : Place} (hfile : tree.lookup q ≠ some .directory) :
    ∀ (links : Nat) (place : Place) (steps : List Step),
      walk tree false links place steps = .ok (.entry q) →
        walk tree true links place steps = .ok (.entry q)
  | 0, place, rest, h => walkWith_creating (by simp) (fun _ _ _ h => h) hfile rest place h
  | links + 1, place, rest, h =>
    walkWith_creating (fun _ _ h => hfile (walk_slash links _ _ h))
      (fun _ _ _ h => walk_creating hfile links _ _ h) hfile rest place h

theorem locate_creating {tree : Tree} {base q : Place} {path : RawText}
    (hfile : tree.lookup q ≠ some .directory) (h : tree.locate false base path = .ok (.entry q)) :
    tree.locate true base path = .ok (.entry q) := by
  unfold locate at h ⊢
  split at h
  · cases h
  · rename_i hnul
    rw [if_neg hnul]
    split at h
    · cases h
    · rename_i hempty
      rw [if_neg hempty]
      split at h
      · cases h
      · rename_i hlong
        rw [if_neg hlong]
        exact walk_creating hfile _ _ _ h

theorem kindAt_eq_file_iff {tree : Tree} {base : Place} {path : RawText} :
    tree.kindAt base path = .ok .file ↔
      ∃ goal bytes, tree.resolve base path = .ok goal ∧ tree.lookup goal = some (.file bytes) := by
  unfold kindAt
  cases tree.resolve base path with
  | error e => exact ⟨nofun, nofun⟩
  | ok goal =>
    simp only [bind, Except.bind, Except.ok.injEq]
    cases hgoal : tree.lookup goal with
    | none => simp [pure, Except.pure, hgoal]
    | some entry => cases entry <;> simp [pure, Except.pure, hgoal]

/-- A path can be read exactly if it leads to a file. -/
theorem readAt_eq_ok_iff {tree : Tree} {base : Place} {path : RawText} {bytes : List UInt8} :
    tree.readAt base path = .ok bytes ↔
      ∃ place, tree.resolve base path = .ok place ∧ tree.lookup place = some (.file bytes) := by
  unfold readAt
  cases hplace : tree.resolve base path with
  | error e =>
    constructor
    · intro h
      cases h
    · rintro ⟨place, h, -⟩
      cases h
  | ok place =>
    simp only [bind, Except.bind, Except.ok.injEq, exists_eq_left']
    cases tree.lookup place with
    | none => simp
    | some entry => cases entry <;> simp [pure, Except.pure]

/-- **A write to a file that can be read** changes its content. -/
theorem writeAt_of_readAt {tree tree' : Tree} {base : Place} {path : RawText}
    {bytes bytes' : List UInt8} (hread : tree.readAt base path = .ok bytes)
    (hwrite : tree.writeAt base path bytes' = .ok tree') :
    ∃ place, tree.resolve base path = .ok place ∧ tree.lookup place = some (.file bytes) ∧
      tree' = tree.set place (.file bytes') := by
  obtain ⟨place, hplace, hfile⟩ := readAt_eq_ok_iff.1 hread
  refine ⟨place, hplace, hfile, ?_⟩
  unfold writeAt at hwrite
  cases hgoal : tree.locate true base path with
  | error e =>
    rw [hgoal] at hwrite
    cases hwrite
  | ok goal =>
    rw [hgoal] at hwrite
    rw [resolve, locate_of_creating hgoal] at hplace
    cases goal with
    | vacant _ => cases hplace
    | entry target =>
      obtain rfl : target = place := Except.ok.inj hplace
      simp only [bind, Except.bind, hfile, pure, Except.pure] at hwrite
      exact (Except.ok.inj hwrite).symm

theorem writeAt_of_locate {tree : Tree} {base place : Place} {path : RawText} {bytes : List UInt8}
    (hplace : tree.locate true base path = .ok (.entry place))
    (hfile : tree.lookup place = some (.file bytes)) (bytes' : List UInt8) :
    tree.writeAt base path bytes' = .ok (tree.set place (.file bytes')) := by
  rw [writeAt, hplace]
  simp only [bind, Except.bind, hfile]
  rfl

/-- **A file that can be read can be written to.** -/
theorem exists_writeAt_of_readAt {tree : Tree} {base : Place} {path : RawText}
    {bytes : List UInt8} (h : tree.readAt base path = .ok bytes) (bytes' : List UInt8) :
    ∃ place, tree.resolve base path = .ok place ∧ tree.lookup place = some (.file bytes) ∧
      tree.writeAt base path bytes' = .ok (tree.set place (.file bytes')) := by
  obtain ⟨place, hplace, hfile⟩ := readAt_eq_ok_iff.1 h
  refine ⟨place, hplace, hfile, writeAt_of_locate (locate_creating ?_ ?_) hfile bytes'⟩
  · rw [hfile]
    simp
  · unfold resolve at hplace
    cases hgoal : tree.locate false base path with
    | error e =>
      rw [hgoal] at hplace
      cases hplace
    | ok goal =>
      rw [hgoal] at hplace
      cases goal with
      | vacant _ => cases hplace
      | entry q => rw [Except.ok.inj hplace]

end TableGuard.Tree
