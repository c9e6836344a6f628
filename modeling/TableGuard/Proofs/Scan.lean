import TableGuard.Proofs.Text.Raw
import TableGuard.Proofs.Text.Sorted
import TableGuard.Proofs.Tree
import TableGuard.Scan

/-!
# Scanning a tree in memory

A scan leaves the tree as it is, and what it finds depends on the shape of the tree only.

* `World.isFile`, `World.candidatesOf` : the candidates among names in a directory;
* `World.listNames`, `World.scan`, `scan_run` : a scan as a function of the tree;
* `World.Alike`, `World.Alike.scan` : trees of one shape have the same candidates;
* `World.listNames_eq_ok_iff`, `World.scan_of_names`, `World.scan_of_fault` : what has to be there for
  the names in a directory, and the scan if they are told and if not;
* `World.readAt_of_scan`, `World.pairwise_of_scan` : candidates can be read, and come in order.
-/

namespace TableGuard

namespace World

def isFile (world : World) (path : RawText) : Bool :=
  match world.tree.kindAt world.cwd path with
  | .ok .file => true
  | _ => false

def candidatesOf (world : World) (dir : RawText) (extensions : List String) (ignores : List Glob)
    (names : List RawText) : List Candidate :=
  (names.filter fun name => isWanted extensions ignores name && world.isFile (Path.join dir name)).map
    fun name => ⟨name, Path.join dir name⟩

/-- The globs and the names from which a scan of a directory starts. -/
def listNames (world : World) (dir : RawText) (ignores : List String) :
    Except Error (List Glob × List RawText) :=
  match world.tree.kindAt world.cwd dir with
  | .error e => .error ⟨[.openingSource dir], .disk e⟩
  | .ok .directory =>
    match parseIgnores ignores with
    | .error e => .error e
    | .ok globs =>
      match world.tree.namesAt world.cwd dir with
      | .error fault => .error ⟨[.scanning], .listing fault⟩
      | .ok names => .ok (globs, sortDistinct names)
  | .ok _ => .error (.plain (.notDirectory dir))

def scan (world : World) (dir : RawText) (extensions ignores : List String) :
    Except Error (List Candidate) :=
  (world.listNames dir ignores).map fun listed =>
    world.candidatesOf dir extensions listed.1 listed.2

theorem candidatesOf_cons (world : World) (dir : RawText) (extensions : List String)
    (ignores : List Glob) (name : RawText) (names : List RawText) :
    world.candidatesOf dir extensions ignores (name :: names) =
      world.candidatesOf dir extensions ignores [name] ++
        world.candidatesOf dir extensions ignores names := by
  unfold candidatesOf
  rw [← List.map_append, ← List.filter_append, List.singleton_append]

end World

theorem bind_run {α β : Type} {x : StateM World α} {world world' : World} {a : α}
    (h : x.run world = (a, world')) (f : α → StateM World β) :
    (x >>= f).run world = (f a).run world' := by
  rw [StateT.run_bind, h]
  rfl

theorem kind_run (world : World) (path : RawText) :
    (World.disk.kind path).run world = (world.tree.kindAt world.cwd path, world) := rfl

theorem names_run (world : World) (path : RawText) :
    (World.disk.names path).run world = (world.tree.namesAt world.cwd path, world) := rfl

theorem isFile_run (world : World) (path : RawText) :
    (World.disk.isFile path).run world = (world.isFile path, world) := by
  unfold Disk.isFile World.isFile
  rw [bind_run (kind_run world path)]
  cases world.tree.kindAt world.cwd path with
  | error e => rfl
  | ok kind => cases kind <;> rfl

theorem candidates_run (world : World) (dir : RawText) (extensions : List String)
    (ignores : List Glob) (names : List RawText) :
    (candidates World.disk dir extensions ignores names).run world =
      (world.candidatesOf dir extensions ignores names, world) := by
  induction names with
  | nil => rfl
  | cons name names ih =>
    unfold candidates
    unfold World.candidatesOf at ih ⊢
    by_cases hwanted : isWanted extensions ignores name = true
    · rw [if_pos hwanted, bind_run (isFile_run world _)]
      by_cases hfile : world.isFile (Path.join dir name) = true
      · rw [if_pos hfile, bind_run ih, List.filter_cons_of_pos (by rw [hwanted, hfile]; rfl)]
        rfl
      · rw [if_neg hfile, ih, List.filter_cons_of_neg (by simp [hfile])]
    · rw [if_neg hwanted, ih, List.filter_cons_of_neg (by simp [hwanted])]

theorem listNames_run (world : World) (dir : RawText) (ignores : List String) :
    (listNames World.disk dir ignores).run world = (world.listNames dir ignores, world) := by
  unfold listNames World.listNames
  rw [bind_run (kind_run world dir)]
  cases world.tree.kindAt world.cwd dir with
  | error e => rfl
  | ok kind =>
    cases kind with
    | file => rfl
    | special => rfl
    | directory =>
      dsimp only
      cases parseIgnores ignores with
      | error e => rfl
      | ok globs =>
        dsimp only
        rw [bind_run (names_run world dir)]
        cases world.tree.namesAt world.cwd dir <;> rfl

/-- **A scan is a function of the tree**, which it leaves as it is. -/
theorem scan_run (world : World) (dir : RawText) (extensions ignores : List String) :
    (scan World.disk dir extensions ignores).run world =
      (world.scan dir extensions ignores, world) := by
  unfold scan World.scan
  rw [bind_run (listNames_run world dir ignores)]
  cases world.listNames dir ignores with
  | error e => rfl
  | ok listed =>
    dsimp only
    rw [bind_run (candidates_run world dir extensions _ _)]
    rfl

/-! ## Trees of one shape -/

/-- Two trees of one shape, seen from one place. -/
structure World.Alike (world world' : World) : Prop where
  shape : world.tree.shape = world'.tree.shape
  cwd : world.cwd = world'.cwd

namespace World.Alike

variable {world world' : World} (h : world.Alike world')
include h

theorem locate (creating : Bool) (path : RawText) :
    world.tree.locate creating world.cwd path = world'.tree.locate creating world'.cwd path := by
  rw [← Tree.locate_shape, h.shape, Tree.locate_shape, h.cwd]

theorem resolve (path : RawText) :
    world.tree.resolve world.cwd path = world'.tree.resolve world'.cwd path := by
  rw [Tree.resolve, Tree.resolve, h.locate]

theorem kindAt (path : RawText) :
    world.tree.kindAt world.cwd path = world'.tree.kindAt world'.cwd path := by
  rw [← Tree.kindAt_shape, h.shape, Tree.kindAt_shape, h.cwd]

theorem namesAt (path : RawText) :
    world.tree.namesAt world.cwd path = world'.tree.namesAt world'.cwd path := by
  rw [← Tree.namesAt_shape, h.shape, Tree.namesAt_shape, h.cwd]

theorem refusal (place : Tree.Place) : world.tree.refusal place = world'.tree.refusal place := by
  have hclosed := congrArg Tree.closed h.shape
  rw [Tree.refusal, Tree.refusal, show world.tree.closed = world'.tree.closed from hclosed]

theorem candidatesOf (dir : RawText) (extensions : List String) (ignores : List Glob)
    (names : List RawText) :
    world.candidatesOf dir extensions ignores names =
      world'.candidatesOf dir extensions ignores names := by
  unfold World.candidatesOf World.isFile
  simp only [h.kindAt]

/-- **Trees of one shape have the same candidates.** -/
theorem scan (dir : RawText) (extensions ignores : List String) :
    world.scan dir extensions ignores = world'.scan dir extensions ignores := by
  unfold World.scan World.listNames
  simp only [h.kindAt, h.namesAt, h.candidatesOf]

end World.Alike

/-! ## Candidates can be read -/

theorem World.isFile_iff {world : World} {path : RawText} :
    world.isFile path = true ↔ world.tree.kindAt world.cwd path = .ok .file := by
  unfold World.isFile
  split
  · rename_i hkind
    simp [hkind]
  · rename_i hkind
    simp only [Bool.false_eq_true, false_iff]
    exact hkind

theorem World.readAt_of_isFile {world : World} {path : RawText} (h : world.isFile path = true) :
    ∃ bytes, world.tree.readAt world.cwd path = .ok bytes := by
  obtain ⟨place, bytes, hplace, hentry⟩ := Tree.kindAt_eq_file_iff.1 (World.isFile_iff.1 h)
  exact ⟨bytes, Tree.readAt_eq_ok_iff.2 ⟨place, hplace, hentry⟩⟩

/-- A candidate has a name that is wanted, and leads to a file. -/
theorem World.mem_candidatesOf {world : World} {dir : RawText} {extensions : List String}
    {ignores : List Glob} {names : List RawText} {c : Candidate}
    (h : c ∈ world.candidatesOf dir extensions ignores names) :
    ∃ name, isWanted extensions ignores name = true ∧ world.isFile (Path.join dir name) = true ∧
      c = ⟨name, Path.join dir name⟩ := by
  rw [World.candidatesOf, List.mem_map] at h
  obtain ⟨name, hname, rfl⟩ := h
  rw [List.mem_filter, Bool.and_eq_true] at hname
  exact ⟨name, hname.2.1, hname.2.2, rfl⟩

theorem World.listNames_eq_ok_iff {world : World} {dir : RawText} {ignores : List String}
    {listed : List Glob × List RawText} : world.listNames dir ignores = .ok listed ↔
      ∃ globs names, world.tree.kindAt world.cwd dir = .ok .directory ∧
        parseIgnores ignores = .ok globs ∧ world.tree.namesAt world.cwd dir = .ok names ∧
        listed = (globs, sortDistinct names) := by
  unfold World.listNames
  constructor
  · intro h
    split at h
    · cases h
    · rename_i hkind
      split at h
      · cases h
      · rename_i globs hglobs
        split at h
        · cases h
        · rename_i names hnames
          exact ⟨globs, names, hkind, hglobs, hnames, (Except.ok.inj h).symm⟩
    · cases h
  · rintro ⟨globs, names, hkind, hglobs, hnames, rfl⟩
    rw [hkind, hglobs, hnames]

theorem World.candidatesOf_of_scan {world : World} {dir : RawText} {extensions ignores : List String}
    {found : List Candidate} (h : world.scan dir extensions ignores = .ok found) :
    ∃ globs names, world.tree.kindAt world.cwd dir = .ok .directory ∧
      world.tree.namesAt world.cwd dir = .ok names ∧
      found = world.candidatesOf dir extensions globs (sortDistinct names) := by
  obtain ⟨listed, hlisted, rfl⟩ := map_eq_ok_iff.1 h
  obtain ⟨globs, names, hkind, -, hnames, rfl⟩ := World.listNames_eq_ok_iff.1 hlisted
  exact ⟨globs, names, hkind, hnames, rfl⟩

section

variable {world : World} {dir : RawText} (extensions : List String) {ignores : List String}
  {globs : List Glob} (hdir : world.tree.kindAt world.cwd dir = .ok .directory)
  (hglobs : parseIgnores ignores = .ok globs)
include hdir hglobs

theorem World.scan_of_names {names : List RawText}
    (h : world.tree.namesAt world.cwd dir = .ok names) :
    world.scan dir extensions ignores =
      .ok (world.candidatesOf dir extensions globs (sortDistinct names)) := by
  have hlisted := World.listNames_eq_ok_iff.2 ⟨globs, names, hdir, hglobs, h, rfl⟩
  rw [World.scan, hlisted]
  rfl

theorem World.scan_of_fault {fault : ListingFault}
    (h : world.tree.namesAt world.cwd dir = .error fault) :
    world.scan dir extensions ignores = .error ⟨[.scanning], .listing fault⟩ := by
  rw [World.scan, World.listNames, hdir, hglobs, h]
  rfl

end

theorem World.readAt_of_scan {world : World} {dir : RawText} {extensions ignores : List String}
    {found : List Candidate} (h : world.scan dir extensions ignores = .ok found) {c : Candidate}
    (hc : c ∈ found) : ∃ bytes, world.tree.readAt world.cwd c.path = .ok bytes := by
  obtain ⟨globs, names, -, -, rfl⟩ := World.candidatesOf_of_scan h
  obtain ⟨name, -, hfile, rfl⟩ := World.mem_candidatesOf hc
  exact World.readAt_of_isFile hfile

/-- Candidates come in the order of their names. -/
theorem World.pairwise_of_scan {world : World} {dir : RawText} {extensions ignores : List String}
    {found : List Candidate} (h : world.scan dir extensions ignores = .ok found) :
    (found.map Candidate.name).Pairwise (· < ·) := by
  obtain ⟨globs, names, -, -, rfl⟩ := World.candidatesOf_of_scan h
  rw [World.candidatesOf, List.map_map]
  exact ((pairwise_sortDistinct _).filter _).map _ fun _ _ hlt => hlt

end TableGuard
