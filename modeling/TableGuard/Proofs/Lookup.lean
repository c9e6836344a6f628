import TableGuard.Proofs.Ancestors
import TableGuard.Proofs.Config

/-!
# The nearest settings

The settings of a directory are looked for in the directory and in those above it. The first that
holds some decides, and a repository ends the search: settings beside it are found, and settings above
it are not.

* `World.Present` : where a path leads anywhere;
* `World.Nearest`, `nearest_cons_iff` : the settings that come first among some directories;
* `findIn_nearest`, `find_nearest` : the search finds them.
-/

namespace TableGuard

/-- The path leads somewhere, with links followed. -/
def World.Present (world : World) (path : RawText) : Prop :=
  ∃ kind, world.tree.kindAt world.cwd path = .ok kind

theorem World.isSome_kindAt_iff (world : World) (path : RawText) :
    (world.tree.kindAt world.cwd path).toOption.isSome = true ↔ world.Present path := by
  unfold Present
  cases world.tree.kindAt world.cwd path with
  | error e => exact iff_of_false nofun nofun
  | ok kind => exact iff_of_true rfl ⟨kind, rfl⟩

/-- The path is that of the settings in the first of the directories to hold some, and no directory
before it holds a repository. -/
def World.Nearest (world : World) (dirs : List RawText) (path : RawText) : Prop :=
  ∃ before dir after, dirs = before ++ dir :: after ∧ path = Path.join dir configName ∧
    world.Present path ∧
    ∀ d ∈ before, ¬ world.Present (Path.join d configName) ∧ ¬ world.Present (Path.join d ".git")

theorem World.nearest_cons_iff {world : World} {dir : RawText} {dirs : List RawText} {path : RawText} :
    world.Nearest (dir :: dirs) path ↔
      path = Path.join dir configName ∧ world.Present path ∨
        (¬ world.Present (Path.join dir configName) ∧ ¬ world.Present (Path.join dir ".git")) ∧
          world.Nearest dirs path := by
  constructor
  · rintro ⟨before, d, after, hdirs, hpath, hpresent, hbefore⟩
    cases before with
    | nil =>
      obtain ⟨rfl, -⟩ := List.cons.inj hdirs
      exact .inl ⟨hpath, hpresent⟩
    | cons d' before =>
      obtain ⟨rfl, rfl⟩ := List.cons.inj hdirs
      obtain ⟨hdir, hrest⟩ := List.forall_mem_cons.1 hbefore
      exact .inr ⟨hdir, before, d, after, rfl, hpath, hpresent, hrest⟩
  · rintro (⟨hpath, hpresent⟩ | ⟨hdir, before, d, after, rfl, hpath, hpresent, hbefore⟩)
    · exact ⟨[], dir, dirs, rfl, hpath, hpresent, nofun⟩
    · exact ⟨dir :: before, d, after, rfl, hpath, hpresent,
        List.forall_mem_cons.2 ⟨hdir, hbefore⟩⟩

/-- **A search through some directories** finds the settings that come first. -/
theorem findIn_nearest (world : World) (dirs : List RawText) :
    ∃ found, (Config.findIn World.disk dirs).run world = (found, world) ∧
      ∀ path, found = some path ↔ world.Nearest dirs path := by
  induction dirs with
  | nil =>
    refine ⟨none, rfl, fun path => iff_of_false nofun ?_⟩
    rintro ⟨before, dir, after, hnil, -⟩
    exact List.cons_ne_nil _ _ (List.append_eq_nil_iff.1 hnil.symm).2
  | cons dir dirs ih =>
    obtain ⟨found, hrun, hfound⟩ := ih
    rw [findIn_cons_run]
    simp only [World.nearest_cons_iff]
    have hpresent := fun path => world.isSome_kindAt_iff path
    by_cases hconfig : world.Present (Path.join dir configName)
    · refine ⟨some (Path.join dir configName), if_pos ((hpresent _).2 hconfig), fun path => ?_⟩
      rw [Option.some.injEq]
      constructor
      · rintro rfl
        exact .inl ⟨rfl, hconfig⟩
      · rintro (⟨rfl, -⟩ | ⟨⟨hnone, -⟩, -⟩)
        · rfl
        · exact absurd hconfig hnone
    · rw [if_neg (mt (hpresent _).1 hconfig)]
      by_cases hgit : world.Present (Path.join dir ".git")
      · refine ⟨none, if_pos ((hpresent _).2 hgit), fun path => iff_of_false nofun ?_⟩
        rintro (⟨rfl, hconfig'⟩ | ⟨⟨-, hnone⟩, -⟩)
        · exact hconfig hconfig'
        · exact hnone hgit
      · refine ⟨found, by rw [if_neg (mt (hpresent _).1 hgit), hrun], fun path => ?_⟩
        rw [hfound]
        constructor
        · exact fun hnearest => .inr ⟨⟨hconfig, hgit⟩, hnearest⟩
        · rintro (⟨rfl, hconfig'⟩ | ⟨-, hnearest⟩)
          · exact absurd hconfig' hconfig
          · exact hnearest

/-- Settings above a repository are not found. -/
theorem World.Nearest.not_above {world : World} {dir path : RawText} {after : List RawText}
    (hgit : world.Present (Path.join dir ".git")) : ∀ {before : List RawText},
      world.Nearest (before ++ dir :: after) path → ∃ d ∈ before ++ [dir], path = Path.join d configName
  | [], h => by
    rcases nearest_cons_iff.1 h with ⟨hpath, -⟩ | ⟨⟨-, hnone⟩, -⟩
    · exact ⟨dir, List.mem_singleton_self dir, hpath⟩
    · exact absurd hgit hnone
  | d :: before, h => by
    rcases nearest_cons_iff.1 h with ⟨hpath, -⟩ | ⟨-, hrest⟩
    · exact ⟨d, List.mem_cons_self, hpath⟩
    · obtain ⟨d', hd', hpath⟩ := not_above hgit hrest
      exact ⟨d', List.mem_cons_of_mem d hd', hpath⟩

/-- **The search for settings** considers the directories whose components are the beginnings of those
of the path from which it starts, longest first, down to the root for an absolute path and to no
component at all for another one. It ends, leaves the tree as it is, and finds the settings in the
first of them that holds some, if none before that holds a repository; settings above a repository are
not found. -/
theorem find_nearest (world : World) (start : RawText) :
    (Path.ancestors start).map Path.components =
        (if Path.isAbsolute start then (Path.components start).inits.tail
          else (Path.components start).inits).reverse ∧
      (∀ dir ∈ Path.ancestors start, dir.bytes <+: start.bytes) ∧
      ∃ found, (Config.find World.disk start).run world = (found, world) ∧
        (∀ path, found = some path ↔ world.Nearest (Path.ancestors start) path) ∧
        ∀ before dir after, Path.ancestors start = before ++ dir :: after →
          world.Present (Path.join dir ".git") →
          ∀ path, found = some path → ∃ d ∈ before ++ [dir], path = Path.join d configName := by
  obtain ⟨found, hrun, hfound⟩ := findIn_nearest world (Path.ancestors start)
  refine ⟨?_, fun dir => Path.prefix_of_mem_ancestors, found, hrun, hfound, ?_⟩
  · rw [Path.map_components_ancestors, Path.beginnings]
    simp only [Path.isAbsolute_iff]
  · intro before dir after hdirs hgit path hpath
    rw [hfound, hdirs] at hpath
    exact hpath.not_above hgit

/-- A repository with settings above it, and another one with settings beside it. -/
def World.twoRepositories : World where
  tree := ⟨[([configName], .file []), (["bare"], .directory), (["bare", ".git"], .directory),
    (["bare", "src"], .directory), (["set"], .directory), (["set", ".git"], .file []),
    (["set", configName], .link "../config"), (["config"], .file [])], []⟩
  cwd := []

/-- From within the first repository nothing is found, and in the second one the settings beside it
are. -/
theorem find_nearest_twoRepositories :
    Path.ancestors "bare//src/." = [RawText.ofString "bare//src/.", "bare", ""] ∧
      World.twoRepositories.Present (Path.join "bare" ".git") ∧
      (Config.find World.disk "bare//src/.").run World.twoRepositories =
        (none, World.twoRepositories) ∧
      (∀ path, ¬ World.twoRepositories.Nearest ["bare//src/.", "bare", ""] path) ∧
      ∀ path, some (RawText.ofString "set/.tablefixrc.json") = some path ↔
        World.twoRepositories.Nearest ["set", ""] path := by
  have hbare : Path.ancestors "bare//src/." = [RawText.ofString "bare//src/.", "bare", ""] := by
    decide
  have hset : Path.ancestors "set" = [RawText.ofString "set", ""] := by decide
  have hgit : World.twoRepositories.Present (Path.join "bare" ".git") :=
    (World.isSome_kindAt_iff _ _).1 (by decide)
  have hnone : ((Config.find World.disk "bare//src/.").run World.twoRepositories).1 = none := by
    decide +kernel
  have hsome : ((Config.find World.disk "set").run World.twoRepositories).1 =
      some (RawText.ofString "set/.tablefixrc.json") := by decide
  obtain ⟨-, -, found, hrun, hfound, -⟩ := find_nearest World.twoRepositories "bare//src/."
  obtain ⟨-, -, found', hrun', hfound', -⟩ := find_nearest World.twoRepositories "set"
  rw [hrun] at hnone
  rw [hrun'] at hsome
  obtain rfl : found = none := hnone
  obtain rfl : found' = some (RawText.ofString "set/.tablefixrc.json") := hsome
  refine ⟨hbare, hgit, hrun, fun path hpath => ?_, fun path => ?_⟩
  · rw [← hbare, ← hfound] at hpath
    cases hpath
  · rw [hfound', hset]

end TableGuard
