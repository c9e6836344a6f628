import TableGuard.Proofs.Ancestors
import TableGuard.Run

/-!
# The directory to scan

The directory to scan is the source root as it is written, if that is absolute. Otherwise it consists
of the components of the project root and those of the source root, dots apart, and is absolute
exactly if the project root is: taking away the dot at the beginning of a source root never leaves an
absolute path.

* `Path.filter_components` : a path without dots is the root, if it is absolute, and its segments;
* `Path.parts_segments_join`, `Path.isAbsolute_join` : one path below another;
* `Path.withoutCurrent?_eq_some` : a path without the dot at its beginning;
* `Job.components_sourceDir` : the directory to scan.
-/

namespace TableGuard

namespace Path

/-! ## Components without dots -/

theorem segments_of_isAbsolute {path : RawText} (h : isAbsolute path = true) :
    ∃ ss, segments path.bytes = [] :: ss := by
  obtain ⟨cs, hcs⟩ := List.head?_eq_some_iff.1 (beq_iff_eq.1 h)
  exact ⟨segments cs, by rw [hcs, segments_slash]⟩

theorem current_notMem_parts (ss : List (List UInt8)) : Component.current ∉ parts ss := by
  intro h
  obtain ⟨s, -, hs⟩ := List.mem_filterMap.1 h
  unfold component? at hs
  split at hs
  · cases hs
  · split at hs <;> cases hs

theorem filter_parts (ss : List (List UInt8)) : (parts ss).filter (· ≠ .current) = parts ss := by
  rw [List.filter_eq_self]
  intro c hc
  rw [decide_eq_true_iff]
  rintro rfl
  exact current_notMem_parts ss hc

theorem parts_cons_idle {s : List UInt8} (h : isIdle s = true) (ss : List (List UInt8)) :
    parts (s :: ss) = parts ss :=
  List.filterMap_cons_none (component?_eq_none_iff.2 h)

theorem parts_dropWhile (ss : List (List UInt8)) : parts (ss.dropWhile isIdle) = parts ss := by
  induction ss with
  | nil => rfl
  | cons s ss ih =>
    by_cases hs : isIdle s = true
    · rw [List.dropWhile_cons_of_pos hs, ih, parts_cons_idle hs]
    · rw [List.dropWhile_cons_of_neg hs]

/-- **A path without its dots** consists of the root, if it is absolute, and of the components that
its segments stand for. -/
theorem filter_components (path : RawText) :
    (components path).filter (· ≠ .current) =
      (if isAbsolute path then [.root] else []) ++ parts (segments path.bytes) := by
  rcases cases_beginning path with rfl | ⟨cs, hpath⟩ | ⟨ss, hpath⟩ | ⟨s, ss, hpath, hempty, hdot⟩
  · rfl
  · have habsolute : isAbsolute path = true := by
      rw [isAbsolute, hpath]
      rfl
    rw [components_slash hpath, hpath, segments_slash, parts_cons_idle rfl, if_pos habsolute,
      List.filter_cons_of_pos (by decide), filter_parts]
    rfl
  · have habsolute : ¬ isAbsolute path = true := by
      intro h
      obtain ⟨ss', hss'⟩ := segments_of_isAbsolute h
      rw [hpath] at hss'
      cases hss'
    rw [components_current hpath, hpath, parts_cons_idle rfl, if_neg habsolute,
      List.filter_cons_of_neg (by decide), filter_parts]
    rfl
  · have habsolute : ¬ isAbsolute path = true := by
      intro h
      obtain ⟨ss', hss'⟩ := segments_of_isAbsolute h
      rw [hpath] at hss'
      exact hempty (List.cons.inj hss').1
    rw [components_plain hpath hempty hdot, hpath, if_neg habsolute, filter_parts]
    rfl

/-! ## One path below another -/

/-- The segments of a path below another one are those of both. -/
theorem parts_segments_join {path : RawText} (h : isAbsolute path = false) (base : RawText) :
    parts (segments (join base path).bytes) =
      parts (segments base.bytes) ++ parts (segments path.bytes) := by
  unfold join
  rw [if_neg (Bool.eq_false_iff.1 h)]
  split
  · rename_i hbase
    dsimp only
    rcases Bool.or_eq_true_iff.1 hbase with hslash | hempty
    · obtain ⟨front, hfront⟩ := List.getLast?_eq_some_iff.1 (beq_iff_eq.1 hslash)
      rw [hfront, List.append_assoc, List.singleton_append, segments_append, segments_append,
        parts_append, parts_append]
      exact congrArg (· ++ _) (List.append_nil _).symm
    · rw [List.isEmpty_iff.1 hempty]
      rfl
  · exact (congrArg parts (segments_append _ _)).trans (parts_append _ _)

theorem isAbsolute_join {path : RawText} (h : isAbsolute path = false) (base : RawText) :
    isAbsolute (join base path) = isAbsolute base := by
  unfold join
  rw [if_neg (Bool.eq_false_iff.1 h)]
  cases hbase : base.bytes with
  | nil =>
    obtain rfl : base = ⟨[]⟩ := RawText.ext hbase
    exact h
  | cons c cs => split <;> simp [isAbsolute, hbase]

/-- **A path without the dot at its beginning** is not absolute, and has the same components. -/
theorem withoutCurrent?_eq_some {path rest : RawText} (h : withoutCurrent? path = some rest) :
    isAbsolute rest = false ∧ parts (segments rest.bytes) = parts (segments path.bytes) := by
  unfold withoutCurrent? at h
  split at h
  · rename_i ss hss
    obtain rfl := Option.some.inj h
    have hkept := trimEnd_prefix_self (ss.dropWhile isIdle)
    have hparts : parts (trimEnd (ss.dropWhile isIdle)) = parts ss := by
      rw [parts_trimEnd, parts_dropWhile]
    rw [hss, parts_cons_idle rfl, ← hparts]
    cases htrim : trimEnd (ss.dropWhile isIdle) with
    | nil => exact ⟨rfl, rfl⟩
    | cons t ts =>
      rw [htrim] at hkept
      have hslash : ∀ u ∈ t :: ts, slash ∉ u := fun u hu => slash_notMem_segments
        (hss ▸ List.mem_cons_of_mem _ ((List.dropWhile_suffix isIdle).mem (hkept.mem hu)))
      have hsegments := segments_ofSegments (List.cons_ne_nil t ts) hslash
      rw [hsegments]
      refine ⟨Bool.eq_false_iff.2 fun habsolute => ?_, rfl⟩
      obtain ⟨ss', hss'⟩ := segments_of_isAbsolute habsolute
      rw [hsegments] at hss'
      -- The first segment that is left is not idle, so it is not the empty one before a slash.
      obtain ⟨more, hmore⟩ := hkept
      have hfirst := List.head?_dropWhile_not isIdle ss
      rw [← hmore, (List.cons.inj hss').1] at hfirst
      cases hfirst
  · cases h

theorem getD_withoutCurrent? {path : RawText} (h : isAbsolute path = false) :
    isAbsolute ((withoutCurrent? path).getD path) = false ∧
      parts (segments ((withoutCurrent? path).getD path).bytes) = parts (segments path.bytes) := by
  cases hpath : withoutCurrent? path with
  | none => exact ⟨h, rfl⟩
  | some rest => exact withoutCurrent?_eq_some hpath

theorem filter_components_of_isCurrent {path : RawText} (h : isCurrent path = true) :
    (components path).filter (· ≠ .current) = [] ∧ isAbsolute path = false := by
  have hall : ∀ c ∈ components path, c = .current := fun c hc =>
    beq_iff_eq.1 (List.all_eq_true.1 h c hc)
  constructor
  · rw [List.filter_eq_nil_iff]
    intro c hc
    simpa using hall c hc
  · rw [Bool.eq_false_iff, ne_eq, isAbsolute_iff]
    intro hroot
    cases hall _ (List.mem_of_head? hroot)

end Path

/-! ## The directory to scan -/

namespace Job

variable {job : Job}

theorem sourceDir_of_isAbsolute (h : Path.isAbsolute job.config.sourceRoot = true) :
    job.sourceDir = job.config.sourceRoot := by
  unfold sourceDir
  exact if_pos (by rw [h, Bool.true_or])

theorem sourceDir_of_isCurrent (h : Path.isCurrent job.root = true) :
    job.sourceDir = job.config.sourceRoot := by
  unfold sourceDir
  exact if_pos (by rw [h, Bool.or_true])

theorem sourceDir_below (h : Path.isAbsolute job.config.sourceRoot = false)
    (hroot : ¬ Path.isCurrent job.root = true) :
    job.sourceDir = Path.join job.root
      ((Path.withoutCurrent? job.config.sourceRoot).getD job.config.sourceRoot) := by
  unfold sourceDir
  exact if_neg (by rwa [h, Bool.false_or])

/-- **The directory to scan** is an absolute source root as it is written. Another one comes below the
project root: apart from dots the directory has the components of the project root and then those of
the source root, and it is absolute exactly if the project root is. What is left of a source root
without the dot at its beginning is never absolute. -/
theorem components_sourceDir (job : Job) :
    (Path.isAbsolute job.config.sourceRoot = true → job.sourceDir = job.config.sourceRoot) ∧
    (Path.isAbsolute job.config.sourceRoot = false →
      (Path.components job.sourceDir).filter (· ≠ .current) =
          (Path.components job.root).filter (· ≠ .current) ++
            (Path.components job.config.sourceRoot).filter (· ≠ .current) ∧
        Path.isAbsolute job.sourceDir = Path.isAbsolute job.root) ∧
    ∀ rest, Path.withoutCurrent? job.config.sourceRoot = some rest →
      Path.isAbsolute rest = false := by
  refine ⟨sourceDir_of_isAbsolute, fun hsource => ?_, fun rest hrest =>
    (Path.withoutCurrent?_eq_some hrest).1⟩
  by_cases hroot : Path.isCurrent job.root = true
  · obtain ⟨hnone, habsolute⟩ := Path.filter_components_of_isCurrent hroot
    rw [sourceDir_of_isCurrent hroot, hnone, List.nil_append, hsource, habsolute]
    exact ⟨rfl, rfl⟩
  · obtain ⟨hrest, hparts⟩ := Path.getD_withoutCurrent? hsource
    rw [sourceDir_below hsource hroot]
    refine ⟨?_, Path.isAbsolute_join hrest job.root⟩
    simp only [Path.filter_components, Path.parts_segments_join hrest, Path.isAbsolute_join hrest,
      hparts, hsource]
    exact (List.append_assoc _ _ _).symm

def withSource (root source : String) : Job :=
  ⟨{ Config.standard with sourceRoot := source }, root, Config.standard.normalExtensions, .builtin⟩

/-- A source root that begins with a dot and two slashes stays below the project root, and an
absolute one is left alone. -/
theorem components_sourceDir_twoSlashes :
    (withSource "/srv/." ".//x/..").sourceDir = "/srv/./x/.." ∧
      (Path.components (withSource "/srv/." ".//x/..").sourceDir).filter (· ≠ .current) =
        [.root, .name (RawText.ofString "srv").bytes, .name (RawText.ofString "x").bytes, .parent] ∧
      Path.isAbsolute (withSource "/srv/." ".//x/..").sourceDir = true ∧
      (∀ rest, Path.withoutCurrent? ".//x/.." = some rest → Path.isAbsolute rest = false) ∧
      (withSource "/srv/." "//x").sourceDir = "//x" := by
  obtain ⟨-, hbelow, hrest⟩ := components_sourceDir (withSource "/srv/." ".//x/..")
  obtain ⟨hcomponents, habsolute⟩ := hbelow (by decide)
  refine ⟨by decide, ?_, ?_, hrest, ?_⟩
  · rw [hcomponents]
    decide
  · rw [habsolute]
    decide
  · exact (components_sourceDir (withSource "/srv/." "//x")).1 (by decide)

end Job

end TableGuard
