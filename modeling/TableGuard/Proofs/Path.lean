import Mathlib.Data.List.Basic
import Mathlib.Data.List.TakeWhile
import TableGuard.Proofs.Text.Raw
import TableGuard.Tree

/-!
# The last segment of a path

A path below another one ends as it did before, and a walk along a path goes down to its last
segment, if that is a name, as its last step.

* `Path.segments_append`, `Path.ofSegments_segments` : bytes divided at their slashes, and put
  together again;
* `Path.getLast?_segments_join` : the last segment of one path below another;
* `Path.extension?_eq_some_iff`, `Path.extension?_of_segment` : the extension of a name, and that of
  a path, which is the extension of its last segment;
* `Tree.getLast?_stepsOf` : the last step along some segments.
-/

namespace TableGuard

namespace Path

/-! ## Segments -/

theorem segments_slash (cs : List UInt8) : segments (slash :: cs) = [] :: segments cs := by
  rw [segments.eq_def]
  exact if_pos rfl

theorem segments_ne_nil (cs : List UInt8) : segments cs ≠ [] := by
  cases cs with
  | nil => exact List.cons_ne_nil _ _
  | cons c cs =>
    unfold segments
    split
    · exact List.cons_ne_nil _ _
    · split <;> exact List.cons_ne_nil _ _

theorem segments_cons {c : UInt8} (hc : c ≠ slash) {cs s : List UInt8} {ss : List (List UInt8)}
    (h : segments cs = s :: ss) : segments (c :: cs) = (c :: s) :: ss := by
  rw [segments, if_neg hc, h]

theorem segments_append (ds : List UInt8) : ∀ cs : List UInt8,
    segments (cs ++ slash :: ds) = segments cs ++ segments ds
  | [] => segments_slash ds
  | c :: cs => by
    have ih := segments_append ds cs
    rw [List.cons_append]
    by_cases hc : c = slash
    · rw [hc, segments_slash, segments_slash, ih, List.cons_append]
    · obtain ⟨s, ss, hs⟩ := List.exists_cons_of_ne_nil (segments_ne_nil cs)
      rw [hs, List.cons_append] at ih
      rw [segments_cons hc ih, segments_cons hc hs, List.cons_append]

theorem getLast?_segments_append (cs ds : List UInt8) :
    (segments (cs ++ slash :: ds)).getLast? = (segments ds).getLast? := by
  rw [segments_append, List.getLast?_append_of_ne_nil _ (segments_ne_nil ds)]

/-- **A path below another one ends as it did before.** -/
theorem getLast?_segments_join (base path : RawText) :
    (segments (join base path).bytes).getLast? = (segments path.bytes).getLast? := by
  unfold join
  split
  · rfl
  · split
    · rename_i hbase
      dsimp only
      rcases Bool.or_eq_true_iff.1 hbase with hslash | hempty
      · obtain ⟨front, hfront⟩ := List.getLast?_eq_some_iff.1 (beq_iff_eq.1 hslash)
        rw [hfront, List.append_assoc, List.singleton_append, getLast?_segments_append]
      · rw [List.isEmpty_iff.1 hempty, List.nil_append]
    · exact getLast?_segments_append _ _

theorem ofSegments_segments : ∀ cs : List UInt8, ofSegments (segments cs) = cs
  | [] => rfl
  | c :: cs => by
    have ih := ofSegments_segments cs
    obtain ⟨s, ss, hs⟩ := List.exists_cons_of_ne_nil (segments_ne_nil cs)
    rw [hs] at ih
    by_cases hc : c = slash
    · rw [hc, segments_slash, hs, ofSegments, ih, List.nil_append]
      exact List.cons_ne_nil _ _
    · rw [segments_cons hc hs]
      cases ss with
      | nil => rw [ofSegments, ← ih, ofSegments]
      | cons s' ss => exact congrArg (c :: ·) ih

theorem suffix_ofSegments {l : List UInt8} : ∀ {ss : List (List UInt8)},
    ss.getLast? = some l → l <:+ ofSegments ss
  | [], h => by cases h
  | [s], h => by
    obtain rfl := Option.some.inj h
    exact List.suffix_rfl
  | s :: s' :: ss, h => by
    have hrest : l <:+ ofSegments (s' :: ss) := suffix_ofSegments h
    exact hrest.trans ((List.suffix_cons slash _).trans (List.suffix_append s _))

/-! ## Extensions -/

theorem divide_lastDot {cs stem ext : List UInt8} (h : cs = stem ++ dot :: ext) (hdot : dot ∉ ext) :
    (cs.reverse.takeWhile (· != dot)).reverse = ext ∧
      (cs.reverse.dropWhile (· != dot)).drop 1 = stem.reverse := by
  have hkeep : ∀ c ∈ ext.reverse, (c != dot) = true := by
    intro c hc
    rw [bne_iff_ne]
    rintro rfl
    exact hdot (List.mem_reverse.1 hc)
  have hrev : cs.reverse = ext.reverse ++ dot :: stem.reverse := by
    rw [h, List.reverse_append, List.reverse_cons, List.append_assoc, List.singleton_append]
  constructor
  · rw [hrev, List.takeWhile_append_of_pos hkeep, List.takeWhile_cons_of_neg (by decide),
      List.append_nil, List.reverse_reverse]
  · rw [hrev, List.dropWhile_append_of_pos hkeep, List.dropWhile_cons_of_neg (by decide),
      List.drop_one, List.tail_cons]

/-- **The extension of a file name** is what follows its last dot, if something stands before
that. -/
theorem extension?_eq_some_iff {name ext : RawText} (hname : name ≠ "..") :
    extension? name = some ext ↔
      ∃ stem, name.bytes = stem ++ dot :: ext.bytes ∧ stem ≠ [] ∧ dot ∉ ext.bytes := by
  have hdots : ¬ name.bytes = [dot, dot] := fun h => hname (RawText.ext h)
  unfold extension?
  simp only [if_neg hdots]
  constructor
  · intro h
    have hrev := List.takeWhile_append_dropWhile (p := (· != dot)) (l := name.bytes.reverse)
    cases hdrop : name.bytes.reverse.dropWhile (· != dot) with
    | nil =>
      rw [hdrop] at h
      cases h
    | cons d stem =>
      have hd := List.head?_dropWhile_not (· != dot) name.bytes.reverse
      rw [hdrop] at h hd hrev
      obtain rfl : d = dot := by simpa using hd
      rw [List.drop_one, List.tail_cons] at h
      split at h
      · cases h
      · rename_i hstem
        refine ⟨stem.reverse, ?_, fun hnil => hstem (List.reverse_eq_nil_iff.1 hnil), ?_⟩
        · have hchars := congrArg List.reverse hrev
          rw [List.reverse_append, List.reverse_cons, List.append_assoc, List.singleton_append,
            List.reverse_reverse] at hchars
          rw [← Option.some.inj h, hchars]
        · rw [← Option.some.inj h, List.mem_reverse]
          intro hmem
          exact absurd (List.mem_takeWhile_imp hmem) (by decide)
  · rintro ⟨stem, hstem, hne, hdot⟩
    obtain ⟨hafter, hbefore⟩ := divide_lastDot hstem hdot
    rw [hafter, hbefore]
    split
    · rename_i hnil
      exact absurd (List.reverse_eq_nil_iff.1 hnil) hne
    · rfl

theorem extension?_of_segment {path : RawText} {segment front ext : List UInt8}
    (h : (segments path.bytes).getLast? = some segment) (hsegment : segment = front ++ dot :: ext)
    (hfront : front ≠ []) (hext : ext ≠ []) (hdot : dot ∉ ext) :
    extension? path = some ⟨ext⟩ := by
  obtain ⟨before, hpath⟩ := suffix_ofSegments h
  rw [ofSegments_segments, hsegment, ← List.append_assoc] at hpath
  have hne : before ++ front ≠ [] := List.append_ne_nil_of_right_ne_nil _ hfront
  have hname : path ≠ ".." := by
    rintro rfl
    have hlength := congrArg List.length hpath
    rw [List.length_append, List.length_cons] at hlength
    have := List.length_pos_iff.2 hne
    have := List.length_pos_iff.2 hext
    change _ = 2 at hlength
    omega
  exact (extension?_eq_some_iff hname).2 ⟨before ++ front, hpath.symm, hne, hdot⟩

end Path

/-! ## Steps -/

namespace Tree

theorem stepsOf_ne_nil {ss : List (List UInt8)} (h : ss ≠ []) : stepsOf ss ≠ [] := by
  fun_induction stepsOf ss with
  | case1 => exact absurd rfl h
  | case3 ss hlast ih => exact ih (hlast rfl)
  | _ => exact List.cons_ne_nil _ _

theorem getLast?_stepsOf_cons (s : List UInt8) {ss : List (List UInt8)} (h : ss ≠ []) :
    (stepsOf (s :: ss)).getLast? = (stepsOf ss).getLast? := by
  have hcons : ∀ step : Step, (step :: stepsOf ss).getLast? = (stepsOf ss).getLast? :=
    fun step => List.getLast?_cons_of_ne_nil (stepsOf_ne_nil h)
  rw [stepsOf]
  · split
    · rfl
    · split
      · exact hcons _
      · split <;> exact hcons _
  · exact fun _ => h

/-- If the last step along some segments goes down, it goes down to the last segment. -/
theorem getLast?_stepsOf {name : RawText} : ∀ {ss : List (List UInt8)},
    (stepsOf ss).getLast? = some (.down name) → ss.getLast? = some name.bytes
  | [], h => by cases h
  | [s], h => by
    by_cases hs : s = []
    · rw [hs] at h
      cases h
    · rw [stepsOf, if_neg hs] at h
      · split at h
        · cases h
        · split at h
          · cases h
          · obtain rfl : RawText.mk s = name := Step.down.inj (Option.some.inj h)
            rfl
      · exact fun hnil => absurd hnil hs
  | s :: s' :: ss, h => by
    rw [getLast?_stepsOf_cons s (List.cons_ne_nil _ _)] at h
    rw [List.getLast?_cons_cons]
    exact getLast?_stepsOf h

end Tree

end TableGuard
