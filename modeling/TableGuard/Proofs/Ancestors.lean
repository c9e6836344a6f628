import Mathlib.Data.List.DropRight
import Mathlib.Data.List.Infix
import TableGuard.Proofs.Path

/-!
# Paths and the paths above them

The parent of a path lacks its last component, and is a beginning of it as a text. So the paths above
a path have the beginnings of its components, one after another: down to the root if it is absolute,
and down to no component at all if it is not.

* `Path.segments_ofSegments`, `Path.ofSegments_of_first` : a text that is put together from segments;
* `Path.parts_trimEnd`, `Path.dropComponent?_eq_some` : segments without their last component;
* `Path.components_parent`, `Path.parent?_eq_none_iff` : the parent of a path;
* `Path.beginnings` : the beginnings of some components, longest first;
* `Path.map_components_ancestors`, `Path.prefix_of_mem_ancestors` : the paths above a path.
-/

namespace TableGuard.Path

/-! ## Segments -/

theorem slash_notMem_segments : ∀ {cs s : List UInt8}, s ∈ segments cs → slash ∉ s
  | [], s, h => by
    rw [List.mem_singleton.1 h]
    exact List.not_mem_nil
  | c :: cs, s, h => by
    by_cases hc : c = slash
    · rw [hc, segments_slash, List.mem_cons] at h
      rcases h with rfl | h
      · exact List.not_mem_nil
      · exact slash_notMem_segments h
    · obtain ⟨t, ts, hts⟩ := List.exists_cons_of_ne_nil (segments_ne_nil cs)
      rw [segments_cons hc hts, List.mem_cons] at h
      have hrest : ∀ u ∈ t :: ts, slash ∉ u := fun u hu => slash_notMem_segments (hts ▸ hu)
      rcases h with rfl | h
      · rw [List.mem_cons, not_or]
        exact ⟨Ne.symm hc, hrest t List.mem_cons_self⟩
      · exact hrest s (List.mem_cons_of_mem _ h)

theorem segments_of_slash_notMem : ∀ {s : List UInt8}, slash ∉ s → segments s = [s]
  | [], _ => rfl
  | c :: s, h => by
    rw [List.mem_cons, not_or] at h
    exact segments_cons (Ne.symm h.1) (segments_of_slash_notMem h.2)

theorem segments_ofSegments : ∀ {ss : List (List UInt8)}, ss ≠ [] → (∀ s ∈ ss, slash ∉ s) →
    segments (ofSegments ss) = ss
  | [], h, _ => absurd rfl h
  | [s], _, h => segments_of_slash_notMem (h s List.mem_cons_self)
  | s :: s' :: ss, _, h => by
    rw [ofSegments, segments_append, segments_of_slash_notMem (h s List.mem_cons_self),
      segments_ofSegments (List.cons_ne_nil _ _) fun t ht => h t (List.mem_cons_of_mem _ ht)]
    · rfl
    · exact List.cons_ne_nil _ _

theorem ofSegments_cons (s : List UInt8) {ss : List (List UInt8)} (h : ss ≠ []) :
    ofSegments (s :: ss) = s ++ slash :: ofSegments ss := by
  cases ss with
  | nil => exact absurd rfl h
  | cons s' ss => rfl

theorem prefix_ofSegments : ∀ {ss ss' : List (List UInt8)}, ss' <+: ss →
    ofSegments ss' <+: ofSegments ss
  | _, [], _ => List.nil_prefix
  | ss, [s], h => by
    obtain ⟨rest, rfl⟩ := h
    cases rest with
    | nil => exact List.prefix_rfl
    | cons s' rest => exact List.prefix_append s _
  | [], s :: s' :: ss', h => by simp at h
  | t :: ts, s :: s' :: ss', h => by
    obtain ⟨rfl, hrest⟩ := List.cons_prefix_cons.1 h
    have hts : ts ≠ [] := by
      rintro rfl
      simp at hrest
    rw [ofSegments_cons s (List.cons_ne_nil _ _), ofSegments_cons s hts]
    exact (List.prefix_append_right_inj s).2 (List.cons_prefix_cons.2 ⟨rfl, prefix_ofSegments hrest⟩)

/-! ## Segments and components -/

/-- The components that segments inside of a path stand for. -/
def parts (ss : List (List UInt8)) : List Component := ss.filterMap component?

theorem parts_append (ss ss' : List (List UInt8)) : parts (ss ++ ss') = parts ss ++ parts ss' :=
  List.filterMap_append

theorem component?_eq_none_iff {s : List UInt8} : component? s = none ↔ isIdle s = true := by
  unfold component?
  split
  · rename_i h
    exact iff_of_true rfl h
  · rename_i h
    refine iff_of_false ?_ h
    split <;> exact Option.some_ne_none _

theorem root_notMem_parts (ss : List (List UInt8)) : Component.root ∉ parts ss := by
  intro h
  obtain ⟨s, -, hs⟩ := List.mem_filterMap.1 h
  unfold component? at hs
  split at hs
  · cases hs
  · split at hs <;> cases hs

theorem trimEnd_eq_rdropWhile (ss : List (List UInt8)) : trimEnd ss = ss.rdropWhile isIdle := rfl

theorem parts_trimEnd (ss : List (List UInt8)) : parts (trimEnd ss) = parts ss := by
  have hidle : parts (ss.rtakeWhile isIdle) = [] :=
    List.filterMap_eq_nil_iff.2 fun s hs => component?_eq_none_iff.2 (List.mem_rtakeWhile_imp hs)
  have hss := List.rdropWhile_append_rtakeWhile (p := isIdle) (l := ss)
  conv_rhs => rw [← hss, parts_append, hidle, List.append_nil]
  rw [trimEnd_eq_rdropWhile]

theorem trimEnd_prefix_self (ss : List (List UInt8)) : trimEnd ss <+: ss :=
  List.rdropWhile_prefix isIdle ss

theorem parts_getLast {ss front : List (List UInt8)} {s : List UInt8}
    (h : trimEnd ss = front ++ [s]) : ∃ c, parts ss = parts front ++ [c] := by
  have hs : ¬ isIdle s = true := by
    have hlast := List.rdropWhile_last_not isIdle ss (by
      rw [← trimEnd_eq_rdropWhile, h]
      simp)
    simpa only [← trimEnd_eq_rdropWhile, h, List.getLast_concat] using hlast
  cases hc : component? s with
  | none => exact absurd (component?_eq_none_iff.1 hc) hs
  | some c =>
    refine ⟨c, ?_⟩
    rw [← parts_trimEnd, h, parts_append]
    exact congrArg (parts front ++ ·) (List.filterMap_cons_some hc)

theorem dropComponent?_eq_none_iff {ss : List (List UInt8)} :
    dropComponent? ss = none ↔ parts ss = [] := by
  unfold dropComponent?
  rcases List.eq_nil_or_concat' (trimEnd ss) with hnil | ⟨front, s, hfront⟩
  · rw [hnil]
    refine iff_of_true rfl ?_
    rw [← parts_trimEnd, hnil]
    rfl
  · obtain ⟨c, hc⟩ := parts_getLast hfront
    rw [hfront, hc]
    refine iff_of_false ?_ (by simp)
    split
    · rename_i hnil
      simp at hnil
    · exact Option.some_ne_none _

/-- **Segments without their last component.** -/
theorem dropComponent?_eq_some {ss ss' : List (List UInt8)} (h : dropComponent? ss = some ss') :
    ss' <+: ss ∧ ∃ c, parts ss = parts ss' ++ [c] := by
  unfold dropComponent? at h
  rcases List.eq_nil_or_concat' (trimEnd ss) with hnil | ⟨front, s, hfront⟩
  · rw [hnil] at h
    cases h
  · rw [hfront] at h
    split at h
    · cases h
    · rw [← Option.some.inj h, List.dropLast_concat, parts_trimEnd]
      refine ⟨(trimEnd_prefix_self front).trans ((List.prefix_append front [s]).trans ?_),
        parts_getLast hfront⟩
      rw [← hfront]
      exact trimEnd_prefix_self ss

/-! ## Components -/

theorem components_slash {path : RawText} {cs : List UInt8} (h : path.bytes = slash :: cs) :
    components path = .root :: parts (segments cs) := by
  unfold components
  rw [h, segments_slash]
  dsimp only
  rw [if_neg]
  · rfl
  · rw [List.isEmpty_iff]
    exact segments_ne_nil cs

theorem components_current {path : RawText} {ss : List (List UInt8)}
    (h : segments path.bytes = [dot] :: ss) : components path = .current :: parts ss := by
  unfold components
  rw [h]
  rfl

theorem components_plain {path : RawText} {s : List UInt8} {ss : List (List UInt8)}
    (h : segments path.bytes = s :: ss) (hempty : s ≠ []) (hdot : s ≠ [dot]) :
    components path = parts (s :: ss) := by
  unfold components
  rw [h]
  split
  · rename_i heq
    exact absurd (List.cons.inj heq).1 hempty
  · rename_i heq
    exact absurd (List.cons.inj heq).1 hdot
  · rfl

/-- A path is empty, absolute, begins with a dot as a segment, or begins with another segment. -/
theorem cases_beginning (path : RawText) :
    path = ⟨[]⟩ ∨ (∃ cs, path.bytes = slash :: cs) ∨ (∃ ss, segments path.bytes = [dot] :: ss) ∨
      ∃ s ss, segments path.bytes = s :: ss ∧ s ≠ [] ∧ s ≠ [dot] := by
  cases hpath : path.bytes with
  | nil => exact .inl (RawText.ext hpath)
  | cons c cs =>
    by_cases hc : c = slash
    · exact .inr (.inl ⟨cs, by rw [hc]⟩)
    · obtain ⟨s, ss, hs⟩ := List.exists_cons_of_ne_nil (segments_ne_nil cs)
      have hsegments := segments_cons hc hs
      by_cases hdot : c :: s = [dot]
      · exact .inr (.inr (.inl ⟨ss, by rw [hsegments, hdot]⟩))
      · exact .inr (.inr (.inr ⟨c :: s, ss, hsegments, List.cons_ne_nil _ _, hdot⟩))

theorem isAbsolute_iff (path : RawText) :
    isAbsolute path = true ↔ (components path).head? = some .root := by
  have hparts : ∀ ss, (parts ss).head? ≠ some .root := fun ss hroot =>
    root_notMem_parts ss (List.mem_of_head? hroot)
  unfold isAbsolute
  rw [beq_iff_eq]
  rcases cases_beginning path with rfl | ⟨cs, hpath⟩ | ⟨ss, hpath⟩ | ⟨s, ss, hpath, hempty, hdot⟩
  · exact iff_of_false nofun nofun
  · rw [components_slash hpath, hpath]
    exact iff_of_true rfl rfl
  · rw [components_current hpath]
    refine iff_of_false ?_ nofun
    intro hslash
    obtain ⟨cs, hcs⟩ := List.head?_eq_some_iff.1 hslash
    rw [hcs, segments_slash] at hpath
    cases hpath
  · rw [components_plain hpath hempty hdot]
    refine iff_of_false ?_ (hparts _)
    intro hslash
    obtain ⟨cs, hcs⟩ := List.head?_eq_some_iff.1 hslash
    rw [hcs, segments_slash] at hpath
    exact hempty (List.cons.inj hpath).1.symm

theorem length_parts_segments_le : ∀ cs : List UInt8, (parts (segments cs)).length ≤ cs.length
  | [] => Nat.le_refl 0
  | c :: cs => by
    have ih := length_parts_segments_le cs
    by_cases hc : c = slash
    · rw [hc, segments_slash, List.length_cons]
      exact Nat.le_succ_of_le ih
    · obtain ⟨s, ss, hs⟩ := List.exists_cons_of_ne_nil (segments_ne_nil cs)
      have hrest : (parts ss).length ≤ (parts (s :: ss)).length :=
        ((List.sublist_cons_self s ss).filterMap component?).length_le
      have hfirst : (parts ((c :: s) :: ss)).length ≤ (parts ss).length + 1 := by
        unfold parts
        rw [List.filterMap_cons]
        split
        · exact Nat.le_succ _
        · exact Nat.le_refl _
      rw [segments_cons hc hs, List.length_cons]
      rw [hs] at ih
      omega

theorem length_components_le (path : RawText) :
    (components path).length ≤ path.bytes.length := by
  rcases cases_beginning path with rfl | ⟨cs, hpath⟩ | ⟨ss, hpath⟩ | ⟨s, ss, hpath, hempty, hdot⟩
  · exact Nat.le_refl 0
  · rw [components_slash hpath, hpath]
    exact Nat.succ_le_succ (length_parts_segments_le cs)
  · rw [components_current hpath]
    cases hchars : path.bytes with
    | nil =>
      rw [hchars] at hpath
      cases hpath
    | cons c cs =>
      have hc : c ≠ slash := by
        rintro rfl
        rw [hchars, segments_slash] at hpath
        cases hpath
      obtain ⟨t, ts, hts⟩ := List.exists_cons_of_ne_nil (segments_ne_nil cs)
      rw [hchars, segments_cons hc hts] at hpath
      obtain ⟨hfirst, rfl⟩ := List.cons.inj hpath
      obtain rfl : t = [] := (List.cons.inj hfirst).2
      have hlength := length_parts_segments_le cs
      rw [hts] at hlength
      exact Nat.succ_le_succ hlength
  · rw [components_plain hpath hempty hdot, ← hpath]
    exact length_parts_segments_le path.bytes

/-! ## Parents -/

theorem parent?_slash {path : RawText} {cs : List UInt8} (h : path.bytes = slash :: cs) :
    parent? path =
      (dropComponent? (segments cs)).map fun ss => ⟨slash :: ofSegments ss⟩ := by
  unfold parent?
  rw [h, segments_slash]

theorem parent?_current {path : RawText} {ss : List (List UInt8)}
    (h : segments path.bytes = [dot] :: ss) :
    parent? path = match dropComponent? ss with
      | some ss => some ⟨ofSegments ([dot] :: ss)⟩
      | none => some ⟨[]⟩ := by
  unfold parent?
  rw [h]
  rfl

theorem parent?_plain {path : RawText} {s : List UInt8} {ss : List (List UInt8)}
    (h : segments path.bytes = s :: ss) (hempty : s ≠ []) (hdot : s ≠ [dot]) :
    parent? path = (dropComponent? (s :: ss)).map fun ss => ⟨ofSegments ss⟩ := by
  unfold parent?
  rw [h]
  split
  · rename_i heq
    exact absurd (List.cons.inj heq).1 hempty
  · rename_i heq
    exact absurd (List.cons.inj heq).1 hdot
  · rfl

/-- A path has a parent unless it has no components, or only the root. -/
theorem parent?_eq_none_iff (path : RawText) :
    parent? path = none ↔ components path = [] ∨ components path = [.root] := by
  rcases cases_beginning path with rfl | ⟨cs, hpath⟩ | ⟨ss, hpath⟩ | ⟨s, ss, hpath, hempty, hdot⟩
  · exact iff_of_true rfl (.inl rfl)
  · rw [parent?_slash hpath, components_slash hpath, Option.map_eq_none_iff,
      dropComponent?_eq_none_iff]
    simp
  · rw [parent?_current hpath, components_current hpath]
    refine iff_of_false ?_ (by simp)
    split <;> exact Option.some_ne_none _
  · rw [parent?_plain hpath hempty hdot, components_plain hpath hempty hdot,
      Option.map_eq_none_iff, dropComponent?_eq_none_iff, or_iff_left]
    intro hroot
    exact root_notMem_parts (s :: ss) (hroot ▸ List.mem_cons_self)

theorem ofSegments_of_first {cs : List UInt8} {ss : List (List UInt8)} (h : ss <+: segments cs) :
    ofSegments ss <+: cs ∧ (ss ≠ [] → segments (ofSegments ss) = ss) := by
  constructor
  · conv_rhs => rw [← ofSegments_segments cs]
    exact prefix_ofSegments h
  · exact fun hne => segments_ofSegments hne fun s hs => slash_notMem_segments (h.mem hs)

/-- **The parent of a path lacks its last component**, and is a beginning of it. -/
theorem components_parent {path parent : RawText} (h : parent? path = some parent) :
    (∃ c, components path = components parent ++ [c]) ∧ parent.bytes <+: path.bytes := by
  rcases cases_beginning path with rfl | ⟨cs, hpath⟩ | ⟨ss, hpath⟩ | ⟨s, ss, hpath, hempty, hdot⟩
  · cases h
  · rw [parent?_slash hpath] at h
    obtain ⟨ss, hss, rfl⟩ := Option.map_eq_some_iff.1 h
    obtain ⟨hbegins, c, hc⟩ := dropComponent?_eq_some hss
    obtain ⟨htext, hsegments⟩ := ofSegments_of_first hbegins
    have hparts : parts (segments (ofSegments ss)) = parts ss := by
      cases ss with
      | nil => rfl
      | cons s ss => rw [hsegments (List.cons_ne_nil _ _)]
    rw [components_slash hpath, @components_slash ⟨slash :: ofSegments ss⟩ _ rfl, hparts, hc,
      hpath]
    exact ⟨⟨c, rfl⟩, List.cons_prefix_cons.2 ⟨rfl, htext⟩⟩
  · rw [parent?_current hpath] at h
    rw [components_current hpath]
    cases hss : dropComponent? ss with
    | some ss' =>
      rw [hss] at h
      obtain rfl := Option.some.inj h
      obtain ⟨hbegins, c, hc⟩ := dropComponent?_eq_some hss
      obtain ⟨htext, hsegments⟩ :=
        ofSegments_of_first (hpath ▸ List.cons_prefix_cons.2 ⟨rfl, hbegins⟩)
      rw [@components_current ⟨_⟩ _ (hsegments (List.cons_ne_nil _ _)), hc]
      exact ⟨⟨c, rfl⟩, htext⟩
    | none =>
      rw [hss] at h
      obtain rfl := Option.some.inj h
      rw [dropComponent?_eq_none_iff.1 hss]
      exact ⟨⟨.current, rfl⟩, List.nil_prefix⟩
  · rw [parent?_plain hpath hempty hdot] at h
    obtain ⟨ss', hss', rfl⟩ := Option.map_eq_some_iff.1 h
    obtain ⟨hbegins, c, hc⟩ := dropComponent?_eq_some hss'
    obtain ⟨htext, hsegments⟩ := ofSegments_of_first (hpath ▸ hbegins)
    refine ⟨⟨c, ?_⟩, htext⟩
    rw [components_plain hpath hempty hdot, hc]
    cases ss' with
    | nil => rfl
    | cons t ts =>
      obtain ⟨rfl, -⟩ := List.cons_prefix_cons.1 hbegins
      rw [@components_plain ⟨_⟩ _ _ (hsegments (List.cons_ne_nil _ _)) hempty hdot]

/-! ## Ancestors -/

/-- The beginnings of some components, longest first: down to the root, or to nothing. -/
def beginnings (cs : List Component) : List (List Component) :=
  (if cs.head? = some .root then cs.inits.tail else cs.inits).reverse

theorem beginnings_concat {cs : List Component} {c : Component} (h : cs ++ [c] ≠ [.root]) :
    beginnings (cs ++ [c]) = (cs ++ [c]) :: beginnings cs := by
  have hinits : (cs ++ [c]).inits = cs.inits ++ [cs ++ [c]] := by
    rw [List.inits_append]
    rfl
  unfold beginnings
  rw [hinits]
  cases cs with
  | nil =>
    have hc : ¬ c = .root := fun hroot => h (by rw [hroot]; rfl)
    simp [hc]
  | cons d cs =>
    rw [List.cons_append, List.head?_cons, List.head?_cons]
    split
    · rw [List.tail_append_of_ne_nil (by simp), List.reverse_concat]
    · rw [List.reverse_concat]

theorem map_components_ancestorsUpTo : ∀ {bound : Nat} {path : RawText},
    (components path).length ≤ bound →
      (ancestorsUpTo bound path).map components = beginnings (components path)
  | 0, path, h => by
    rw [ancestorsUpTo, List.map_singleton, List.eq_nil_of_length_eq_zero (Nat.le_zero.1 h)]
    rfl
  | bound + 1, path, h => by
    unfold ancestorsUpTo
    cases hparent : parent? path with
    | none =>
      dsimp only
      rw [List.map_singleton]
      rcases (parent?_eq_none_iff path).1 hparent with hnil | hroot
      · rw [hnil]
        rfl
      · rw [hroot]
        rfl
    | some parent =>
      dsimp only
      obtain ⟨⟨c, hc⟩, -⟩ := components_parent hparent
      have hroot : components path ≠ [.root] := by
        intro hroot
        rw [(parent?_eq_none_iff path).2 (.inr hroot)] at hparent
        cases hparent
      have hbound : (components parent).length ≤ bound := by
        rw [hc, List.length_append, List.length_singleton] at h
        exact Nat.le_of_succ_le_succ h
      rw [List.map_cons, map_components_ancestorsUpTo hbound, hc, beginnings_concat (hc ▸ hroot)]

/-- **The paths above a path** have the beginnings of its components. -/
theorem map_components_ancestors (path : RawText) :
    (ancestors path).map components = beginnings (components path) :=
  map_components_ancestorsUpTo (length_components_le path)

theorem prefix_of_mem_ancestorsUpTo : ∀ {bound : Nat} {path dir : RawText},
    dir ∈ ancestorsUpTo bound path → dir.bytes <+: path.bytes
  | 0, path, dir, h => by rw [List.mem_singleton.1 h]
  | bound + 1, path, dir, h => by
    unfold ancestorsUpTo at h
    cases hparent : parent? path with
    | none =>
      rw [hparent] at h
      rw [List.mem_singleton.1 h]
    | some parent =>
      rw [hparent] at h
      rcases List.mem_cons.1 h with rfl | h
      · exact List.prefix_rfl
      · exact (prefix_of_mem_ancestorsUpTo h).trans (components_parent hparent).2

theorem prefix_of_mem_ancestors {path dir : RawText} (h : dir ∈ ancestors path) :
    dir.bytes <+: path.bytes := prefix_of_mem_ancestorsUpTo h

end TableGuard.Path
