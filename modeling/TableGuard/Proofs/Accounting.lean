import Mathlib.Algebra.Ring.Nat
import TableGuard.Proofs.OnePass
import TableGuard.Proofs.Rewriting

/-!
# Which change counts which call

A setter may end in another one, so several issues may ask for the same call to be guarded. The
first of them does it, and its change counts the call. So the changes can be read off the text as it
was before any issue was fixed.

* `places` : the places of a text;
* `newCalls` : the calls of an issue that no issue before it has, `allCalls` those of all issues;
* `length_guardCalls` : guarded calls make a text longer, each by its `growth`;
* `length_hits_guardCalls` : what an issue finds are its new calls;
* `Accounts`, `fixContent_accounts` : the changes of issues of the builtin rules.
-/

namespace TableGuard

/-! ## Places and calls -/

/-- The places in a text: what stands in front, latest character first, and what follows. -/
def places : List Char → List Char → List (List Char × List Char)
  | _, [] => []
  | before, c :: rest => (before, c :: rest) :: places (c :: before) rest

theorem mem_places {text front rest : List Char} : ∀ {before : List Char},
    (front, rest) ∈ places before text ↔
      rest ≠ [] ∧ ∃ passed, text = passed ++ rest ∧ front = passed.reverse ++ before := by
  induction text with
  | nil =>
    intro before
    refine iff_of_false List.not_mem_nil ?_
    rintro ⟨hne, passed, hnil, -⟩
    exact hne (List.append_eq_nil_iff.1 hnil.symm).2
  | cons c text ih =>
    intro before
    rw [places, List.mem_cons, ih, Prod.mk.injEq]
    constructor
    · rintro (⟨rfl, rfl⟩ | ⟨hne, passed, rfl, rfl⟩)
      · exact ⟨List.cons_ne_nil _ _, [], rfl, rfl⟩
      · exact ⟨hne, c :: passed, rfl, by simp⟩
    · rintro ⟨hne, passed, htext, rfl⟩
      cases passed with
      | nil => exact .inl ⟨rfl, htext.symm⟩
      | cons d passed =>
        obtain ⟨rfl, rfl⟩ := List.cons.inj htext
        exact .inr ⟨hne, passed, rfl, by simp⟩

/-- At a place the payload is handed to the setter of the variable. -/
def Payload.CalledAt (p : Payload) (var before rest : List Char) : Prop :=
  (setter var).reverse <+: before ∧ p.argument <+: rest

instance (p : Payload) (var before rest : List Char) : Decidable (p.CalledAt var before rest) :=
  inferInstanceAs (Decidable ((setter var).reverse <+: before ∧ p.argument <+: rest))

/-- A call that is none of the earlier ones with the same payload. -/
def Payload.NewAt (p : Payload) (earlier : Sites) (var before rest : List Char) : Prop :=
  p.CalledAt var before rest ∧ ∀ site ∈ earlier, site.1 = p → ¬ p.CalledAt site.2 before rest

instance (p : Payload) (earlier : Sites) (var before rest : List Char) :
    Decidable (p.NewAt earlier var before rest) :=
  inferInstanceAs (Decidable (_ ∧ ∀ site ∈ earlier, site.1 = p → ¬ p.CalledAt site.2 before rest))

/-- How many calls there are that are none of the earlier ones. -/
def newCalls (earlier : Sites) (p : Payload) (var text : List Char) : Nat :=
  (places [] text).countP fun place => p.NewAt earlier var place.1 place.2

/-- How many places there are where one of the calls is written. -/
def allCalls (sites : Sites) (text : List Char) : Nat :=
  (places [] text).countP fun place => ∃ site ∈ sites, site.1.CalledAt site.2 place.1 place.2

/-- There are new calls exactly if a payload stands behind the setter of the variable, and behind
none of the earlier setters. -/
theorem newCalls_ne_zero_iff {earlier : Sites} {p : Payload} {var text : List Char} :
    newCalls earlier p var text ≠ 0 ↔
      ∃ before after, text = before ++ (p.argument ++ after) ∧ setter var <:+ before ∧
        ∀ w, (p, w) ∈ earlier → ¬ setter w <:+ before := by
  have hcalled : ∀ w before after, p.CalledAt w before.reverse (p.argument ++ after) ↔
      setter w <:+ before := fun w before after => by
    rw [Payload.CalledAt, List.reverse_prefix, and_iff_left (List.prefix_append _ _)]
  rw [newCalls, Nat.ne_zero_iff_zero_lt, List.countP_pos_iff]
  constructor
  · rintro ⟨⟨place, rest⟩, hplace, hnew⟩
    obtain ⟨-, before, rfl, rfl⟩ := mem_places.1 hplace
    obtain ⟨hcall, hearlier⟩ := of_decide_eq_true hnew
    obtain ⟨after, rfl⟩ := hcall.2
    rw [List.append_nil] at hcall hearlier
    refine ⟨before, after, rfl, (hcalled _ _ _).1 hcall, fun w hw hset => ?_⟩
    exact hearlier (p, w) hw rfl ((hcalled _ _ _).2 hset)
  · rintro ⟨before, after, rfl, hset, hearlier⟩
    refine ⟨(before.reverse, p.argument ++ after), mem_places.2 ⟨?_, before, rfl, ?_⟩,
      decide_eq_true ⟨(hcalled _ _ _).2 hset, ?_⟩⟩
    · exact List.cons_ne_nil _ _
    · rw [List.append_nil]
    · rintro ⟨q, w⟩ hw rfl hcall
      exact hearlier w hw ((hcalled _ _ _).1 hcall)

/-! ## Weighing calls -/

theorem Payload.NewAt.siteAt?_eq_none {p : Payload} {sites : Sites} {var before rest : List Char}
    (h : p.NewAt sites var before rest) : siteAt? sites before rest = none := by
  rw [siteAt?_eq_none_iff]
  intro q harg w hmem hset
  obtain rfl := Payload.argument_unique harg h.1.2
  exact h.2 (q, w) hmem rfl ⟨hset, harg⟩

/-- One more call matters exactly where it is a new one. -/
theorem siteAt?_concat (sites : Sites) (p : Payload) (var before rest : List Char) :
    siteAt? (sites ++ [(p, var)]) before rest =
      if p.NewAt sites var before rest then some p else siteAt? sites before rest := by
  rw [siteAt?_append]
  split_ifs with hnew
  · rw [hnew.siteAt?_eq_none, Option.none_or, siteAt?_eq_some_iff]
    exact ⟨hnew.1.2, var, List.mem_singleton_self _, hnew.1.1⟩
  · cases hsite : siteAt? sites before rest with
    | some q => rfl
    | none =>
      rw [Option.none_or, siteAt?_eq_none_iff]
      intro q harg w hmem hset
      obtain ⟨rfl, rfl⟩ : q = p ∧ w = var := by simpa using hmem
      refine hnew ⟨⟨hset, harg⟩, ?_⟩
      rintro ⟨p, w'⟩ hmem' hp hcall
      obtain rfl : p = q := hp
      exact siteAt?_eq_none_iff.1 hsite p harg w' hmem' hcall.1

/-- The calls of a text, each with a weight that its payload has. -/
def weigh (weight : Payload → Nat) (sites : Sites) (before text : List Char) : Nat :=
  ((places before text).map fun place => (siteAt? sites place.1 place.2).elim 0 weight).sum

/-- **One more issue adds its new calls.** -/
theorem weigh_concat (weight : Payload → Nat) (sites : Sites) (p : Payload)
    (var text : List Char) : weigh weight (sites ++ [(p, var)]) [] text =
      weigh weight sites [] text + newCalls sites p var text * weight p := by
  rw [weigh, weigh, newCalls]
  induction places [] text with
  | nil => rw [List.countP_nil, Nat.zero_mul]; rfl
  | cons place rest ih =>
    rw [List.map_cons, List.sum_cons, ih, List.map_cons, List.sum_cons, List.countP_cons,
      siteAt?_concat]
    by_cases hnew : p.NewAt sites var place.1 place.2
    · rw [if_pos hnew, if_pos (decide_eq_true hnew), hnew.siteAt?_eq_none, Nat.add_mul, Nat.one_mul]
      simp only [Option.elim_some, Option.elim_none]
      omega
    · rw [if_neg hnew, if_neg (by simpa using hnew), Nat.add_zero, Nat.add_assoc]

theorem allCalls_eq_weigh (sites : Sites) (text : List Char) :
    allCalls sites text = weigh (fun _ => 1) sites [] text := by
  rw [allCalls, weigh]
  induction places [] text with
  | nil => rfl
  | cons place rest ih =>
    have hsome : (∃ site ∈ sites, site.1.CalledAt site.2 place.1 place.2) ↔
        (siteAt? sites place.1 place.2).isSome := by
      simp only [Option.isSome_iff_exists, siteAt?_eq_some_iff]
      constructor
      · rintro ⟨⟨p, var⟩, hmem, hset, harg⟩
        exact ⟨p, harg, var, hmem, hset⟩
      · rintro ⟨p, harg, var, hmem, hset⟩
        exact ⟨(p, var), hmem, hset, harg⟩
    rw [List.countP_cons, ih, List.map_cons, List.sum_cons, Nat.add_comm]
    simp only [hsome]
    cases siteAt? sites place.1 place.2 <;> rfl

theorem weigh_eq_zero_iff {weight : Payload → Nat} (hweight : ∀ p, weight p ≠ 0) {sites : Sites}
    {before text : List Char} : weigh weight sites before text = 0 ↔
      ∀ place ∈ places before text, siteAt? sites place.1 place.2 = none := by
  rw [weigh, List.sum_eq_zero_iff_forall_eq_nat, List.forall_mem_map]
  refine forall₂_congr fun place _ => ?_
  cases siteAt? sites place.1 place.2 with
  | none => exact iff_of_true rfl rfl
  | some p => exact iff_of_false (hweight p) (Option.some_ne_none p)

/-! ## Guarded calls make a text longer -/

/-- What a guard adds to a call. -/
def Payload.growth (p : Payload) : Nat := p.guarded.length - p.argument.length

theorem Payload.length_guarded (p : Payload) : p.guarded.length = p.argument.length + p.growth :=
  (Nat.add_sub_of_le (Nat.le_of_lt p.length_argument_lt_length_guarded)).symm

theorem Payload.growth_ne_zero (p : Payload) : p.growth ≠ 0 :=
  Nat.sub_ne_zero_of_lt p.length_argument_lt_length_guarded

theorem weigh_cons (weight : Payload → Nat) (sites : Sites) (before : List Char) (c : Char)
    (rest : List Char) : weigh weight sites before (c :: rest) =
      (siteAt? sites before (c :: rest)).elim 0 weight + weigh weight sites (c :: before) rest := by
  rw [weigh, places, List.map_cons, List.sum_cons]
  rfl

theorem weigh_append (weight : Payload → Nat) (sites : Sites) (plain rest : List Char)
    (h : '(' ∉ plain) : ∀ before, weigh weight sites before (plain ++ rest) =
      weigh weight sites (plain.reverse ++ before) rest := by
  induction plain with
  | nil => intro before; rfl
  | cons c plain ih =>
    intro before
    rw [List.mem_cons, not_or] at h
    rw [List.cons_append, weigh_cons, siteAt?_of_ne_paren _ _ _ _ (Ne.symm h.1), ih h.2,
      List.reverse_cons, List.append_assoc, Option.elim_none, Nat.zero_add]
    rfl

/-- **Every guarded call adds its growth to a text.** -/
theorem length_guardCalls (sites : Sites) (before text : List Char) :
    (guardCalls sites before text).length =
      text.length + weigh Payload.growth sites before text := by
  induction before, text using guardCalls_induction sites with
  | nil before => rw [guardCalls_nil]; rfl
  | site before p rest hsite ih =>
    have hweigh : weigh Payload.growth sites before (p.argument ++ rest) =
        p.growth + weigh Payload.growth sites (p.argument.reverse ++ before) rest := by
      rw [Payload.argument, List.cons_append] at hsite ⊢
      rw [weigh_cons, hsite, weigh_append _ _ _ _ p.paren_notMem_text, Option.elim_some,
        List.reverse_cons, List.append_assoc]
      rfl
    rw [guardCalls_site _ _ _ _ hsite, List.length_append, List.length_append, ih, hweigh,
      p.length_guarded]
    omega
  | miss before c rest hmiss ih =>
    rw [guardCalls_miss _ _ _ _ hmiss, weigh_cons, hmiss, List.length_cons, List.length_cons, ih,
      Option.elim_none]
    omega

theorem guardCalls_of_places {sites : Sites} {text : List Char} : ∀ {before : List Char},
    (∀ place ∈ places before text, siteAt? sites place.1 place.2 = none) →
      guardCalls sites before text = text := by
  induction text with
  | nil => intro before _; rw [guardCalls_nil]
  | cons c rest ih =>
    intro before h
    rw [guardCalls_miss _ _ _ _ (h _ List.mem_cons_self),
      ih fun place hmem => h place (List.mem_cons_of_mem _ hmem)]

theorem guardCalls_eq_self_iff {sites : Sites} {text : List Char} :
    guardCalls sites [] text = text ↔ allCalls sites text = 0 := by
  rw [allCalls_eq_weigh, weigh_eq_zero_iff fun _ => Nat.one_ne_zero]
  refine ⟨fun h => ?_, guardCalls_of_places⟩
  rw [← weigh_eq_zero_iff Payload.growth_ne_zero]
  have := length_guardCalls sites [] text
  rw [h] at this
  omega

/-- **What an issue finds are its new calls**: both make the text longer by the same length. -/
theorem length_hits_guardCalls (sites : Sites) {var : List Char} (hvar : IsWord var) (p : Payload)
    (text : List Char) :
    ((Regex.mk (.chars (p.call var))).cut (guardCalls sites [] text)).hits.length =
      newCalls sites p var text := by
  have hlength := Regex.length_replace_cut_chars (p.call_ne_nil var) (p.guardedCall var)
    (guardCalls sites [] text)
  rw [replace_cut_call hvar p _ [] (clear_nil _ _ _),
    guardCalls_guardCalls (properSites_singleton hvar p) [] text [] rfl, length_guardCalls,
    length_guardCalls, weigh_concat, Payload.guardedCall, Payload.call, List.length_append,
    List.length_append, p.length_guarded, ← Payload.call] at hlength
  -- Now `hlength` has the growth once for every hit, and once for every new call.
  refine Nat.eq_of_mul_eq_mul_right (Nat.pos_of_ne_zero p.growth_ne_zero) ?_
  simp only [Nat.mul_add] at hlength
  omega

/-! ## The changes -/

theorem Issue.Rewrites.of_rule {issue : Issue} {p : Payload} {text text' : String} {count : Nat}
    (h : issue.Rewrites text text' count) (hrule : issue.rule = p.rule)
    (hvar : IsWord issue.var.toList) :
    text'.toList = guardCalls [(p, issue.var.toList)] [] text.toList ∧
      count = ((Regex.mk (.chars (p.call issue.var.toList))).cut text.toList).hits.length := by
  obtain ⟨htext', hcount⟩ := h.of_payload hrule
  rw [replace_cut_call hvar p _ [] (clear_nil _ _ _)] at htext'
  exact ⟨htext', hcount⟩

theorem sitesOf_take_succ {issues : List Issue} {i : Nat} (hi : i < issues.length) {p : Payload}
    (hrule : issues[i].rule = p.rule) :
    sitesOf (issues.take (i + 1)) = sitesOf (issues.take i) ++ [(p, issues[i].var.toList)] := by
  rw [← List.take_append_getElem hi, sitesOf, List.filterMap_append, ← sitesOf, ← sitesOf,
    sitesOf_cons hrule]
  rfl

/-- The change of an issue that rewrites so many calls. -/
def Issue.counted? (issue : Issue) (count : Nat) : Option Change :=
  if count = 0 then none else some ⟨issue.rule.kind, issue.var, count⟩

theorem Issue.sum_counted? (issue : Issue) (count : Nat) :
    ((issue.counted? count).toList.map Change.replacements).sum = count := by
  unfold counted?
  split_ifs with h
  · exact h.symm
  · rfl

section Trace

variable {content : String} {issues : List Issue} {outcome : Outcome} {texts : Nat → String}
  {counts : Nat → Nat} (h : Trace issues ⟨content, []⟩ outcome texts counts)
  (hproper : ProperIssues issues)
include h hproper

theorem Trace.toList_texts : ∀ i ≤ issues.length,
    (texts i).toList = guardCalls (sitesOf (issues.take i)) [] content.toList
  | 0, _ => by
    rw [h.first, List.take_zero]
    exact (guardCalls_of_no_sites _ _).symm
  | i + 1, hi => by
    have hproper' := hproper _ (List.getElem_mem hi)
    obtain ⟨p, hrule⟩ := Payload.exists_of_mem_builtin hproper'.1
    rw [((h.step i hi).of_rule hrule hproper'.2).1, Trace.toList_texts i (Nat.le_of_lt hi),
      guardCalls_guardCalls (properSites_singleton hproper'.2 p) [] _ [] rfl,
      sitesOf_take_succ hi hrule]

theorem Trace.counts_eq {i : Nat} (hi : i < issues.length) {p : Payload}
    (hrule : issues[i].rule = p.rule) :
    counts i = newCalls (sitesOf (issues.take i)) p issues[i].var.toList content.toList := by
  have hvar := (hproper _ (List.getElem_mem hi)).2
  rw [((h.step i hi).of_rule hrule hvar).2, h.toList_texts hproper i (Nat.le_of_lt hi),
    length_hits_guardCalls _ hvar]

theorem Trace.texts_eq_iff {i : Nat} (hi : i < issues.length) :
    texts (i + 1) = texts i ↔ counts i = 0 := by
  have hproper' := hproper _ (List.getElem_mem hi)
  obtain ⟨p, hrule⟩ := Payload.exists_of_mem_builtin hproper'.1
  obtain ⟨htext, hcount⟩ := (h.step i hi).of_rule hrule hproper'.2
  rw [← String.toList_inj, htext, guardCalls_singleton_eq_iff hproper'.2, hcount,
    List.length_eq_zero_iff, Regex.hits_cut_chars_eq_nil_iff (p.call_ne_nil _)]

/-- The issues that have changes are those with new calls. -/
theorem Trace.changes_eq : outcome.changes =
    issues.zipIdx.filterMap fun (issue, i) => issue.counted? (counts i) := by
  rw [h.changes, List.nil_append]
  refine List.filterMap_congr fun (issue, i) hmem => ?_
  have hi : i < issues.length := by
    have := List.mem_zipIdx hmem
    omega
  simp only [Issue.change?, Issue.counted?, h.texts_eq_iff hproper hi]

/-- **No call is counted twice.** -/
theorem Trace.sum_counts : ∀ k ≤ issues.length,
    (((issues.take k).zipIdx.filterMap fun (issue, i) => issue.counted? (counts i)).map
      Change.replacements).sum = allCalls (sitesOf (issues.take k)) content.toList
  | 0, _ => by
    have hnone : allCalls [] content.toList = 0 := by
      rw [← guardCalls_eq_self_iff, guardCalls_of_no_sites]
    exact hnone.symm
  | k + 1, hk => by
    obtain ⟨p, hrule⟩ := Payload.exists_of_mem_builtin (hproper _ (List.getElem_mem hk)).1
    have hlength : (issues.take k).length = k := List.length_take_of_le (Nat.le_of_lt hk)
    rw [sitesOf_take_succ hk hrule, allCalls_eq_weigh, weigh_concat, ← allCalls_eq_weigh,
      ← Trace.sum_counts k (Nat.le_of_lt hk), Nat.mul_one, ← h.counts_eq hproper hk hrule,
      ← List.take_append_getElem hk, List.zipIdx_append, List.filterMap_append, List.map_append,
      List.sum_append, hlength, Nat.zero_add, List.zipIdx_singleton, List.filterMap_cons,
      List.filterMap_nil]
    congr 1
    refine Eq.trans ?_ (issues[k].sum_counted? (counts k))
    dsimp only
    cases issues[k].counted? (counts k) <;> rfl

end Trace

/-- The changes read off the text before any issue is fixed. -/
structure Accounts (content : String) (issues : List Issue) (outcome : Outcome)
    (counts : Nat → Nat) : Prop where
  /-- The calls of all issues are guarded, and nothing else changes. -/
  rewritten : outcome.content = String.ofList (guardCalls (sitesOf issues) [] content.toList)
  /-- An issue rewrites the calls that no issue before it has. -/
  counts_eq : ∀ i (h : i < issues.length) (p : Payload), issues[i].rule = p.rule →
    counts i = newCalls (sitesOf (issues.take i)) p issues[i].var.toList content.toList
  /-- It rewrites any exactly if its setter, and none of the earlier ones, is in front of some
  payload. -/
  counts_ne_zero_iff : ∀ i (h : i < issues.length) (p : Payload), issues[i].rule = p.rule →
    (counts i ≠ 0 ↔ ∃ before after, content.toList = before ++ (p.argument ++ after) ∧
      setter issues[i].var.toList <:+ before ∧
      ∀ w, (p, w) ∈ sitesOf (issues.take i) → ¬ setter w <:+ before)
  changes_eq : outcome.changes = issues.zipIdx.filterMap fun (issue, i) =>
    if counts i = 0 then none else some ⟨issue.rule.kind, issue.var, counts i⟩
  sublist : (outcome.changes.map fun change => (change.kind, change.var)).Sublist
    (issues.map fun issue => (issue.rule.kind, issue.var))
  sum_replacements : (outcome.changes.map Change.replacements).sum =
    allCalls (sitesOf issues) content.toList
  eq_nil_iff : outcome.changes = [] ↔ outcome.content = content

theorem changes_eq_nil_iff {issues : List Issue} {outcome : Outcome} {counts : Nat → Nat}
    (h : outcome.changes = issues.zipIdx.filterMap fun (issue, i) => issue.counted? (counts i)) :
    outcome.changes = [] ↔ (outcome.changes.map Change.replacements).sum = 0 := by
  rw [List.sum_eq_zero_iff_forall_eq_nat, List.forall_mem_map, List.eq_nil_iff_forall_not_mem]
  refine forall_congr' fun change => ⟨fun hnot hmem => absurd hmem hnot, fun hzero hmem => ?_⟩
  have hcount := hzero hmem
  rw [h, List.mem_filterMap] at hmem
  obtain ⟨⟨issue, i⟩, -, hchange⟩ := hmem
  dsimp only [Issue.counted?] at hchange
  split_ifs at hchange with hne
  obtain rfl := Option.some.inj hchange
  exact hne hcount

theorem Trace.accounts {content : String} {issues : List Issue} {outcome : Outcome}
    {texts : Nat → String} {counts : Nat → Nat}
    (h : Trace issues ⟨content, []⟩ outcome texts counts) (hproper : ProperIssues issues) :
    Accounts content issues outcome counts := by
  have hcontent : outcome.content.toList = guardCalls (sitesOf issues) [] content.toList := by
    rw [← h.last, h.toList_texts hproper _ (Nat.le_refl _), List.take_length]
  have hsum := h.sum_counts hproper issues.length (Nat.le_refl _)
  rw [List.take_length, ← h.changes_eq hproper] at hsum
  refine ⟨?_, fun i hi p hrule => h.counts_eq hproper hi hrule, fun i hi p hrule => ?_,
    h.changes_eq hproper, h.sublist, hsum, ?_⟩
  · rw [← hcontent, String.ofList_toList]
  · rw [h.counts_eq hproper hi hrule, newCalls_ne_zero_iff]
  · rw [changes_eq_nil_iff (h.changes_eq hproper), hsum, ← guardCalls_eq_self_iff, ← hcontent,
      String.toList_inj]

/-- **Change accounting.** Take issues of the builtin rules for words. If all their calls are short
enough to be patterns, then fixing succeeds, and each issue has a change exactly if its setter
stands in front of its payload somewhere in the original text where no setter of an earlier issue
with this payload does; the change counts these places. So the changes are in the order of the
issues, they count every rewritten call once, and there are none exactly if the text stays the same.
Otherwise fixing fails. -/
theorem fixContent_accounts (content : String) (issues : List Issue)
    (hproper : ∀ issue ∈ issues,
      issue.rule ∈ Registry.builtin.rules ∧ IsWord issue.var.toList) :
    (SitesFit (sitesOf issues) → ∃ outcome counts, fixContent content issues = .ok outcome ∧
      Accounts content issues outcome counts) ∧
    (¬ SitesFit (sitesOf issues) → ∃ e, fixContent content issues = .error e) := by
  refine ⟨fun hfit => ?_, fixContent_of_not_fit content hproper⟩
  have hdetector : ∀ issue ∈ issues, ∃ re, issue.rule.detector issue.var = .ok re := by
    intro issue hmem
    obtain ⟨p, hrule⟩ := Payload.exists_of_mem_builtin (hproper issue hmem).1
    rw [hrule, p.detector_rule, if_pos (hfit _ (mem_sitesOf.2 ⟨issue, hmem, hrule, rfl⟩))]
    exact ⟨_, rfl⟩
  obtain ⟨outcome, texts, counts, hfix, htrace⟩ := exists_trace issues ⟨content, []⟩ hdetector
  exact ⟨outcome, counts, hfix, htrace.accounts hproper⟩

/-- The setter of `setX` ends in that of `X`. The issue of `X` comes first and counts both calls, so
that of `setX` has no change. -/
theorem fixContent_accounts_setters :
    ∃ outcome, ∃ counts : Nat → Nat, fixContent "setsetX(response.data); setX(response.data)"
        [⟨Registry.directData, "X", ⟨1, 1, ""⟩⟩, ⟨Registry.directData, "setX", ⟨1, 1, ""⟩⟩] =
          .ok outcome ∧
      outcome.changes = [⟨"direct-response-data", "X", 2⟩] ∧ counts 1 = 0 := by
  obtain ⟨outcome, counts, hfix, haccounts⟩ := (fixContent_accounts
    "setsetX(response.data); setX(response.data)"
    [⟨Registry.directData, "X", ⟨1, 1, ""⟩⟩, ⟨Registry.directData, "setX", ⟨1, 1, ""⟩⟩]
    (by decide)).1 (by decide)
  have hfirst : counts 0 = 2 :=
    (haccounts.counts_eq 0 (by decide) .data rfl).trans (by decide)
  have hsecond : counts 1 = 0 :=
    (haccounts.counts_eq 1 (by decide) .data rfl).trans (by decide)
  refine ⟨outcome, counts, hfix, ?_, hsecond⟩
  rw [haccounts.changes_eq]
  simp [hfirst, hsecond, Registry.directData]

/-- A call of 330000 letters is written once, and yet there is no change for it. -/
theorem fixContent_long_call :
    IsWord (List.replicate 330000 'a') ∧
      newCalls [] .data (List.replicate 330000 'a')
        (Payload.data.call (List.replicate 330000 'a')) ≠ 0 ∧
      ∃ e, fixContent (String.ofList (Payload.data.call (List.replicate 330000 'a')))
        [⟨Registry.directData, String.ofList (List.replicate 330000 'a'), ⟨1, 1, ""⟩⟩] =
          .error e := by
  refine ⟨isWord_replicate (by decide), newCalls_ne_zero_iff.2 ?_,
    fixContent_replicate _ ⟨1, 1, ""⟩ (by decide)⟩
  exact ⟨setter (List.replicate 330000 'a'), [], by rw [Payload.call, List.append_nil],
    List.suffix_rfl, fun _ hmem => absurd hmem List.not_mem_nil⟩

end TableGuard
