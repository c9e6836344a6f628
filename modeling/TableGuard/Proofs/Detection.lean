import TableGuard.Proofs.OnePass
import TableGuard.Proofs.Regex.Occurrences

/-!
# What the builtin rules detect

The pattern of a builtin rule for a variable is a literal, whatever the variable is: its matches are
the occurrences of one call. For variables that are words, a call cannot reach into what a builtin
rule writes: an argument begins with a parenthesis and a setter consists of letters, so the two can
only stand next to each other.

* `Rule.unlimited?`, `Payload.unlimited?_rule` : the detector of a rule, however large;
* `Rule.detects_literally` : what the builtin rules detect;
* `Payload.argument_setter`, `Payload.argument_guarded` : where an argument can begin around a
  setter and in a guard;
* `Payload.call_inert`, `Rule.replacement_inert` : calls around a guarded call.
-/

namespace TableGuard

/-! ## The pattern of a builtin rule -/

/-- The detector of a rule for a variable, however large. -/
def Rule.unlimited? (rule : Rule) (var : String) : Option Regex :=
  (Regex.parse? (rule.pattern var)).map fun e => ⟨.ofExpr e⟩

theorem Payload.unlimited?_rule (p : Payload) (var : String) :
    p.rule.unlimited? var = some ⟨.chars (p.call var.toList)⟩ := by
  rw [Rule.unlimited?, p.pattern_rule, Regex.parse?_quote _ (p.call_ne_nil _)]
  rfl

/-- **The builtin rules detect literally.** Take a builtin rule and any text as the variable. The
pattern can be read whatever the text is, and it is the detector unless it is too large. Its matches
in any text are, by their offsets in bytes, the occurrences of the setter with the payload in
parentheses: from left to right, without those that overlap an earlier one, and nothing else. -/
theorem Rule.detects_literally {rule : Rule} (hrule : rule ∈ Registry.builtin.rules)
    (var : String) : ∃ (p : Payload) (re : Regex), rule = p.rule ∧
      rule.unlimited? var = some re ∧
      rule.detector var =
        (if Utf8.size (p.call var.toList) ≤ Regex.maxLiteral then .ok re
        else .error ⟨[.compiling rule.kind (String.ofList (rule.pattern var))],
          .badPattern (String.ofList (rule.pattern var))⟩) ∧
      ∀ (text : List Char) (spans : List (Nat × Nat)),
        (re.cut text).spans = spans ↔ Regex.Occurrences (p.call var.toList) text spans := by
  obtain ⟨p, rfl⟩ := Payload.exists_of_mem_builtin hrule
  refine ⟨p, ⟨.chars (p.call var.toList)⟩, rfl, p.unlimited?_rule var, p.detector_rule var, ?_⟩
  exact fun text spans => Regex.spans_cut_chars_iff (p.call_ne_nil _)

/-- A variable with signs of patterns and the hole of templates in it. Three setters stand next to
each other, and the call that begins with the second is not matched. -/
theorem Rule.detects_literally_signs : Registry.directData ∈ Registry.builtin.rules ∧ ∃ re,
    Registry.directData.detector "\x7bvar\x7d.*(response.data)set\x7bvar\x7d.*" = .ok re ∧
    (re.cut ("set\x7bvar\x7d.*(response.data)set\x7bvar\x7d.*(response.data)" ++
      "set\x7bvar\x7d.*(response.data)").toList).spans = [(0, 50)] ∧
    Regex.Occurrences "set\x7bvar\x7d.*(response.data)set\x7bvar\x7d.*(response.data)".toList
      ("set\x7bvar\x7d.*(response.data)set\x7bvar\x7d.*(response.data)" ++
        "set\x7bvar\x7d.*(response.data)").toList [(0, 50)] := by
  have hrule : Registry.directData ∈ Registry.builtin.rules := by decide
  obtain ⟨p, re, hp, hre, hdetector, hspans⟩ :=
    Rule.detects_literally hrule "\x7bvar\x7d.*(response.data)set\x7bvar\x7d.*"
  obtain rfl : p = .data := by
    cases p with
    | data => rfl
    | _ => exact absurd hp (by decide)
  rw [hp, Payload.unlimited?_rule, Option.some_inj] at hre
  rw [if_pos (by decide)] at hdetector
  have hcut : (re.cut ("set\x7bvar\x7d.*(response.data)set\x7bvar\x7d.*(response.data)" ++
      "set\x7bvar\x7d.*(response.data)").toList).spans = [(0, 50)] := by
    rw [← hre]
    decide
  exact ⟨hrule, re, hdetector, hcut, (hspans _ _).1 hcut⟩

/-! ## Arguments and setters -/

theorem Payload.mem_of_suffix_argument {p : Payload} {tail : List Char} (hne : tail ≠ [])
    (h : tail <:+ p.text ++ [')']) : '(' ∉ tail ∧ ')' ∈ tail := by
  refine ⟨fun hmem => p.paren_notMem_text (h.mem hmem), ?_⟩
  obtain ⟨init, rfl, -⟩ := (List.suffix_concat_iff.1 h).resolve_left hne
  exact List.mem_append_right _ (List.mem_singleton_self _)

theorem setter_append_ne {p : Payload} {var tail rest after : List Char} (hvar : IsWord var)
    (hne : tail ≠ []) (htail : tail <:+ p.text ++ [')']) :
    setter var ++ '(' :: rest ≠ tail ++ after := by
  intro h
  obtain ⟨hopen, hclose⟩ := Payload.mem_of_suffix_argument hne htail
  rcases List.append_eq_append_iff.1 h with ⟨mid, rfl, hmid⟩ | ⟨mid, hset, -⟩
  · cases mid with
    | nil =>
      rw [List.append_nil] at hclose
      exact hvar.notMem_setter (by decide) hclose
    | cons c mid =>
      obtain rfl := (List.cons.inj hmid).1
      exact hopen (List.mem_append_right _ List.mem_cons_self)
  · refine hvar.notMem_setter (c := ')') (by decide) ?_
    rw [hset]
    exact List.mem_append_left _ hclose

/-- **An argument and the setter of a word in front of a parenthesis are apart**: the argument ends
in the text in front of the setter, or begins behind the setter. -/
theorem Payload.argument_setter {q : Payload} {v left rest front after : List Char} (hv : IsWord v)
    (h : left ++ (setter v ++ '(' :: rest) = front ++ (q.argument ++ after)) :
    front ++ q.argument <+: left ∨ left ++ setter v <+: front := by
  rcases List.append_eq_append_iff.1 h with ⟨mid, rfl, hmid⟩ | ⟨tail, rfl, htail⟩
  · right
    rw [List.prefix_append_right_inj]
    rcases List.append_eq_append_iff.1 hmid with ⟨inner, rfl, -⟩ | ⟨tail, hset, htail⟩
    · exact List.prefix_append _ _
    · cases tail with
      | nil => rw [hset, List.append_nil]
      | cons c tail =>
        obtain rfl := (List.cons.inj htail).1
        refine absurd ?_ (hv.notMem_setter (c := '(') (by decide))
        rw [hset]
        exact List.mem_append_right _ List.mem_cons_self
  · left
    rw [List.prefix_append_right_inj]
    rcases List.append_eq_append_iff.1 htail with ⟨rest', rfl, -⟩ | ⟨rest', hargument, hrest⟩
    · exact List.prefix_append _ _
    · -- The argument goes on in the setter, or has not begun in front of it.
      by_cases hne : rest' = []
      · rw [hargument, hne, List.append_nil]
      · cases tail with
        | nil =>
          rw [← List.nil_append rest', ← hargument] at hrest
          exact absurd (List.cons.inj hrest).1 (by decide)
        | cons c tail =>
          rw [argument, List.cons_append, List.cons_eq_cons] at hargument
          exact absurd hrest (setter_append_ne hv hne ⟨tail, hargument.2.symm⟩)

/-- An argument of the setter of a word that does not begin in front of a guard begins behind it. -/
theorem Payload.argument_guarded {p q : Payload} {w before right mid after : List Char}
    (hw : IsWord w) (hset : setter w <:+ before ++ mid)
    (h : p.guarded ++ right = mid ++ (q.argument ++ after)) : p.guarded <+: mid := by
  rcases List.append_eq_append_iff.1 h with ⟨rest, rfl, -⟩ | ⟨rest, hguarded, hrest⟩
  · exact List.prefix_append _ _
  · by_cases hne : rest = []
    · rw [hguarded, hne, List.append_nil]
    · have hnone := siteAt?_guarded (properSites_singleton hw q) hguarded hne before.reverse right
      refine absurd hnone ?_
      rw [← hrest, ← List.reverse_append, siteAt?_eq_none_iff]
      intro hno
      refine hno q (List.prefix_append _ _) w (List.mem_singleton_self _) ?_
      rwa [List.reverse_prefix]

/-- **A guard is inert.** Wherever a call of a word stands around a guarded call, it ends in the
text in front of that or begins in the text behind it. -/
theorem Payload.call_inert {p q : Payload} {v w left right before after : List Char}
    (hv : IsWord v) (hw : IsWord w)
    (h : left ++ (p.guardedCall v ++ right) = before ++ (q.call w ++ after)) :
    before ++ q.call w <+: left ∨ left ++ p.guardedCall v <+: before := by
  have hplace : left ++ (setter v ++ (p.guarded ++ right)) =
      (before ++ setter w) ++ (q.argument ++ after) := by
    simpa [guardedCall, call] using h
  have hsides := hplace
  rw [p.guarded_eq, List.cons_append] at hsides
  rw [call, ← List.append_assoc]
  refine (argument_setter hv hsides).imp_right ?_
  rintro ⟨mid, hmid⟩
  rw [← hmid, ← List.append_assoc, List.append_assoc _ mid, List.append_cancel_left_eq] at hplace
  obtain ⟨inner, rfl⟩ := argument_guarded hw ⟨before, hmid.symm⟩ hplace
  rw [← List.append_assoc, List.append_assoc left, ← guardedCall] at hmid
  rcases List.append_eq_append_iff.1 hmid with ⟨rest, rfl, -⟩ | ⟨last, hend, hset⟩
  · exact List.prefix_append _ _
  · -- The setter of the call would reach back to the parenthesis at the end of the guard.
    by_cases hne : last = []
    · rw [hend, hne, List.append_nil]
    · rw [p.guardedCall_eq_concat, ← List.append_assoc] at hend
      obtain ⟨init, rfl, -⟩ := (List.suffix_concat_iff.1 ⟨before, hend.symm⟩).resolve_left hne
      refine absurd ?_ (hw.notMem_setter (c := ')') (by decide))
      simp [hset]

/-! ## Guarded calls -/

/-- **Guards are inert.** Take two builtin rules and two words, write what the first rule writes
for the first word, and any texts around it. Every match of the second rule for the second word ends
in the text in front, or begins in the text behind. -/
theorem Rule.replacement_inert {rule rule' : Rule} (hrule : rule ∈ Registry.builtin.rules)
    (hrule' : rule' ∈ Registry.builtin.rules) {var var' : String} (hvar : IsWord var.toList)
    (hvar' : IsWord var'.toList) (left right : List Char) : ∃ re,
      rule'.unlimited? var' = some re ∧
      (∀ re', rule'.detector var' = .ok re' → re' = re) ∧
      ∀ span ∈ (re.cut (left ++ ((rule.replacement var).toList ++ right))).spans,
        span.2 ≤ Utf8.size left ∨
          Utf8.size left + Utf8.size (rule.replacement var).toList ≤ span.1 := by
  obtain ⟨p, rfl⟩ := Payload.exists_of_mem_builtin hrule
  obtain ⟨q, rfl⟩ := Payload.exists_of_mem_builtin hrule'
  refine ⟨⟨.chars (q.call var'.toList)⟩, q.unlimited?_rule var',
    fun re' hre' => q.eq_of_detector_rule hre', fun span hmem => ?_⟩
  rw [p.replacement_rule] at hmem ⊢
  obtain ⟨before, after, htext, rfl⟩ :=
    (Regex.occurrences_cut_chars (q.call_ne_nil _) _).stands span hmem
  rcases Payload.call_inert hvar hvar' htext with ⟨rest, hleft⟩ | ⟨rest, rfl⟩
  · left
    rw [← hleft, Utf8.size_append, Utf8.size_append]
    exact Nat.le_add_right _ _
  · right
    rw [Utf8.size_append, Utf8.size_append]
    exact Nat.le_add_right _ _

/-- There are matches on both sides of the guarded call, and none that reaches into it. -/
theorem Rule.replacement_inert_sides : ∃ re,
    Registry.directData ∈ Registry.builtin.rules ∧ IsWord "Rows".toList ∧ IsWord "s".toList ∧
    Registry.directData.unlimited? "s" = some re ∧
    (re.cut ("sets(response.data);set".toList ++
      ((Registry.directData.replacement "Rows").toList ++ "sets(response.data)".toList))).spans =
        [(0, 19), (81, 100)] ∧
    ∀ span ∈ [(0, 19), (81, 100)],
      span.2 ≤ Utf8.size "sets(response.data);set".toList ∨
        Utf8.size "sets(response.data);set".toList +
          Utf8.size (Registry.directData.replacement "Rows").toList ≤ span.1 := by
  have hrule : Registry.directData ∈ Registry.builtin.rules := by decide
  have hrows : IsWord "Rows".toList := by decide
  have hs : IsWord "s".toList := by decide
  obtain ⟨re, hre, -, hspans⟩ := Rule.replacement_inert hrule hrule hrows hs
    "sets(response.data);set".toList "sets(response.data)".toList
  have hcut : (re.cut ("sets(response.data);set".toList ++
      ((Registry.directData.replacement "Rows").toList ++ "sets(response.data)".toList))).spans =
        [(0, 19), (81, 100)] := by
    have hpattern := Payload.unlimited?_rule .data "s"
    rw [show Payload.data.rule = Registry.directData from rfl, hre, Option.some_inj] at hpattern
    rw [hpattern]
    decide
  rw [hcut] at hspans
  exact ⟨re, hrule, hrows, hs, hre, hcut, hspans⟩

end TableGuard
