import TableGuard.Proofs.Config

/-!
# Valid rules

Rules are checked one after another, each by itself and then against the kinds of those before. So
the rules of a registry are valid exactly if each of them is and no kind comes twice; otherwise the
first rule that does not pass decides the error.

* `Registry.accept`, `Registry.validateRules_cons` : the check of one rule, and the next step;
* `Registry.validateRules_eq_ok_iff`, `Registry.validateRules_eq_error_iff` : a check of some rules;
* `Registry.validate_of_mem`, `Registry.nodup_kinds` : the rules of a valid registry are valid, and
  their kinds differ;
* `Registry.validate_withExtra` : the check of the builtin rules and others behind them.
-/

namespace TableGuard

namespace Registry

/-! ## One rule -/

/-- Checks one rule, by itself and then against the kinds of those before. -/
def accept (seen : List String) (rule : Rule) : Except Error Unit := do
  rule.validate
  if seen.contains rule.kind then .error (.plain (.duplicateKind rule.kind)) else .ok ()

theorem accept_eq_ok_iff {seen : List String} {rule : Rule} :
    accept seen rule = .ok () ↔ rule.validate = .ok () ∧ rule.kind ∉ seen := by
  unfold accept
  rw [bind_eq_ok_iff]
  constructor
  · rintro ⟨⟨⟩, hvalid, h⟩
    split_ifs at h with hseen
    rw [List.contains_iff_mem] at hseen
    exact ⟨hvalid, hseen⟩
  · rintro ⟨hvalid, hseen⟩
    refine ⟨(), hvalid, if_neg ?_⟩
    rwa [List.contains_iff_mem]

/-- What is wrong with a rule itself comes before what is wrong with its kind. -/
theorem accept_eq_error_iff {seen : List String} {rule : Rule} {e : Error} :
    accept seen rule = .error e ↔
      rule.validate = .error e ∨
        rule.validate = .ok () ∧ rule.kind ∈ seen ∧ e = .plain (.duplicateKind rule.kind) := by
  unfold accept
  rw [bind_eq_error_iff]
  refine or_congr_right ⟨?_, ?_⟩
  · rintro ⟨⟨⟩, hvalid, h⟩
    split_ifs at h with hseen
    rw [List.contains_iff_mem] at hseen
    exact ⟨hvalid, hseen, (Except.error.inj h).symm⟩
  · rintro ⟨hvalid, hseen, rfl⟩
    refine ⟨(), hvalid, if_pos ?_⟩
    rwa [List.contains_iff_mem]

/-! ## Some rules -/

theorem validateRules_cons (seen : List String) (rule : Rule) (rules : List Rule) :
    validateRules seen (rule :: rules) =
      accept seen rule >>= fun _ => validateRules (rule.kind :: seen) rules := by
  rw [validateRules, accept]
  cases rule.validate with
  | error e => rfl
  | ok _ =>
    dsimp only [bind, Except.bind]
    split <;> rfl

/-- **Rules pass** if each of them is valid, and their kinds differ from each other and from those
seen before. -/
theorem validateRules_eq_ok_iff {rules : List Rule} : ∀ {seen : List String},
    validateRules seen rules = .ok () ↔
      (∀ rule ∈ rules, rule.validate = .ok ()) ∧ (rules.map Rule.kind).Nodup ∧
        ∀ rule ∈ rules, rule.kind ∉ seen := by
  induction rules with
  | nil => exact fun {seen} => iff_of_true rfl ⟨nofun, List.nodup_nil, nofun⟩
  | cons rule rules ih =>
    intro seen
    rw [validateRules_cons, bind_eq_ok_iff, List.map_cons, List.nodup_cons, List.forall_mem_cons,
      List.forall_mem_cons, List.mem_map]
    constructor
    · rintro ⟨⟨⟩, haccept, hrest⟩
      obtain ⟨hvalid, hseen⟩ := accept_eq_ok_iff.1 haccept
      obtain ⟨hrules, hnodup, hnew⟩ := ih.1 hrest
      refine ⟨⟨hvalid, hrules⟩, ⟨?_, hnodup⟩, hseen, fun other hother hmem => ?_⟩
      · rintro ⟨other, hother, hkind⟩
        exact hnew other hother (hkind ▸ List.mem_cons_self)
      · exact hnew other hother (List.mem_cons_of_mem _ hmem)
    · rintro ⟨⟨hvalid, hrules⟩, ⟨hkind, hnodup⟩, hseen, hnew⟩
      refine ⟨(), accept_eq_ok_iff.2 ⟨hvalid, hseen⟩, ih.2 ⟨hrules, hnodup, ?_⟩⟩
      intro other hother hmem
      rcases List.mem_cons.1 hmem with heq | hmem
      · exact hkind ⟨other, hother, heq⟩
      · exact hnew other hother hmem

/-- The rules behind others are checked against the kinds of those too. -/
theorem validateRules_append {rules : List Rule} (rules' : List Rule) : ∀ {seen : List String},
    validateRules seen rules = .ok () →
      validateRules seen (rules ++ rules') =
        validateRules ((rules.map Rule.kind).reverse ++ seen) rules' := by
  induction rules with
  | nil => exact fun _ => rfl
  | cons rule rules ih =>
    intro seen h
    rw [validateRules_cons, bind_eq_ok_iff] at h
    obtain ⟨⟨⟩, haccept, hrest⟩ := h
    rw [List.cons_append, validateRules_cons, haccept, List.map_cons, List.reverse_cons,
      List.append_assoc]
    exact ih hrest

/-- **Rules fail** at the first of them that is not accepted behind those before it. -/
theorem validateRules_eq_error_iff {rules : List Rule} {e : Error} : ∀ {seen : List String},
    validateRules seen rules = .error e ↔
      ∃ before rule after, rules = before ++ rule :: after ∧
        validateRules seen before = .ok () ∧
        accept ((before.map Rule.kind).reverse ++ seen) rule = .error e := by
  intro seen
  constructor
  · induction rules generalizing seen with
    | nil => exact nofun
    | cons rule rules ih =>
      intro h
      rw [validateRules_cons, bind_eq_error_iff] at h
      rcases h with hrule | ⟨⟨⟩, haccept, hrest⟩
      · exact ⟨[], rule, rules, rfl, rfl, hrule⟩
      · obtain ⟨before, rule', after, rfl, hbefore, hrule'⟩ := ih hrest
        refine ⟨rule :: before, rule', after, rfl, ?_, ?_⟩
        · rw [validateRules_cons, haccept]
          exact hbefore
        · rwa [List.map_cons, List.reverse_cons, List.append_assoc]
  · rintro ⟨before, rule, after, rfl, hbefore, hrule⟩
    rw [validateRules_append _ hbefore, validateRules_cons, hrule]
    rfl

/-! ## Registries -/

theorem validate_of_mem {registry : Registry} (h : registry.validate = .ok ()) {rule : Rule}
    (hmem : rule ∈ registry.rules) : rule.validate = .ok () :=
  (validateRules_eq_ok_iff.1 h).1 rule hmem

theorem nodup_kinds {registry : Registry} (h : registry.validate = .ok ()) :
    (registry.rules.map Rule.kind).Nodup :=
  (validateRules_eq_ok_iff.1 h).2.1

theorem validate_withExtra_eq (extra : List Rule) :
    (withExtra extra).validate =
      validateRules (builtin.rules.map Rule.kind).reverse extra := by
  rw [validate, withExtra, validateRules_append extra validate_builtin, List.append_nil]

theorem get?_eq_some_iff {registry : Registry} (h : (registry.rules.map Rule.kind).Nodup)
    {kind : String} {rule : Rule} :
    registry.get? kind = some rule ↔
      ∃ before after, registry.rules = before ++ rule :: after ∧ rule.kind = kind ∧
        ∀ other ∈ before ++ after, other.kind ≠ kind := by
  unfold get?
  rw [List.find?_eq_some_iff_append]
  constructor
  · rintro ⟨hkind, before, after, hrules, hbefore⟩
    obtain rfl := beq_iff_eq.1 hkind
    refine ⟨before, after, hrules, rfl, fun other hother => ?_⟩
    rw [hrules, List.map_append, List.map_cons, List.nodup_middle, List.nodup_cons,
      ← List.map_append] at h
    exact fun heq => h.1 (heq ▸ List.mem_map_of_mem hother)
  · rintro ⟨before, after, hrules, rfl, hothers⟩
    refine ⟨beq_self_eq_true _, before, after, hrules, fun other hother => ?_⟩
    rw [Bool.not_eq_true', beq_eq_false_iff_ne]
    exact hothers other (List.mem_append_left after hother)

/-- **The check of a registry.** The builtin rules and others behind them pass exactly if each of the
others is valid and no two of all the rules have the same kind. Otherwise the error is that of the
first of the others that is not valid itself, or else has the kind of a rule before it. In a
registry that passes, a look-up finds the one rule of the kind, and nothing if there is none. -/
theorem validate_withExtra (extra : List Rule) :
    ((withExtra extra).validate = .ok () ↔
      (∀ rule ∈ extra, rule.validate = .ok ()) ∧
        ((withExtra extra).rules.map Rule.kind).Nodup) ∧
    (∀ e, (withExtra extra).validate = .error e ↔
      ∃ before rule after, extra = before ++ rule :: after ∧
        (∀ other ∈ before, other.validate = .ok ()) ∧
        ((builtin.rules ++ before).map Rule.kind).Nodup ∧
        (rule.validate = .error e ∨
          rule.validate = .ok () ∧ rule.kind ∈ (builtin.rules ++ before).map Rule.kind ∧
            e = .plain (.duplicateKind rule.kind))) ∧
    ((withExtra extra).validate = .ok () → ∀ kind,
      (∀ rule, (withExtra extra).get? kind = some rule ↔
        ∃ before after, (withExtra extra).rules = before ++ rule :: after ∧ rule.kind = kind ∧
          ∀ other ∈ before ++ after, other.kind ≠ kind) ∧
      ((withExtra extra).get? kind = none ↔
        ∀ rule ∈ (withExtra extra).rules, rule.kind ≠ kind)) := by
  have hok : ∀ rules, (withExtra rules).validate = .ok () ↔
      (∀ rule ∈ rules, rule.validate = .ok ()) ∧
        ((builtin.rules ++ rules).map Rule.kind).Nodup := by
    intro rules
    have hbuiltin := (validateRules_eq_ok_iff.1 validate_builtin).1
    rw [validate, validateRules_eq_ok_iff, withExtra, List.forall_mem_append]
    exact ⟨fun h => ⟨h.1.2, h.2.1⟩, fun h => ⟨⟨hbuiltin, h.1⟩, h.2, fun _ _ => List.not_mem_nil⟩⟩
  refine ⟨hok extra, fun e => ?_, fun hvalid kind => ⟨fun rule => ?_, ?_⟩⟩
  · rw [validate_withExtra_eq, validateRules_eq_error_iff]
    simp only [← validate_withExtra_eq, hok, accept_eq_error_iff, and_assoc, List.map_append,
      List.mem_append, List.mem_reverse, or_comm]
  · exact get?_eq_some_iff ((hok extra).1 hvalid).2
  · simp [get?]

/-- The first builtin rule under another kind. -/
def ofKind (kind : String) : Rule := { directData with kind := kind }

/-- Rules of new kinds pass, and each is found under its kind. A rule that has the kind of a builtin
one does not, and is reported although a rule behind it is not even valid itself. -/
theorem validate_withExtra_kinds :
    (withExtra [ofKind "a", ofKind "b"]).validate = .ok () ∧
      (withExtra [ofKind "a", ofKind "b"]).get? "b" = some (ofKind "b") ∧
      (withExtra [ofKind "a", ofKind "b"]).get? "c" = none ∧
      (withExtra [ofKind "a", ofKind "response-data-list", ofKind " "]).validate =
        .error (.plain (.duplicateKind "response-data-list")) := by
  have hvalid : ∀ kind ∈ ["a", "b", "response-data-list"], (ofKind kind).validate = .ok () := by
    intro kind hkind
    refine eq_ok_of_toOption ?_
    revert kind
    decide +kernel
  obtain ⟨hok, -, hget⟩ := validate_withExtra [ofKind "a", ofKind "b"]
  obtain ⟨-, herror, -⟩ :=
    validate_withExtra [ofKind "a", ofKind "response-data-list", ofKind " "]
  have hpass := hok.2 ⟨by simp [hvalid], by decide⟩
  refine ⟨hpass, ((hget hpass "b").1 _).2 ?_, (hget hpass "c").2.2 (by decide), ?_⟩
  · exact ⟨builtin.rules ++ [ofKind "a"], [], rfl, rfl, by decide⟩
  · exact (herror _).2 ⟨[ofKind "a"], ofKind "response-data-list", [ofKind " "], rfl,
      by simp [hvalid], by decide, .inr ⟨hvalid _ (by decide), by decide, rfl⟩⟩

end Registry

end TableGuard
