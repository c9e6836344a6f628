import TableGuard.Proofs.Json.Reader
import TableGuard.Proofs.Result

/-!
# Reading no more than a value

A reader that is put in front of a value either fails or takes all of the value, even if the value is
not the one that was expected. So whoever reads on afterwards begins exactly behind the value.

* `skipText?_of_readTextFrom?` : a string that is read is passed over in the same way;
* `IsValue.kinds` : what a value is, by its first character;
* `Exact` : a reader that takes the whole value if it succeeds;
* `exact_string`, `exact_skip`, `Exact.list` : readers that are exact;
* `Took`, `ExactFields.readObject` : an object that is read, field by field.
-/

namespace TableGuard.Json

/-! ## Strings -/

theorem skipText?_of_readTextFrom? (done text : List Char) {s rest : List Char}
    (h : readTextFrom? done text = some (s, rest)) : skipText? text = some rest := by
  fun_induction readTextFrom? done text <;> simp_all [skipText?]

theorem eq_of_readText? {body s rest rest' : List Char} (hbody : IsString body)
    (h : readText? (body ++ '"' :: rest) = some (s, rest')) : rest' = rest := by
  have hskip := skipText?_of_readTextFrom? [] _ h
  rw [skipText?_string hbody] at hskip
  exact (Option.some.inj hskip).symm

/-! ## Kinds of values -/

/-- The characters with which strings and compound values begin. -/
def openings : List Char := ['"', '[', '{']

theorem IsValue.kinds {v : List Char} (h : IsValue v) :
    (∃ body, IsString body ∧ v = '"' :: (body ++ ['"'])) ∨
    (∃ pad elements, pad.all isBlank = true ∧
      (∀ e : Padded (List Char), e ∈ elements → IsValue e.item) ∧ v = Json.sequence pad elements) ∨
    (∃ pad members, pad.all isBlank = true ∧
      (∀ m : Padded Member, m ∈ members → IsString m.item.key ∧ IsValue m.item.value) ∧
      v = Json.object pad members) ∨
    ∃ c tail, v = c :: tail ∧ c ∉ openings := by
  cases h with
  | word hmem =>
    refine .inr (.inr (.inr ?_))
    simp only [words, List.mem_cons, List.not_mem_nil, or_false] at hmem
    rcases hmem with rfl | rfl | rfl <;> exact ⟨_, _, rfl, by decide⟩
  | number hnumber =>
    obtain ⟨c, tail, rfl, hc⟩ := hnumber.exists_cons
    refine .inr (.inr (.inr ⟨c, tail, rfl, fun hmem => (ne_of_number hc).2 ?_⟩))
    simp only [openings, List.mem_cons, List.not_mem_nil, or_false] at hmem
    rcases hmem with rfl | rfl | rfl <;> decide
  | string hbody => exact .inl ⟨_, hbody, rfl⟩
  | sequence hpad hvalues => exact .inr (.inl ⟨_, _, hpad, hvalues, rfl⟩)
  | object hpad hkeys hvalues =>
    exact .inr (.inr (.inl ⟨_, _, hpad, fun m hm => ⟨hkeys m hm, hvalues m hm⟩, rfl⟩))

section Kinds

variable {v rest tail : List Char}

theorem IsValue.string_of_append (h : IsValue v) (htail : v ++ rest = '"' :: tail) :
    ∃ body, IsString body ∧ tail = body ++ '"' :: rest := by
  rcases h.kinds with ⟨body, hbody, rfl⟩ | ⟨pad, elements, -, -, rfl⟩ | ⟨pad, members, -, -, rfl⟩ |
    ⟨c, more, rfl, hc⟩
  · refine ⟨body, hbody, ?_⟩
    simpa using (List.cons.inj htail).2.symm
  · exact absurd (List.cons.inj htail).1 (by decide)
  · exact absurd (List.cons.inj htail).1 (by decide)
  · rw [(List.cons.inj htail).1] at hc
    exact absurd hc (by decide)

theorem IsValue.sequence_of_append (h : IsValue v) (htail : v ++ rest = '[' :: tail) :
    ∃ pad elements, pad.all isBlank = true ∧
      (∀ e : Padded (List Char), e ∈ elements → IsValue e.item) ∧
      tail = pad ++ (listed id elements ++ ']' :: rest) := by
  rcases h.kinds with ⟨body, -, rfl⟩ | ⟨pad, elements, hpad, hvalues, rfl⟩ |
    ⟨pad, members, -, -, rfl⟩ | ⟨c, more, rfl, hc⟩
  · exact absurd (List.cons.inj htail).1 (by decide)
  · refine ⟨pad, elements, hpad, hvalues, ?_⟩
    simpa using (List.cons.inj htail).2.symm
  · exact absurd (List.cons.inj htail).1 (by decide)
  · rw [(List.cons.inj htail).1] at hc
    exact absurd hc (by decide)

theorem IsValue.object_of_append (h : IsValue v) (htail : v ++ rest = '{' :: tail) :
    ∃ pad members, pad.all isBlank = true ∧
      (∀ m : Padded Member, m ∈ members → IsString m.item.key ∧ IsValue m.item.value) ∧
      tail = pad ++ (listed Member.text members ++ '}' :: rest) := by
  rcases h.kinds with ⟨body, -, rfl⟩ | ⟨pad, elements, -, -, rfl⟩ |
    ⟨pad, members, hpad, hmembers, rfl⟩ | ⟨c, more, rfl, hc⟩
  · exact absurd (List.cons.inj htail).1 (by decide)
  · exact absurd (List.cons.inj htail).1 (by decide)
  · refine ⟨pad, members, hpad, hmembers, ?_⟩
    simpa using (List.cons.inj htail).2.symm
  · rw [(List.cons.inj htail).1] at hc
    exact absurd hc (by decide)

end Kinds

/-! ## Values -/

/-- If the reader succeeds on a value, it takes all of the value and nothing of what follows. -/
def Exact {α : Type} (reader : Reader α) : Prop :=
  ∀ {v rest rest' : List Char} {x : α} (blanks : List Char), IsValue v →
    blanks.all isBlank = true → Stops rest →
      reader (blanks ++ (v ++ rest)) = .ok (x, rest') → rest' = rest

theorem exact_skip : Exact fun text => (skip text).map ((), ·) := by
  intro v rest rest' x blanks hv hblanks hrest hread
  simp only [skip_value hv hblanks hrest, Except.map, Except.ok.injEq, Prod.mk.injEq] at hread
  exact hread.2.symm

theorem exact_string : Exact readString := by
  intro v rest rest' s blanks hv hblanks _ hread
  rw [readString, hv.starts.dropBlanks hblanks] at hread
  split at hread
  · rename_i tail htail
    obtain ⟨body, hbody, rfl⟩ := hv.string_of_append htail
    split at hread
    · rename_i htext
      rw [eq_of_readText? hbody htext] at hread
      exact (Prod.mk.inj (Except.ok.inj hread)).2.symm
    · cases hread
  · cases hread

section Sequences

variable {α : Type} {element : Reader α}

theorem eq_of_endSequence {blanks rest rest' : List Char} {elements : List (Padded (List Char))}
    (hblanks : blanks.all isBlank = true)
    (h : endSequence (blanks ++ (unread false elements ++ ']' :: rest)) = .ok rest') :
    rest' = rest := by
  rw [unread, if_neg Bool.false_ne_true] at h
  cases elements with
  | nil =>
    rw [further_nil, List.nil_append, endSequence_nil hblanks] at h
    exact (Except.ok.inj h).symm
  | cons e elements =>
    rw [further_cons, List.cons_append, endSequence,
      dropBlanks_append_cons hblanks (by decide)] at h
    cases h

theorem stops_unread (e : Padded (List Char)) (elements : List (Padded (List Char)))
    (rest : List Char) : Stops (e.after ++ (unread false elements ++ ']' :: rest)) :=
  stops_after id e elements (by decide) rest

theorem Exact.readElements (h : Exact element) {rest rest' : List Char} {ys : List α} :
    ∀ (done : List α) {elements : List (Padded (List Char))} {fuel : Nat} {blanks : List Char},
      (∀ e ∈ elements, IsValue e.item) → blanks.all isBlank = true →
      readElements element fuel done (blanks ++ (unread done.isEmpty elements ++ ']' :: rest)) =
        .ok (ys, rest') → rest' = rest
  | _, _, 0, _, _, _, hread => by cases hread
  | done, [], fuel + 1, _, _, hblanks, hread => by
    have hnil : unread done.isEmpty [] = [] := by cases done <;> rfl
    rw [Json.readElements, nextElement_nil _ hblanks, hnil, List.nil_append] at hread
    simp only [bind, Except.bind, endSequence_nil hblanks] at hread
    exact (Prod.mk.inj (Except.ok.inj hread)).2.symm
  | done, e :: elements, fuel + 1, _, hvalues, hblanks, hread => by
    obtain ⟨he, hvalues⟩ := List.forall_mem_cons.1 hvalues
    rw [Json.readElements, nextElement_cons _ hblanks he.starts] at hread
    obtain ⟨_, ⟨⟩, hread⟩ := bind_eq_ok_iff.1 hread
    obtain ⟨⟨x, rest₁⟩, hx, hread⟩ := bind_eq_ok_iff.1 hread
    obtain rfl := h [] he rfl (stops_unread e elements rest) hx
    exact h.readElements (x :: done) hvalues e.blank_after hread

theorem Exact.list (h : Exact element) : Exact (readList element) := by
  intro v rest rest' ys blanks hv hblanks _ hread
  rw [readList, hv.starts.dropBlanks hblanks] at hread
  split at hread
  · rename_i tail htail
    obtain ⟨pad, elements, hpad, hvalues, rfl⟩ := hv.sequence_of_append htail
    exact h.readElements [] hvalues hpad hread
  · cases hread

end Sequences

/-! ## Objects -/

/-- Fields that were read one after another, with what was gathered before and after them. A key
spells at most one name, under which its field was read. -/
inductive Took {σ : Type} (field : String → σ → Reader σ) : σ → List (Padded Member) → σ → Prop
  | nil (s : σ) : Took field s [] s
  | cons {s s' s'' : σ} {name : String} {text rest : List Char} {m : Padded Member}
      {members : List (Padded Member)} :
      (∀ name' : String, Spells m.item.key name'.toList → name' = name) →
      field name s text = .ok (s', rest) → Took field s' members s'' →
        Took field s (m :: members) s''

theorem Exact.afterColon {α : Type} {reader : Reader α} (h : Exact reader) {m : Member}
    (hvalue : IsValue m.value) {x : α} {rest rest' : List Char} (hrest : Stops rest)
    (hread : afterColon reader (m.tail ++ rest) = .ok (x, rest')) : rest' = rest := by
  rw [m.tail_append, Json.afterColon, dropBlanks_append_cons m.blank_gap (by decide)] at hread
  exact h m.pad hvalue m.blank_pad hrest hread

/-- If the reader of fields succeeds behind a key, it takes all of the value that belongs to it. -/
def ExactFields {σ : Type} (field : String → σ → Reader σ) : Prop :=
  ∀ {name : String} {s s' : σ} {m : Member} {rest rest' : List Char}, IsValue m.value →
    Stops rest → field name s (m.tail ++ rest) = .ok (s', rest') → rest' = rest

section Objects

variable {σ : Type} {field : String → σ → Reader σ}

theorem ExactFields.readMember (h : ExactFields field) {m : Member} (hkey : IsString m.key)
    (hvalue : IsValue m.value) {s s' : σ} {rest rest' : List Char} (hrest : Stops rest)
    (hread : readMember field s (m.key ++ '"' :: (m.tail ++ rest)) = .ok (s', rest')) :
    rest' = rest ∧ ∃ name, field name s (m.tail ++ rest) = .ok (s', rest) ∧
      ∀ name' : String, Spells m.key name'.toList → name' = name := by
  rw [Json.readMember] at hread
  split at hread
  · rename_i text rest₁ htext
    obtain rfl := eq_of_readText? hkey htext
    obtain rfl := h hvalue hrest hread
    refine ⟨rfl, _, hread, fun name' hname => ?_⟩
    rw [readText?_of_spells hname, Option.some.injEq, Prod.mk.injEq] at htext
    rw [← htext.1, String.ofList_toList]
  · cases hread

theorem ExactFields.readMembers_further (h : ExactFields field) {rest rest' : List Char} {s' : σ} :
    ∀ {members : List (Padded Member)} {fuel : Nat} {s : σ} {blanks : List Char},
      (∀ m ∈ members, IsString m.item.key ∧ IsValue m.item.value) → blanks.all isBlank = true →
      readMembers field fuel s (blanks ++ (further Member.text members ++ '}' :: rest)) =
        .ok (s', rest') → rest' = rest ∧ Took field s members s'
  | _, 0, _, _, _, _, hread => by cases hread
  | [], fuel + 1, s, blanks, _, hblanks, hread => by
    rw [further_nil, List.nil_append, readMembers,
      dropBlanks_append_cons hblanks (by decide)] at hread
    obtain ⟨rfl, rfl⟩ := Prod.mk.inj (Except.ok.inj hread)
    exact ⟨rfl, .nil _⟩
  | m :: members, fuel + 1, s, blanks, hmembers, hblanks, hread => by
    obtain ⟨⟨hkey, hvalue⟩, hmembers⟩ := List.forall_mem_cons.1 hmembers
    have hstops := stops_after Member.text m members (c := '}') (by decide) rest
    simp only [further_cons, List.cons_append, List.append_assoc] at hread
    rw [readMembers, dropBlanks_append_cons hblanks (by decide)] at hread
    simp only [] at hread
    rw [m.item.text_append, dropBlanks_append_cons m.blank_before (by decide)] at hread
    obtain ⟨⟨s₁, rest₁⟩, hfield, hread⟩ := bind_eq_ok_iff.1 hread
    obtain ⟨rfl, name, hfield, hname⟩ := h.readMember hkey hvalue hstops hfield
    obtain ⟨hrest, htook⟩ := h.readMembers_further hmembers m.blank_after hread
    exact ⟨hrest, .cons hname hfield htook⟩

/-- **A reader of objects takes them whole**, after the opening brace, and has read their fields one
after another. -/
theorem ExactFields.readObject (h : ExactFields field) {pad rest rest' : List Char}
    {members : List (Padded Member)} (hpad : pad.all isBlank = true)
    (hmembers : ∀ m ∈ members, IsString m.item.key ∧ IsValue m.item.value) {s s' : σ}
    (hread : readObject field s (pad ++ (listed Member.text members ++ '}' :: rest)) =
      .ok (s', rest')) : rest' = rest ∧ Took field s members s' := by
  cases members with
  | nil =>
    rw [listed, List.nil_append, Json.readObject, dropBlanks_append_cons hpad (by decide)] at hread
    obtain ⟨rfl, rfl⟩ := Prod.mk.inj (Except.ok.inj hread)
    exact ⟨rfl, .nil _⟩
  | cons m members =>
    obtain ⟨⟨hkey, hvalue⟩, hmembers⟩ := List.forall_mem_cons.1 hmembers
    have hstops := stops_after Member.text m members (c := '}') (by decide) rest
    simp only [listed_cons, List.append_assoc] at hread
    rw [Json.readObject, dropBlanks_append hpad, m.item.text_append,
      dropBlanks_append_cons m.blank_before (by decide)] at hread
    obtain ⟨⟨s₁, rest₁⟩, hfield, hread⟩ := bind_eq_ok_iff.1 hread
    obtain ⟨rfl, name, hfield, hname⟩ := h.readMember hkey hvalue hstops hfield
    obtain ⟨hrest, htook⟩ := h.readMembers_further hmembers m.blank_after hread
    exact ⟨hrest, .cons hname hfield htook⟩

end Objects

end TableGuard.Json
