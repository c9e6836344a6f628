import TableGuard.Proofs.Guard
import TableGuard.Proofs.Regex.Cover
import TableGuard.Proofs.Regex.Local.Piece

/-!
# Where a variable stands in a pattern

The pattern of a rule is checked for a sample variable only. That says nothing of other variables
where the name becomes part of a larger piece of the pattern, such as a range or the name of a group.
Where each place for the variable stands between whole pieces, a pattern that is well formed for the
sample is so for every word.

* `Template.stretches` : the stretches of a template between its places;
* `Reading.readWhole?` : reads a stretch that ends where a piece ends;
* `Rule.isOpen` : whether every place of a rule stands between whole pieces;
* `Rule.isSome_parse?` : the pattern of such a rule is well formed for every word.
-/

namespace TableGuard

/-! ## Stretches -/

namespace Template

/-- The first stretch of characters, and the stretches behind the places. -/
def split : List (Option Char) → List Char × List (List Char)
  | [] => ([], [])
  | none :: rest => ([], (split rest).1 :: (split rest).2)
  | some c :: rest => (c :: (split rest).1, (split rest).2)

def stretches (template : List Char) : List Char × List (List Char) := split (parts template)

/-- The text of stretches, each but the first with a text in front. -/
def join (filling first : List Char) (others : List (List Char)) : List Char :=
  first ++ others.flatMap (filling ++ ·)

theorem fill_eq_join (template filling : List Char) :
    fill template filling = join filling (stretches template).1 (stretches template).2 := by
  rw [fill, stretches]
  induction parts template with
  | nil => rfl
  | cons part rest ih =>
    rw [List.flatMap_cons, ih]
    cases part with
    | none => simp [split, join, fillPart]
    | some c => simp [split, join, fillPart]

theorem join_cons (filling first next : List Char) (others : List (List Char)) :
    join filling first (next :: others) = first ++ (filling ++ join filling next others) := by
  simp [join]

end Template

/-! ## Words in a pattern -/

namespace Regex

theorem notMem_metaChars {c : Char} (hc : Unicode.isWord c = true) : c ∉ metaChars := by
  intro hmem
  have hmeta : metaChars.all (fun d => !Unicode.isWord d) = true := by decide
  have hnot := List.all_eq_true.1 hmeta c hmem
  rw [hc] at hnot
  cases hnot

theorem quote_word {word : List Char} (hword : ∀ c ∈ word, Unicode.isWord c = true) :
    quote word = word := by
  induction word with
  | nil => rfl
  | cons c word ih =>
    rw [quote, List.flatMap_cons, ← quote, ih fun d hd => hword d (List.mem_cons_of_mem c hd),
      quoteChar, if_neg]
    · rfl
    · simpa using notMem_metaChars (hword c List.mem_cons_self)

namespace Reading

def pushWord (r : Reading) (word : List Char) : Reading :=
  { r with scope := { r.scope with
      parts := (word.map fun c => Part.expr ⟨r.flags.char c, 0⟩).reverse ++ r.scope.parts } }

theorem pushWord_cons (r : Reading) (c : Char) (word : List Char) :
    r.pushWord (c :: word) = (r.push (r.flags.char c) 0).pushWord word := by
  simp [pushWord, push, Scope.push]

theorem run?_word (fuel : Nat) (text : List Char) : ∀ (word : List Char) (r : Reading),
    r.flags.verbose = false → (∀ c ∈ word, Unicode.isWord c = true) →
      r.run? (fuel + word.length) (word ++ text) = (r.pushWord word).run? fuel text
  | [], _, _, _ => rfl
  | c :: word, r, hr, hword => by
    rw [List.cons_append, List.length_cons, ← Nat.add_assoc, run?, hr, pushWord_cons]
    simp only [skip_false, step?_plain r c _ (notMem_metaChars (hword c List.mem_cons_self)),
      Option.bind_some]
    exact run?_word fuel text word _ hr fun d hd => hword d (List.mem_cons_of_mem c hd)

/-- A longer word covers a shorter one, if neither is empty. -/
theorem Covers.pushWord {r r' : Reading} (h : r.Covers r') {word word' : List Char}
    (hword : 2 ≤ word.length) (hword' : word' ≠ []) :
    (r.pushWord word).Covers (r'.pushWord word') := by
  refine ⟨h.flags, ⟨h.scope.branches, ?_⟩, h.groups, h.count, h.names⟩
  simp only [Reading.pushWord, ← List.map_reverse]
  rw [← List.length_reverse] at hword
  rw [← List.reverse_ne_nil_iff] at hword'
  generalize word.reverse = word at hword ⊢
  generalize word'.reverse = word' at hword' ⊢
  match word, hword, word', hword' with
  | c :: d :: word, _, c' :: word', _ =>
    simp only [List.map_cons, List.cons_append]
    refine .cons (.expr (Nat.le_refl 0)) fun n' hmem => ?_
    rw [List.map_append, List.mem_append] at hmem
    rcases hmem with hmem | hmem
    · refine ⟨0, List.mem_cons_self, Nat.le_of_eq ?_⟩
      obtain ⟨p, hp, rfl⟩ := List.mem_map.1 hmem
      obtain ⟨e, -, rfl⟩ := List.mem_map.1 hp
      rfl
    · obtain ⟨n, hn, hle⟩ := h.scope.parts.below n' hmem
      refine ⟨n, List.mem_cons_of_mem _ ?_, hle⟩
      rw [List.map_append]
      exact List.mem_append_right _ hn

/-! ## Stretches of a pattern -/

/-- Reads a text piece by piece, if it ends where a piece ends and white space always has its own
meaning. The fuel that is left is returned with the state. -/
def readWhole? : Nat → Reading → List Char → Option (Nat × Reading)
  | fuel, r, [] => if r.flags.verbose then none else some (fuel, r)
  | 0, _, _ :: _ => none
  | fuel + 1, r, c :: text =>
    if r.flags.verbose then none
    else (r.step? c text).bind fun (r, rest) => readWhole? fuel r rest

/-- A stretch in front of a word is read the same. -/
theorem run?_of_readWhole? {u : List Char} (hu : StartsWord u) (more : Nat) :
    ∀ (fuel : Nat) {r r' : Reading} {text : List Char} {left : Nat},
      readWhole? fuel r text = some (left, r') →
        r.run? (fuel + more) (text ++ u) = r'.run? (left + more) u ∧ r'.flags.verbose = false
  | fuel, r, r', [], left, h => by
    rw [readWhole?] at h
    split_ifs at h with hverbose
    obtain ⟨rfl, rfl⟩ := Prod.mk.injEq .. ▸ Option.some.inj h
    exact ⟨rfl, Bool.eq_false_iff.2 hverbose⟩
  | 0, _, _, _ :: _, _, h => by cases h
  | fuel + 1, r, r', c :: text, left, h => by
    rw [readWhole?] at h
    split_ifs at h with hverbose
    obtain ⟨⟨r₁, rest⟩, hstep, h⟩ := Option.bind_eq_some_iff.1 h
    have hr := Bool.eq_false_iff.2 hverbose
    rw [Nat.add_right_comm, List.cons_append, run?, hr]
    simp only [skip_false, step?_append hr hu hstep, Option.bind_some]
    exact run?_of_readWhole? hu more fuel h

theorem Covers.readWhole? : ∀ (fuel : Nat) {r r' : Reading} (text : List Char), r.Covers r' →
    Option.Rel (fun a b => a.1 = b.1 ∧ a.2.Covers b.2) (readWhole? fuel r text)
      (readWhole? fuel r' text)
  | fuel, r, r', [], h => by
    rw [Reading.readWhole?, Reading.readWhole?, h.flags]
    split_ifs
    · exact .none
    · exact .some ⟨rfl, h⟩
  | 0, _, _, _ :: _, _ => .none
  | fuel + 1, r, r', c :: text, h => by
    rw [Reading.readWhole?, Reading.readWhole?, h.flags]
    split_ifs
    · exact .none
    · have hstep := h.step? c text
      generalize r.step? c text = x, r'.step? c text = y at hstep ⊢
      cases hstep with
      | none => exact .none
      | @some a b hab =>
        obtain ⟨r₁, rest⟩ := a
        obtain ⟨r₁', rest'⟩ := b
        obtain ⟨hcovers, rfl⟩ := hab
        exact Covers.readWhole? fuel rest' hcovers

/-- Whether each of the stretches but the last ends where a piece ends, with the word behind it. -/
def isOpen (word : List Char) : Reading → List Char → List (List Char) → Bool
  | _, _, [] => true
  | r, first, next :: others =>
    match readWhole? first.length r first with
    | none => false
    | some (_, r) => isOpen word (r.pushWord word) next others

theorem startsWord_append {word : List Char} (hword : IsWord word) (text : List Char) :
    StartsWord (word ++ text) := by
  obtain ⟨c, rest, rfl⟩ := List.exists_cons_of_ne_nil hword.1
  exact ⟨c, rest ++ text, rfl, hword.2 c List.mem_cons_self⟩

theorem run?_join_cons {word first next : List Char} {others : List (List Char)}
    (hword : IsWord word) {r r' : Reading} {left : Nat}
    (hread : readWhole? first.length r first = some (left, r')) (more : Nat) :
    r.run? ((Template.join word first (next :: others)).length + more)
        (Template.join word first (next :: others)) =
      (r'.pushWord word).run? ((Template.join word next others).length + (left + more))
        (Template.join word next others) := by
  rw [Template.join_cons, List.length_append, List.length_append]
  generalize Template.join word next others = rest
  obtain ⟨hrun, hr'⟩ := run?_of_readWhole? (startsWord_append hword rest)
    (word.length + rest.length + more) first.length hread
  rw [Nat.add_assoc, hrun, show left + (word.length + rest.length + more) =
      rest.length + (left + more) + word.length by omega,
    run?_word _ _ _ _ hr' hword.2]

/-- **Reading a pattern with another word in its places.** -/
theorem isSome_run?_join {word word' : List Char} (hword : IsWord word) (hlength : 2 ≤ word.length)
    (hword' : IsWord word') : ∀ (others : List (List Char)) {r r' : Reading} (first : List Char)
      (more : Nat), r.Covers r' → isOpen word r first others = true →
      (r.run? ((Template.join word first others).length + more)
        (Template.join word first others)).isSome →
      (r'.run? ((Template.join word' first others).length + more)
        (Template.join word' first others)).isSome
  | [], r, r', first, more, h, _, hrun => h.isSome_run? _ _ hrun
  | next :: others, r, r', first, more, h, hopen, hrun => by
    have hcovers := h.readWhole? first.length first
    cases hread : readWhole? first.length r first with
    | none =>
      rw [isOpen, hread] at hopen
      cases hopen
    | some found =>
      obtain ⟨left, r₁⟩ := found
      rw [isOpen, hread] at hopen
      rw [run?_join_cons hword hread] at hrun
      rw [hread] at hcovers
      generalize hread' : readWhole? first.length r' first = y at hcovers
      cases hcovers with
      | @some _ b hab =>
        obtain ⟨left', r₁'⟩ := b
        obtain ⟨rfl, hcovers⟩ := hab
        rw [run?_join_cons hword' hread']
        exact isSome_run?_join hword hlength hword' others next _
          (hcovers.pushWord hlength hword'.1) hopen hrun

end Reading

end Regex

/-! ## Rules -/

/-- Whether every place for the variable in the detection pattern stands between whole pieces. -/
def Rule.isOpen (rule : Rule) : Bool :=
  let (first, others) := Template.stretches rule.detect.toList
  Regex.Reading.isOpen "Sample".toList .start first others

/-- **A rule whose places stand between whole pieces has a pattern for every word**, if it has one
for the sample. -/
theorem Rule.isSome_parse? {rule : Rule} (hopen : rule.isOpen = true)
    (hsample : (Regex.parse? (rule.pattern "Sample")).isSome) {var : String}
    (hvar : IsWord var.toList) : (Regex.parse? (rule.pattern var)).isSome := by
  have hword : IsWord "Sample".toList := by decide
  rw [Rule.pattern, Regex.quote_word hword.2, Template.fill_eq_join] at hsample
  rw [Rule.pattern, Regex.quote_word hvar.2, Template.fill_eq_join]
  exact Regex.Reading.isSome_run?_join hword (by decide) hvar _ _ 1 .start hopen hsample

theorem isOpen_builtin {rule : Rule} (h : rule ∈ Registry.builtin.rules) : rule.isOpen = true := by
  obtain ⟨p, rfl⟩ := Payload.exists_of_mem_builtin h
  cases p <;> decide

end TableGuard
