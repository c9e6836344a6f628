import Mathlib.Data.List.ReduceOption
import TableGuard.Proofs.Json.Skip

/-!
# Reading what is written

What is written is read in the middle of any text: the reader stops exactly where the value ends, and
white space between its parts makes no difference, nor how the characters of its strings are spelled.

* `readText?_of_spells` : strings, with all their escapes;
* `Reads` : a reader and a text for the same value;
* `reads_string`, `reads_list` : strings and sequences;
* `Fields`, `readObject_listed` : objects, field by field;
* `fields_of_gives` : objects that give some of the known fields, in any order.

The readers of sequences and objects carry a bound on the number of their parts. Every part takes up
at least a character, so the length of the text is bound enough.
-/

namespace TableGuard.Json

/-! ## Strings -/

theorem readTextFrom?_unit {digits : List Char} {n : Nat} (h : WritesUnit digits n)
    (hn : n < 0xD800 ∨ 0xE000 ≤ n) (done rest : List Char) :
    readTextFrom? done ('\\' :: 'u' :: (digits ++ rest)) =
      readTextFrom? (Char.ofNat n :: done) rest := by
  obtain ⟨a, b, c, d, rfl, hunit⟩ := unit?_of_writes h
  have hlow : isLowHalf n = false := by
    rw [isLowHalf, Bool.eq_false_iff]
    simp
    omega
  have hhigh : isHighHalf n = false := by
    rw [isHighHalf, Bool.eq_false_iff]
    simp
    omega
  simp only [List.cons_append, List.nil_append]
  rw [readTextFrom?, hunit]
  simp only [hlow, hhigh, Bool.false_eq_true, if_false]

theorem readTextFrom?_pair {digits digits' : List Char} {high low : Nat}
    (h : WritesUnit digits high) (h' : WritesUnit digits' low)
    (hhigh : 0xD800 ≤ high ∧ high < 0xDC00) (hlow : 0xDC00 ≤ low ∧ low < 0xE000)
    (done rest : List Char) :
    readTextFrom? done ('\\' :: 'u' :: (digits ++ '\\' :: 'u' :: (digits' ++ rest))) =
      readTextFrom?
        (Char.ofNat (0x10000 + (high - 0xD800) * 0x400 + (low - 0xDC00)) :: done) rest := by
  obtain ⟨a, b, c, d, rfl, hunit⟩ := unit?_of_writes h
  obtain ⟨a', b', c', d', rfl, hunit'⟩ := unit?_of_writes h'
  have hfirst : isLowHalf high = false ∧ isHighHalf high = true := by
    rw [isLowHalf, isHighHalf, Bool.eq_false_iff]
    simp
    omega
  have hsecond : isLowHalf low = true := by simp [isLowHalf, hlow]
  simp only [List.cons_append, List.nil_append]
  rw [readTextFrom?, hunit]
  simp only [hfirst, hunit', hsecond, Bool.false_eq_true, if_false, if_true]

theorem readTextFrom?_plain {c : Char} (hquote : c ≠ '"') (hslash : c ≠ '\\') (hc : 0x20 ≤ c.toNat)
    (done rest : List Char) :
    readTextFrom? done (c :: rest) = readTextFrom? (c :: done) rest := by
  rw [readTextFrom?.eq_def]
  split
  case h_5 c' rest' _ _ _ heq =>
    obtain ⟨rfl, rfl⟩ := List.cons.inj heq
    rw [if_neg (by simp [hslash]; omega)]
  all_goals simp_all

theorem readTextFrom?_escape {letter c : Char} (h : (letter, c) ∈ escapes) (done rest : List Char) :
    readTextFrom? done ('\\' :: letter :: rest) = readTextFrom? (c :: done) rest := by
  obtain ⟨hescape, hletter⟩ := shortEscape?_of_mem h
  rw [readTextFrom?.eq_def]
  split
  case h_4 heq =>
    obtain ⟨rfl, rfl⟩ := List.cons.inj (List.cons.inj heq).2
    rw [hescape]
  case h_5 hne heq =>
    obtain ⟨rfl, rfl⟩ := List.cons.inj heq
    exact absurd rfl (hne _ _ rfl)
  all_goals simp_all

theorem readTextFrom?_char {piece : List Char} {c : Char} (h : SpellsChar piece c)
    (done rest : List Char) : readTextFrom? done (piece ++ rest) = readTextFrom? (c :: done) rest := by
  cases h with
  | plain hquote hslash hc => exact readTextFrom?_plain hquote hslash hc done rest
  | escape hmem => exact readTextFrom?_escape hmem done rest
  | unit hdigits hn => exact readTextFrom?_unit hdigits hn done rest
  | pair hdigits hdigits' hhigh hhigh' hlow hlow' =>
    simp only [List.cons_append, List.append_assoc]
    exact readTextFrom?_pair hdigits hdigits' ⟨hhigh, hhigh'⟩ ⟨hlow, hlow'⟩ done rest

theorem readTextFrom?_of_spells {body text : List Char} (h : Spells body text)
    (done rest : List Char) :
    readTextFrom? done (body ++ '"' :: rest) = some (done.reverse ++ text, rest) := by
  induction h generalizing done with
  | nil => simp [readTextFrom?]
  | cons hpiece _ ih =>
    rw [List.append_assoc, readTextFrom?_char hpiece, ih]
    simp

/-- **A string is read**, after its opening quote. -/
theorem readText?_of_spells {body text : List Char} (h : Spells body text) (rest : List Char) :
    readText? (body ++ '"' :: rest) = some (text, rest) :=
  readTextFrom?_of_spells h [] rest

/-! ## Values -/

/-- The text stands for the value: the reader takes all of it, whatever follows, and white space in
front of it. -/
structure Reads {α : Type} (reader : Reader α) (text : List Char) (x : α) : Prop where
  starts : Starts text
  read : ∀ blanks rest, blanks.all isBlank = true →
    reader (blanks ++ (text ++ rest)) = .ok (x, rest)

theorem Reads.read_here {α : Type} {reader : Reader α} {text : List Char} {x : α}
    (h : Reads reader text x) (rest : List Char) : reader (text ++ rest) = .ok (x, rest) :=
  h.read [] rest rfl

theorem reads_string {text : List Char} {s : String} (h : WritesString text s) :
    Reads readString text s := by
  obtain ⟨body, rfl, hbody⟩ := h
  refine ⟨⟨'"', _, rfl, by decide, by decide⟩, fun blanks rest hblanks => ?_⟩
  rw [List.cons_append, List.append_assoc, readString,
    dropBlanks_append_cons hblanks (by decide)]
  simp only [List.singleton_append]
  rw [readText?_of_spells hbody]
  simp

/-! ## Sequences -/

section Sequences

variable {α : Type} {element : Reader α}

/-- The elements that are left of a sequence, of which others have been read or none. -/
def unread (first : Bool) (elements : List (Padded (List Char))) : List Char :=
  if first then listed id elements else further id elements

theorem nextElement_nil (first : Bool) {blanks : List Char} (hblanks : blanks.all isBlank = true)
    (rest : List Char) : nextElement first (blanks ++ (unread first [] ++ ']' :: rest)) = .ok none := by
  have hnil : unread first [] = [] := by cases first <;> rfl
  rw [hnil, List.nil_append, nextElement, dropBlanks_append_cons hblanks (by decide)]
  rfl

/-- Where the next element begins, and what is left behind it. -/
theorem nextElement_cons (first : Bool) {blanks : List Char} (hblanks : blanks.all isBlank = true)
    {e : Padded (List Char)} (he : Starts e.item) (elements : List (Padded (List Char)))
    (rest : List Char) :
    nextElement first (blanks ++ (unread first (e :: elements) ++ ']' :: rest)) =
      .ok (some (e.item ++ (e.after ++ (unread false elements ++ ']' :: rest)))) := by
  have hdrop := he.dropBlanks e.blank_before (e.after ++ (further id elements ++ ']' :: rest))
  obtain ⟨c, tail, hitem, -, hc⟩ := he
  cases first
  case false =>
    simp only [unread, Bool.false_eq_true, if_false, further_cons, List.cons_append,
      List.append_assoc, id_eq]
    rw [nextElement, dropBlanks_append_cons hblanks (by decide)]
    split
    case h_3 heq =>
      obtain ⟨rfl, rfl⟩ := List.cons.inj heq
      rw [if_neg Bool.false_ne_true, if_pos rfl, hdrop, hitem, List.cons_append]
      split <;> simp_all
    all_goals simp_all
  case true =>
    simp only [unread, if_true, Bool.false_eq_true, if_false, listed_cons, List.append_assoc, id_eq]
    rw [nextElement, dropBlanks_append hblanks, hdrop, hitem, List.cons_append]
    split <;> simp_all

theorem endSequence_nil {blanks : List Char} (h : blanks.all isBlank = true) (rest : List Char) :
    endSequence (blanks ++ ']' :: rest) = .ok rest := by
  rw [endSequence, dropBlanks_append_cons h (by decide)]
  rfl

theorem readElements_unread (rest : List Char) {elements : List (Padded (List Char))} {xs : List α}
    (h : elements.Forall₂ (fun e x => Reads element e.item x) xs) :
    ∀ (done : List α) {fuel : Nat} {blanks : List Char}, elements.length < fuel →
      blanks.all isBlank = true →
      readElements element fuel done (blanks ++ (unread done.isEmpty elements ++ ']' :: rest)) =
        .ok (done.reverse ++ xs, rest) := by
  induction h with
  | nil =>
    intro done fuel blanks hfuel hblanks
    cases fuel with
    | zero => exact absurd hfuel (Nat.not_lt_zero _)
    | succ fuel =>
      have hnil : unread done.isEmpty [] = [] := by cases done <;> rfl
      rw [readElements, nextElement_nil _ hblanks, hnil, List.nil_append]
      simp only [bind, Except.bind, endSequence_nil hblanks]
      simp [pure, Except.pure]
  | @cons e x elements xs he _ ih =>
    intro done fuel blanks hfuel hblanks
    cases fuel with
    | zero => exact absurd hfuel (Nat.not_lt_zero _)
    | succ fuel =>
      have hrest := ih (x :: done) (Nat.lt_of_succ_lt_succ hfuel) e.blank_after
      rw [readElements, nextElement_cons _ hblanks he.starts]
      simp only [bind, Except.bind, he.read_here]
      rw [List.isEmpty_cons] at hrest
      rw [hrest]
      simp

/-- **A sequence is read**, if its elements are. -/
theorem reads_list {writes : List Char → α → Prop}
    (h : ∀ {text x}, writes text x → Reads element text x) {text : List Char} {xs : List α}
    (hwrites : WritesList writes text xs) : Reads (readList element) text xs := by
  obtain ⟨pad, elements, hpad, rfl, hwrites⟩ := hwrites
  refine ⟨⟨'[', _, rfl, by decide, by decide⟩, fun blanks rest hblanks => ?_⟩
  rw [sequence, List.cons_append, readList, dropBlanks_append_cons hblanks (by decide)]
  simp only [List.append_assoc, List.singleton_append]
  refine readElements_unread rest (hwrites.imp fun e x => h) [] ?_ hpad
  have hlength := length_le_listed id elements
  simp only [List.length_append, List.length_cons]
  omega

end Sequences

/-! ## Objects -/

/-- Fields that are read one after another, with what has been gathered before and after them. -/
inductive Fields {σ : Type} (field : String → σ → Reader σ) : σ → List (Padded Member) → σ → Prop
  | nil (s : σ) : Fields field s [] s
  | cons {s s' s'' : σ} {name : String} {m : Padded Member} {members : List (Padded Member)} :
      Spells m.item.key name.toList →
      (∀ rest, Stops rest → field name s (m.item.tail ++ rest) = .ok (s', rest)) →
        Fields field s' members s'' → Fields field s (m :: members) s''

theorem afterColon_tail {α : Type} {reader : Reader α} {m : Member} {x : α}
    (h : Reads reader m.value x) (rest : List Char) :
    afterColon reader (m.tail ++ rest) = .ok (x, rest) := by
  rw [m.tail_append, afterColon, dropBlanks_append_cons m.blank_gap (by decide)]
  exact h.read m.pad rest m.blank_pad

theorem afterColon_skip {m : Member} (h : IsValue m.value) {rest : List Char} (hrest : Stops rest) :
    afterColon (fun text => (skip text).map ((), ·)) (m.tail ++ rest) = .ok ((), rest) := by
  rw [m.tail_append, afterColon, dropBlanks_append_cons m.blank_gap (by decide)]
  simp only [skip_value h m.blank_pad hrest, Except.map]

section Objects

variable {σ : Type} {field : String → σ → Reader σ}

theorem readMember_of_spells {m : Member} {name : String} (h : Spells m.key name.toList) (s : σ)
    (rest : List Char) :
    readMember field s (m.key ++ '"' :: (m.tail ++ rest)) = field name s (m.tail ++ rest) := by
  rw [readMember, readText?_of_spells h]
  simp

theorem readMembers_further (rest : List Char) {s s' : σ} {members : List (Padded Member)}
    (h : Fields field s members s') :
    ∀ {fuel : Nat} {blanks : List Char}, members.length < fuel → blanks.all isBlank = true →
      readMembers field fuel s (blanks ++ (further Member.text members ++ '}' :: rest)) =
        .ok (s', rest) := by
  induction h with
  | nil s =>
    intro fuel blanks hfuel hblanks
    cases fuel with
    | zero => exact absurd hfuel (Nat.not_lt_zero _)
    | succ fuel =>
      rw [further_nil, List.nil_append, readMembers, dropBlanks_append_cons hblanks (by decide)]
      rfl
  | @cons s s' s'' name m members hkey hfield _ ih =>
    intro fuel blanks hfuel hblanks
    cases fuel with
    | zero => exact absurd hfuel (Nat.not_lt_zero _)
    | succ fuel =>
      have hstops := stops_after Member.text m members (c := '}') (by decide) rest
      simp only [further_cons, List.cons_append, List.append_assoc]
      rw [readMembers, dropBlanks_append_cons hblanks (by decide)]
      simp only []
      rw [m.item.text_append, dropBlanks_append_cons m.blank_before (by decide)]
      simp only [readMember_of_spells hkey, hfield _ hstops]
      exact ih (Nat.lt_of_succ_lt_succ hfuel) m.blank_after

/-- **An object is read**, after its opening brace, if its fields are. -/
theorem readObject_listed (rest : List Char) {s s' : σ} {pad : List Char}
    {members : List (Padded Member)} (hpad : pad.all isBlank = true)
    (h : Fields field s members s') :
    readObject field s (pad ++ (listed Member.text members ++ '}' :: rest)) = .ok (s', rest) := by
  cases h with
  | nil s =>
    rw [listed, List.nil_append, readObject, dropBlanks_append_cons hpad (by decide)]
    rfl
  | @cons _ _ _ name m members hkey hfield hfields =>
    have hlength := length_le_further Member.text members
    have hstops := stops_after Member.text m members (c := '}') (by decide) rest
    simp only [listed_cons, List.append_assoc]
    rw [readObject, dropBlanks_append hpad, m.item.text_append,
      dropBlanks_append_cons m.blank_before (by decide)]
    simp only [readMember_of_spells hkey, hfield _ hstops]
    refine readMembers_further rest hfields ?_ m.blank_after
    simp only [List.length_append, List.length_cons]
    omega

/-- **The fields of an object are gathered in any order.** `draft` is what has been gathered when some
fields have been read; a field that is new is added, and a key that is not known changes nothing. -/
theorem fields_of_gives {φ : Type} {key : φ → String} {writes : φ → List Char → Prop}
    (draft : List φ → σ)
    (hfield : ∀ {given : List φ} {f : φ} {m : Member} (rest : List Char), f ∉ given →
      writes f m.value →
        field (key f) (draft given) (m.tail ++ rest) = .ok (draft (given ++ [f]), rest))
    (hunknown : ∀ {name : String} {s : σ} {m : Member} {rest : List Char}, (∀ f, name ≠ key f) →
      IsValue m.value → Stops rest → field name s (m.tail ++ rest) = .ok (s, rest))
    {members : List (Padded Member)} {fields : List φ} (h : GivesAll key writes members fields) :
    Fields field (draft []) members (draft fields) := by
  obtain ⟨⟨slots, hslots, rfl⟩, hnodup⟩ := h
  suffices hgiven : ∀ given, (given ++ slots.reduceOption).Nodup →
      Fields field (draft given) members (draft (given ++ slots.reduceOption)) from
    hgiven [] hnodup
  clear hnodup
  induction hslots with
  | nil =>
    intro given _
    rw [List.reduceOption_nil, List.append_nil]
    exact .nil _
  | @cons m slot members slots hgives _ ih =>
    intro given hnodup
    cases hgives with
    | @field f hkey hwrites =>
      rw [List.reduceOption_cons_of_some, List.append_cons] at hnodup ⊢
      have hnew : f ∉ given := by
        have hgiven := (List.nodup_append.1 hnodup).1
        rw [List.nodup_append] at hgiven
        exact fun hmem => hgiven.2.2 f hmem f List.mem_cons_self rfl
      exact .cons hkey (fun rest _ => hfield rest hnew hwrites) (ih _ hnodup)
    | unknown hkey hne hvalue =>
      rw [List.reduceOption_cons_of_none] at hnodup ⊢
      exact .cons hkey (fun rest hrest => hunknown hne hvalue hrest) (ih _ hnodup)

end Objects

end TableGuard.Json
