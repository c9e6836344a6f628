import TableGuard.Proofs.Json.Grammar

/-!
# Passing over values

A value is passed over whatever stands in it, and the rest of the text begins exactly behind it. What
follows a value has to be the end of the text, white space, a comma or a closing bracket: a number
would go on otherwise.

* `dropBlanks_append`, `Stops`, `stops_after` : white space, and what can follow a value;
* `skipText?_string`, `skipNumber?_number` : strings and numbers;
* `Starts`, `IsValue.starts` : how a value begins;
* `Skips.sequence`, `Skips.object` : sequences and objects whose parts are passed over;
* `skip_value` : all values.

Passing over a value carries a bound on its parts. Every part takes up at least a character, so the
length of the value is bound enough.
-/

namespace TableGuard.Json

/-! ## White space -/

theorem dropBlanks_append {blanks : List Char} (h : blanks.all isBlank = true) (text : List Char) :
    dropBlanks (blanks ++ text) = dropBlanks text :=
  List.dropWhile_append_of_pos (List.all_eq_true.1 h)

theorem dropBlanks_cons {c : Char} (h : isBlank c = false) (text : List Char) :
    dropBlanks (c :: text) = c :: text := by
  simp [dropBlanks, h]

theorem dropBlanks_append_cons {blanks : List Char} (h : blanks.all isBlank = true) {c : Char}
    (hc : isBlank c = false) (text : List Char) :
    dropBlanks (blanks ++ c :: text) = c :: text := by
  rw [dropBlanks_append h, dropBlanks_cons hc]

/-- The text can follow a value. -/
def Stops (rest : List Char) : Prop :=
  ∀ c, rest.head? = some c → isBlank c = true ∨ c ∈ [',', ']', '}']

theorem stops_cons {c : Char} (h : c ∈ [',', ']', '}']) (rest : List Char) : Stops (c :: rest) := by
  intro d hd
  rw [← Option.some.inj hd]
  exact .inr h

theorem stops_append {blanks rest : List Char} (h : blanks.all isBlank = true)
    (hrest : Stops rest) : Stops (blanks ++ rest) := by
  cases blanks with
  | nil => exact hrest
  | cons c blanks =>
    intro d hd
    rw [← Option.some.inj hd]
    exact .inl (List.all_eq_true.1 h c List.mem_cons_self)

/-- No number goes on with what can follow a value. -/
theorem Stops.head_ne {c : Char} {rest : List Char} (h : Stops (c :: rest)) :
    c.isDigit = false ∧ c ≠ '.' ∧ c ≠ 'e' ∧ c ≠ 'E' := by
  rcases h c rfl with hblank | hmem
  · simp only [isBlank, Bool.or_eq_true, beq_iff_eq] at hblank
    rcases hblank with ((rfl | rfl) | rfl) | rfl <;> decide
  · simp only [List.mem_cons, List.not_mem_nil, or_false] at hmem
    rcases hmem with rfl | rfl | rfl <;> decide

/-! ## Strings -/

theorem hexValue?_of_mem {c : Char} {n : Nat} (h : (c, n) ∈ hexDigits) : hexValue? c = some n :=
  (show ∀ p ∈ hexDigits, hexValue? p.1 = some p.2 by decide) (c, n) h

theorem unit?_of_writes {digits : List Char} {n : Nat} (h : WritesUnit digits n) :
    ∃ a b c d, digits = [a, b, c, d] ∧ unit? a b c d = some n := by
  cases h with
  | digits ha hb hc hd =>
    refine ⟨_, _, _, _, rfl, ?_⟩
    rw [unit?, hexValue?_of_mem ha, hexValue?_of_mem hb, hexValue?_of_mem hc, hexValue?_of_mem hd]

theorem shortEscape?_of_mem {letter c : Char} (h : (letter, c) ∈ escapes) :
    shortEscape? letter = some c ∧ letter ≠ 'u' :=
  (show ∀ p ∈ escapes, shortEscape? p.1 = some p.2 ∧ p.1 ≠ 'u' by decide) (letter, c) h

theorem skipText?_unit {digits : List Char} {n : Nat} (h : WritesUnit digits n) (rest : List Char) :
    skipText? ('\\' :: 'u' :: (digits ++ rest)) = skipText? rest := by
  obtain ⟨a, b, c, d, rfl, hunit⟩ := unit?_of_writes h
  simp only [List.cons_append, List.nil_append]
  rw [skipText?, hunit]

theorem skipText?_plain {c : Char} (hquote : c ≠ '"') (hslash : c ≠ '\\') (hc : 0x20 ≤ c.toNat)
    (rest : List Char) : skipText? (c :: rest) = skipText? rest := by
  rw [skipText?.eq_def]
  split
  case h_5 c' rest' _ _ _ heq =>
    obtain ⟨rfl, rfl⟩ := List.cons.inj heq
    rw [if_neg (by simp [hslash]; omega)]
  all_goals simp_all

theorem skipText?_escape {letter c : Char} (h : (letter, c) ∈ escapes) (rest : List Char) :
    skipText? ('\\' :: letter :: rest) = skipText? rest := by
  obtain ⟨hescape, hletter⟩ := shortEscape?_of_mem h
  rw [skipText?.eq_def]
  split
  case h_4 heq =>
    obtain ⟨rfl, rfl⟩ := List.cons.inj (List.cons.inj heq).2
    rw [hescape]
  case h_5 hne heq =>
    obtain ⟨rfl, rfl⟩ := List.cons.inj heq
    exact absurd rfl (hne _ _ rfl)
  all_goals simp_all

theorem skipText?_char {piece : List Char} {c : Char} (h : SpellsChar piece c)
    (rest : List Char) : skipText? (piece ++ rest) = skipText? rest := by
  cases h with
  | plain hquote hslash hc => exact skipText?_plain hquote hslash hc rest
  | escape hmem => exact skipText?_escape hmem rest
  | unit hdigits _ => exact skipText?_unit hdigits rest
  | pair hdigits hdigits' _ _ _ _ =>
    simp only [List.cons_append, List.append_assoc]
    rw [skipText?_unit hdigits, skipText?_unit hdigits']

/-- **A string is passed over**, after its opening quote. -/
theorem skipText?_string {body : List Char} (h : IsString body) (rest : List Char) :
    skipText? (body ++ '"' :: rest) = some rest := by
  induction h with
  | nil => rfl
  | char hpiece _ ih => rw [List.append_assoc, skipText?_char hpiece, ih]
  | unit hdigits _ ih =>
    rw [List.cons_append, List.cons_append, List.append_assoc, skipText?_unit hdigits, ih]

/-! ## Numbers -/

/-- The text does not go on with a digit. -/
def EndsDigits (rest : List Char) : Prop := ∀ c, rest.head? = some c → c.isDigit = false

theorem spanDigits_append {ds rest : List Char} (hds : IsDigits ds) (hrest : EndsDigits rest) :
    spanDigits (ds ++ rest) = (ds, rest) := by
  have htake : rest.takeWhile Char.isDigit = [] ∧ rest.dropWhile Char.isDigit = rest := by
    cases rest with
    | nil => exact ⟨rfl, rfl⟩
    | cons c rest => simp [hrest c rfl]
  rw [spanDigits, List.takeWhile_append_of_pos (List.all_eq_true.1 hds.2),
    List.dropWhile_append_of_pos (List.all_eq_true.1 hds.2), htake.1, htake.2, List.append_nil]

theorem Stops.endsDigits {rest : List Char} (h : Stops rest) : EndsDigits rest := by
  cases rest with
  | nil => exact nofun
  | cons c rest =>
    intro d hd
    rw [← Option.some.inj hd]
    exact h.head_ne.1

theorem IsDigits.exists_cons {ds : List Char} (h : IsDigits ds) :
    ∃ d more, ds = d :: more ∧ d.isDigit = true := by
  obtain ⟨d, more, rfl⟩ := List.exists_cons_of_ne_nil h.1
  exact ⟨d, more, rfl, List.all_eq_true.1 h.2 d List.mem_cons_self⟩

theorem readExponent?_append {sign ds rest : List Char}
    (hsign : sign = [] ∨ sign = ['+'] ∨ sign = ['-']) (hds : IsDigits ds)
    (hrest : EndsDigits rest) :
    ∃ n, readExponent? (sign ++ (ds ++ rest)) = some (n, rest) := by
  have hspan := spanDigits_append hds hrest
  obtain ⟨d, more, rfl, hd⟩ := hds.exists_cons
  have hplus : d ≠ '+' ∧ d ≠ '-' := by
    constructor
    all_goals
      rintro rfl
      cases hd
  rw [List.cons_append] at hspan ⊢
  rcases hsign with rfl | rfl | rfl <;> simp [readExponent?, hspan, hplus]

theorem skipExponent?_append {text rest : List Char} (h : IsExponent text) (hrest : Stops rest) :
    skipExponent? (text ++ rest) = some rest := by
  rcases h with rfl | ⟨e, sign, ds, he, hsign, hds, rfl⟩
  · rw [List.nil_append]
    cases rest with
    | nil => rfl
    | cons c rest =>
      obtain ⟨-, -, he, hE⟩ := hrest.head_ne
      unfold skipExponent?
      split <;> simp_all
  · obtain ⟨n, hn⟩ := readExponent?_append hsign hds hrest.endsDigits
    rcases he with rfl | rfl
    all_goals
      rw [List.cons_append, List.append_assoc, skipExponent?, hn]
      rfl

/-- What follows the digits and the fraction of a number is neither a digit nor a point. -/
theorem head_exponent {text rest : List Char} (h : IsExponent text) (hrest : Stops rest) {c : Char}
    (hc : (text ++ rest).head? = some c) : c.isDigit = false ∧ c ≠ '.' := by
  rcases h with rfl | ⟨e, sign, ds, he, -, -, rfl⟩
  · cases rest with
    | nil => cases hc
    | cons d rest =>
      obtain rfl := Option.some.inj hc
      exact ⟨hrest.head_ne.1, hrest.head_ne.2.1⟩
  · obtain rfl := Option.some.inj hc
    rcases he with rfl | rfl <;> decide

theorem skipUnsigned?_append {digits fraction exponent rest : List Char} (hdigits : IsDigits digits)
    (hzero : digits.head? = some '0' → digits = ['0']) (hfraction : IsFraction fraction)
    (hexponent : IsExponent exponent) (hrest : Stops rest) :
    skipUnsigned? (digits ++ (fraction ++ (exponent ++ rest))) = some rest := by
  have hskip := skipExponent?_append hexponent hrest
  have hends : EndsDigits (exponent ++ rest) := fun c hc => (head_exponent hexponent hrest hc).1
  have hends' : EndsDigits (fraction ++ (exponent ++ rest)) := by
    rcases hfraction with rfl | ⟨ds, -, rfl⟩
    · exact hends
    · intro c hc
      obtain rfl := Option.some.inj hc
      rfl
  unfold skipUnsigned?
  rw [spanDigits_append hdigits hends']
  split
  case h_1 heq => exact absurd (Prod.mk.inj heq).1 hdigits.1
  case h_2 heq =>
    obtain ⟨rfl, -⟩ := Prod.mk.inj heq
    cases hzero rfl
  case h_3 heq =>
    obtain ⟨-, heq⟩ := Prod.mk.inj heq
    rcases hfraction with rfl | ⟨ds, hds, rfl⟩
    · -- Without a fraction the exponent follows, which does not begin with a point.
      exact absurd rfl (head_exponent hexponent hrest (congrArg List.head? heq)).2
    · obtain ⟨d, more, rfl, -⟩ := hds.exists_cons
      have hfraction := (List.cons.inj heq).2.symm
      rw [List.append_eq] at hfraction
      rw [hfraction, spanDigits_append hds hends]
      exact hskip
  case h_4 hpoint heq =>
    obtain ⟨rfl, rfl⟩ := Prod.mk.inj heq
    rcases hfraction with rfl | ⟨ds, -, rfl⟩
    · exact hskip
    · exact absurd rfl (hpoint _)

/-- **A number is passed over**, and what follows it does not belong to it. -/
theorem skipNumber?_number {text rest : List Char} (h : IsNumber text) (hrest : Stops rest) :
    skipNumber? (text ++ rest) = some rest := by
  obtain ⟨hsign, hdigits, hzero, hfraction, hexponent⟩ := h
  simp only [List.append_assoc]
  have hskip := skipUnsigned?_append hdigits hzero hfraction hexponent hrest
  rcases hsign with rfl | rfl
  · obtain ⟨d, more, rfl, hd⟩ := hdigits.exists_cons
    have hminus : d ≠ '-' := by
      rintro rfl
      cases hd
    simp only [List.nil_append, List.cons_append] at hskip ⊢
    rw [skipNumber?.eq_def]
    split
    · rename_i heq
      exact absurd (List.cons.inj heq).1 hminus
    · exact hskip
  · exact hskip

/-! ## Values -/

theorem IsNumber.exists_cons {text : List Char} (h : IsNumber text) :
    ∃ c more, text = c :: more ∧ (c = '-' ∨ c.isDigit = true) := by
  obtain ⟨hsign, hdigits, -, -, -⟩ := h
  rcases hsign with rfl | rfl
  · obtain ⟨d, more, rfl, hd⟩ := hdigits.exists_cons
    exact ⟨d, _, rfl, .inr hd⟩
  · exact ⟨'-', _, rfl, .inl rfl⟩

theorem ne_of_number {c : Char} (h : c = '-' ∨ c.isDigit = true) :
    isBlank c = false ∧ c ∉ ['n', 't', 'f', '"', '[', '{', ']', '}'] := by
  constructor
  · rw [Bool.eq_false_iff]
    intro hblank
    simp only [isBlank, Bool.or_eq_true, beq_iff_eq] at hblank
    rcases hblank with ((rfl | rfl) | rfl) | rfl <;> revert h <;> decide
  · intro hmem
    simp only [List.mem_cons, List.not_mem_nil, or_false] at hmem
    rcases hmem with rfl | rfl | rfl | rfl | rfl | rfl | rfl | rfl <;> revert h <;> decide

/-- The text begins with a character that is neither white space nor the end of a sequence. -/
def Starts (text : List Char) : Prop :=
  ∃ c tail, text = c :: tail ∧ isBlank c = false ∧ c ≠ ']'

theorem Starts.dropBlanks {text blanks : List Char} (h : Starts text)
    (hblanks : blanks.all isBlank = true) (rest : List Char) :
    dropBlanks (blanks ++ (text ++ rest)) = text ++ rest := by
  obtain ⟨c, tail, rfl, hc, -⟩ := h
  rw [List.cons_append, dropBlanks_append_cons hblanks hc]

/-- **How a value begins.** -/
theorem IsValue.starts {v : List Char} (h : IsValue v) : Starts v := by
  cases h with
  | word hmem =>
    simp only [words, List.mem_cons, List.not_mem_nil, or_false] at hmem
    rcases hmem with rfl | rfl | rfl <;> exact ⟨_, _, rfl, by decide, by decide⟩
  | number hnumber =>
    obtain ⟨c, more, rfl, hc⟩ := hnumber.exists_cons
    obtain ⟨hblank, hne⟩ := ne_of_number hc
    refine ⟨c, more, rfl, hblank, ?_⟩
    rintro rfl
    exact hne (by decide)
  | string _ => exact ⟨'"', _, rfl, by decide, by decide⟩
  | sequence _ _ => exact ⟨'[', _, rfl, by decide, by decide⟩
  | object _ _ _ => exact ⟨'{', _, rfl, by decide, by decide⟩

/-- The text is passed over, given a bound of its length. -/
def Skips (v : List Char) : Prop :=
  ∀ (fuel : Nat) (blanks : List Char) {rest : List Char}, v.length ≤ fuel → blanks.all isBlank = true →
    Stops rest → skipValue? fuel (blanks ++ (v ++ rest)) = some rest

attribute [local simp] skipValue? skipElements? skipMember? skipMembers?

theorem skips_word {text : List Char} (h : text ∈ words) : Skips text := by
  intro fuel blanks rest hfuel hblanks _
  simp only [words, List.mem_cons, List.not_mem_nil, or_false] at h
  obtain ⟨fuel, rfl⟩ : ∃ n, fuel = n + 1 := by
    refine Nat.exists_eq_succ_of_ne_zero ?_
    rintro rfl
    rcases h with rfl | rfl | rfl <;> cases hfuel
  rw [skipValue?, dropBlanks_append hblanks]
  rcases h with rfl | rfl | rfl
  all_goals
    simp [dropBlanks, isBlank, word?]

theorem skips_number {text : List Char} (h : IsNumber text) : Skips text := by
  intro fuel blanks rest hfuel hblanks hrest
  have hskip := skipNumber?_number h hrest
  obtain ⟨c, more, rfl, hc⟩ := h.exists_cons
  obtain ⟨hblank, hne⟩ := ne_of_number hc
  cases fuel with
  | zero => cases hfuel
  | succ fuel =>
    rw [List.cons_append] at hskip ⊢
    rw [skipValue?, dropBlanks_append_cons hblanks hblank]
    split <;> simp_all

theorem skips_string {body : List Char} (h : IsString body) : Skips ('"' :: (body ++ ['"'])) := by
  intro fuel blanks rest hfuel hblanks _
  cases fuel with
  | zero => cases hfuel
  | succ fuel =>
    have hquote : isBlank '"' = false := by decide
    simp [dropBlanks_append_cons hblanks hquote, skipText?_string h rest]

/-! ## Sequences and objects -/

/-- What follows a part can follow a value: the comma in front of the next part or the bracket. -/
theorem stops_after {α : Type} (write : α → List Char) (p : Padded α) (ps : List (Padded α))
    {c : Char} (h : c ∈ [',', ']', '}']) (rest : List Char) :
    Stops (p.after ++ (further write ps ++ c :: rest)) := by
  refine stops_append p.blank_after ?_
  cases ps with
  | nil => exact stops_cons h rest
  | cons p ps =>
    rw [further_cons]
    exact stops_cons (by decide) _

theorem skipElements?_further (rest : List Char) : ∀ (fuel : Nat)
    {elements : List (Padded (List Char))} {blanks : List Char}, (∀ e ∈ elements, Skips e.item) →
      (further id elements).length < fuel → blanks.all isBlank = true →
      skipElements? fuel (blanks ++ (further id elements ++ ']' :: rest)) = some rest
  | 0, _, _, _, hfuel, _ => absurd hfuel (Nat.not_lt_zero _)
  | fuel + 1, [], _, _, _, hblanks => by
    have hbracket : isBlank ']' = false := by decide
    simp [further_nil, dropBlanks_append_cons hblanks hbracket]
  | fuel + 1, e :: elements, _, h, hfuel, hblanks => by
    obtain ⟨he, helements⟩ := List.forall_mem_cons.1 h
    have hstops := stops_after id e elements (c := ']') (by decide) rest
    rw [further_cons] at hfuel ⊢
    simp only [List.length_cons, List.length_append, id_eq] at hfuel
    simp only [List.cons_append, List.append_assoc, id_eq]
    rw [skipElements?, dropBlanks_append_cons hblanks (by decide)]
    show (skipValue? fuel _).bind (skipElements? fuel) = _
    rw [he fuel _ (by omega) e.blank_before hstops, Option.bind_some]
    exact skipElements?_further rest fuel helements (by omega) e.blank_after

/-- **A sequence is passed over**, if its elements are. -/
theorem Skips.sequence {pad : List Char} {elements : List (Padded (List Char))}
    (hpad : pad.all isBlank = true) (hvalues : ∀ e ∈ elements, IsValue e.item)
    (h : ∀ e ∈ elements, Skips e.item) : Skips (sequence pad elements) := by
  intro fuel blanks rest hfuel hblanks _
  cases fuel with
  | zero => cases hfuel
  | succ fuel =>
    rw [Json.sequence] at hfuel ⊢
    rw [List.cons_append, skipValue?, dropBlanks_append_cons hblanks (by decide)]
    simp only [List.append_assoc, List.singleton_append]
    cases elements with
    | nil =>
      rw [listed, List.nil_append, dropBlanks_append_cons hpad (by decide)]
      rfl
    | cons e elements =>
      obtain ⟨he, helements⟩ := List.forall_mem_cons.1 h
      have hstops := stops_after id e elements (c := ']') (by decide) rest
      simp only [listed_cons, List.length_cons, List.length_append, id_eq] at hfuel
      have hfirst := he fuel [] (by omega) rfl hstops
      have hfurther := skipElements?_further rest fuel helements (by omega) e.blank_after
      rw [List.nil_append] at hfirst
      have hstarts := hvalues e List.mem_cons_self |>.starts
      simp only [listed_cons, List.append_assoc, id_eq, dropBlanks_append hpad]
      rw [hstarts.dropBlanks e.blank_before]
      obtain ⟨c, more, hitem, -, hbracket⟩ := hstarts
      rw [hitem, List.cons_append] at hfirst ⊢
      split
      · simp_all
      · rw [hfirst, Option.bind_some, hfurther]

theorem skipMember?_text {m : Member} (hkey : IsString m.key) (hvalue : Skips m.value) (fuel : Nat)
    (blanks : List Char) {rest : List Char} (hfuel : m.value.length < fuel)
    (hblanks : blanks.all isBlank = true) (hrest : Stops rest) :
    skipMember? fuel (blanks ++ (m.text ++ rest)) = some rest := by
  cases fuel with
  | zero => cases hfuel
  | succ fuel =>
    rw [m.text_append, skipMember?, dropBlanks_append_cons hblanks (by decide)]
    show (skipText? _).bind _ = _
    rw [skipText?_string hkey, Option.bind_some, m.tail_append,
      dropBlanks_append_cons m.blank_gap (by decide)]
    exact hvalue fuel _ (Nat.lt_succ_iff.1 hfuel) m.blank_pad hrest

theorem length_value_lt (m : Member) : m.value.length < m.text.length := by
  simp only [Member.text, Member.tail, List.length_cons, List.length_append]
  omega

theorem skipMembers?_further (rest : List Char) : ∀ (fuel : Nat)
    {members : List (Padded Member)} {blanks : List Char}, (∀ m ∈ members, IsString m.item.key) →
      (∀ m ∈ members, Skips m.item.value) → (further Member.text members).length < fuel →
      blanks.all isBlank = true →
      skipMembers? fuel (blanks ++ (further Member.text members ++ '}' :: rest)) = some rest
  | 0, _, _, _, _, hfuel, _ => absurd hfuel (Nat.not_lt_zero _)
  | fuel + 1, [], _, _, _, _, hblanks => by
    have hbrace : isBlank '}' = false := by decide
    simp [further_nil, dropBlanks_append_cons hblanks hbrace]
  | fuel + 1, m :: members, _, hkeys, hvalues, hfuel, hblanks => by
    obtain ⟨hkey, hkeys⟩ := List.forall_mem_cons.1 hkeys
    obtain ⟨hvalue, hvalues⟩ := List.forall_mem_cons.1 hvalues
    have hstops := stops_after Member.text m members (c := '}') (by decide) rest
    have hlength := length_value_lt m.item
    rw [further_cons] at hfuel ⊢
    simp only [List.length_cons, List.length_append] at hfuel
    simp only [List.cons_append, List.append_assoc]
    rw [skipMembers?, dropBlanks_append_cons hblanks (by decide)]
    show (skipMember? fuel _).bind (skipMembers? fuel) = _
    rw [skipMember?_text hkey hvalue fuel _ (by omega) m.blank_before hstops, Option.bind_some]
    exact skipMembers?_further rest fuel hkeys hvalues (by omega) m.blank_after

/-- **An object is passed over**, if its values are. -/
theorem Skips.object {pad : List Char} {members : List (Padded Member)}
    (hpad : pad.all isBlank = true) (hkeys : ∀ m ∈ members, IsString m.item.key)
    (h : ∀ m ∈ members, Skips m.item.value) : Skips (object pad members) := by
  intro fuel blanks rest hfuel hblanks _
  cases fuel with
  | zero => cases hfuel
  | succ fuel =>
    rw [Json.object] at hfuel ⊢
    rw [List.cons_append, skipValue?, dropBlanks_append_cons hblanks (by decide)]
    simp only [List.append_assoc, List.singleton_append]
    cases members with
    | nil =>
      rw [listed, List.nil_append, dropBlanks_append_cons hpad (by decide)]
      rfl
    | cons m members =>
      obtain ⟨hkey, hkeys⟩ := List.forall_mem_cons.1 hkeys
      obtain ⟨hm, hmembers⟩ := List.forall_mem_cons.1 h
      have hstops := stops_after Member.text m members (c := '}') (by decide) rest
      have hlength := length_value_lt m.item
      simp only [listed_cons, List.length_cons, List.length_append] at hfuel
      have hfirst := skipMember?_text hkey hm fuel [] (by omega) rfl hstops
      have hfurther := skipMembers?_further rest fuel hkeys hmembers (by omega) m.blank_after
      rw [List.nil_append] at hfirst
      simp only [listed_cons, List.append_assoc, dropBlanks_append hpad]
      rw [m.item.text_append] at hfirst ⊢
      rw [dropBlanks_append_cons m.blank_before (by decide)]
      show (skipMember? fuel _).bind (skipMembers? fuel) = _
      rw [hfirst, Option.bind_some, hfurther]

/-- **Every value is passed over.** -/
theorem skips_value {v : List Char} (h : IsValue v) : Skips v := by
  induction h with
  | word hmem => exact skips_word hmem
  | number hnumber => exact skips_number hnumber
  | string hstring => exact skips_string hstring
  | sequence hpad hvalues ih => exact Skips.sequence hpad hvalues ih
  | object hpad hkeys _ ih => exact Skips.object hpad hkeys ih

theorem skip_value {v blanks rest : List Char} (h : IsValue v) (hblanks : blanks.all isBlank = true)
    (hrest : Stops rest) : skip (blanks ++ (v ++ rest)) = .ok rest := by
  have hlength : v.length ≤ 2 * (blanks ++ (v ++ rest)).length + 2 := by
    simp only [List.length_append]
    omega
  rw [skip, skips_value h _ _ hlength hblanks hrest]

end TableGuard.Json
