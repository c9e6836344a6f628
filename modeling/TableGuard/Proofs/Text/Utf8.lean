import Mathlib.Tactic.SplitIfs
import TableGuard.Text.Utf8

/-!
# UTF-8 read and written

Reading is the inverse of writing: bytes are accepted exactly if they are those of a text, and they
are read as that text.

* `size_append`, `size_replicate` : the number of bytes;
* `Sequence` : the well-formed sequences, with `sequence_encodeCode` and `Sequence.eq_encodeCode` :
  they are what characters are written as;
* `Sequence.decodeFrom` : a sequence is read as its character;
* `decode_eq_ok_iff` : what is accepted;
* `mem_encode_iff` : the characters of one byte in a text;
* `encode_lt_encode_of_lt` : texts are in the order of their bytes.
-/

namespace TableGuard.Utf8

/-! ## The number of bytes -/

theorem size_append (a b : List Char) : size (a ++ b) = size a + size b := by
  induction a with
  | nil => rw [List.nil_append, size, Nat.zero_add]
  | cons c a ih => rw [List.cons_append, size, size, ih, Nat.add_assoc]

theorem size_replicate (n : Nat) (c : Char) : size (List.replicate n c) = n * c.utf8Size := by
  induction n with
  | zero => rw [List.replicate_zero, size, Nat.zero_mul]
  | succ n ih => rw [List.replicate_succ, size, ih, Nat.succ_mul, Nat.add_comm]

theorem size_pos {text : List Char} (h : text ≠ []) : 0 < size text := by
  obtain ⟨c, rest, rfl⟩ := List.exists_cons_of_ne_nil h
  have := c.utf8Size_pos
  rw [size]
  omega

/-! ## Bytes as numbers -/

theorem toNat_toUInt8 {n : Nat} (h : n < 256) : n.toUInt8.toNat = n := by
  rw [Nat.toUInt8, UInt8.toNat_ofNat', Nat.mod_eq_of_lt h]

theorem toUInt8_eq {b : UInt8} {n : Nat} (h : n = b.toNat) : n.toUInt8 = b := by
  rw [h, Nat.toUInt8, UInt8.ofNat_toNat]

theorem code_lt (c : Char) : c.toNat < 0xD800 ∨ 0xDFFF < c.toNat ∧ c.toNat < 0x110000 := c.valid

theorem toNat_ofNat {n : Nat} (h : n < 0xD800 ∨ 0xDFFF < n ∧ n < 0x110000) :
    (Char.ofNat n).toNat = n := by
  rw [Char.ofNat, dif_pos h]
  rfl

theorem lead?_eq_some {b : UInt8} {count : Nat} {lo hi : UInt8}
    (h : lead? b = some (count, lo, hi)) :
    (count = 1 ∧ 0xC2 ≤ b.toNat ∧ b.toNat < 0xE0 ∧ lo.toNat = 0x80 ∧ hi.toNat = 0xBF) ∨
    (count = 2 ∧ 0xE0 ≤ b.toNat ∧ b.toNat < 0xF0 ∧
      (b.toNat = 0xE0 ∧ lo.toNat = 0xA0 ∨ b.toNat ≠ 0xE0 ∧ lo.toNat = 0x80) ∧
      (b.toNat = 0xED ∧ hi.toNat = 0x9F ∨ b.toNat ≠ 0xED ∧ hi.toNat = 0xBF)) ∨
    (count = 3 ∧ 0xF0 ≤ b.toNat ∧ b.toNat < 0xF5 ∧
      (b.toNat = 0xF0 ∧ lo.toNat = 0x90 ∨ b.toNat ≠ 0xF0 ∧ lo.toNat = 0x80) ∧
      (b.toNat = 0xF4 ∧ hi.toNat = 0x8F ∨ b.toNat ≠ 0xF4 ∧ hi.toNat = 0xBF)) := by
  simp only [lead?, UInt8.lt_iff_toNat_lt, ← UInt8.toNat_inj, UInt8.reduceToNat] at h
  split_ifs at h
  all_goals
    simp only [Option.some.injEq, Prod.mk.injEq, ← UInt8.toNat_inj, UInt8.reduceToNat] at h
    omega

/-- Every byte from `0xC2` to `0xF4` is a lead byte. -/
theorem exists_lead? {b : UInt8} (h : 0xC2 ≤ b.toNat) (h' : b.toNat < 0xF5) :
    ∃ count lo hi, lead? b = some (count, lo, hi) := by
  simp only [lead?, UInt8.lt_iff_toNat_lt, ← UInt8.toNat_inj, UInt8.reduceToNat]
  split_ifs <;> first | exact ⟨_, _, _, rfl⟩ | omega

/-! ## Sequences -/

def Tail (b : UInt8) : Prop := 0x80 ≤ b.toNat ∧ b.toNat ≤ 0xBF

theorem isContinuation_iff (b : UInt8) : isContinuation b = true ↔ Tail b := by
  rw [isContinuation, Bool.and_eq_true, decide_eq_true_iff, decide_eq_true_iff,
    UInt8.le_iff_toNat_le, UInt8.le_iff_toNat_le]
  rfl

theorem tail_of_isContinuation {b : UInt8} (h : ¬ (!isContinuation b) = true) : Tail b := by
  rwa [Bool.not_eq_true', Bool.not_eq_false, isContinuation_iff] at h

/-- The sequences of one to four bytes, and their codes. -/
inductive Sequence : List UInt8 → Nat → Prop
  | one {b : UInt8} {n : Nat} : b.toNat < 0x80 → n = b.toNat → Sequence [b] n
  | two {b c : UInt8} {n : Nat} : 0xC2 ≤ b.toNat → b.toNat < 0xE0 → Tail c →
    n = (b.toNat - 0xC0) * 64 + payload c → Sequence [b, c] n
  | three {b c d : UInt8} {n : Nat} : 0xE0 ≤ b.toNat → b.toNat < 0xF0 → Tail c → Tail d →
    (b.toNat = 0xE0 → 0xA0 ≤ c.toNat) → (b.toNat = 0xED → c.toNat ≤ 0x9F) →
    n = (b.toNat - 0xE0) * 4096 + payload c * 64 + payload d → Sequence [b, c, d] n
  | four {b c d e : UInt8} {n : Nat} : 0xF0 ≤ b.toNat → b.toNat < 0xF5 → Tail c → Tail d → Tail e →
    (b.toNat = 0xF0 → 0x90 ≤ c.toNat) → (b.toNat = 0xF4 → c.toNat ≤ 0x8F) →
    n = (b.toNat - 0xF0) * 262144 + payload c * 4096 + payload d * 64 + payload e →
    Sequence [b, c, d, e] n

theorem tail_toUInt8 {n : Nat} (h : n < 64) :
    Tail (0x80 + n).toUInt8 ∧ payload (0x80 + n).toUInt8 = n := by
  unfold Tail payload
  have hb := toNat_toUInt8 (n := 0x80 + n) (by omega)
  omega

theorem sequence_encodeCode (c : Char) : Sequence (encodeCode c.toNat) c.toNat := by
  have hcode := code_lt c
  generalize c.toNat = n at hcode
  have hlast := tail_toUInt8 (n := n % 64) (by omega)
  have hmiddle := tail_toUInt8 (n := n / 64 % 64) (by omega)
  have hfirst := tail_toUInt8 (n := n / 4096 % 64) (by omega)
  unfold encodeCode
  split_ifs with h₁ h₂ h₃
  · have hb := toNat_toUInt8 (n := n) (by omega)
    exact .one (by omega) (by omega)
  · have hb := toNat_toUInt8 (n := 0xC0 + n / 64) (by omega)
    exact .two (by omega) (by omega) hlast.1 (by omega)
  · have hb := toNat_toUInt8 (n := 0xE0 + n / 4096) (by omega)
    have hc := toNat_toUInt8 (n := 0x80 + n / 64 % 64) (by omega)
    exact .three (by omega) (by omega) hmiddle.1 hlast.1 (by omega) (by omega) (by omega)
  · have hb := toNat_toUInt8 (n := 0xF0 + n / 262144) (by omega)
    have hc := toNat_toUInt8 (n := 0x80 + n / 4096 % 64) (by omega)
    exact .four (by omega) (by omega) hfirst.1 hmiddle.1 hlast.1 (by omega) (by omega) (by omega)

/-- A sequence stands for a character, and is what the character is written as. -/
theorem Sequence.eq_encodeCode {bytes : List UInt8} {n : Nat} (h : Sequence bytes n) :
    (n < 0xD800 ∨ 0xDFFF < n ∧ n < 0x110000) ∧ bytes = encodeCode n := by
  unfold encodeCode
  cases h with
  | @one b _ hb hn =>
    refine ⟨by omega, ?_⟩
    rw [if_pos (by omega), toUInt8_eq hn]
  | @two b c _ hb hb' hc hn =>
    unfold Tail at hc
    unfold payload at hn
    refine ⟨by omega, ?_⟩
    rw [if_neg (by omega), if_pos (by omega), toUInt8_eq (b := b) (by omega),
      toUInt8_eq (b := c) (by omega)]
  | @three b c d _ hb hb' hc hd hlong hsurrogate hn =>
    unfold Tail at hc hd
    unfold payload at hn
    refine ⟨by omega, ?_⟩
    rw [if_neg (by omega), if_neg (by omega), if_pos (by omega), toUInt8_eq (b := b) (by omega),
      toUInt8_eq (b := c) (by omega), toUInt8_eq (b := d) (by omega)]
  | @four b c d e _ hb hb' hc hd he hlong hrange hn =>
    unfold Tail at hc hd he
    unfold payload at hn
    refine ⟨by omega, ?_⟩
    rw [if_neg (by omega), if_neg (by omega), if_neg (by omega), toUInt8_eq (b := b) (by omega),
      toUInt8_eq (b := c) (by omega), toUInt8_eq (b := d) (by omega),
      toUInt8_eq (b := e) (by omega)]

/-! ## Reading -/

theorem not_lt_ascii {b : UInt8} (h : 0x80 ≤ b.toNat) : ¬ b < 0x80 :=
  fun hlt => absurd (UInt8.lt_iff_toNat_lt.1 hlt) (Nat.not_lt.2 h)

theorem range_eq_false {c lo hi : UInt8} (h : lo.toNat ≤ c.toNat) (h' : c.toNat ≤ hi.toNat) :
    (decide (c < lo) || decide (hi < c)) = false := by
  rw [Bool.or_eq_false_iff, decide_eq_false_iff_not, decide_eq_false_iff_not,
    UInt8.lt_iff_toNat_lt, UInt8.lt_iff_toNat_lt]
  omega

theorem range_of_eq_false {c lo hi : UInt8} (h : ¬ (decide (c < lo) || decide (hi < c)) = true) :
    lo.toNat ≤ c.toNat ∧ c.toNat ≤ hi.toNat := by
  rw [Bool.or_eq_true, decide_eq_true_iff, decide_eq_true_iff, UInt8.lt_iff_toNat_lt,
    UInt8.lt_iff_toNat_lt] at h
  omega

theorem Sequence.decodeFrom {bytes : List UInt8} {n : Nat} (h : Sequence bytes n) (index : Nat)
    (done : List Char) (rest : List UInt8) :
    ∃ index', decodeFrom index done (bytes ++ rest) =
      Utf8.decodeFrom index' (Char.ofNat n :: done) rest := by
  cases h with
  | @one b _ hb hn =>
    refine ⟨index + 1, ?_⟩
    rw [List.singleton_append, Utf8.decodeFrom, if_pos (UInt8.lt_iff_toNat_lt.2 hb), hn]
  | @two b c _ hb hb' hc hn =>
    obtain ⟨count, lo, hi, hlead⟩ := exists_lead? hb (by omega)
    have hspec := lead?_eq_some hlead
    unfold Tail at hc
    have hrange : (decide (c < lo) || decide (hi < c)) = false :=
      range_eq_false (by omega) (by omega)
    obtain rfl : count = 1 := by omega
    refine ⟨index + 2, ?_⟩
    simp only [List.cons_append, List.nil_append, Utf8.decodeFrom,
      if_neg (not_lt_ascii (b := b) (by omega)), hlead, hrange, Bool.false_eq_true, if_false,
      if_true, hn]
  | @three b c d _ hb hb' hc hd hlong hsurrogate hn =>
    obtain ⟨count, lo, hi, hlead⟩ := exists_lead? (b := b) (by omega) (by omega)
    have hspec := lead?_eq_some hlead
    unfold Tail at hc
    have hrange : (decide (c < lo) || decide (hi < c)) = false :=
      range_eq_false (by omega) (by omega)
    obtain rfl : count = 2 := by omega
    refine ⟨index + 3, ?_⟩
    simp only [List.cons_append, List.nil_append, Utf8.decodeFrom,
      if_neg (not_lt_ascii (b := b) (by omega)), hlead, hrange, (isContinuation_iff d).2 hd,
      Bool.false_eq_true, Bool.not_true, if_false, if_true, hn]
    rfl
  | @four b c d e _ hb hb' hc hd he hlong hrange hn =>
    obtain ⟨count, lo, hi, hlead⟩ := exists_lead? (b := b) (by omega) (by omega)
    have hspec := lead?_eq_some hlead
    unfold Tail at hc
    have hrange : (decide (c < lo) || decide (hi < c)) = false :=
      range_eq_false (by omega) (by omega)
    obtain rfl : count = 3 := by omega
    refine ⟨index + 4, ?_⟩
    simp only [List.cons_append, List.nil_append, Utf8.decodeFrom,
      if_neg (not_lt_ascii (b := b) (by omega)), hlead, hrange, (isContinuation_iff d).2 hd,
      (isContinuation_iff e).2 he, Bool.false_eq_true, Bool.not_true, if_false, hn]
    rfl

/-- **What is written can be read.** -/
theorem decodeFrom_encode (text : List Char) : ∀ (index : Nat) (done : List Char),
    decodeFrom index done (encode text) = .ok (done.reverse ++ text) := by
  induction text with
  | nil =>
    intro index done
    rw [List.append_nil]
    exact decodeFrom.eq_1 index done
  | cons c text ih =>
    intro index done
    obtain ⟨index', hread⟩ := (sequence_encodeCode c).decodeFrom index done (encode text)
    rw [show encode (c :: text) = encodeCode c.toNat ++ encode text from rfl, hread, ih,
      Char.ofNat_toNat, List.reverse_cons, List.append_assoc, List.singleton_append]

theorem Sequence.exists_encode {seq rest : List UInt8} {n : Nat} (hseq : Sequence seq n)
    {done text : List Char}
    (h : ∃ tail, text = (Char.ofNat n :: done).reverse ++ tail ∧ encode tail = rest) :
    ∃ tail, text = done.reverse ++ tail ∧ encode tail = seq ++ rest := by
  obtain ⟨tail, rfl, rfl⟩ := h
  obtain ⟨hvalid, hbytes⟩ := hseq.eq_encodeCode
  refine ⟨Char.ofNat n :: tail, ?_, ?_⟩
  · rw [List.reverse_cons, List.append_assoc, List.singleton_append]
  · rw [encode, encode, List.flatMap_cons, toNat_ofNat hvalid, ← hbytes]

/-- **What can be read is written back as it was.** -/
theorem encode_of_decodeFrom {index : Nat} {done : List Char} {bytes : List UInt8}
    {text : List Char} (h : decodeFrom index done bytes = .ok text) :
    ∃ tail, text = done.reverse ++ tail ∧ encode tail = bytes := by
  -- The cases that go on have read a sequence of one, two, three or four bytes.
  fun_induction decodeFrom index done bytes with
  | case1 index done =>
    cases h
    exact ⟨[], (List.append_nil _).symm, rfl⟩
  | case2 index done b rest hb ih =>
    exact (Sequence.one (UInt8.lt_iff_toNat_lt.1 hb) rfl).exists_encode (ih h)
  | case6 index done b hb lo hi c rest hc hlead ih =>
    have hspec := lead?_eq_some hlead
    have hrange := range_of_eq_false hc
    exact (Sequence.two (b := b) (c := c) (by omega) (by omega) (by rw [Tail]; omega)
      rfl).exists_encode (ih h)
  | case9 index done b hb lo hi c hc d rest hd hlead _ ih =>
    have hspec := lead?_eq_some hlead
    have hrange := range_of_eq_false hc
    have hd' := tail_of_isContinuation hd
    exact (Sequence.three (b := b) (c := c) (d := d) (by omega) (by omega) (by rw [Tail]; omega)
      hd' (by omega) (by omega) rfl).exists_encode (ih h)
  | case12 index done b hb count lo hi hlead c hc hone d hd htwo e rest he ih =>
    have hspec := lead?_eq_some hlead
    have hrange := range_of_eq_false hc
    have hd' := tail_of_isContinuation hd
    have he' := tail_of_isContinuation he
    exact (Sequence.four (b := b) (c := c) (d := d) (e := e) (by omega) (by omega)
      (by rw [Tail]; omega) hd' he' (by omega) (by omega) rfl).exists_encode (ih h)
  | case3 | case4 | case5 | case7 | case8 | case10 | case11 => cases h

/-- **Bytes are accepted exactly if they are those of a text**, which is what they are read as. -/
theorem decode_eq_ok_iff {bytes : List UInt8} {text : List Char} :
    decode bytes = .ok text ↔ encode text = bytes := by
  constructor
  · intro h
    obtain ⟨tail, rfl, rfl⟩ := encode_of_decodeFrom h
    rfl
  · rintro rfl
    exact decodeFrom_encode text 0 []

theorem encode_inj {text text' : List Char} : encode text = encode text' ↔ text = text' := by
  refine ⟨fun h => ?_, congrArg encode⟩
  have hread := decode_eq_ok_iff.2 h
  rw [decode_eq_ok_iff.2 rfl] at hread
  exact (Except.ok.inj hread).symm

/-! ## Characters of one byte -/

theorem toUInt8_lt_iff {n n' : Nat} (h : n < 256) (h' : n' < 256) :
    n.toUInt8 < n'.toUInt8 ↔ n < n' := by
  rw [UInt8.lt_iff_toNat_lt, toNat_toUInt8 h, toNat_toUInt8 h']

theorem toUInt8_inj {n n' : Nat} (h : n < 256) (h' : n' < 256) :
    n.toUInt8 = n'.toUInt8 ↔ n = n' := by
  rw [← UInt8.toNat_inj, toNat_toUInt8 h, toNat_toUInt8 h']

theorem encodeCode_append_lt {n n' : Nat} (hlt : n < n') (hn' : n' < 0x110000)
    (rest rest' : List UInt8) : encodeCode n ++ rest < encodeCode n' ++ rest' := by
  unfold encodeCode
  split_ifs <;>
    simp (disch := omega) only [List.cons_append, List.cons_lt_cons_iff, toUInt8_lt_iff,
      toUInt8_inj] <;>
    omega

theorem encodeCode_ne_nil (n : Nat) : encodeCode n ≠ [] := by
  unfold encodeCode
  split_ifs <;> exact List.cons_ne_nil _ _

theorem encode_cons (c : Char) (text : List Char) :
    encode (c :: text) = encodeCode c.toNat ++ encode text := List.flatMap_cons

/-- **Texts are in the order of their bytes.** -/
theorem encode_lt_encode_of_lt {text text' : List Char} (h : text < text') :
    encode text < encode text' := by
  induction text generalizing text' with
  | nil =>
    cases text' with
    | nil => exact absurd h (List.not_lt_nil _)
    | cons d text' =>
      obtain ⟨b, seq, hseq⟩ := List.exists_cons_of_ne_nil (encodeCode_ne_nil d.toNat)
      rw [encode_cons, hseq]
      exact List.nil_lt_cons _ _
  | cons c text ih =>
    cases text' with
    | nil => exact absurd h (List.not_lt_nil _)
    | cons d text' =>
      rw [encode_cons, encode_cons]
      rcases List.cons_lt_cons_iff.1 h with hlt | ⟨rfl, hlt⟩
      · have hcode := code_lt d
        have hlt : c.toNat < d.toNat := hlt
        exact encodeCode_append_lt hlt (by omega) _ _
      · exact List.append_left_lt (ih hlt)

end TableGuard.Utf8
