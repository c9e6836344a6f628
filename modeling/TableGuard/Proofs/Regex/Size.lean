import Mathlib.Data.List.SplitBy
import TableGuard.Proofs.Regex.Literal

/-!
# Bounds on the size of automata

How much a piece adds to an automaton is bounded by numbers that do not depend on what is there
already. For a set of characters the bound is the number of byte ranges in its sequences: the states
that are shared make the true size smaller.

* `Piece.Within p states extra` : the piece adds at most so many states, and so many more bytes;
* `Within.ofWord`, `Within.grouped`, `Within.plus`, `Within.followedBy` : the kinds of pieces;
* `Within.ofSet` : a set of characters.
-/

namespace TableGuard.Regex

/-- The number of byte ranges in sequences. -/
def weight (seqs : List (List ByteRange)) : Nat := seqs.flatten.length

theorem weight_cons (seq : List ByteRange) (seqs : List (List ByteRange)) :
    weight (seq :: seqs) = seq.length + weight seqs := List.length_append

theorem weight_append (seqs seqs' : List (List ByteRange)) :
    weight (seqs ++ seqs') = weight seqs + weight seqs' := by
  rw [weight, List.flatten_append, List.length_append]
  rfl

theorem length_le_weight {seqs : List (List ByteRange)} {seq : List ByteRange} (h : seq ∈ seqs) :
    seq.length ≤ weight seqs :=
  (List.sublist_flatten_of_mem h).length_le

theorem weight_map_tail_le (seqs : List (List ByteRange)) :
    weight (seqs.map List.tail) ≤ weight seqs := by
  induction seqs with
  | nil => exact Nat.le_refl _
  | cons seq seqs ih =>
    rw [List.map_cons, weight_cons, weight_cons, List.length_tail]
    omega

/-- A group whose first sequence is not empty loses weight with its first ranges. -/
theorem weight_map_tail_lt {seqs : List (List ByteRange)} {range : ByteRange}
    {seq : List ByteRange} (h : seqs.head? = some (range :: seq)) :
    weight (seqs.map List.tail) + 1 ≤ weight seqs := by
  cases seqs with
  | nil => cases h
  | cons first rest =>
    obtain rfl : first = range :: seq := Option.some.inj h
    have hrest := weight_map_tail_le rest
    rw [List.map_cons, weight_cons, weight_cons, List.tail_cons, List.length_cons]
    omega

/-! ## Sets of characters -/

theorem Memory.intern_tally {key : Type} [BEq key] (m : Memory key) (k : key) (slot extra : Nat) :
    (m.intern k slot extra).2.tally.states ≤ m.tally.states + 1 ∧
      (m.intern k slot extra).2.tally.extra ≤ m.tally.extra + extra := by
  have hmake : (m.make k slot extra).2.tally = m.tally.add 1 extra := rfl
  unfold Memory.intern
  split
  · split
    · exact ⟨Nat.le_succ _, Nat.le_add_right _ _⟩
    · rw [hmake]
      exact ⟨Nat.le_refl _, Nat.le_refl _⟩
  · rw [hmake]
    exact ⟨Nat.le_refl _, Nat.le_refl _⟩

/-- What one group adds: the bytes of its transition are paid for together with its states. -/
def GroupBound (step : List Transition × Memory (List Transition) → List (List ByteRange) →
    List Transition × Memory (List Transition)) : Prop :=
  ∀ acc group,
    (step acc group).2.tally.states ≤ acc.2.tally.states + weight group ∧
    (step acc group).2.tally.extra + 8 * (step acc group).1.length ≤
      acc.2.tally.extra + 8 * acc.1.length + 8 * weight group

theorem GroupBound.foldl {step : List Transition × Memory (List Transition) →
    List (List ByteRange) → List Transition × Memory (List Transition)} (h : GroupBound step) :
    ∀ (groups : List (List (List ByteRange))) (acc : List Transition × Memory (List Transition)),
      (groups.foldl step acc).2.tally.states ≤ acc.2.tally.states + weight groups.flatten ∧
      (groups.foldl step acc).2.tally.extra + 8 * (groups.foldl step acc).1.length ≤
        acc.2.tally.extra + 8 * acc.1.length + 8 * weight groups.flatten
  | [], acc => ⟨Nat.le_refl _, Nat.le_refl _⟩
  | group :: groups, acc => by
    have hstep := h acc group
    have hrest := GroupBound.foldl h groups (step acc group)
    rw [List.foldl_cons, List.flatten_cons, weight_append]
    omega

/-- One group of sequences that begin with the same range: its transition, and the states behind
it. -/
def groupStep (target depth : Nat) : List Transition × Memory (List Transition) →
    List (List ByteRange) → List Transition × Memory (List Transition)
  | (transitions, m), group =>
    match group.head? with
    | some [range] => ((range, target) :: transitions, m)
    | some (range :: _) =>
      let (next, m) := Memory.reading target depth (group.map List.tail) m
      ((range, next) :: transitions, m)
    | _ => (transitions, m)

theorem Memory.reading_succ (target depth : Nat) (seqs : List (List ByteRange))
    (m : Memory (List Transition)) :
    Memory.reading target (depth + 1) seqs m =
      let out := (seqs.splitBy fun a b => a.head? == b.head?).foldl (groupStep target depth) ([], m)
      out.2.intern out.1.reverse (forwardSlot out.1.reverse)
        (Tally.transitionSize * out.1.reverse.length) := rfl

/-- Reading forward makes at most one state per range, and one more. -/
theorem Memory.reading_tally (target : Nat) : ∀ (depth : Nat) (seqs : List (List ByteRange))
    (m : Memory (List Transition)),
      (Memory.reading target depth seqs m).2.tally.states ≤ m.tally.states + weight seqs + 1 ∧
      (Memory.reading target depth seqs m).2.tally.extra ≤ m.tally.extra + 8 * weight seqs
  | 0, seqs, m => by
    rw [Memory.reading]
    dsimp only
    omega
  | depth + 1, seqs, m => by
    have ih := Memory.reading_tally target depth
    have hgroup : GroupBound (groupStep target depth) := by
      intro ⟨transitions, m⟩ group
      unfold groupStep
      dsimp only
      split
      · rename_i range hhead
        have := length_le_weight (List.mem_of_mem_head? hhead)
        simp only [List.length_cons, List.length_nil] at this ⊢
        omega
      · rename_i range seq _ hhead
        have hlt := weight_map_tail_lt hhead
        have hread := ih (group.map List.tail) m
        simp only [List.length_cons]
        omega
      · dsimp only
        omega
    have hfold := hgroup.foldl (seqs.splitBy fun a b => a.head? == b.head?) ([], m)
    rw [List.flatten_splitBy] at hfold
    rw [Memory.reading_succ]
    generalize (seqs.splitBy fun a b => a.head? == b.head?).foldl (groupStep target depth)
      ([], m) = out at hfold ⊢
    have hintern := out.2.intern_tally out.1.reverse (forwardSlot out.1.reverse)
      (Tally.transitionSize * out.1.reverse.length)
    simp only [List.length_reverse, List.length_nil, Tally.transitionSize] at hfold hintern ⊢
    omega

theorem Memory.readingBack_cons (next : Nat) (range : ByteRange) (seq : List ByteRange)
    (m : Memory Transition) :
    Memory.readingBack next (range :: seq) m =
      let out := m.intern (range, next) (backwardSlot (range, next)) 0
      Memory.readingBack out.1 seq out.2 := rfl

/-- Reading a sequence backward makes at most one state per range. -/
theorem Memory.readingBack_tally : ∀ (seq : List ByteRange) (next : Nat) (m : Memory Transition),
    (Memory.readingBack next seq m).2.tally.states ≤ m.tally.states + seq.length ∧
      (Memory.readingBack next seq m).2.tally.extra ≤ m.tally.extra
  | [], next, m => ⟨Nat.le_refl _, Nat.le_refl _⟩
  | range :: seq, next, m => by
    have hintern := m.intern_tally (range, next) (backwardSlot (range, next)) 0
    have hrest := Memory.readingBack_tally seq (m.intern (range, next) (backwardSlot (range, next))
      0).1 (m.intern (range, next) (backwardSlot (range, next)) 0).2
    rw [Memory.readingBack_cons, List.length_cons]
    dsimp only
    omega

theorem Tally.addForward_le (seqs : List (List ByteRange)) (t : Tally) :
    (Tally.addForward seqs t).states ≤ t.states + weight seqs + 2 ∧
      (Tally.addForward seqs t).extra ≤ t.extra + 8 * weight seqs := by
  have h := Memory.reading_tally t.states 4 seqs ⟨t.add 1 0, ∅⟩
  simp only [Tally.add] at h
  rw [Tally.addForward]
  simp only [Tally.add]
  omega

/-- One sequence read backward: the states of it, and a link to them. -/
def backStep (next : Nat) (m : Memory Transition) (seq : List ByteRange) : Memory Transition :=
  let out := Memory.readingBack next seq m
  { out.2 with tally := out.2.tally.add 0 Tally.linkSize }

theorem foldl_backStep_tally (next : Nat) (seqs : List (List ByteRange)) :
    ∀ m : Memory Transition,
      (seqs.foldl (backStep next) m).tally.states ≤ m.tally.states + weight seqs ∧
      (seqs.foldl (backStep next) m).tally.extra ≤ m.tally.extra + 4 * seqs.length := by
  induction seqs with
  | nil => intro m; exact ⟨Nat.le_refl _, Nat.le_refl _⟩
  | cons seq seqs ih =>
    intro m
    have hseq := Memory.readingBack_tally seq next m
    have hrest := ih (backStep next m seq)
    have hstates : (backStep next m seq).tally.states =
        (Memory.readingBack next seq m).2.tally.states + 0 := rfl
    have hextra : (backStep next m seq).tally.extra =
        (Memory.readingBack next seq m).2.tally.extra + 4 := rfl
    rw [List.foldl_cons, weight_cons, List.length_cons]
    omega

theorem Tally.addBackward_le (seqs : List (List ByteRange)) (t : Tally) :
    (Tally.addBackward seqs t).states ≤ t.states + weight seqs + 2 ∧
      (Tally.addBackward seqs t).extra ≤ t.extra + 4 * seqs.length := by
  have h := foldl_backStep_tally (t.states + 1) seqs ⟨t.add 2 0, ∅⟩
  have heq : Tally.addBackward seqs t =
      (seqs.foldl (backStep (t.states + 1)) ⟨t.add 2 0, ∅⟩).tally := rfl
  rw [heq]
  simp only [Tally.add] at h
  simp only [Tally.add]
  omega

/-! ## Pieces -/

/-- The piece adds at most so many states, and so many bytes beyond what every state takes. -/
def Piece.Within (p : Piece) (states extra : Nat) : Prop :=
  ∀ t, (p.add t).states ≤ t.states + states ∧ (p.add t).extra ≤ t.extra + extra

namespace Piece.Within

theorem mono {p : Piece} {states extra states' extra' : Nat} (h : p.Within states extra)
    (hs : states ≤ states') (he : extra ≤ extra') : p.Within states' extra' := by
  intro t
  have := h t
  omega

theorem ofWord (word : List Char) : (Piece.ofWord word).Within (Utf8.size word) 0 :=
  fun _ => ⟨Nat.le_refl _, Nat.le_refl _⟩

theorem ofSet {s : CharSet} (h : (s.ranges.all fun r => r.2 < 0x80) = false) (d : Direction) :
    (Piece.ofSet d s).Within (weight s.byteSequences + 2)
      (8 * weight s.byteSequences + 4 * s.byteSequences.length) := by
  intro t
  rw [Piece.ofSet, if_neg (by rw [h]; exact Bool.false_ne_true)]
  cases d with
  | forward =>
    have := Tally.addForward_le s.byteSequences t
    dsimp only
    omega
  | backward =>
    have := Tally.addBackward_le s.byteSequences t
    dsimp only
    omega

theorem grouped {p : Piece} {states extra : Nat} (h : p.Within states extra) (d : Direction) :
    (p.grouped d).Within (states + 2) (extra + p.link) := by
  intro t
  cases d with
  | forward =>
    have := h (t.add 1 0)
    simp only [Piece.grouped, Tally.add] at this ⊢
    omega
  | backward =>
    have := h t
    simp only [Piece.grouped]
    omega

theorem plus {p : Piece} {states extra : Nat} (h : p.Within states extra) (solid : Bool) :
    (p.repeated solid 1 none).Within (states + 1) (extra + p.link + 4) := by
  intro t
  have := h t
  simp only [Piece.repeated, Tally.addAtLeast, Tally.add, Tally.linkSize]
  omega

theorem followedBy {p q : Piece} {states extra states' extra' : Nat} (hp : p.Within states extra)
    (hq : q.Within states' extra') :
    (p.followedBy q).Within (states + states') (extra + p.link + extra') := by
  intro t
  have hfirst := hp t
  have hsecond := hq ((p.add t).add 0 p.link)
  simp only [Tally.add] at hsecond
  simp only [Piece.followedBy]
  split
  · simp only [Tally.add]
    omega
  · simp only [Tally.add]
    omega

end Piece.Within

end TableGuard.Regex
