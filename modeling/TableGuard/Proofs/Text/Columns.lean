import Mathlib.Tactic.Linarith
import TableGuard.Report

/-!
# Bounds on columns

No character takes more than three columns, so a caret stands at most three columns in for each
character of the text it points into. A space takes one.

* `Columns.step_le` : the columns that one character adds;
* `columns_le`, `columns_spaces` : the columns of a text, and of spaces;
* `Location.length_sourceLine_le`, `caretPadding_le` : the line of a place, and the caret below it.
-/

namespace TableGuard

namespace Columns

theorem width_le (c : Char) : width c ≤ 3 := by
  unfold width
  split_ifs <;> decide

theorem alone_le (c : Char) : (alone c).1 ≤ 3 := width_le c

theorem ite_le {α : Type} {p : Prop} [Decidable p] {x y : Int × α} (hx : x.1 ≤ 3) (hy : y.1 ≤ 3) :
    (if p then x else y).1 ≤ 3 := by
  split_ifs
  · exact hx
  · exact hy

theorem meet_le (c : Char) (next : Joint) : (meet c next).1 ≤ 3 := by
  have hsmall : ∀ (n : Int) (joint : Joint), n ≤ 3 → (n, joint).1 ≤ 3 := fun _ _ h => h
  cases next with
  | kiratE =>
    unfold meet
    dsimp only
    split
    all_goals first | exact alone_le c | exact hsmall _ _ (by decide)
  | _ =>
    unfold meet
    dsimp only
    repeat' apply ite_le
    all_goals first | exact alone_le c | exact hsmall _ _ (by decide)

theorem narrow_le (c : Char) (next : Joint) : (narrow c next).1 ≤ 3 := by
  unfold narrow
  split_ifs <;> decide

theorem step_le (c : Char) (next : Follow) : (step c next).1 ≤ 3 := by
  unfold step
  dsimp only
  refine ite_le ?_ (ite_le (narrow_le c _) ?_)
  · dsimp only
    split_ifs <;> decide
  · generalize (if next.selector = some .emoji then next.joint.underSelector else next.joint) = joint
    cases selector? c with
    | some s => cases s <;> exact Int.zero_le_ofNat 3
    | none =>
      dsimp only
      refine ite_le (show (1 : Int) ≤ 3 by decide) (ite_le (show (2 : Int) ≤ 3 by decide) ?_)
      exact ite_le (Int.zero_le_ofNat 3) (ite_le (Int.zero_le_ofNat 3) (meet_le c joint))

/-- One more character: the columns so far, and what follows. -/
def advance (state : Int × Follow) (c : Char) : Int × Follow :=
  (state.1 + (step c state.2).1, (step c state.2).2)

theorem foldl_advance_le (text : List Char) : ∀ state : Int × Follow,
    (text.foldl advance state).1 ≤ state.1 + 3 * text.length := by
  induction text with
  | nil => intro state; simp
  | cons c text ih =>
    intro state
    have hstep := step_le c state.2
    have hrest := ih (advance state c)
    rw [List.foldl_cons, List.length_cons]
    push_cast
    dsimp only [advance] at hrest ⊢
    linarith

theorem foldl_advance_spaces (n : Nat) : ∀ sum : Int,
    (List.replicate n ' ').foldl advance (sum, .plain) = (sum + n, .plain) := by
  have hstep : ∀ sum : Int, advance (sum, .plain) ' ' = (sum + 1, .plain) := fun _ => rfl
  induction n with
  | zero => intro sum; simp
  | succ n ih =>
    intro sum
    rw [List.replicate_succ, List.foldl_cons, hstep, ih, Int.add_assoc, Int.add_comm 1,
      Int.natCast_succ]

end Columns

theorem columns_eq_foldl (text : List Char) :
    columns text = (text.reverse.foldl Columns.advance (0, .plain)).1.toNat :=
  rfl

theorem columns_le (text : List Char) : columns text ≤ 3 * text.length := by
  have h := Columns.foldl_advance_le text.reverse (0, .plain)
  rw [List.length_reverse, zero_add] at h
  rw [columns_eq_foldl, Int.toNat_le]
  exact_mod_cast h

theorem columns_spaces (n : Nat) : columns (List.replicate n ' ') = n := by
  rw [columns_eq_foldl, List.reverse_replicate, Columns.foldl_advance_spaces, Int.zero_add]
  exact Int.toNat_natCast n

namespace Location

theorem length_lineStart_le (before : List Char) : (lineStart before).length ≤ before.length := by
  rw [lineStart, List.length_reverse]
  exact (List.takeWhile_sublist _).length_le.trans_eq List.length_reverse

theorem length_trimReturns_le (text : List Char) : (trimReturns text).length ≤ text.length := by
  rw [trimReturns, List.length_reverse]
  exact (List.dropWhile_sublist _).length_le.trans_eq List.length_reverse

theorem length_sourceLine_le (before after : List Char) :
    (between before after).sourceLine.toList.length ≤ (before ++ after).length := by
  have hstart := length_lineStart_le before
  have hend := (List.takeWhile_sublist (l := after) (· != '\n')).length_le
  have htrim := length_trimReturns_le (lineStart before ++ after.takeWhile (· != '\n'))
  rw [List.length_append] at htrim
  rw [between, String.toList_ofList, List.length_append]
  omega

end Location

theorem caretPadding_le (issue : Issue) :
    Report.caretPadding issue ≤ 3 * issue.location.sourceLine.toList.length := by
  have hcolumns := columns_le (issue.location.sourceLine.toList.take (issue.location.column - 1))
  have htake := List.length_take_le (issue.location.column - 1) issue.location.sourceLine.toList
  unfold Report.caretPadding
  rw [List.length_take] at hcolumns
  omega

end TableGuard
