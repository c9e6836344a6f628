import Mathlib.Data.List.Sort
import TableGuard.Text.Basic

/-!
# Sorted lists without repetition

* `mem_sortDistinct` : sorting neither loses nor adds a value;
* `pairwise_sortDistinct` : the result is strictly increasing;
* `filter_sortDistinct_append` : more values, of which none is wanted.
-/

namespace TableGuard

section

variable {α : Type} [LT α] [DecidableLT α] [IsStrictTotalOrder α (· < ·)]

theorem mem_insertDistinct (x y : α) (ys : List α) :
    y ∈ insertDistinct x ys ↔ y = x ∨ y ∈ ys := by
  induction ys with
  | nil => rw [insertDistinct, List.mem_singleton, or_iff_left List.not_mem_nil]
  | cons z zs ih =>
    rw [insertDistinct]
    split
    · rw [List.mem_cons]
    · split
      · rw [List.mem_cons, List.mem_cons, ih, or_left_comm]
      · rename_i hxz hzx
        obtain rfl : x = z := Std.Trichotomous.trichotomous x z hxz hzx
        rw [List.mem_cons, or_self_left]

theorem pairwise_insertDistinct (x : α) {ys : List α} (h : ys.Pairwise (· < ·)) :
    (insertDistinct x ys).Pairwise (· < ·) := by
  induction ys with
  | nil => exact List.pairwise_singleton _ _
  | cons y ys ih =>
    rw [insertDistinct]
    obtain ⟨hy, hys⟩ := List.pairwise_cons.1 h
    split
    · rename_i hxy
      refine List.pairwise_cons.2 ⟨fun z hz => ?_, h⟩
      rcases List.mem_cons.1 hz with rfl | hz
      · exact hxy
      · exact IsTrans.trans x y z hxy (hy z hz)
    · split
      · rename_i hyx
        refine List.pairwise_cons.2 ⟨fun z hz => ?_, ih hys⟩
        rcases (mem_insertDistinct x z ys).1 hz with rfl | hz
        · exact hyx
        · exact hy z hz
      · exact h

theorem foldl_insertDistinct (xs : List α) : ∀ (acc : List α), acc.Pairwise (· < ·) →
    (xs.foldl (fun acc x => insertDistinct x acc) acc).Pairwise (· < ·) ∧
      ∀ y, y ∈ xs.foldl (fun acc x => insertDistinct x acc) acc ↔ y ∈ xs ∨ y ∈ acc := by
  induction xs with
  | nil => intro acc h; exact ⟨h, fun y => by simp⟩
  | cons x xs ih =>
    intro acc h
    obtain ⟨hsorted, hmem⟩ := ih (insertDistinct x acc) (pairwise_insertDistinct x h)
    refine ⟨hsorted, fun y => ?_⟩
    rw [List.foldl_cons, hmem, mem_insertDistinct, List.mem_cons, or_assoc, or_left_comm]

theorem mem_sortDistinct (xs : List α) (y : α) : y ∈ sortDistinct xs ↔ y ∈ xs := by
  rw [sortDistinct, (foldl_insertDistinct xs [] List.Pairwise.nil).2,
    or_iff_left List.not_mem_nil]

theorem pairwise_sortDistinct (xs : List α) : (sortDistinct xs).Pairwise (· < ·) :=
  (foldl_insertDistinct xs [] List.Pairwise.nil).1

theorem filter_sortDistinct_append {p : α → Bool} (xs : List α) {ys : List α}
    (h : ∀ y ∈ ys, p y = false) :
    (sortDistinct (xs ++ ys)).filter p = (sortDistinct xs).filter p := by
  refine ((pairwise_sortDistinct _).filter _).eq_of_mem_iff ((pairwise_sortDistinct _).filter _) ?_
  intro y
  rw [List.mem_filter, List.mem_filter, mem_sortDistinct, mem_sortDistinct, List.mem_append]
  constructor
  · rintro ⟨hx | hy, hp⟩
    · exact ⟨hx, hp⟩
    · rw [h y hy] at hp
      cases hp
  · exact fun hy => ⟨.inl hy.1, hy.2⟩

end

end TableGuard
