import Mathlib.Data.List.Count
import Mathlib.Data.List.Nodup

/-!
# The first elements of sorted lists

Sorting is stable, so it makes no difference whether some elements are left out before a list is
sorted or afterwards (`filter_mergeSort`). The first elements of a sorted list come before all
others (`rel_of_mem_take`), and whoever wants some of them without one that may be among them asks
for one more (`take_filter_take`).
-/

namespace OverlayStore

section Sorting

variable {α : Type} {le : α → α → Bool}

/-- Where the first element of a list comes to stand when the list is sorted: in front of it is
what it must not precede. -/
theorem mergeSort_cons_eq (htrans : ∀ a b c, le a b = true → le b c = true → le a c = true)
    (htotal : ∀ a b, (le a b || le b a) = true) (a : α) (list : List α) :
    (a :: list).mergeSort le =
      (list.mergeSort le).filter (fun b => !le a b) ++ a :: (list.mergeSort le).filter (le a) := by
  obtain ⟨front, back, hcons, hlist, hfront⟩ := List.mergeSort_cons htrans htotal a list
  have hsorted := List.pairwise_mergeSort htrans htotal (a :: list)
  rw [hcons] at hsorted
  have hback : ∀ b ∈ back, le a b = true :=
    (List.pairwise_cons.mp (List.pairwise_append.mp hsorted).2.1).1
  have hnone : back.filter (fun b => !le a b) = [] :=
    List.filter_eq_nil_iff.mpr fun b hb => by simp [hback b hb]
  have hnone' : front.filter (le a) = [] :=
    List.filter_eq_nil_iff.mpr fun b hb => by simpa using hfront b hb
  rw [hcons, hlist, List.filter_append, List.filter_append, hnone, hnone',
    List.filter_eq_self.mpr hfront, List.filter_eq_self.mpr hback, List.append_nil,
    List.nil_append]

/-- Leaving elements out and sorting may be done in either order. -/
theorem filter_mergeSort (htrans : ∀ a b c, le a b = true → le b c = true → le a c = true)
    (htotal : ∀ a b, (le a b || le b a) = true) (p : α → Bool) (list : List α) :
    (list.mergeSort le).filter p = (list.filter p).mergeSort le := by
  induction list with
  | nil => rw [List.filter_nil, List.mergeSort_nil, List.filter_nil]
  | cons a list ih =>
    cases hkept : p a with
    | true =>
      rw [List.filter_cons_of_pos hkept, mergeSort_cons_eq htrans htotal,
        mergeSort_cons_eq htrans htotal, List.filter_append, List.filter_cons_of_pos hkept, ← ih]
      -- what stays on either side of the element does not depend on the order of the two filters
      simp only [List.filter_filter, Bool.and_comm]
    | false =>
      obtain ⟨front, back, hcons, hlist, -⟩ := List.mergeSort_cons htrans htotal a list
      have hlost : ¬p a = true := by simp [hkept]
      rw [List.filter_cons_of_neg hlost, hcons, List.filter_append, List.filter_cons_of_neg hlost,
        ← List.filter_append, ← hlist, ih]

end Sorting

/-- The first elements of a sorted list come before all others. -/
theorem rel_of_mem_take {α : Type} {r : α → α → Prop} {list : List α} {count : Nat} {x y : α}
    (hsorted : list.Pairwise r) (hx : x ∈ list.take count) (hy : y ∈ list)
    (hnot : y ∉ list.take count) : r x y := by
  rw [← List.take_append_drop count list] at hsorted hy
  rcases List.mem_append.mp hy with hfirst | hrest
  · exact absurd hfirst hnot
  · exact (List.pairwise_append.mp hsorted).2.2 x hx y hrest

/-- Among the first elements of a list there is at most one that is lost when an element that occurs
once at most is left out. -/
theorem take_filter_take {α : Type} [DecidableEq α] {list : List α} {x : α}
    (honce : list.count x ≤ 1) (count : Nat) :
    ((list.take (count + 1)).filter (· ≠ x)).take count = (list.filter (· ≠ x)).take count := by
  induction list generalizing count with
  | nil => rfl
  | cons first rest ih =>
    rw [List.take_succ_cons]
    by_cases hsame : first = x
    · -- the first element is lost, and no other one
      have habsent : x ∉ rest := by
        rw [hsame, List.count_cons_self] at honce
        exact List.count_eq_zero.mp (by omega)
      have hkept : rest.filter (· ≠ x) = rest :=
        List.filter_eq_self.mpr fun y hy => decide_eq_true fun heq => habsent (heq ▸ hy)
      have htaken : (rest.take count).filter (· ≠ x) = rest.take count :=
        List.filter_eq_self.mpr fun y hy =>
          List.filter_eq_self.mp hkept y (List.mem_of_mem_take hy)
      rw [List.filter_cons_of_neg (by simpa using hsame),
        List.filter_cons_of_neg (by simpa using hsame), hkept, htaken, List.take_take, Nat.min_self]
    · rw [List.filter_cons_of_pos (by simpa using hsame),
        List.filter_cons_of_pos (by simpa using hsame)]
      -- the first element is kept, so that one less is taken of the others
      cases count with
      | zero => rfl
      | succ count =>
        rw [List.count_cons_of_ne hsame] at honce
        rw [List.take_succ_cons, List.take_succ_cons, ih honce]

end OverlayStore
