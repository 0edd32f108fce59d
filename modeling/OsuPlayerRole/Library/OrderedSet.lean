/-
This file lists a finite set in increasing order by a function that evaluates.
-/
import Mathlib.Data.Finset.Sort
import Mathlib.Data.List.Sort

namespace OrderedSet

variable {A : Type} [LinearOrder A]

/-- The list does not depend on how the set was built. -/
def ordered (set : Finset A) : List A :=
  Quot.liftOn set.1 (List.insertionSort (· ≤ ·)) fun first second same =>
    ((List.perm_insertionSort _ first).trans
      (same.trans (List.perm_insertionSort _ second).symm)).eq_of_pairwise'
        (List.pairwise_insertionSort (· ≤ ·) first) (List.pairwise_insertionSort (· ≤ ·) second)

/-- The list holds the members of the set once each. -/
theorem ordered_perm (set : Finset A) : (ordered set : Multiset A) = set.1 := by
  rcases set with ⟨⟨items⟩, nodup⟩
  exact Quot.sound (List.perm_insertionSort _ items)

/-- What the list holds is what the set holds. -/
@[simp] theorem mem_ordered {set : Finset A} {item : A} : item ∈ ordered set ↔ item ∈ set := by
  rw [← Multiset.mem_coe, ordered_perm, Finset.mem_val]

theorem ordered_nodup (set : Finset A) : (ordered set).Nodup := by
  rw [← Multiset.coe_nodup, ordered_perm]
  exact set.2

/-- The set of the list is the set again. -/
@[simp] theorem toFinset_ordered (set : Finset A) : (ordered set).toFinset = set := by
  ext item
  simp

@[simp] theorem ordered_eq_nil {set : Finset A} : ordered set = [] ↔ set = ∅ := by
  rw [List.eq_nil_iff_forall_not_mem, Finset.eq_empty_iff_forall_notMem]
  simp

end OrderedSet
