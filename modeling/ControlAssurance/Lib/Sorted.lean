import Mathlib.Data.List.Sort

/-!
# Sorting by a total order

`sorted` of equal collections: permutations are sorted to the same list, a sorted list is left as
it is, and sorting keeps entries apart.
-/

namespace ControlAssurance.Lib

variable {α : Type}

/-- What a comparison must be for its sorts to be canonical. -/
structure TotalOrder (le : α → α → Bool) : Prop where
  trans : ∀ a b c, le a b = true → le b c = true → le a c = true
  total : ∀ a b, le a b = true ∨ le b a = true
  antisymm : ∀ a b, le a b = true → le b a = true → a = b

variable {le : α → α → Bool}

theorem TotalOrder.pairwise (h : TotalOrder le) (l : List α) :
    (l.mergeSort le).Pairwise fun a b => le a b = true :=
  List.pairwise_mergeSort h.trans (fun a b => by simpa using h.total a b) l

/-- Permutations are sorted to the same list. -/
theorem TotalOrder.sort_perm (h : TotalOrder le) {l l' : List α} (hperm : l.Perm l') :
    l.mergeSort le = l'.mergeSort le := by
  have hsorted : (l.mergeSort le).Perm (l'.mergeSort le) :=
    (List.mergeSort_perm l le).trans (hperm.trans (List.mergeSort_perm l' le).symm)
  exact hsorted.eq_of_pairwise (fun a b _ _ => h.antisymm a b) (h.pairwise l) (h.pairwise l')

/-- What is sorted is left as it is. -/
theorem TotalOrder.sort_sorted (h : TotalOrder le) (l : List α) :
    (l.mergeSort le).mergeSort le = l.mergeSort le :=
  List.mergeSort_of_pairwise (h.pairwise l)

end ControlAssurance.Lib
