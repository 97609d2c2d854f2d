import Mathlib.Data.List.Sort
import Mathlib.Order.RelClasses

/-!
# Stable sorting by a comparator

`std::stable_sort` takes a comparator `lt` (`lt a b` means that `a` goes before `b`) that must be a
strict weak order. The sort is insertion into an already sorted list, which is stable: an element
overtakes only those it must precede.

The comparators of this development are *ranked*: they compare the images of a key in a linear
order, which is what makes a comparator a strict weak order. The two facts used of the sorted list
are that it is a permutation of the input and that its head is a least element of the input.
-/

namespace StableSort

variable {α κ : Type*}

/-- `std::stable_sort` with the comparator `lt`. -/
def stableSort (lt : α → α → Bool) (l : List α) : List α :=
  l.insertionSort fun a b ↦ lt b a = false

theorem perm_stableSort (lt : α → α → Bool) (l : List α) : (stableSort lt l).Perm l :=
  List.perm_insertionSort _ l

@[simp] theorem mem_stableSort {lt : α → α → Bool} {l : List α} {a : α} :
    a ∈ stableSort lt l ↔ a ∈ l := (perm_stableSort lt l).mem_iff

@[simp] theorem stableSort_eq_nil {lt : α → α → Bool} {l : List α} :
    stableSort lt l = [] ↔ l = [] := by
  rw [← List.length_eq_zero_iff, (perm_stableSort lt l).length_eq, List.length_eq_zero_iff]

variable [LinearOrder κ]

/-- The comparator orders by the key `rank`, smallest first. -/
def RankedBy (lt : α → α → Bool) (rank : α → κ) : Prop := ∀ a b, lt a b = true ↔ rank a < rank b

/-- **The head of the sorted list is least.** -/
theorem rank_head_le {lt : α → α → Bool} {rank : α → κ} (hr : RankedBy lt rank) {l : List α}
    {a : α} (ha : (stableSort lt l).head? = some a) : ∀ b ∈ l, rank a ≤ rank b := by
  have hle : ∀ a b, lt b a = false ↔ rank a ≤ rank b := fun a b ↦ by
    rw [← Bool.not_eq_true, hr b a, not_lt]
  have : Std.Total fun a b : α ↦ lt b a = false :=
    ⟨fun a b ↦ by rw [hle, hle]; exact le_total _ _⟩
  have : IsTrans α fun a b : α ↦ lt b a = false :=
    ⟨fun a b c ↦ by rw [hle, hle, hle]; exact le_trans⟩
  have hs : (stableSort lt l).Pairwise fun a b ↦ lt b a = false :=
    List.pairwise_insertionSort _ l
  intro b hb
  rw [← @mem_stableSort _ lt] at hb
  obtain ⟨t, ht⟩ := List.head?_eq_some_iff.mp ha
  rw [ht] at hs hb
  rcases List.mem_cons.mp hb with rfl | hb
  · exact le_rfl
  · exact (hle a b).mp ((List.pairwise_cons.mp hs).1 b hb)

end StableSort
