import Mathlib.Algebra.BigOperators.Group.List.Lemmas
import Mathlib.Algebra.Ring.Nat
import Mathlib.Tactic.Common

/-!
# Counting by class

Code that asks how many of its objects are in which state, and compares a sum of the counts with the
number of objects, asks whether every object is in one of these states.
-/

namespace Census

variable {α β : Type*} [DecidableEq α] [DecidableEq β] (as l : List α) (bs l' : List β)

private theorem sum_map_ite_beq (x : α) :
    (as.map fun a ↦ if x == a then 1 else 0).sum = as.count x := by
  induction as with
  | nil => rfl
  | cons a as ih => rw [List.map_cons, List.sum_cons, ih, List.count_cons, BEq.comm, Nat.add_comm]

/-- Of distinct classes, the counts sum up to the number of members of any of them. -/
theorem sum_map_count (has : as.Nodup) :
    (as.map fun a ↦ l.count a).sum = l.countP (· ∈ as) := by
  induction l with
  | nil => simp
  | cons x l ih =>
    have hone : (as.map fun a ↦ if x == a then 1 else 0).sum = if x ∈ as then 1 else 0 := by
      rw [sum_map_ite_beq, has.count]
    rw [List.countP_cons, ← ih]
    simp only [List.count_cons, List.sum_map_add, hone, decide_eq_true_eq]

theorem sum_map_count_le_length (has : as.Nodup) :
    (as.map fun a ↦ l.count a).sum ≤ l.length := by
  rw [sum_map_count as l has]
  exact List.countP_le_length

theorem sum_map_count_eq_length (has : as.Nodup) :
    (as.map fun a ↦ l.count a).sum = l.length ↔ ∀ x ∈ l, x ∈ as := by
  simp only [sum_map_count as l has, List.countP_eq_length, decide_eq_true_eq]

theorem sum_map_count_add_eq (has : as.Nodup) (hbs : bs.Nodup) :
    (as.map fun a ↦ l.count a).sum + (bs.map fun b ↦ l'.count b).sum = l.length + l'.length ↔
      (∀ x ∈ l, x ∈ as) ∧ ∀ x ∈ l', x ∈ bs := by
  rw [← sum_map_count_eq_length as l has, ← sum_map_count_eq_length bs l' hbs]
  have hle := sum_map_count_le_length as l has
  have hle' := sum_map_count_le_length bs l' hbs
  omega

end Census
