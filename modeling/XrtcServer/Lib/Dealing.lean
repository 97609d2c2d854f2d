import Mathlib.Data.List.Induction
import Mathlib.Data.List.Nodup
import Mathlib.Data.List.Perm.Basic
import Mathlib.Tactic.Common

/-!
# Dealing out a list

Items are dealt to `n` hands in turn, as cards are. `hand n i l` is what the hand `i` gets of `l`,
in the order of `l`. Every item is in one hand (`flatMap_hand_perm`), and no hand has two items more
than another (`length_hand_le`).
-/

namespace Dealing

variable {α : Type*} {n i j : ℕ} {l : List α} {x : α}

/-- The items at the positions that leave the remainder `i`. -/
def hand (n i : ℕ) (l : List α) : List α :=
  (l.zipIdx.filter fun x ↦ x.2 % n = i).map Prod.fst

@[simp] theorem hand_nil : hand n i ([] : List α) = [] := rfl

theorem hand_append_singleton (n i : ℕ) (l : List α) (x : α) :
    hand n i (l ++ [x]) = hand n i l ++ if l.length % n = i then [x] else [] := by
  rw [hand, hand, List.zipIdx_append, List.filter_append, List.map_append]
  congr 1
  split_ifs with h <;> simp [h]

theorem hand_append_singleton_of_eq (h : l.length % n = i) :
    hand n i (l ++ [x]) = hand n i l ++ [x] := by rw [hand_append_singleton, if_pos h]

theorem hand_append_singleton_of_ne (h : l.length % n ≠ i) :
    hand n i (l ++ [x]) = hand n i l := by
  rw [hand_append_singleton, if_neg h, List.append_nil]

theorem flatMap_ite_eq (k : ℕ) (x : α) (ks : List ℕ) :
    (ks.flatMap fun i ↦ if k = i then [x] else []) = List.replicate (ks.count k) x := by
  induction ks with
  | nil => rfl
  | cons i ks ih =>
    rw [List.flatMap_cons, ih, List.count_cons]
    by_cases h : k = i
    · simp [h, List.replicate_succ]
    · simp [h, Ne.symm h]

theorem succ_mod_eq_ite (hn : 0 < n) (k : ℕ) :
    (k + 1) % n = if k % n + 1 ≥ n then 0 else k % n + 1 := by
  have hlt := Nat.mod_lt k hn
  rw [← Nat.mod_add_mod]
  split_ifs with h
  · rw [show k % n + 1 = n by omega, Nat.mod_self]
  · exact Nat.mod_eq_of_lt (by omega)

theorem flatMap_hand_perm (hn : 0 < n) (l : List α) :
    ((List.range n).flatMap fun i ↦ hand n i l).Perm l := by
  induction l using List.reverseRecOn with
  | nil => simp
  | append_singleton l x ih =>
    have hmem : l.length % n ∈ List.range n := List.mem_range.mpr (Nat.mod_lt _ hn)
    have hlast : ((List.range n).flatMap fun i ↦ if l.length % n = i then [x] else []) = [x] := by
      rw [flatMap_ite_eq, List.count_eq_one_of_mem List.nodup_range hmem]
      rfl
    simp only [hand_append_singleton]
    refine (List.flatMap_append_perm _ _ _).symm.trans ?_
    rw [hlast]
    exact ih.append_right [x]

theorem length_hand (hi : i < n) (l : List α) :
    (hand n i l).length = (l.length + (n - 1 - i)) / n := by
  induction l using List.reverseRecOn with
  | nil => rw [hand_nil, List.length_nil, Nat.zero_add, Nat.div_eq_of_lt (by omega)]
  | append_singleton l x ih =>
    have hturn : n ∣ l.length + (n - 1 - i) + 1 ↔ l.length % n = i := by
      have hmod := Nat.mod_lt l.length (Nat.zero_lt_of_lt hi)
      have hsum : l.length + (n - 1 - i) + 1 = n * (l.length / n) + (l.length % n + (n - i)) := by
        have := Nat.div_add_mod l.length n
        omega
      rw [hsum, Nat.dvd_add_right (Nat.dvd_mul_right n _)]
      constructor
      · intro h
        have := Nat.eq_of_dvd_of_lt_two_mul (by omega) h (by omega)
        omega
      · intro h
        have hround : l.length % n + (n - i) = n := by omega
        exact ⟨1, by rw [hround, Nat.mul_one]⟩
    rw [hand_append_singleton, List.length_append, ih, List.length_append, List.length_singleton,
      Nat.add_right_comm, Nat.succ_div]
    simp only [hturn]
    split_ifs <;> rfl

theorem length_hand_le (hi : i < n) (hj : j < n) (l : List α) :
    (hand n i l).length ≤ (hand n j l).length + 1 := by
  rw [length_hand hi, length_hand hj, ← Nat.add_div_right _ (Nat.zero_lt_of_lt hi)]
  exact Nat.div_le_div_right (by omega)

end Dealing
