import Mathlib.Logic.Function.Basic
import Mathlib.Tactic.Common

/-!
# Arenas of heap objects

The objects of one class, numbered in the order in which `new` made them. An identifier plays the
part of a pointer that is never confused with a later one: `free` ends the life of an object but
keeps the bytes it had, so that code reading through a dangling pointer still has something to
read, and whether an object is alive is a separate, decidable question.

Allocation hands out `next`; that every live object is older than `next` is carried in the
structure, so a fresh identifier is never alive and the freshness side conditions of later proofs
are discharged by `live_lt`.
-/

/-- The objects of one class, by order of creation. -/
structure Arena (α : Type*) where
  /-- The fields of each object; of a destroyed one, the fields it had when it was destroyed. -/
  cell : ℕ → α
  /-- Whether the object has been created and not yet destroyed. -/
  live : ℕ → Bool
  /-- The identifier the next object gets. -/
  next : ℕ
  /-- Only objects that were created are alive. -/
  live_lt : ∀ i, live i = true → i < next

namespace Arena

variable {α : Type*} {a : Arena α} {i j : ℕ} {x : α} {f : α → α}

/-- No objects yet. -/
def empty (x : α) : Arena α where
  cell _ := x
  live _ := false
  next := 0
  live_lt _ h := by cases h

theorem ne_next_of_live (h : a.live i = true) : i ≠ a.next :=
  Nat.ne_of_lt (a.live_lt i h)

/-- `new`: the object `x` under the identifier `a.next`. -/
def alloc (a : Arena α) (x : α) : Arena α where
  cell := Function.update a.cell a.next x
  live := Function.update a.live a.next true
  next := a.next + 1
  live_lt i h := by
    by_cases hi : i = a.next
    · omega
    · rw [Function.update_of_ne hi] at h
      exact Nat.lt_succ_of_lt (a.live_lt i h)

@[simp] theorem cell_alloc_next : (a.alloc x).cell a.next = x := Function.update_self ..

theorem cell_alloc_of_ne (h : i ≠ a.next) : (a.alloc x).cell i = a.cell i :=
  Function.update_of_ne h ..

@[simp] theorem live_alloc_next : (a.alloc x).live a.next = true := Function.update_self ..

theorem live_alloc_of_ne (h : i ≠ a.next) : (a.alloc x).live i = a.live i :=
  Function.update_of_ne h ..

theorem live_alloc_iff : (a.alloc x).live i = true ↔ i = a.next ∨ a.live i = true := by
  by_cases h : i = a.next
  · simp [h]
  · simp [live_alloc_of_ne h, h]

/-- `delete`: the object is gone, its bytes stay. -/
def free (a : Arena α) (i : ℕ) : Arena α where
  cell := a.cell
  live := Function.update a.live i false
  next := a.next
  live_lt j h := by
    by_cases hj : j = i
    · rw [hj, Function.update_self] at h
      cases h
    · rw [Function.update_of_ne hj] at h
      exact a.live_lt j h

@[simp] theorem live_free_self : (a.free i).live i = false := Function.update_self ..

theorem live_free_of_ne (h : j ≠ i) : (a.free i).live j = a.live j := Function.update_of_ne h ..

theorem live_free_iff : (a.free i).live j = true ↔ j ≠ i ∧ a.live j = true := by
  by_cases h : j = i
  · simp [h]
  · simp [live_free_of_ne h, h]

/-- An assignment to fields of the object `i`. -/
def modify (a : Arena α) (i : ℕ) (f : α → α) : Arena α :=
  { a with cell := Function.update a.cell i (f (a.cell i)) }

@[simp] theorem cell_modify_self : (a.modify i f).cell i = f (a.cell i) := Function.update_self ..

theorem cell_modify_of_ne (h : j ≠ i) : (a.modify i f).cell j = a.cell j :=
  Function.update_of_ne h ..

/-- An assignment that leaves the projection `p` alone leaves it alone in every object. -/
theorem proj_cell_modify {β : Type*} {p : α → β} (h : ∀ x, p (f x) = p x) (i j : ℕ) :
    p ((a.modify i f).cell j) = p (a.cell j) := by
  by_cases hj : j = i
  · rw [hj, cell_modify_self, h]
  · rw [cell_modify_of_ne hj]

/-- Assignments to several objects, the same to each; doing it twice is doing it once. -/
theorem cell_foldl_modify (hf : ∀ x, f (f x) = f x) (is : List ℕ) (a : Arena α)
    (j : ℕ) : (is.foldl (fun a i ↦ a.modify i f) a).cell j =
      if j ∈ is then f (a.cell j) else a.cell j := by
  induction is generalizing a with
  | nil => simp
  | cons i is ih =>
    rw [List.foldl_cons, ih]
    by_cases hj : j = i
    · rw [hj, cell_modify_self, hf, ite_self, if_pos List.mem_cons_self]
    · rw [cell_modify_of_ne hj]
      simp [hj]

end Arena
