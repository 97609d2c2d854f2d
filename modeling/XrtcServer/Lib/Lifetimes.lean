import Mathlib.Algebra.BigOperators.Group.Finset.Piecewise
import XrtcServer.Lib.Arena

/-!
# Objects and their destructors

An arena says which objects are alive. When the question is whether each of them is destroyed, and
not twice, it also has to be known how often a destructor ran on an object, and `Lifetimes` counts
that. `delete` does not ask whether the object is alive: that every object that is gone was
destroyed once is a property of the program, `Exact`, and not of the data type.

`countLive` counts the live objects of a kind. Programs keep such counts by hand, one step up in a
constructor and one step down in a destructor, and the lemmas say by how much the count moves.
-/

namespace Arena

variable {α : Type*} {a : Arena α} {i j : ℕ} {x : α} {f : α → α} {p : α → Bool}

/-- The number of live objects that satisfy `p`. -/
def countLive (a : Arena α) (p : α → Bool) : ℕ :=
  ((Finset.range a.next).filter fun i ↦ (a.live i && p (a.cell i)) = true).card

theorem card_filter_add_toNat {n : ℕ} (hi : i < n) {q q' : ℕ → Bool}
    (h : ∀ j, j ≠ i → q j = q' j) :
    ((Finset.range n).filter fun j ↦ q j = true).card + (q' i).toNat =
      ((Finset.range n).filter fun j ↦ q' j = true).card + (q i).toNat := by
  have hmem : i ∈ Finset.range n := Finset.mem_range.mpr hi
  have hrest : ∑ j ∈ (Finset.range n).erase i, (if q j = true then 1 else 0) =
      ∑ j ∈ (Finset.range n).erase i, if q' j = true then 1 else 0 :=
    Finset.sum_congr rfl fun j hj ↦ by rw [h j (Finset.ne_of_mem_erase hj)]
  have hone (b : Bool) : (if b = true then 1 else 0) = b.toNat := by cases b <;> rfl
  rw [Finset.card_filter, Finset.card_filter, ← Finset.add_sum_erase _ _ hmem,
    ← Finset.add_sum_erase _ _ hmem, hrest, hone, hone]
  omega

theorem countLive_alloc : (a.alloc x).countLive p = a.countLive p + (p x).toNat := by
  have hold : ∀ i ∈ Finset.range a.next,
      ((a.alloc x).live i && p ((a.alloc x).cell i)) = (a.live i && p (a.cell i)) := by
    intro i hi
    have hne : i ≠ a.next := (Finset.mem_range.mp hi).ne
    rw [live_alloc_of_ne hne, cell_alloc_of_ne hne]
  have hnew : ((a.alloc x).live a.next && p ((a.alloc x).cell a.next)) = p x := by
    rw [live_alloc_next, cell_alloc_next, Bool.true_and]
  have hnext : (a.alloc x).next = a.next + 1 := rfl
  rw [countLive, hnext, Finset.range_add_one, Finset.filter_insert, hnew,
    Finset.filter_congr fun i hi ↦ by rw [hold i hi]]
  cases p x with
  | true => exact Finset.card_insert_of_notMem (by simp)
  | false => rfl

theorem countLive_free (h : a.live i = true) :
    (a.free i).countLive p + (p (a.cell i)).toNat = a.countLive p := by
  have hsame : ∀ j, j ≠ i → ((a.free i).live j && p ((a.free i).cell j)) =
      (a.live j && p (a.cell j)) := fun j hj ↦ by rw [live_free_of_ne hj]; rfl
  have hcount := card_filter_add_toNat (a.live_lt i h) hsame
  rw [live_free_self, h, Bool.false_and, Bool.true_and] at hcount
  exact hcount

theorem countLive_modify (h : a.live i = true) :
    (a.modify i f).countLive p + (p (a.cell i)).toNat =
      a.countLive p + (p (f (a.cell i))).toNat := by
  have hsame : ∀ j, j ≠ i → ((a.modify i f).live j && p ((a.modify i f).cell j)) =
      (a.live j && p (a.cell j)) := fun j hj ↦ by rw [cell_modify_of_ne hj]; rfl
  have hcount := card_filter_add_toNat (a.live_lt i h) hsame
  have hlive : (a.modify i f).live i = true := h
  rw [hlive, h, cell_modify_self, Bool.true_and, Bool.true_and] at hcount
  exact hcount

theorem countLive_eq_zero (h : ∀ i, a.live i = true → p (a.cell i) = false) :
    a.countLive p = 0 := by
  refine Finset.card_eq_zero.mpr (Finset.filter_eq_empty_iff.mpr fun i _ hi ↦ ?_)
  obtain ⟨hlive, hp⟩ := Bool.and_eq_true_iff.mp hi
  cases (h i hlive).symm.trans hp

theorem countLive_congr {q : α → Bool} (h : ∀ i, a.live i = true → p (a.cell i) = q (a.cell i)) :
    a.countLive p = a.countLive q := by
  refine congrArg Finset.card (Finset.filter_congr fun i _ ↦ ?_)
  cases hlive : a.live i with
  | true => rw [h i hlive]
  | false => rfl

end Arena

/-- Objects with a count of the destructors that ran on each. -/
structure Lifetimes (α : Type*) extends Arena α where
  destroys : ℕ → ℕ

namespace Lifetimes

variable {α : Type*} {a : Lifetimes α} {i j : ℕ} {x : α} {f : α → α}

/-- No objects yet. -/
def empty (x : α) : Lifetimes α where
  toArena := .empty x
  destroys _ := 0

/-- `new`: the object `x` under the identifier `a.next`. -/
def new (a : Lifetimes α) (x : α) : Lifetimes α where
  toArena := a.toArena.alloc x
  destroys := a.destroys

/-- `delete`. -/
def delete (a : Lifetimes α) (i : ℕ) : Lifetimes α where
  toArena := a.toArena.free i
  destroys := Function.update a.destroys i (a.destroys i + 1)

/-- An assignment to fields of the object `i`. -/
def modify (a : Lifetimes α) (i : ℕ) (f : α → α) : Lifetimes α :=
  { a with toArena := a.toArena.modify i f }

theorem cell_modify_self : (a.modify i f).cell i = f (a.cell i) := Arena.cell_modify_self

theorem cell_modify_of_ne (h : j ≠ i) : (a.modify i f).cell j = a.cell j :=
  Arena.cell_modify_of_ne h

theorem proj_cell_modify {β : Type*} {p : α → β} (h : ∀ x, p (f x) = p x) (i j : ℕ) :
    p ((a.modify i f).cell j) = p (a.cell j) := Arena.proj_cell_modify h i j

/-- The object is gone, and its destructor ran once. -/
def DestroyedOnce (a : Lifetimes α) (i : ℕ) : Prop := a.live i = false ∧ a.destroys i = 1

/-- Every object that was created is alive or was destroyed once. -/
structure Exact (a : Lifetimes α) : Prop where
  live : ∀ i, a.live i = true → a.destroys i = 0
  gone : ∀ i, i < a.next → a.live i = false → a.destroys i = 1
  ahead : ∀ i, a.next ≤ i → a.destroys i = 0

theorem exact_empty (x : α) : (empty x).Exact where
  live _ _ := rfl
  gone _ h := absurd h (Nat.not_lt_zero _)
  ahead _ _ := rfl

theorem Exact.new (h : a.Exact) (x : α) : (a.new x).Exact where
  live i hi := by
    rcases Arena.live_alloc_iff.mp hi with rfl | hi
    · exact h.ahead _ le_rfl
    · exact h.live i hi
  gone i hi hdead := by
    have hne : i ≠ a.next := by
      rintro rfl
      cases hdead.symm.trans Arena.live_alloc_next
    have hlt : i < a.next := Nat.lt_of_le_of_ne (Nat.le_of_lt_succ hi) hne
    exact h.gone i hlt ((Arena.live_alloc_of_ne hne).symm.trans hdead)
  ahead i hi := h.ahead i (Nat.le_of_succ_le hi)

theorem Exact.modify (h : a.Exact) (i : ℕ) (f : α → α) : (a.modify i f).Exact :=
  ⟨h.live, h.gone, h.ahead⟩

/-- **An object that is alive may be destroyed.** -/
theorem Exact.delete (h : a.Exact) (hi : a.live i = true) : (a.delete i).Exact where
  live j hj := by
    obtain ⟨hne, hlive⟩ := Arena.live_free_iff.mp hj
    exact (Function.update_of_ne hne ..).trans (h.live j hlive)
  gone j hlt hdead := by
    by_cases hne : j = i
    · subst hne
      exact (Function.update_self ..).trans (congrArg (· + 1) (h.live j hi))
    · have hold : a.live j = false := (Arena.live_free_of_ne hne).symm.trans hdead
      exact (Function.update_of_ne hne ..).trans (h.gone j hlt hold)
  ahead j hj := by
    have hne : j ≠ i := fun heq ↦ absurd (a.live_lt i hi) (Nat.not_lt.mpr (heq ▸ hj))
    exact (Function.update_of_ne hne ..).trans (h.ahead j hj)

theorem Exact.destroyedOnce_iff (h : a.Exact) (hi : i < a.next) :
    a.DestroyedOnce i ↔ a.live i = false :=
  ⟨And.left, fun hdead ↦ ⟨hdead, h.gone i hi hdead⟩⟩

end Lifetimes
