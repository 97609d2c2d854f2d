import XrtcServer.Lib.Arena

/-!
# Registries of heap objects

A manager often keeps the objects it owns in a table, under a key that the object itself carries: a
name, an address, a session id. `Registry key` is an arena of objects together with such a table.
That an entry of the table is alive and carries the key it stands under is a field of the structure,
so no operation can break it.

The converse is not a field, because programs do break it: an object is *complete* in a registry
when every live object is the entry of its own key, and an object that is alive without being an
entry can no longer be found, stopped or destroyed. `complete_add_iff` says exactly when a new
object makes this happen: when it takes the place of another one.
-/

/-- Objects of one class, and a table that finds some of them by their key. -/
structure Registry {κ α : Type*} (key : α → κ) where
  objects : Arena α
  table : κ → Option ℕ
  /-- Entries are alive and stand under their own key. -/
  sound : ∀ k i, table k = some i → objects.live i = true ∧ key (objects.cell i) = k

namespace Registry

variable {κ α : Type*} {key : α → κ} {r : Registry key} {k : κ} {i j : ℕ} {x : α} {f : α → α}

/-- Nothing was made yet. -/
def empty (key : α → κ) (x : α) : Registry key where
  objects := .empty x
  table _ := none
  sound _ _ h := by cases h

/-- An assignment to fields of an object that are not its key. -/
def modify (r : Registry key) (i : ℕ) (f : α → α) (hf : ∀ x, key (f x) = key x) : Registry key where
  objects := r.objects.modify i f
  table := r.table
  sound k j h := by
    obtain ⟨hlive, hkey⟩ := r.sound k j h
    exact ⟨hlive, (Arena.proj_cell_modify hf i j).trans hkey⟩

/-- Every live object is the entry of its own key. -/
def Complete (r : Registry key) : Prop :=
  ∀ i, r.objects.live i = true → r.table (key (r.objects.cell i)) = some i

theorem complete_empty (key : α → κ) (x : α) : (empty key x).Complete := by
  intro i h
  cases h

theorem Complete.modify (h : r.Complete) (i : ℕ) (hf : ∀ x, key (f x) = key x) :
    (r.modify i f hf).Complete := by
  intro j hj
  have hkey : key ((r.objects.modify i f).cell j) = key (r.objects.cell j) :=
    Arena.proj_cell_modify hf i j
  exact (congrArg r.table hkey).trans (h j hj)

variable [DecidableEq κ]

/-- A new object, entered under its key; what stood there is overwritten. -/
def add (r : Registry key) (x : α) : Registry key where
  objects := r.objects.alloc x
  table := Function.update r.table (key x) (some r.objects.next)
  sound k i h := by
    by_cases hk : k = key x
    · subst hk
      rw [Function.update_self] at h
      obtain rfl := Option.some.inj h
      exact ⟨Arena.live_alloc_next, by rw [Arena.cell_alloc_next]⟩
    · rw [Function.update_of_ne hk] at h
      obtain ⟨hlive, hkey⟩ := r.sound k i h
      refine ⟨Arena.live_alloc_iff.mpr (.inr hlive), ?_⟩
      rw [Arena.cell_alloc_of_ne (Arena.ne_next_of_live hlive), hkey]

/-- The entry of `k` is taken out and destroyed, if there is one. -/
def remove (r : Registry key) (k : κ) : Registry key where
  objects := (r.table k).elim r.objects r.objects.free
  table := Function.update r.table k none
  sound k' i h := by
    by_cases hk : k' = k
    · rw [hk, Function.update_self] at h
      cases h
    · rw [Function.update_of_ne hk] at h
      obtain ⟨hlive, hkey⟩ := r.sound k' i h
      rcases hj : r.table k with _ | j
      · exact ⟨hlive, hkey⟩
      · -- the object that goes stands under `k`, so it is another one
        have hij : i ≠ j := by
          rintro rfl
          exact hk (hkey.symm.trans (r.sound k i hj).2)
        exact ⟨Arena.live_free_iff.mpr ⟨hij, hlive⟩, hkey⟩

@[simp] theorem table_remove : (r.remove k).table = Function.update r.table k none := rfl

theorem objects_remove :
    (r.remove k).objects = (r.table k).elim r.objects r.objects.free := rfl

@[simp] theorem cell_remove : (r.remove k).objects.cell = r.objects.cell := by
  rw [objects_remove]
  rcases r.table k with _ | j <;> rfl

theorem live_remove_iff : (r.remove k).objects.live i = true ↔
    r.table k ≠ some i ∧ r.objects.live i = true := by
  rw [objects_remove]
  rcases r.table k with _ | j
  · simp
  · dsimp only [Option.elim]
    rw [Arena.live_free_iff]
    constructor
    · rintro ⟨hij, hlive⟩
      exact ⟨fun h ↦ hij (Option.some.inj h).symm, hlive⟩
    · rintro ⟨hij, hlive⟩
      exact ⟨fun h ↦ hij (h ▸ rfl), hlive⟩

theorem Complete.remove (h : r.Complete) (k : κ) : (r.remove k).Complete := by
  intro i hi
  obtain ⟨hne, hlive⟩ := live_remove_iff.mp hi
  have hentry := h i hlive
  rw [cell_remove, table_remove]
  have hk : key (r.objects.cell i) ≠ k := by
    intro hk
    exact hne (hk ▸ hentry)
  rw [Function.update_of_ne hk, hentry]

/-- **A new object hides none** exactly when its key was free. -/
theorem complete_add_iff (h : r.Complete) : (r.add x).Complete ↔ r.table (key x) = none := by
  constructor
  · intro hadd
    by_contra hne
    obtain ⟨j, hj⟩ := Option.ne_none_iff_exists'.mp hne
    obtain ⟨hlive, hkey⟩ := r.sound _ j hj
    have hnext := Arena.ne_next_of_live hlive
    have hentry := hadd j (Arena.live_alloc_iff.mpr (.inr hlive))
    -- the entry under the key of `j` is now the new object
    have hcell : (r.add x).objects.cell j = r.objects.cell j := Arena.cell_alloc_of_ne hnext
    have hnew : (r.add x).table (key x) = some r.objects.next := Function.update_self ..
    rw [hcell, hkey, hnew] at hentry
    exact hnext (Option.some.inj hentry).symm
  · intro hfree i hi
    rcases Arena.live_alloc_iff.mp hi with rfl | hi
    · have hcell : (r.add x).objects.cell r.objects.next = x := Arena.cell_alloc_next
      rw [hcell]
      exact Function.update_self ..
    · have hcell : (r.add x).objects.cell i = r.objects.cell i :=
        Arena.cell_alloc_of_ne (Arena.ne_next_of_live hi)
      have hentry := h i hi
      rw [hcell]
      have hne : key (r.objects.cell i) ≠ key x := by
        intro hk
        rw [hk, hfree] at hentry
        cases hentry
      exact (Function.update_of_ne hne ..).trans hentry

end Registry
