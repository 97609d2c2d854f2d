import Mathlib.Algebra.Order.Ring.Int
import Mathlib.Data.List.Basic
import Mathlib.Logic.Function.Basic

/-!
# Files that are replaced

A program writes to the end of a file, and now and then somebody moves the file away; the program
then opens a new one at the same path and goes on. `Volumes` are the files that have stood at one
path, numbered in the order in which they were made: the one that stands there now, if any, and the
one that the program has open, which may be an older one.

Read one after the other the files have everything that was written, in order (`all_append`). This
rests on what the fields say: the open file is not younger than the file at the path, and younger
files are empty.
-/

/-- The files that have stood at one path. -/
@[ext]
structure Volumes (α : Type*) where
  /-- What was written to each file. -/
  entries : ℕ → List α
  /-- How many files there were. -/
  count : ℕ
  /-- The file at the path. -/
  path : Option ℕ
  /-- The file that is open. -/
  current : Option ℕ
  path_lt : ∀ f ∈ path, f < count
  current_lt : ∀ f ∈ current, f < count
  current_le : ∀ f ∈ current, ∀ g ∈ path, f ≤ g
  /-- Younger files are empty. -/
  after : ∀ f, f ∈ current ∨ f ∈ path → ∀ g, f < g → entries g = []
  fresh : ∀ f, count ≤ f → entries f = []

namespace Volumes

variable {α : Type*} (v : Volumes α)

/-- Nothing was written yet; there may be a file at the path. -/
def empty (α : Type*) (there : Bool) : Volumes α where
  entries _ := []
  count := if there then 1 else 0
  path := if there then some 0 else none
  current := none
  path_lt f hf := by
    cases there with
    | true =>
      obtain rfl := Option.some.inj hf
      exact Nat.one_pos
    | false => cases hf
  current_lt _ hf := nomatch hf
  current_le _ hf := nomatch hf
  after _ _ _ _ := rfl
  fresh _ _ := rfl

/-- Somebody makes a file at the path, in the place of the one that stands there. -/
def create : Volumes α where
  entries := v.entries
  count := v.count + 1
  path := some v.count
  current := v.current
  path_lt f hf := by
    obtain rfl := Option.some.inj hf
    exact Nat.lt_succ_self _
  current_lt f hf := (v.current_lt f hf).trans (Nat.lt_succ_self _)
  current_le f hf g hg := by
    obtain rfl := Option.some.inj hg
    exact (v.current_lt f hf).le
  after f hf g hg := by
    rcases hf with hf | hf
    · exact v.after f (.inl hf) g hg
    · obtain rfl := Option.some.inj hf
      exact v.fresh g hg.le
  fresh f hf := v.fresh f (Nat.le_of_succ_le hf)

/-- The file at the path is moved away or deleted. -/
def vacate : Volumes α where
  entries := v.entries
  count := v.count
  path := none
  current := v.current
  path_lt _ hf := nomatch hf
  current_lt := v.current_lt
  current_le _ _ _ hg := nomatch hg
  after f hf := v.after f (hf.imp_right nofun)
  fresh := v.fresh

def close : Volumes α where
  entries := v.entries
  count := v.count
  path := v.path
  current := none
  path_lt := v.path_lt
  current_lt _ hf := nomatch hf
  current_le _ hf := nomatch hf
  after f hf := v.after f (hf.imp_left nofun)
  fresh := v.fresh

/-- The file at the path is opened, whatever was open before. -/
def openPath : Volumes α where
  entries := v.entries
  count := v.count
  path := v.path
  current := v.path
  path_lt := v.path_lt
  current_lt := v.path_lt
  current_le _ hf _ hg := (Option.some.inj (hf.symm.trans hg)).le
  after f hf := v.after f (.inr (hf.elim id id))
  fresh := v.fresh

/-- Entries are written to the end of the open file. -/
def append (xs : List α) : Volumes α where
  entries := v.current.elim v.entries fun f ↦
    Function.update v.entries f (v.entries f ++ xs)
  count := v.count
  path := v.path
  current := v.current
  path_lt := v.path_lt
  current_lt := v.current_lt
  current_le := v.current_le
  after f hf g hg := by
    rcases hc : v.current with _ | c
    · exact v.after f hf g hg
    · have hle : c ≤ f := by
        rcases hf with hf | hf
        · exact (Option.some.inj (hc.symm.trans hf)).le
        · exact v.current_le c hc f hf
      rw [Option.elim_some, Function.update_of_ne (hle.trans_lt hg).ne']
      exact v.after f hf g hg
  fresh f hf := by
    rcases hc : v.current with _ | c
    · exact v.fresh f hf
    · rw [Option.elim_some, Function.update_of_ne ((v.current_lt c hc).trans_le hf).ne']
      exact v.fresh f hf

/-- Everything that was written, file by file. -/
def all : List α := (List.range v.count).flatMap v.entries

variable {v} {f : ℕ} {xs : List α}

theorem entries_append (h : v.current = some f) :
    (v.append xs).entries = Function.update v.entries f (v.entries f ++ xs) := by
  dsimp only [append]
  rw [h, Option.elim_some]

@[simp] theorem all_vacate : v.vacate.all = v.all := rfl
@[simp] theorem all_close : v.close.all = v.all := rfl
@[simp] theorem all_openPath : v.openPath.all = v.all := rfl

@[simp] theorem all_empty (there : Bool) : (empty α there).all = [] :=
  List.flatMap_eq_nil_iff.mpr fun _ _ ↦ rfl

@[simp] theorem all_create : v.create.all = v.all := by
  have hlast : v.entries v.count = [] := v.fresh _ le_rfl
  rw [all, all, create, List.range_succ, List.flatMap_append, List.flatMap_singleton, hlast,
    List.append_nil]

theorem flatMap_range_of_after {entries : ℕ → List α} {n : ℕ} (hf : f < n)
    (h : ∀ g, f < g → entries g = []) :
    (List.range n).flatMap entries = (List.range f).flatMap entries ++ entries f := by
  induction n with
  | zero => cases hf
  | succ n ih =>
    rw [List.range_succ, List.flatMap_append, List.flatMap_singleton]
    rcases Nat.lt_succ_iff_lt_or_eq.mp hf with hlt | rfl
    · rw [ih hlt, h n hlt, List.append_nil]
    · rfl

/-- **What is written stands at the end of everything.** -/
theorem all_append (h : v.current = some f) : (v.append xs).all = v.all ++ xs := by
  have hlt : f < v.count := v.current_lt f h
  have hafter : ∀ g, f < g → (v.append xs).entries g = [] := (v.append xs).after f (.inl h)
  have hbefore : (List.range f).flatMap (v.append xs).entries =
      (List.range f).flatMap v.entries := by
    refine List.flatMap_congr fun g hg ↦ ?_
    rw [entries_append h, Function.update_of_ne (List.mem_range.mp hg).ne]
  have hall : (v.append xs).all = (List.range v.count).flatMap (v.append xs).entries := rfl
  rw [hall, all, flatMap_range_of_after hlt hafter,
    flatMap_range_of_after hlt (v.after f (.inl h)), hbefore, entries_append h,
    Function.update_self, List.append_assoc]

/-! ## Entries that are made of smaller ones -/

/-- The same files, with every entry taken apart. -/
def flatten (v : Volumes (List α)) : Volumes α where
  entries f := (v.entries f).flatten
  count := v.count
  path := v.path
  current := v.current
  path_lt := v.path_lt
  current_lt := v.current_lt
  current_le := v.current_le
  after f hf g hg := by rw [v.after f hf g hg, List.flatten_nil]
  fresh f hf := by rw [v.fresh f hf, List.flatten_nil]

variable {w : Volumes (List α)}

theorem flatten_append (xs : List (List α)) :
    (w.append xs).flatten = w.flatten.append xs.flatten := by
  refine Volumes.ext ?_ rfl rfl rfl
  funext g
  rcases h : w.current with _ | f
  · simp [flatten, append, h]
  · by_cases hg : g = f <;> simp [flatten, append, h, hg]

end Volumes
