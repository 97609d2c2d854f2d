import Mathlib.Data.List.Basic
import Mathlib.Tactic.Common

/-!
# Signals and their observers

An object tells its observers by signals that a value has changed, and handlers of these and of
other signals look at the value. In the log of an object each signal stands with the value that its
handlers find, and `Announced` says of a stretch of the log that no change went without a signal
that announces it.

An observer keeps something in step with the value, and looks at it when a signal comes. The rule
`Announced.foldl` is that it does not lose a change, whatever other signals come between: it is
enough that it gets in step at the signals that announce, and stays in step at the others.

`Exact` is about the signals of one kind: each of them finds another value than the one before it,
so there are no more signals than changes. For a flag this leaves one log of each length
(`Exact.flag`).
-/

namespace SignalLog

variable {α σ τ : Type*} {announces : α → Prop} {value : α → σ} {a b c : σ} {x : α} {xs ys : List α}

/-- The value goes from `a` to `b` over the signals, and every signal that finds another value than
the one before it announces the change. -/
def Announced (announces : α → Prop) (value : α → σ) : σ → List α → σ → Prop
  | a, [], b => a = b
  | a, x :: xs, b => (value x = a ∨ announces x) ∧ Announced announces value (value x) xs b

theorem Announced.refl (a : σ) : Announced announces value a [] a := rfl

theorem Announced.singleton (h : value x = a ∨ announces x) :
    Announced announces value a [x] (value x) := ⟨h, rfl⟩

theorem Announced.append (h : Announced announces value a xs b)
    (h' : Announced announces value b ys c) : Announced announces value a (xs ++ ys) c := by
  induction xs generalizing a with
  | nil =>
    cases h
    exact h'
  | cons x xs ih => exact ⟨h.1, ih h.2⟩

/-- **No lost update.** An observer that is in step at first is in step after the signals. -/
theorem Announced.foldl {R : τ → σ → Prop} {f : τ → α → τ}
    (hf : ∀ t a x, R t a → value x = a ∨ announces x → R (f t x) (value x))
    (h : Announced announces value a xs b) {t : τ} (ht : R t a) : R (xs.foldl f t) b := by
  induction xs generalizing a t with
  | nil =>
    cases h
    exact ht
  | cons x xs ih => exact ih h.2 (hf t a x ht h.1)

/-! ## No signal without a change -/

variable {l : List σ}

/-- The values that the signals of one kind find, from `a` at first to `b` now: each is another one
than the one before it. -/
def Exact : σ → List σ → σ → Prop
  | a, [], b => a = b
  | a, c :: l, b => c ≠ a ∧ Exact c l b

theorem Exact.refl (a : σ) : Exact a [] a := rfl

theorem Exact.snoc (h : Exact a l b) (hc : c ≠ b) : Exact a (l ++ [c]) c := by
  induction l generalizing a with
  | nil =>
    cases h
    exact ⟨hc, rfl⟩
  | cons x l ih => exact ⟨h.1, ih h.2⟩

/-- **A flag alternates.** How often it was told decides what was told and what it is. -/
theorem Exact.flag {a b : Bool} {l : List Bool} (h : Exact a l b) :
    l = (List.range l.length).map (fun k ↦ a ^^ (k % 2 == 0)) ∧ b = (a ^^ (l.length % 2 == 1)) := by
  induction l generalizing a with
  | nil =>
    cases h
    exact ⟨rfl, by simp⟩
  | cons x l ih =>
    obtain ⟨hx, hrest⟩ := h
    obtain ⟨hl, hb⟩ := ih hrest
    obtain rfl : x = !a := by
      rwa [Bool.eq_not]
    refine ⟨?_, ?_⟩
    · rw [List.length_cons, List.range_succ_eq_map, List.map_cons, List.map_map]
      congr 1
      · simp
      · refine hl.trans (List.map_congr_left fun k _ ↦ ?_)
        rcases Nat.mod_two_eq_zero_or_one k with hk | hk <;>
          simp [Nat.add_mod, hk]
    · rw [hb, List.length_cons]
      rcases Nat.mod_two_eq_zero_or_one l.length with hk | hk <;> simp [Nat.add_mod, hk]

end SignalLog
