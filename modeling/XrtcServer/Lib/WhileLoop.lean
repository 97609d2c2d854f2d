import Mathlib.Logic.Relation
import Mathlib.Tactic.Common

/-!
# While loops

A `while` loop is given by its body: from a state the body either leaves the loop with a result
(`.inl`, the loop condition failed or the body returned) or goes round again (`.inr`). Nothing is
assumed about termination, so the loop itself is a relation: `Exits body s r` says that the loop
started in `s` leaves with `r`.

Termination is therefore a statement to prove: `rounds` computes at most `n` rounds, what it finds
is what the loop leaves with, and `exists_rounds_eq_some` is the ranking-function rule that says
how many rounds are enough.
-/

namespace WhileLoop

variable {σ ρ : Type*} {body : σ → ρ ⊕ σ}

/-- The loop with body `body`, started in `s`, leaves with result `r`. -/
inductive Exits (body : σ → ρ ⊕ σ) : σ → ρ → Prop
  | leave {s : σ} {r : ρ} (h : body s = .inl r) : Exits body s r
  | again {s s' : σ} {r : ρ} (h : body s = .inr s') (hr : Exits body s' r) : Exits body s r

theorem exits_of_inl {s : σ} {r r' : ρ} (h : body s = .inl r) : Exits body s r' ↔ r' = r := by
  constructor
  · intro hx
    cases hx with
    | leave h' => rw [h] at h'; exact (Sum.inl.inj h').symm
    | again h' _ => rw [h] at h'; cases h'
  · rintro rfl
    exact .leave h

theorem exits_of_inr {s s' : σ} {r : ρ} (h : body s = .inr s') :
    Exits body s r ↔ Exits body s' r := by
  constructor
  · intro hx
    cases hx with
    | leave h' => rw [h] at h'; cases h'
    | again h' hr => rw [h] at h'; cases h'; exact hr
  · exact .again h

theorem Exits.unique {s : σ} {r r' : ρ} (h : Exits body s r) (h' : Exits body s r') : r = r' := by
  induction h with
  | leave hs => exact ((exits_of_inl hs).mp h').symm
  | again hs _ ih => exact ih ((exits_of_inr hs).mp h')

/-- At most `n` rounds of the loop, computed. -/
def rounds (body : σ → ρ ⊕ σ) : ℕ → σ → Option ρ
  | 0, _ => none
  | n + 1, s =>
    match body s with
    | .inl r => some r
    | .inr s' => rounds body n s'

theorem exits_of_rounds {n : ℕ} {s : σ} {r : ρ} (h : rounds body n s = some r) :
    Exits body s r := by
  induction n generalizing s with
  | zero => cases h
  | succ n ih =>
    rw [rounds] at h
    rcases hb : body s with r' | s' <;> rw [hb] at h
    · exact .leave (hb.trans (congrArg Sum.inl (Option.some.inj h)))
    · exact .again hb (ih h)

/-- What holds of the starting state, and of every state the body goes round to, holds of the
state the loop finally leaves from. -/
theorem Exits.induct_inv {I : σ → Prop} {s : σ} {r : ρ} (h : Exits body s r) (hs : I s)
    (hstep : ∀ t t', I t → body t = .inr t' → I t') : ∃ t, I t ∧ body t = .inl r := by
  induction h with
  | leave hl => exact ⟨_, hs, hl⟩
  | again hb _ ih => exact ih (hstep _ _ hs hb)

/-- **Ranking functions.** When every round lowers a natural-number measure, more rounds than the
measure are enough. -/
theorem exists_rounds_eq_some (body : σ → ρ ⊕ σ) (μ : σ → ℕ)
    (hstep : ∀ s s', body s = .inr s' → μ s' < μ s) {n : ℕ} {s : σ} (hn : μ s < n) :
    ∃ r, rounds body n s = some r := by
  induction n generalizing s with
  | zero => omega
  | succ n ih =>
    rw [rounds]
    rcases hb : body s with r | s'
    · exact ⟨r, rfl⟩
    · have := hstep s s' hb
      exact ih (by omega)

/-- The loop with body `body`, started in `s`, comes to `t`. The loop need not end. -/
def Visits (body : σ → ρ ⊕ σ) : σ → σ → Prop :=
  Relation.ReflTransGen fun s s' ↦ body s = .inr s'

theorem visits_self (body : σ → ρ ⊕ σ) (s : σ) : Visits body s s := .refl

theorem Visits.again {s t t' : σ} (h : Visits body s t) (ht : body t = .inr t') :
    Visits body s t' := h.tail ht

/-- What holds of the starting state, and of every state the body goes round to, holds of every
state the loop comes to. -/
theorem Visits.induct_inv {I : σ → Prop} {s t : σ} (h : Visits body s t) (hs : I s)
    (hstep : ∀ t t', I t → body t = .inr t' → I t') : I t := by
  induction h with
  | refl => exact hs
  | tail _ ht ih => exact hstep _ _ ih ht

/-- Ranking functions on the states the loop comes to. -/
theorem exists_exits_of_measure (μ : σ → ℕ) (s : σ)
    (hstep : ∀ t t', Visits body s t → body t = .inr t' → μ t' < μ t) : ∃ r, Exits body s r := by
  induction hn : μ s using Nat.strongRecOn generalizing s with
  | ind n ih =>
    rcases hb : body s with r | s'
    · exact ⟨r, .leave hb⟩
    · have hlt := hstep s s' .refl hb
      obtain ⟨r, hr⟩ := ih (μ s') (hn ▸ hlt) s' (fun t t' ht ↦ hstep t t' (.head hb ht)) rfl
      exact ⟨r, .again hb hr⟩

/-- **Simulation.** A function that takes every round of one loop to a round of another takes its
exits to exits. -/
theorem Exits.map {τ : Type*} {body' : τ → ρ ⊕ τ} {f : σ → τ} {I : σ → Prop}
    (hstep : ∀ t t', I t → body t = .inr t' → I t')
    (hf : ∀ t, I t → body' (f t) = (body t).map id f) {s : σ} {r : ρ} (h : Exits body s r)
    (hs : I s) : Exits body' (f s) r := by
  induction h with
  | leave hb => exact .leave (by rw [hf _ hs, hb]; rfl)
  | again hb _ ih => exact .again (by rw [hf _ hs, hb]; rfl) (ih (hstep _ _ hs hb))

/-! ## A log of the rounds -/

section logged

variable {α : Type*} (note : σ → List α)

/-- The body, which also writes down something in every round. -/
def logged (body : σ → ρ ⊕ σ) (note : σ → List α) (s : σ × List α) :
    (ρ × List α) ⊕ (σ × List α) :=
  match body s.1 with
  | .inl r => .inl (r, s.2 ++ note s.1)
  | .inr s' => .inr (s', s.2 ++ note s.1)

/-- The log does not change what the loop computes. -/
theorem map_fst_rounds_logged (n : ℕ) (s : σ) (log : List α) :
    (rounds (logged body note) n (s, log)).map Prod.fst = rounds body n s := by
  induction n generalizing s log with
  | zero => rfl
  | succ n ih =>
    rw [rounds, rounds, logged]
    rcases body s with r | s'
    · rfl
    · exact ih s' _

theorem forall_mem_log {P : α → Prop} (hnote : ∀ s, ∀ a ∈ note s, P a) {n : ℕ} {s : σ} {r : ρ}
    {log log' : List α} (h : rounds (logged body note) n (s, log) = some (r, log'))
    (hlog : ∀ a ∈ log, P a) : ∀ a ∈ log', P a := by
  have happend (t : σ) (ht : ∀ a ∈ log, P a) : ∀ a ∈ log ++ note t, P a := fun a ha ↦
    (List.mem_append.mp ha).elim (ht a) (hnote t a)
  induction n generalizing s log with
  | zero => cases h
  | succ n ih =>
    rw [rounds, logged] at h
    rcases hb : body s with r' | s' <;> rw [hb] at h
    · cases h
      exact happend s hlog
    · exact ih h (happend s hlog) fun t ht a ha ↦ (List.mem_append.mp ha).elim (ht a) (hnote t a)

theorem Exits.logged {s : σ} {r : ρ} (h : Exits body s r) (log : List α) :
    ∃ log', Exits (logged body note) (s, log) (r, log') := by
  induction h generalizing log with
  | leave hb => exact ⟨_, .leave (by rw [WhileLoop.logged, hb])⟩
  | again hb _ ih =>
    obtain ⟨log', hlog'⟩ := ih (log ++ note _)
    exact ⟨log', .again (by rw [WhileLoop.logged, hb]) hlog'⟩

/-- What the loop with a log leaves with: the result of the loop, and a log of notes from states of
an invariant. -/
theorem Exits.forall_mem_log {I : σ → Prop} {P : α → Prop}
    (hstep : ∀ t t', I t → body t = .inr t' → I t') (hnote : ∀ t, I t → ∀ a ∈ note t, P a)
    {s : σ × List α} {x : ρ × List α} (h : Exits (WhileLoop.logged body note) s x) (hs : I s.1)
    (hlog : ∀ a ∈ s.2, P a) : Exits body s.1 x.1 ∧ ∀ a ∈ x.2, P a := by
  induction h with
  | @leave s x hb =>
    have hall : ∀ a ∈ s.2 ++ note s.1, P a := fun a ha ↦
      (List.mem_append.mp ha).elim (hlog a) (hnote s.1 hs a)
    rw [WhileLoop.logged] at hb
    rcases hr : body s.1 with r | s' <;> rw [hr] at hb
    · cases hb
      exact ⟨.leave hr, hall⟩
    · cases hb
  | @again s t x hb _ ih =>
    have hall : ∀ a ∈ s.2 ++ note s.1, P a := fun a ha ↦
      (List.mem_append.mp ha).elim (hlog a) (hnote s.1 hs a)
    rw [WhileLoop.logged] at hb
    rcases hr : body s.1 with r | s' <;> rw [hr] at hb
    · cases hb
    · cases hb
      obtain ⟨hexits, hlog'⟩ := ih (hstep _ _ hs hr) hall
      exact ⟨.again hr hexits, hlog'⟩

end logged

end WhileLoop
