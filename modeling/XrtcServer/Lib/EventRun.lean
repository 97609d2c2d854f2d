import Mathlib.Data.List.Infix
import Mathlib.Tactic.Common

/-!
# Runs of an event-driven system

A single-threaded server reacts to one event at a time: `step s e` is the state after the handler
of `e` has returned. A *run* is a list of events, oldest first, and `exec` folds the handler over
it. The states between two handlers, in which nothing is half done, are the values of `exec` on the
prefixes of the run.

## Conditions along a run

`Along step G s es` says that every event of `es` satisfies `G` in the state it arrives in. It
plays two roles. As a hypothesis it restricts the environment (no peer ever sends such a
datagram), and `forall_prefix_iff_along` turns an equivalence about one step into one about every
state reached. As a conclusion it says that every handler invocation of the run behaves, and
`along_congr` reduces an equivalence of two such statements to one about a single step.

## The past

A condition may also be about what has led to a state. `Once P` and `Since P Q` are the two
operators of past-time temporal logic, for conditions on an event and the run before it, and
`exec_induction` is the induction that carries a statement about a run and the state it ends in.
`trail` is the log of a run, for those who watch it from outside.
-/

namespace EventRun

variable {σ ε : Type*} {step : σ → ε → σ} {G H : σ → ε → Prop} {I : σ → Prop}

/-- The state after the handlers of `es` have run, oldest event first. -/
def exec (step : σ → ε → σ) (s : σ) (es : List ε) : σ := es.foldl step s

/-- Every event of the run satisfies `G` in the state its handler starts from. -/
def Along (step : σ → ε → σ) (G : σ → ε → Prop) : σ → List ε → Prop
  | _, [] => True
  | s, e :: es => G s e ∧ Along step G (step s e) es

@[simp] theorem along_nil (s : σ) : Along step G s [] := trivial

@[simp] theorem along_cons {s : σ} {e : ε} {es : List ε} :
    Along step G s (e :: es) ↔ G s e ∧ Along step G (step s e) es := Iff.rfl

/-- **The invariant rule.** What every handler preserves, every run preserves. -/
theorem exec_invariant (hstep : ∀ s e, I s → I (step s e)) {s : σ} (hs : I s) (es : List ε) :
    I (exec step s es) := by
  induction es generalizing s with
  | nil => exact hs
  | cons e es ih => exact ih (hstep s e hs)

/-- The invariant rule for a run whose events satisfy `G`. -/
theorem exec_invariant_along (hstep : ∀ s e, G s e → I s → I (step s e)) {s : σ} (hs : I s)
    {es : List ε} (h : Along step G s es) : I (exec step s es) := by
  induction es generalizing s with
  | nil => exact hs
  | cons e es ih => exact ih (hstep s e h.1 hs) h.2

/-- Two conditions that agree on every state of an invariant agree along every run. -/
theorem along_congr (hstep : ∀ s e, I s → I (step s e)) (hGH : ∀ s e, I s → (G s e ↔ H s e))
    {s : σ} (hs : I s) (es : List ε) : Along step G s es ↔ Along step H s es := by
  induction es generalizing s with
  | nil => simp
  | cons e es ih => rw [along_cons, along_cons, hGH s e hs, ih (hstep s e hs)]

/-- **The exact condition on a run.** If, as long as `P` has held, a step keeps it exactly when
the event satisfies `G`, then `P` holds in all states of a run exactly when all its events satisfy
`G`. -/
theorem forall_prefix_iff_along {P : σ → Prop} (hstep : ∀ s e, I s → I (step s e))
    (hiff : ∀ s e, I s → P s → (P (step s e) ↔ G s e)) {s : σ} (hI : I s) (hP : P s)
    (es : List ε) : (∀ fs, fs <+: es → P (exec step s fs)) ↔ Along step G s es := by
  induction es generalizing s with
  | nil =>
    refine ⟨fun _ ↦ trivial, fun _ fs hfs ↦ ?_⟩
    rw [List.prefix_nil.mp hfs]
    exact hP
  | cons e es ih =>
    rw [along_cons]
    constructor
    · intro h
      have hPe : P (step s e) := h [e] ⟨es, rfl⟩
      refine ⟨(hiff s e hI hP).mp hPe, (ih (hstep s e hI) hPe).mp fun fs hfs ↦ ?_⟩
      exact h (e :: fs) (List.prefix_cons_inj e |>.mpr hfs)
    · rintro ⟨hG, hrest⟩ fs hfs
      have hPe : P (step s e) := (hiff s e hI hP).mpr hG
      rcases List.prefix_cons_iff.mp hfs with rfl | ⟨gs, rfl, hgs⟩
      · exact hP
      · exact (ih (hstep s e hI) hPe).mpr hrest gs hgs

/-! ## Steps that are not functions -/

/-- Every step of a run satisfies `Q`; the run is given by its events and the states they lead
to. -/
def AlongTrace (Q : σ → ε → σ → Prop) : σ → List (ε × σ) → Prop
  | _, [] => True
  | s, (e, s') :: tr => Q s e s' ∧ AlongTrace Q s' tr

/-- The exact condition on a run of a relation. If a step from a good state satisfies `Q` exactly
when its event satisfies `G`, and leads to a good state then, all steps satisfy `Q` exactly when
all events satisfy `G`. -/
theorem alongTrace_iff {R Q : σ → ε → σ → Prop}
    (hiff : ∀ s e s', I s → R s e s' → (Q s e s' ↔ G s e)) (hgood : ∀ s e s', Q s e s' → I s')
    {s : σ} (hs : I s) {tr : List (ε × σ)} (h : AlongTrace R s tr) :
    AlongTrace Q s tr ↔ AlongTrace (fun s e _ ↦ G s e) s tr := by
  induction tr generalizing s with
  | nil => exact Iff.rfl
  | cons x tr ih =>
    obtain ⟨e, s'⟩ := x
    constructor
    · rintro ⟨hq, hrest⟩
      exact ⟨(hiff s e s' hs h.1).mp hq, (ih (hgood s e s' hq) h.2).mp hrest⟩
    · rintro ⟨hg, hrest⟩
      have hq := (hiff s e s' hs h.1).mpr hg
      exact ⟨hq, (ih (hgood s e s' hq) h.2).mpr hrest⟩

/-! ## The past -/

theorem exec_append (s : σ) (es fs : List ε) :
    exec step s (es ++ fs) = exec step (exec step s es) fs := List.foldl_append

theorem along_append {s : σ} {es fs : List ε} :
    Along step G s (es ++ fs) ↔ Along step G s es ∧ Along step G (exec step s es) fs := by
  induction es generalizing s with
  | nil => simp [exec]
  | cons e es ih => rw [List.cons_append, along_cons, along_cons, ih, and_assoc, exec, exec,
      List.foldl_cons]

theorem exec_append_singleton (s : σ) (es : List ε) (e : ε) :
    exec step s (es ++ [e]) = step (exec step s es) e := by
  rw [exec, List.foldl_append]
  rfl

/-- **Induction along a run**, for statements about the run and the state it ends in. -/
theorem exec_induction {J : List ε → σ → Prop} {s : σ} (hs : J [] s)
    (hstep : ∀ es e, J es (exec step s es) → J (es ++ [e]) (step (exec step s es) e))
    (es : List ε) : J es (exec step s es) := by
  induction es using List.reverseRecOn with
  | nil => exact hs
  | append_singleton es e ih =>
    rw [exec_append_singleton]
    exact hstep es e ih

/-- Some event of the run satisfies `P`, which may look at the run before it. -/
def Once (P : List ε → ε → Prop) (es : List ε) : Prop := ∃ fs e gs, es = fs ++ e :: gs ∧ P fs e

/-- Some event satisfies `P`, and no event after it satisfies `Q`. -/
def Since (P Q : List ε → ε → Prop) (es : List ε) : Prop :=
  ∃ fs e gs, es = fs ++ e :: gs ∧ P fs e ∧ ∀ hs a ks, gs = hs ++ a :: ks → ¬Q (fs ++ e :: hs) a

variable {P Q : List ε → ε → Prop} {es : List ε} {e : ε}

theorem Once.last (h : P es e) : Once P (es ++ [e]) := ⟨es, e, [], rfl, h⟩

theorem Once.snoc (h : Once P es) (e : ε) : Once P (es ++ [e]) := by
  obtain ⟨fs, a, gs, rfl, ha⟩ := h
  exact ⟨fs, a, gs ++ [e], by simp, ha⟩

theorem Since.last (h : P es e) : Since P Q (es ++ [e]) :=
  ⟨es, e, [], rfl, h, fun hs a ks hnil ↦ by simp at hnil⟩

theorem Since.snoc (h : Since P Q es) (he : ¬Q es e) : Since P Q (es ++ [e]) := by
  obtain ⟨fs, a, gs, rfl, ha, hgs⟩ := h
  refine ⟨fs, a, gs ++ [e], by simp, ha, fun hs b ks hsplit ↦ ?_⟩
  -- the event `b` is the last one, or one of `gs`
  rcases List.eq_nil_or_concat ks with rfl | ⟨ks, e', rfl⟩
  · obtain ⟨rfl, heq⟩ := List.append_inj' hsplit rfl
    obtain rfl : e = b := by simpa using heq
    exact he
  · rw [List.concat_eq_append, ← List.cons_append, ← List.append_assoc] at hsplit
    exact hgs hs b ks (List.append_inj' hsplit rfl).1

/-! ## What a run records -/

variable {ι τ : Type*} {entry : σ → ε → Option ι}

/-- The entries that the events of a run make in a log, oldest first; an event makes one or none. -/
def trail (step : σ → ε → σ) (entry : σ → ε → Option ι) : σ → List ε → List ι
  | _, [] => []
  | s, e :: es => (entry s e).toList ++ trail step entry (step s e) es

theorem trail_append (s : σ) (es fs : List ε) : trail step entry s (es ++ fs) =
    trail step entry s es ++ trail step entry (exec step s es) fs := by
  induction es generalizing s with
  | nil => rfl
  | cons e es ih =>
    rw [List.cons_append, trail, trail, ih (step s e), List.append_assoc]
    rfl

/-- **What is derived from the log.** If every event changes a view of the state by the entry it
makes, and only by it, the view is the log folded. -/
theorem view_exec_eq_foldl (view : σ → τ) {record : τ → ι → τ} (hinv : ∀ s e, I s → I (step s e))
    (hview : ∀ s e, I s → view (step s e) = (entry s e).elim (view s) (record (view s)))
    {s : σ} (hs : I s) (es : List ε) :
    view (exec step s es) = (trail step entry s es).foldl record (view s) := by
  induction es generalizing s with
  | nil => rfl
  | cons e es ih =>
    have hfirst : (entry s e).toList.foldl record (view s) = view (step s e) := by
      rw [hview s e hs]
      cases entry s e <;> rfl
    rw [trail, List.foldl_append, hfirst]
    exact ih (hinv s e hs)

end EventRun
