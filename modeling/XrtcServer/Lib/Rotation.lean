import Mathlib.Data.List.Induction
import Mathlib.Data.Set.Lattice
import Mathlib.Logic.Function.Basic
import Mathlib.Order.CompletePartialOrder

/-!
# Taking turns

The members of a group have their turns in rounds: some wait for the turn of the current round, the
others have had it. A *scan* gives the turn to one of those who wait and are ready, the one whose
last turn is longest ago; if nobody who waits is ready, a new round begins first, in which everybody
waits. A *bypass* gives the turn to any member, whatever the round says. Readiness is up to the
environment and may be different each time.

## Why it is fair

While a member `d` is ready at every scan and has no turn, `Ahead c d` stays true once `c` has had
a turn: either `c` has had its turn in this round and `d` has not, so that no new round can begin,
or the last turn of `d` is longer ago than that of `c`. In both cases a scan does not choose `c`
(`Ahead.not_scans`).
-/

namespace Rotation

variable {ι τ : Type*}

/-- Who waits, who has had a turn in this round, and when everyone's last turn was. -/
@[ext]
structure State (ι τ : Type*) where
  waiting : Set ι
  served : Set ι
  last : ι → τ

namespace State

variable {s s' : State ι τ} {ready members : Set ι} {b c d : ι} {t : τ}

/-- `c` has its turn at the time `t`. -/
def turn [DecidableEq ι] (s : State ι τ) (c : ι) (t : τ) : State ι τ where
  waiting := s.waiting \ {c}
  served := insert c s.served
  last := Function.update s.last c t

open Classical in
/-- A new round begins unless somebody who waits is ready. -/
noncomputable def refill (ready : Set ι) (s : State ι τ) : State ι τ :=
  if (s.waiting ∩ ready).Nonempty then s
  else { s with waiting := s.waiting ∪ s.served, served := ∅ }

theorem refill_of_nonempty (h : (s.waiting ∩ ready).Nonempty) : s.refill ready = s := if_pos h

theorem refill_of_not_nonempty (h : ¬(s.waiting ∩ ready).Nonempty) : s.refill ready =
    { s with waiting := s.waiting ∪ s.served, served := ∅ } := if_neg h

@[simp] theorem last_refill : (s.refill ready).last = s.last := by
  rw [refill]
  split_ifs <;> rfl

theorem served_refill_subset : (s.refill ready).served ⊆ s.served := by
  rw [refill]
  split_ifs
  · exact subset_rfl
  · exact Set.empty_subset _

section Turns

variable [DecidableEq ι]

@[simp] theorem last_turn_self : (s.turn c t).last c = t := Function.update_self ..

theorem last_turn_of_ne (h : d ≠ c) : (s.turn c t).last d = s.last d := Function.update_of_ne h ..

end Turns

/-! ## Members -/

/-- Every member waits or has had its turn, and not both. -/
structure Covers (s : State ι τ) (members : Set ι) : Prop where
  disjoint : Disjoint s.waiting s.served
  union : s.waiting ∪ s.served = members

theorem Covers.congr (h : s.Covers members) (hwaiting : s'.waiting = s.waiting)
    (hserved : s'.served = s.served) : s'.Covers members :=
  ⟨by rw [hwaiting, hserved]; exact h.disjoint, by rw [hwaiting, hserved, h.union]⟩

theorem Covers.turn [DecidableEq ι] (h : s.Covers members) (hc : c ∈ members) (t : τ) :
    (s.turn c t).Covers members where
  disjoint := by
    rw [State.turn, Set.disjoint_insert_right]
    exact ⟨fun hc ↦ hc.2 rfl, h.disjoint.mono_left Set.sdiff_subset⟩
  union := by
    rw [← h.union] at hc ⊢
    ext b
    by_cases hb : b = c
    · subst hb
      simpa [State.turn] using hc
    · simp [State.turn, hb]

theorem Covers.refill (h : s.Covers members) (ready : Set ι) :
    (s.refill ready).Covers members := by
  by_cases hready : (s.waiting ∩ ready).Nonempty
  · rwa [refill_of_nonempty hready]
  · rw [refill_of_not_nonempty hready]
    exact ⟨Set.disjoint_empty _, by rw [Set.union_empty, h.union]⟩

theorem Covers.join (h : s.Covers members) (hc : c ∉ members) :
    ({ s with waiting := insert c s.waiting } : State ι τ).Covers (insert c members) where
  disjoint := by
    rw [Set.disjoint_insert_left]
    exact ⟨fun hmem ↦ hc (h.union ▸ Or.inr hmem), h.disjoint⟩
  union := by rw [Set.insert_union, h.union]

/-! ## The scan -/

variable [LinearOrder τ]

/-- The scan may choose `c`. -/
structure Scans (s : State ι τ) (ready : Set ι) (c : ι) : Prop where
  waits : c ∈ (s.refill ready).waiting
  isReady : c ∈ ready
  least : ∀ d ∈ (s.refill ready).waiting, d ∈ ready → s.last c ≤ s.last d

/-- `d` is to have a turn before `c` has another one from a scan. -/
def Ahead (c d : ι) (s : State ι τ) : Prop :=
  (c ∈ s.served ∧ d ∉ s.served) ∨ (s.last d < s.last c ∧ (d ∈ s.served → c ∈ s.served))

theorem ahead_turn [DecidableEq ι] (hdc : d ≠ c) (hlast : d ∈ s.served → s.last d < t) :
    Ahead c d (s.turn c t) := by
  by_cases hd : d ∈ s.served
  · refine .inr ⟨?_, fun _ ↦ Set.mem_insert c _⟩
    rw [last_turn_self, last_turn_of_ne hdc]
    exact hlast hd
  · refine .inl ⟨Set.mem_insert c _, fun hmem ↦ ?_⟩
    exact (Set.mem_insert_iff.mp hmem).elim hdc hd

theorem Ahead.congr (h : Ahead c d s) (hserved : s'.served = s.served) (hlast : s'.last = s.last) :
    Ahead c d s' := by
  rw [Ahead, hserved, hlast]
  exact h

theorem Ahead.turn [DecidableEq ι] (h : Ahead c d s) (hbc : b ≠ c) (hbd : b ≠ d) :
    Ahead c d (s.turn b t) := by
  rcases h with ⟨hc, hd⟩ | ⟨hlt, himp⟩
  · refine .inl ⟨Set.mem_insert_of_mem b hc, fun hmem ↦ ?_⟩
    exact (Set.mem_insert_iff.mp hmem).elim (Ne.symm hbd) hd
  · refine .inr ⟨?_, fun hmem ↦ Set.mem_insert_of_mem b (himp ?_)⟩
    · rwa [last_turn_of_ne hbc.symm, last_turn_of_ne hbd.symm]
    · exact (Set.mem_insert_iff.mp hmem).resolve_left (Ne.symm hbd)

theorem Ahead.refill (h : Ahead c d s) (hs : s.Covers members) (hd : d ∈ members)
    (hready : d ∈ ready) : Ahead c d (s.refill ready) := by
  by_cases hround : (s.waiting ∩ ready).Nonempty
  · rwa [refill_of_nonempty hround]
  · rw [refill_of_not_nonempty hround]
    rcases h with ⟨-, hserved⟩ | ⟨hlt, -⟩
    · -- `d` waits and is ready
      have hunion : d ∈ s.waiting ∪ s.served := hs.union ▸ hd
      have hwaits : d ∈ s.waiting := hunion.resolve_right hserved
      exact absurd ⟨d, hwaits, hready⟩ hround
    · exact .inr ⟨hlt, fun hmem ↦ hmem.elim⟩

/-- **No second turn.** A scan does not choose `c` while `d` is ready and has not had its turn. -/
theorem Ahead.not_scans (h : Ahead c d s) (hs : s.Covers members) (hd : d ∈ members)
    (hready : d ∈ ready) : ¬s.Scans ready c := by
  intro hscan
  have hrefill := hs.refill ready
  have hc : c ∉ (s.refill ready).served := Set.disjoint_left.mp hrefill.disjoint hscan.waits
  rcases h.refill hs hd hready with ⟨hserved, -⟩ | ⟨hlt, himp⟩
  · exact hc hserved
  · have hwaits : d ∈ (s.refill ready).waiting :=
      (hrefill.union ▸ hd : d ∈ (s.refill ready).waiting ∪ (s.refill ready).served).resolve_right
        fun hmem ↦ hc (himp hmem)
    rw [last_refill] at hlt
    exact absurd (hscan.least d hwaits hready) (not_le.mpr hlt)

end State

/-! ## A selection -/

variable [LinearOrder τ]

/-- What a selection can do: a bypass, a scan, or a scan that finds nobody. -/
inductive Select [DecidableEq ι] (ready : Set ι) (s : State ι τ) :
    Option (ι × τ) → State ι τ → Prop
  | bypass (c : ι) (t : τ) : Select ready s (some (c, t)) (s.turn c t)
  | scan (c : ι) (t : τ) (h : s.Scans ready c) :
      Select ready s (some (c, t)) ((s.refill ready).turn c t)
  | nobody : Select ready s none (s.refill ready)

namespace Select

variable [DecidableEq ι] {ready members : Set ι} {s s' : State ι τ} {x : Option (ι × τ)} {c d : ι}

/-- Who has had a turn in this round had it now or before. -/
theorem served (h : Select ready s x s') (hd : d ∈ s'.served) :
    x = some (d, s'.last d) ∨ d ∈ s.served ∧ s'.last d = s.last d := by
  cases h with
  | bypass c t =>
    rcases Set.mem_insert_iff.mp hd with rfl | hd'
    · exact .inl (by rw [State.last_turn_self])
    · by_cases hdc : d = c
      · exact .inl (by rw [hdc, State.last_turn_self])
      · exact .inr ⟨hd', State.last_turn_of_ne hdc⟩
  | scan c t h =>
    by_cases hdc : d = c
    · exact .inl (by rw [hdc, State.last_turn_self])
    · refine .inr ⟨State.served_refill_subset ((Set.mem_insert_iff.mp hd).resolve_left hdc), ?_⟩
      rw [State.last_turn_of_ne hdc, State.last_refill]
  | nobody => exact .inr ⟨State.served_refill_subset hd, by rw [State.last_refill]⟩

/-- After its turn, `c` is not to have another one before `d`. -/
theorem ahead_of_turn {t : τ} (h : Select ready s (some (c, t)) s') (hdc : d ≠ c)
    (hlast : d ∈ s.served → s.last d < t) : State.Ahead c d s' := by
  cases h with
  | bypass => exact State.ahead_turn hdc hlast
  | scan c t h =>
    refine State.ahead_turn hdc fun hd ↦ ?_
    rw [State.last_refill]
    exact hlast (State.served_refill_subset hd)

/-- A member that is ready and gets no turn stays ahead, as long as `c` gets none either. -/
theorem ahead (h : Select ready s x s') (ha : State.Ahead c d s) (hs : s.Covers members)
    (hd : d ∈ members) (hready : d ∈ ready) (hx : ∀ y ∈ x, y.1 ≠ c ∧ y.1 ≠ d) :
    State.Ahead c d s' := by
  cases h with
  | bypass b t => exact ha.turn (hx _ rfl).1 (hx _ rfl).2
  | scan b t h => exact (ha.refill hs hd hready).turn (hx _ rfl).1 (hx _ rfl).2
  | nobody => exact ha.refill hs hd hready

end Select

/-! ## The choice -/

/-- The first of those in `l` who are ready whose key is least. -/
def leastReady (ready : ι → Bool) (key : ι → τ) (l : List ι) : Option ι :=
  l.foldl (fun best c ↦
    if ready c && best.all fun b ↦ key c < key b then some c else best) none

theorem leastReady_concat (ready : ι → Bool) (key : ι → τ) (l : List ι) (c : ι) :
    leastReady ready key (l ++ [c]) =
      if ready c && (leastReady ready key l).all fun b ↦ key c < key b then some c
      else leastReady ready key l := by
  rw [leastReady, List.foldl_append]
  rfl

variable {ready : ι → Bool} {key : ι → τ} {l : List ι} {c : ι}

theorem not_ready_of_leastReady_eq_none (h : leastReady ready key l = none) :
    ∀ d ∈ l, ready d = false := by
  induction l using List.reverseRecOn with
  | nil => intro d hd; cases hd
  | append_singleton l c ih =>
    rw [leastReady_concat] at h
    rcases hbest : leastReady ready key l with _ | b
    · rw [hbest] at h
      intro d hd
      rcases List.mem_append.mp hd with hd | hd
      · exact ih hbest d hd
      · rw [List.mem_singleton.mp hd]
        simpa using h
    · rw [hbest] at h
      split_ifs at h

/-- **The choice of a scan.** It is ready, and no one who is ready has a smaller key. -/
theorem leastReady_spec (h : leastReady ready key l = some c) :
    c ∈ l ∧ ready c = true ∧ ∀ d ∈ l, ready d = true → key c ≤ key d := by
  induction l using List.reverseRecOn generalizing c with
  | nil => cases h
  | append_singleton l x ih =>
    rw [leastReady_concat] at h
    split_ifs at h with hx
    · obtain rfl := Option.some.inj h
      obtain ⟨hready, hless⟩ := Bool.and_eq_true_iff.mp hx
      refine ⟨by simp, hready, fun d hd hdready ↦ ?_⟩
      -- what replaces the best one is better than it, and so than all before
      rcases List.mem_append.mp hd with hd | hd
      · rcases hbest : leastReady ready key l with _ | b
        · rw [not_ready_of_leastReady_eq_none hbest d hd] at hdready
          cases hdready
        · have hxb : key x < key b := by simpa [hbest] using hless
          exact hxb.le.trans ((ih hbest).2.2 d hd hdready)
      · rw [List.mem_singleton.mp hd]
    · obtain ⟨hc, hready, hleast⟩ := ih h
      refine ⟨List.mem_append_left _ hc, hready, fun d hd hdready ↦ ?_⟩
      rcases List.mem_append.mp hd with hd | hd
      · exact hleast d hd hdready
      · obtain rfl := List.mem_singleton.mp hd
        rw [hdready, h] at hx
        simpa using hx

end Rotation
