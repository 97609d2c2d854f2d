import Mathlib.Data.List.DropRight
import Mathlib.Order.Lattice
import Mathlib.Tactic.Common

/-!
# Logs with times

A log lists what has happened, oldest first, and every entry carries a time. Programs seldom keep a
log; they keep the time of the last entry of each kind, and decide by comparing these. `lastTime` is
such a time stamp, with the value it starts from, and `since` is what it is meant to tell: the
entries after the last one of a kind.

In a chronological log the two agree up to ties. `lastTime_lt_iff` and `lt_lastTime_iff` replace a
comparison of stamps by a statement about the entries, and `mem_since_of_lt` and `le_of_mem_since`
relate the order of the entries to that of their times.
-/

namespace TimedLog

variable {α τ : Type*} {time : α → τ} {p : α → Bool} {l : List α} {x y : α}
  {start t : τ}

/-- The time stamp of the last entry that satisfies `p`. -/
def lastTime (time : α → τ) (p : α → Bool) (start : τ) (l : List α) : τ :=
  l.foldl (fun t x ↦ if p x then time x else t) start

/-- The entries after the last one that satisfies `p`, or all of them. -/
def since (p : α → Bool) (l : List α) : List α := l.rtakeWhile fun x ↦ !p x

theorem lastTime_concat (l : List α) (x : α) : lastTime time p start (l ++ [x]) =
    if p x then time x else lastTime time p start l := by
  rw [lastTime, List.foldl_append]
  rfl

/-- A program that writes a stamp whenever an entry of a kind comes in keeps `lastTime`. -/
theorem lastTime_eq_foldl {σ : Type*} {record : σ → α → σ} {stamp : σ → τ}
    (h : ∀ s x, stamp (record s x) = if p x then time x else stamp s) (s : σ) (l : List α) :
    stamp (l.foldl record s) = lastTime time p (stamp s) l := by
  induction l generalizing s with
  | nil => rfl
  | cons x l ih =>
    rw [List.foldl_cons, ih, h]
    rfl

theorem since_concat (l : List α) (x : α) :
    since p (l ++ [x]) = if p x then [] else since p l ++ [x] := by
  rw [since, List.rtakeWhile_concat]
  cases p x <;> rfl

theorem mem_of_mem_since (h : x ∈ since p l) : x ∈ l := List.rtakeWhile_suffix _ l |>.subset h

theorem lastTime_eq (time : α → τ) (p : α → Bool) (start : τ) (l : List α) :
    lastTime time p start l = start ∨
      ∃ x ∈ l, p x = true ∧ time x = lastTime time p start l := by
  induction l using List.reverseRecOn with
  | nil => exact .inl rfl
  | append_singleton l x ih =>
    rw [lastTime_concat]
    split_ifs with hp
    · exact .inr ⟨x, by simp, hp, rfl⟩
    · refine ih.imp_right ?_
      rintro ⟨y, hy, hpy⟩
      exact ⟨y, List.mem_append_left _ hy, hpy⟩

variable [LinearOrder τ]

/-- The times never go down. -/
def Chronological (time : α → τ) (l : List α) : Prop := l.Pairwise fun x y ↦ time x ≤ time y

instance (time : α → τ) (l : List α) : Decidable (Chronological time l) :=
  inferInstanceAs (Decidable (l.Pairwise _))

theorem Chronological.of_concat (h : Chronological time (l ++ [x])) :
    Chronological time l ∧ ∀ y ∈ l, time y ≤ time x := by
  obtain ⟨hl, -, hx⟩ := List.pairwise_append.mp h
  exact ⟨hl, fun y hy ↦ hx y hy x (List.mem_singleton_self x)⟩

/-! ## Comparing a stamp with a time -/

theorem le_lastTime (hl : Chronological time l) (hx : x ∈ l) (hp : p x = true) :
    time x ≤ lastTime time p start l := by
  induction l using List.reverseRecOn with
  | nil => cases hx
  | append_singleton l y ih =>
    obtain ⟨hl, hy⟩ := hl.of_concat
    rw [lastTime_concat]
    rcases List.mem_append.mp hx with hx | hx
    · split_ifs
      · exact hy x hx
      · exact ih hl hx
    · obtain rfl := List.mem_singleton.mp hx
      rw [if_pos hp]

theorem lastTime_lt_iff (hl : Chronological time l) (hstart : ∀ x ∈ l, start ≤ time x) :
    lastTime time p start l < t ↔ start < t ∧ ∀ x ∈ l, p x = true → time x < t := by
  constructor
  · intro hlt
    refine ⟨?_, fun x hx hp ↦ (le_lastTime hl hx hp).trans_lt hlt⟩
    rcases lastTime_eq time p start l with heq | ⟨x, hx, -, heq⟩
    · rwa [heq] at hlt
    · rw [← heq] at hlt
      exact (hstart x hx).trans_lt hlt
  · rintro ⟨hlt, hall⟩
    rcases lastTime_eq time p start l with heq | ⟨x, hx, hp, heq⟩
    · rwa [heq]
    · rw [← heq]
      exact hall x hx hp

theorem lt_lastTime_iff (hl : Chronological time l) (ht : start ≤ t) :
    t < lastTime time p start l ↔ ∃ x ∈ l, p x = true ∧ t < time x := by
  constructor
  · intro hlt
    rcases lastTime_eq time p start l with heq | ⟨x, hx, hp, heq⟩
    · rw [heq] at hlt
      exact absurd ht (not_le.mpr hlt)
    · exact ⟨x, hx, hp, by rwa [heq]⟩
  · rintro ⟨x, hx, hp, hlt⟩
    exact hlt.trans_le (le_lastTime hl hx hp)

/-! ## Order and time -/

/-- What is later than every entry of a kind comes after the last one. -/
theorem mem_since_of_lt (hl : Chronological time l) (hx : x ∈ l)
    (hlt : ∀ y ∈ l, p y = true → time y < time x) : x ∈ since p l := by
  induction l using List.reverseRecOn with
  | nil => exact hx
  | append_singleton l y ih =>
    obtain ⟨hl, hy⟩ := hl.of_concat
    have hpy : p y = false := by
      by_contra hpy
      have hyx := hlt y (by simp) (by simpa using hpy)
      rcases List.mem_append.mp hx with hx | hx
      · exact absurd (hy x hx) (not_le.mpr hyx)
      · rw [List.mem_singleton.mp hx] at hyx
        exact lt_irrefl _ hyx
    rw [since_concat, hpy]
    rcases List.mem_append.mp hx with hx | hx
    · exact List.mem_append_left _ (ih hl hx fun z hz ↦ hlt z (List.mem_append_left _ hz))
    · exact List.mem_append_right _ hx

theorem le_of_mem_since (hl : Chronological time l) (hx : x ∈ since p l) (hy : y ∈ l)
    (hp : p y = true) : time y ≤ time x := by
  induction l using List.reverseRecOn with
  | nil => cases hy
  | append_singleton l z ih =>
    obtain ⟨hl, hz⟩ := hl.of_concat
    rw [since_concat] at hx
    rcases hpz : p z with _ | _
    · rw [hpz] at hx
      have hyl : y ∈ l := by
        rcases List.mem_append.mp hy with hy | hy
        · exact hy
        · rw [List.mem_singleton.mp hy, hpz] at hp
          cases hp
      rcases List.mem_append.mp hx with hx | hx
      · exact ih hl hx hyl
      · rw [List.mem_singleton.mp hx]
        exact hz y hyl
    · rw [hpz] at hx
      cases hx

end TimedLog
