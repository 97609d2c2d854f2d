import Mathlib.Data.Finset.Card
import Mathlib.Data.Set.Insert
import Mathlib.Tactic.Common

/-!
# Mailboxes with wake-up notifications

Threads that exchange messages through a queue and a pipe do it in four steps. A sender puts the
message into the queue and then writes a notification into the pipe; the receiver reads a
notification and then takes one message out of the queue. Senders and receiver interleave, so
neither the queue nor the pipe alone says how many messages are still to come.

`Backed` is the account that every interleaving keeps: a message in the queue is covered by an
unread notification, by a sender that has not written its notification yet, or by a notification
that the receiver has read and not acted upon. It makes every taking-out succeed (`Backed.pop`) and
leaves no message behind when nothing is under way (`Backed.queue_eq_nil`). A pipe may carry
notifications of several kinds, each for a queue of its own; `Backed` is about one of them. A queue
with one sender, who is at it or not, is the case of a set of senders `{_u : Unit | p}`.

What went through a mailbox is `entered`, in the order of the queue: the messages taken out and
then those that wait.
-/

/-- A queue of messages and a pipe of notifications. -/
structure Mailbox (κ α : Type*) where
  /-- The messages that wait, oldest first. -/
  queue : List α := []
  /-- The unread notifications, oldest first. -/
  pipe : List κ := []
  /-- The messages that were taken out, oldest first. -/
  taken : List α := []

namespace Mailbox

variable {κ α : Type*} (b : Mailbox κ α)

/-- All messages that were put in, in that order. -/
def entered : List α := b.taken ++ b.queue

def push (a : α) : Mailbox κ α := { b with queue := b.queue ++ [a] }

def notify (k : κ) : Mailbox κ α := { b with pipe := b.pipe ++ [k] }

/-- The oldest notification and the mailbox without it. -/
def read : Option (κ × Mailbox κ α) :=
  match b.pipe with
  | [] => none
  | k :: pipe => some (k, { b with pipe })

/-- The oldest message and the mailbox without it. -/
def pop : Option (α × Mailbox κ α) :=
  match b.queue with
  | [] => none
  | a :: queue => some (a, { b with queue, taken := b.taken ++ [a] })

variable {b} {b' : Mailbox κ α} {k : κ} {a : α}

@[simp] theorem queue_push : (b.push a).queue = b.queue ++ [a] := rfl
@[simp] theorem pipe_push : (b.push a).pipe = b.pipe := rfl
@[simp] theorem taken_push : (b.push a).taken = b.taken := rfl
@[simp] theorem queue_notify : (b.notify k).queue = b.queue := rfl
@[simp] theorem pipe_notify : (b.notify k).pipe = b.pipe ++ [k] := rfl
@[simp] theorem taken_notify : (b.notify k).taken = b.taken := rfl
@[simp] theorem entered_notify : (b.notify k).entered = b.entered := rfl

@[simp] theorem entered_push : (b.push a).entered = b.entered ++ [a] :=
  (List.append_assoc ..).symm

theorem read_eq_some (h : b.read = some (k, b')) :
    b.pipe = k :: b'.pipe ∧ b'.queue = b.queue ∧ b'.taken = b.taken := by
  rw [read] at h
  split at h
  · cases h
  · next pipe hpipe =>
    cases h
    exact ⟨hpipe, rfl, rfl⟩

theorem pop_eq_some (h : b.pop = some (a, b')) :
    b.queue = a :: b'.queue ∧ b'.pipe = b.pipe ∧ b'.taken = b.taken ++ [a] := by
  rw [pop] at h
  split at h
  · cases h
  · next queue hqueue =>
    cases h
    exact ⟨hqueue, rfl, rfl⟩

theorem pop_eq_none : b.pop = none ↔ b.queue = [] := by
  rw [pop]
  split <;> simp [*]

theorem entered_of_read (h : b.read = some (k, b')) : b'.entered = b.entered := by
  obtain ⟨-, hqueue, htaken⟩ := read_eq_some h
  rw [entered, entered, hqueue, htaken]

theorem entered_of_pop (h : b.pop = some (a, b')) : b'.entered = b.entered := by
  obtain ⟨hqueue, -, htaken⟩ := pop_eq_some h
  rw [entered, entered, hqueue, htaken, List.append_assoc, List.singleton_append]

/-! ## The account of messages and notifications -/

/-- Every message of the queue is covered: `sending` are the senders that have put theirs in and
have not written a notification, `reading` is the number of notifications that were read and not
acted upon. -/
def Backed {ι : Type*} [DecidableEq κ] (k : κ) (queue : List α) (pipe : List κ) (sending : Set ι)
    (reading : ℕ) : Prop :=
  ∃ s : Finset ι, (s : Set ι) = sending ∧ queue.length = pipe.count k + s.card + reading

namespace Backed

variable {ι : Type*} [DecidableEq κ] {k' : κ} {queue : List α} {pipe : List κ} {sending : Set ι}
  {reading : ℕ} {i : ι}

theorem empty (k : κ) (h : ∀ i, i ∉ sending) : Backed k ([] : List α) [] sending 0 :=
  ⟨∅, by rw [Finset.coe_empty, Set.eq_empty_of_forall_notMem h], rfl⟩

theorem push [DecidableEq ι] (h : Backed k queue pipe sending reading) (hi : i ∉ sending) (a : α) :
    Backed k (queue ++ [a]) pipe (insert i sending) reading := by
  obtain ⟨s, rfl, hlen⟩ := h
  have his : i ∉ s := fun hs ↦ hi (Finset.mem_coe.mpr hs)
  refine ⟨insert i s, Finset.coe_insert i s, ?_⟩
  rw [List.length_append, List.length_singleton, hlen, Finset.card_insert_of_notMem his]
  omega

theorem notify [DecidableEq ι] (h : Backed k queue pipe sending reading) (hi : i ∈ sending) :
    Backed k queue (pipe ++ [k]) (sending \ {i}) reading := by
  obtain ⟨s, rfl, hlen⟩ := h
  have hcard := Finset.card_erase_add_one (Finset.mem_coe.mp hi)
  refine ⟨s.erase i, Finset.coe_erase i s, ?_⟩
  rw [hlen, List.count_append, List.count_singleton_self]
  omega

theorem notify_of_ne (h : Backed k queue pipe sending reading) (hk : k' ≠ k) :
    Backed k queue (pipe ++ [k']) sending reading := by
  obtain ⟨s, hs, hlen⟩ := h
  refine ⟨s, hs, ?_⟩
  rw [hlen, List.count_append, List.count_singleton, if_neg (by simpa using hk), Nat.add_zero]

theorem read (h : Backed k queue (k :: pipe) sending reading) :
    Backed k queue pipe sending (reading + 1) := by
  obtain ⟨s, hs, hlen⟩ := h
  rw [List.count_cons_self] at hlen
  exact ⟨s, hs, by omega⟩

theorem read_of_ne (h : Backed k queue (k' :: pipe) sending reading) (hk : k' ≠ k) :
    Backed k queue pipe sending reading := by
  obtain ⟨s, hs, hlen⟩ := h
  rw [List.count_cons_of_ne hk] at hlen
  exact ⟨s, hs, hlen⟩

/-- **Who has read a notification finds a message.** -/
theorem ne_nil (h : Backed k queue pipe sending (reading + 1)) : queue ≠ [] := by
  obtain ⟨s, -, hlen⟩ := h
  rintro rfl
  rw [List.length_nil] at hlen
  omega

theorem pop (h : Backed k (a :: queue) pipe sending (reading + 1)) :
    Backed k queue pipe sending reading := by
  obtain ⟨s, hs, hlen⟩ := h
  rw [List.length_cons] at hlen
  exact ⟨s, hs, by omega⟩

/-- **No message is left** when nothing is under way. -/
theorem queue_eq_nil (h : Backed k queue [] sending 0) (hsending : ∀ i, i ∉ sending) :
    queue = [] := by
  obtain ⟨s, rfl, hlen⟩ := h
  rw [Finset.eq_empty_of_forall_notMem hsending] at hlen
  exact List.length_eq_zero_iff.mp hlen

/-! ### One sender -/

variable {p p' : Prop}

theorem congr_one (h : Backed k queue pipe {_u : Unit | p} reading) (hp : p ↔ p') :
    Backed k queue pipe {_u : Unit | p'} reading := by
  have hsending : {_u : Unit | p} = {_u : Unit | p'} := Set.ext fun _ ↦ hp
  rw [← hsending]
  exact h

theorem push_one (h : Backed k queue pipe {_u : Unit | p} reading) (hp : ¬p) (hp' : p') (a : α) :
    Backed k (queue ++ [a]) pipe {_u : Unit | p'} reading := by
  have hsending : insert () {_u : Unit | p} = {_u : Unit | p'} :=
    Set.ext fun _ ↦ iff_of_true (.inl rfl) hp'
  rw [← hsending]
  exact h.push hp a

theorem notify_one (h : Backed k queue pipe {_u : Unit | p} reading) (hp : p) (hp' : ¬p') :
    Backed k queue (pipe ++ [k]) {_u : Unit | p'} reading := by
  have hsending : {_u : Unit | p} \ {()} = {_u : Unit | p'} :=
    Set.ext fun _ ↦ iff_of_false (fun hu ↦ hu.2 rfl) hp'
  rw [← hsending]
  exact h.notify (i := ()) hp

end Backed

/-! ### The senders among a family of threads -/

section
variable {ι β : Type*} [DecidableEq ι] {f : ι → β} {p : β → Prop} {i : ι} {x : β}

theorem setOf_update_of_pos (h : p x) :
    {j | p (Function.update f i x j)} = insert i {j | p (f j)} := by
  ext j
  change p (Function.update f i x j) ↔ j = i ∨ p (f j)
  by_cases hj : j = i
  · rw [hj, Function.update_self]
    exact iff_of_true h (.inl rfl)
  · rw [Function.update_of_ne hj, or_iff_right hj]

theorem setOf_update_of_neg (h : ¬p x) :
    {j | p (Function.update f i x j)} = {j | p (f j)} \ {i} := by
  ext j
  change p (Function.update f i x j) ↔ p (f j) ∧ j ≠ i
  by_cases hj : j = i
  · rw [hj, Function.update_self]
    exact iff_of_false h fun hi ↦ hi.2 rfl
  · rw [Function.update_of_ne hj, and_iff_left hj]

/-- The thread is in the same send as before, or in none as before. -/
theorem setOf_update_of_iff (h : p x ↔ p (f i)) :
    {j | p (Function.update f i x j)} = {j | p (f j)} := by
  by_cases hi : p (f i)
  · rw [setOf_update_of_pos (h.mpr hi)]
    exact Set.insert_eq_of_mem hi
  · rw [setOf_update_of_neg (mt h.mp hi)]
    exact Set.sdiff_singleton_eq_self hi

end

end Mailbox
