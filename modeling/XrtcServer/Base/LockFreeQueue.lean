import Mathlib.Algebra.Order.Ring.Int
import XrtcServer.Lib.Arena
import XrtcServer.Lib.EventRun

/-!
# The lock-free queue

`LockFreeQueue` (`base/lock_free_queue.h`), with one thread that calls `produce` and one that calls
`consume`. A step is one read or write of a pointer, one creation or destruction of a node, or one
change of `_size`, which is atomic; the threads take turns in any order. What a thread has read so
far is kept in its program counter, and every access to a node goes through `access`, which records
the pointer if it is null or the node is gone.

## The nodes as numbers

Nodes are numbered in the order in which they are created, so the list is `0, 1, 2, …` and the
invariant is about numbers: `first ≤ divider ≤ last`, the nodes from `first` on are alive, those
before `last` are linked, and the values behind `divider` are those that were not consumed yet.

## What each thread has read

A producer that frees nodes has read a `divider` that may be old, and so is behind the real one:
it frees less than it might, and never a node that the consumer can still reach. A consumer has read
a `last` that may be old, and misses a value at most. So what is known of a thread is monotone in
what the other one changes (`ProducerInv.mono`, `ConsumerInv.mono`), and each step of one thread is
a step of the invariant without a case distinction on where the other one is.
-/

namespace XrtcServer

open EventRun

/-- A `Node*`. -/
abbrev NodePtr := Option ℕ

structure QueueNode (T : Type) where
  value : T
  next : NodePtr

/-- Where the producer is: what it does next, with what it has read. -/
inductive ProducerPc (T : Type)
  | idle
  /-- `new Node(t)`. -/
  | new (t : T)
  /-- `last->next = node`, reading `last`. -/
  | readLast (node : NodePtr)
  | writeNext (node last : NodePtr)
  /-- `last = last->next`, reading `last`. -/
  | readLastAgain
  | readNext (last : NodePtr)
  | writeLast (next : NodePtr)
  /-- `++_size`. -/
  | increment
  /-- `divider != first`, reading `divider`. -/
  | readDivider
  | readFirst (divider : NodePtr)
  /-- `temp = first`. -/
  | readTemp
  /-- `first = first->next`, reading `first`. -/
  | readFirstAgain (temp : NodePtr)
  | readFirstNext (temp first : NodePtr)
  | writeFirst (temp next : NodePtr)
  /-- `delete temp`. -/
  | delete (temp : NodePtr)

/-- Where the consumer is. -/
inductive ConsumerPc (T : Type)
  | idle
  /-- `divider != last`, reading `divider`. -/
  | readDivider
  | readLast (divider : NodePtr)
  /-- `*result = divider->next->value`, reading `divider`. -/
  | readDividerAgain
  | readNext (divider : NodePtr)
  | readValue (next : NodePtr)
  /-- `divider = divider->next`, reading `divider`. -/
  | readDividerLast (value : T)
  | readNextAgain (value : T) (divider : NodePtr)
  | writeDivider (value : T) (next : NodePtr)
  /-- `--_size`. -/
  | decrement (value : T)

/-- A `consume` that returned `false`: the values whose `produce` had returned when it was called,
and the values that were consumed. -/
structure FailedConsume (T : Type) where
  completed : List T
  consumed : List T

/-- A queue with its two threads, and what has happened to it. -/
structure LockFreeQueue (T : Type) where
  nodes : Arena (QueueNode T)
  first : NodePtr
  divider : NodePtr
  last : NodePtr
  /-- `_size`, an `int`. -/
  size : ℤ := 0
  producer : ProducerPc T := .idle
  consumer : ConsumerPc T := .idle
  /-- The values that `produce` was called with. -/
  produced : List T := []
  /-- The number of calls of `produce` that have returned. -/
  completed : ℕ := 0
  /-- The values that `consume` has returned. -/
  consumed : List T := []
  /-- The value of `completed` when `consume` was last called. -/
  began : ℕ := 0
  failures : List (FailedConsume T) := []
  /-- Accesses to no node, or to one that is gone. -/
  faults : List NodePtr := []

namespace LockFreeQueue

variable {T : Type}

/-- The constructor, with the value `T()`. -/
def init (value : T) : LockFreeQueue T where
  nodes := (Arena.empty { value, next := none }).alloc { value, next := none }
  first := some 0
  divider := some 0
  last := some 0

variable (s : LockFreeQueue T)

/-- What is at a pointer. -/
def node (p : NodePtr) : QueueNode T := s.nodes.cell (p.getD 0)

/-- An access to the node at a pointer. -/
def access (p : NodePtr) : LockFreeQueue T :=
  if p.any s.nodes.live then s else { s with faults := s.faults ++ [p] }

/-- The next step of the producer. -/
def producerStep : LockFreeQueue T :=
  match s.producer with
  | .idle => s
  | .new t =>
    { s with
      nodes := s.nodes.alloc { value := t, next := none }
      producer := .readLast (some s.nodes.next) }
  | .readLast node => { s with producer := .writeNext node s.last }
  | .writeNext node last =>
    { s.access last with
      nodes := s.nodes.modify (last.getD 0) fun x ↦ { x with next := node }
      producer := .readLastAgain }
  | .readLastAgain => { s with producer := .readNext s.last }
  | .readNext last => { s.access last with producer := .writeLast (s.node last).next }
  | .writeLast next => { s with last := next, producer := .increment }
  | .increment => { s with size := (s.size + 1).bmod (2 ^ 32), producer := .readDivider }
  | .readDivider => { s with producer := .readFirst s.divider }
  | .readFirst divider =>
    if divider = s.first then { s with producer := .idle, completed := s.completed + 1 }
    else { s with producer := .readTemp }
  | .readTemp => { s with producer := .readFirstAgain s.first }
  | .readFirstAgain temp => { s with producer := .readFirstNext temp s.first }
  | .readFirstNext temp first =>
    { s.access first with producer := .writeFirst temp (s.node first).next }
  | .writeFirst temp next => { s with first := next, producer := .delete temp }
  | .delete temp =>
    { s.access temp with nodes := s.nodes.free (temp.getD 0), producer := .readDivider }

/-- The next step of the consumer. -/
def consumerStep : LockFreeQueue T :=
  match s.consumer with
  | .idle => s
  | .readDivider => { s with consumer := .readLast s.divider }
  | .readLast divider =>
    if divider = s.last then
      { s with
        consumer := .idle
        failures := s.failures ++ [⟨s.produced.take s.began, s.consumed⟩] }
    else { s with consumer := .readDividerAgain }
  | .readDividerAgain => { s with consumer := .readNext s.divider }
  | .readNext divider => { s.access divider with consumer := .readValue (s.node divider).next }
  | .readValue next => { s.access next with consumer := .readDividerLast (s.node next).value }
  | .readDividerLast value => { s with consumer := .readNextAgain value s.divider }
  | .readNextAgain value divider =>
    { s.access divider with consumer := .writeDivider value (s.node divider).next }
  | .writeDivider value next => { s with divider := next, consumer := .decrement value }
  | .decrement value =>
    { s with
      size := (s.size - 1).bmod (2 ^ 32)
      consumer := .idle
      consumed := s.consumed ++ [value] }

/-- A call of `produce`, if the producer is not in one. -/
def produce (t : T) : LockFreeQueue T :=
  match s.producer with
  | .idle => { s with producer := .new t, produced := s.produced ++ [t] }
  | _ => s

/-- A call of `consume`, if the consumer is not in one. -/
def consume : LockFreeQueue T :=
  match s.consumer with
  | .idle => { s with consumer := .readDivider, began := s.completed }
  | _ => s

end LockFreeQueue

/-- A call, or the next step of one of the threads. -/
inductive QueueAction (T : Type)
  | produce (t : T)
  | producerStep
  | consume
  | consumerStep

def LockFreeQueue.step {T : Type} (s : LockFreeQueue T) : QueueAction T → LockFreeQueue T
  | .produce t => s.produce t
  | .producerStep => s.producerStep
  | .consume => s.consume
  | .consumerStep => s.consumerStep

/-! ## The nodes

`Chained` is about the arena alone. A new node is appended behind the last one before the link to it
is set, so the end of the links, `m`, may be one less than the end of the nodes, `n`. -/

/-- The nodes from `f` to `n` are alive, those before `m` are linked, and behind the first node of
all are the values. -/
structure Chained {T : Type} (nodes : Arena (QueueNode T)) (produced : List T) (f n m : ℕ) :
    Prop where
  next : nodes.next = n
  live : ∀ i, nodes.live i = true ↔ f ≤ i ∧ i < n
  linked : ∀ i, i < m → (nodes.cell i).next = some (i + 1)
  unlinked : ∀ i, m ≤ i → i < n → (nodes.cell i).next = none
  value : ∀ i, i + 1 < n → produced[i]? = some (nodes.cell (i + 1)).value

namespace Chained

variable {T : Type} {nodes : Arena (QueueNode T)} {produced : List T} {f n m : ℕ} {t : T}

theorem init (value : T) : Chained (LockFreeQueue.init value).nodes [] 0 1 0 where
  next := rfl
  live i := by
    have hempty : (Arena.empty (⟨value, none⟩ : QueueNode T)).live i = false := rfl
    rw [LockFreeQueue.init, Arena.live_alloc_iff, hempty]
    show i = 0 ∨ false = true ↔ _
    simp
  linked i hi := absurd hi (Nat.not_lt_zero i)
  unlinked i _ hi := by
    obtain rfl : i = 0 := Nat.lt_one_iff.mp hi
    rfl
  value i hi := absurd hi (by omega)

theorem append (h : Chained nodes produced f n m) (t : T) :
    Chained nodes (produced ++ [t]) f n m where
  next := h.next
  live := h.live
  linked := h.linked
  unlinked := h.unlinked
  value i hi := by
    have hvalue := h.value i hi
    rw [List.getElem?_append_left (List.getElem?_eq_some_iff.mp hvalue).1]
    exact hvalue

theorem alloc (h : Chained nodes produced f (n + 1) m) (hf : f ≤ n) (hm : m ≤ n)
    (ht : produced[n]? = some t) :
    Chained (nodes.alloc { value := t, next := none }) produced f (n + 2) m where
  next := congrArg (· + 1) h.next
  live i := by
    rw [Arena.live_alloc_iff, h.live, h.next]
    omega
  linked i hi := by
    rw [Arena.cell_alloc_of_ne (by rw [h.next]; omega)]
    exact h.linked i hi
  unlinked i hmi hi := by
    by_cases hnew : i = nodes.next
    · rw [hnew, Arena.cell_alloc_next]
    · rw [Arena.cell_alloc_of_ne hnew]
      rw [h.next] at hnew
      exact h.unlinked i hmi (by omega)
  value i hi := by
    by_cases hnew : i + 1 = nodes.next
    · obtain rfl : i = n := by
        rw [h.next] at hnew
        omega
      rw [hnew, Arena.cell_alloc_next]
      exact ht
    · rw [Arena.cell_alloc_of_ne hnew]
      rw [h.next] at hnew
      exact h.value i (by omega)

theorem link (h : Chained nodes produced f n m) :
    Chained (nodes.modify m fun x ↦ { x with next := some (m + 1) }) produced f n (m + 1) where
  next := h.next
  live := h.live
  linked i hi := by
    by_cases him : i = m
    · rw [him, Arena.cell_modify_self]
    · rw [Arena.cell_modify_of_ne him]
      exact h.linked i (by omega)
  unlinked i hmi hi := by
    rw [Arena.cell_modify_of_ne (by omega)]
    exact h.unlinked i (by omega) hi
  value i hi := by
    have hvalue := Arena.proj_cell_modify (a := nodes) (p := QueueNode.value)
      (f := fun x ↦ { x with next := some (m + 1) }) (fun _ ↦ rfl) m (i + 1)
    rw [hvalue]
    exact h.value i hi

theorem free (h : Chained nodes produced f n m) :
    Chained (nodes.free f) produced (f + 1) n m where
  next := h.next
  live i := by
    rw [Arena.live_free_iff, h.live]
    omega
  linked := h.linked
  unlinked := h.unlinked
  value := h.value

end Chained

/-! ## The threads

Between its steps the producer has either left the list as it found it or added a node that `last`
does not point to yet. `Readable` is the part of both that the consumer relies on: the nodes between
`divider` and `last` are alive, linked, and hold the values that come next. -/

section threads

variable {T : Type} {nodes : Arena (QueueNode T)} {produced consumed : List T}
  {completed f d d' l l' : ℕ}

/-- Between two new nodes: all nodes are linked, up to the last one. -/
structure Resting (nodes : Arena (QueueNode T)) (produced : List T) (f l : ℕ) : Prop where
  chained : Chained nodes produced f (l + 1) l
  length : produced.length = l

/-- There is a new node behind the last one, linked if `m` is larger than `l`. -/
structure Growing (nodes : Arena (QueueNode T)) (produced : List T) (completed f l m : ℕ) :
    Prop where
  chained : Chained nodes produced f (l + 2) m
  length : produced.length = l + 1
  completed : completed = l

/-- What is known of a producer, when `first`, `divider` and `last` are the nodes `f`, `d`, `l`. -/
def ProducerInv (nodes : Arena (QueueNode T)) (produced : List T) (completed f d l : ℕ) :
    ProducerPc T → Prop
  | .idle => Resting nodes produced f l ∧ completed = l
  | .new t =>
    Chained nodes produced f (l + 1) l ∧ produced.length = l + 1 ∧ completed = l ∧
      produced[l]? = some t
  | .readLast node => Growing nodes produced completed f l l ∧ node = some (l + 1)
  | .writeNext node last =>
    Growing nodes produced completed f l l ∧ node = some (l + 1) ∧ last = some l
  | .readLastAgain => Growing nodes produced completed f l (l + 1)
  | .readNext last => Growing nodes produced completed f l (l + 1) ∧ last = some l
  | .writeLast next => Growing nodes produced completed f l (l + 1) ∧ next = some (l + 1)
  | .increment => Resting nodes produced f l ∧ completed + 1 = l
  | .readDivider => Resting nodes produced f l ∧ completed + 1 = l
  | .readFirst divider =>
    Resting nodes produced f l ∧ completed + 1 = l ∧ ∃ k, divider = some k ∧ f ≤ k ∧ k ≤ d
  | .readTemp => Resting nodes produced f l ∧ completed + 1 = l ∧ f < d
  | .readFirstAgain temp =>
    Resting nodes produced f l ∧ completed + 1 = l ∧ f < d ∧ temp = some f
  | .readFirstNext temp first =>
    Resting nodes produced f l ∧ completed + 1 = l ∧ f < d ∧ temp = some f ∧ first = some f
  | .writeFirst temp next =>
    Resting nodes produced f l ∧ completed + 1 = l ∧ f < d ∧ temp = some f ∧ next = some (f + 1)
  | .delete temp => ∃ k, f = k + 1 ∧ temp = some k ∧ Resting nodes produced k l ∧ completed + 1 = l

/-- What is known of a consumer. -/
def ConsumerInv (produced consumed : List T) (d l : ℕ) : ConsumerPc T → Prop
  | .idle => consumed = produced.take d
  | .readDivider => consumed = produced.take d
  | .readLast divider => consumed = produced.take d ∧ divider = some d
  | .readDividerAgain => consumed = produced.take d ∧ d < l
  | .readNext divider => consumed = produced.take d ∧ d < l ∧ divider = some d
  | .readValue next => consumed = produced.take d ∧ d < l ∧ next = some (d + 1)
  | .readDividerLast value => consumed = produced.take d ∧ d < l ∧ produced[d]? = some value
  | .readNextAgain value divider =>
    consumed = produced.take d ∧ d < l ∧ produced[d]? = some value ∧ divider = some d
  | .writeDivider value next =>
    consumed = produced.take d ∧ d < l ∧ produced[d]? = some value ∧ next = some (d + 1)
  | .decrement value =>
    ∃ k, d = k + 1 ∧ consumed = produced.take k ∧ produced[k]? = some value

/-- What the consumer needs of the nodes, wherever the producer is. -/
structure Readable (nodes : Arena (QueueNode T)) (produced : List T) (completed f l : ℕ) :
    Prop where
  live : ∀ i, f ≤ i → i ≤ l → nodes.live i = true
  linked : ∀ i, i < l → (nodes.cell i).next = some (i + 1)
  value : ∀ i, i < l → produced[i]? = some (nodes.cell (i + 1)).value
  length : l ≤ produced.length
  completed_le : completed ≤ l

theorem Chained.readable {n m : ℕ} (h : Chained nodes produced f n m) (hl : l < n) (hm : l ≤ m)
    (hlength : l ≤ produced.length) (hcompleted : completed ≤ l) :
    Readable nodes produced completed f l where
  live i hfi hil := (h.live i).mpr ⟨hfi, by omega⟩
  linked i hi := h.linked i (by omega)
  value i hi := h.value i (by omega)
  length := hlength
  completed_le := hcompleted

theorem Resting.readable (h : Resting nodes produced f l) (hcompleted : completed ≤ l) :
    Readable nodes produced completed f l :=
  h.chained.readable (Nat.lt_succ_self l) le_rfl h.length.ge hcompleted

theorem Growing.readable {m : ℕ} (h : Growing nodes produced completed f l m) (hm : l ≤ m) :
    Readable nodes produced completed f l :=
  h.chained.readable (by omega) hm (by rw [h.length]; omega) h.completed.le

theorem ProducerInv.readable {pc : ProducerPc T}
    (h : ProducerInv nodes produced completed f d l pc) :
    Readable nodes produced completed f l := by
  cases pc with
  | idle => exact h.1.readable h.2.le
  | new t =>
    obtain ⟨hchained, hlength, hcompleted, -⟩ := h
    exact hchained.readable (Nat.lt_succ_self l) le_rfl (by omega) hcompleted.le
  | readLast node => exact h.1.readable le_rfl
  | writeNext node last => exact h.1.readable le_rfl
  | readLastAgain => exact Growing.readable h (Nat.le_succ l)
  | readNext last => exact h.1.readable (Nat.le_succ l)
  | writeLast next => exact h.1.readable (Nat.le_succ l)
  | increment => exact h.1.readable (by have := h.2; omega)
  | readDivider => exact h.1.readable (by have := h.2; omega)
  | readFirst divider => exact h.1.readable (by have := h.2.1; omega)
  | readTemp => exact h.1.readable (by have := h.2.1; omega)
  | readFirstAgain temp => exact h.1.readable (by have := h.2.1; omega)
  | readFirstNext temp first => exact h.1.readable (by have := h.2.1; omega)
  | writeFirst temp next => exact h.1.readable (by have := h.2.1; omega)
  | delete temp =>
    obtain ⟨k, rfl, -, hresting, hcompleted⟩ := h
    have hreadable : Readable nodes produced completed k l := hresting.readable (by omega)
    exact { hreadable with live := fun i hi ↦ hreadable.live i (by omega) }

/-- The producer does not mind that `divider` moves on. -/
theorem ProducerInv.mono {pc : ProducerPc T} (h : ProducerInv nodes produced completed f d l pc)
    (hd : d ≤ d') : ProducerInv nodes produced completed f d' l pc := by
  cases pc with
  | readFirst divider =>
    obtain ⟨hresting, hcompleted, k, hk, hfk, hkd⟩ := h
    exact ⟨hresting, hcompleted, k, hk, hfk, hkd.trans hd⟩
  | readTemp => exact ⟨h.1, h.2.1, h.2.2.trans_le hd⟩
  | readFirstAgain temp => exact ⟨h.1, h.2.1, h.2.2.1.trans_le hd, h.2.2.2⟩
  | readFirstNext temp first => exact ⟨h.1, h.2.1, h.2.2.1.trans_le hd, h.2.2.2⟩
  | writeFirst temp next => exact ⟨h.1, h.2.1, h.2.2.1.trans_le hd, h.2.2.2⟩
  | _ => exact h

/-- The consumer does not mind that values are produced. -/
theorem ConsumerInv.mono {pc : ConsumerPc T} (h : ConsumerInv produced consumed d l pc)
    (hl : l ≤ l') : ConsumerInv produced consumed d l' pc := by
  cases pc with
  | readDividerAgain => exact ⟨h.1, h.2.trans_le hl⟩
  | readNext divider => exact ⟨h.1, h.2.1.trans_le hl, h.2.2⟩
  | readValue next => exact ⟨h.1, h.2.1.trans_le hl, h.2.2⟩
  | readDividerLast value => exact ⟨h.1, h.2.1.trans_le hl, h.2.2⟩
  | readNextAgain value divider => exact ⟨h.1, h.2.1.trans_le hl, h.2.2⟩
  | writeDivider value next => exact ⟨h.1, h.2.1.trans_le hl, h.2.2⟩
  | _ => exact h

theorem ConsumerInv.append {pc : ConsumerPc T} (h : ConsumerInv produced consumed d l pc)
    (hd : d ≤ produced.length) (t : T) : ConsumerInv (produced ++ [t]) consumed d l pc := by
  have htake (k : ℕ) (hk : k ≤ d) : (produced ++ [t]).take k = produced.take k :=
    List.take_append_of_le_length (hk.trans hd)
  have hget (k : ℕ) {value : T} (hk : produced[k]? = some value) :
      (produced ++ [t])[k]? = some value := by
    rw [List.getElem?_append_left (List.getElem?_eq_some_iff.mp hk).1]
    exact hk
  cases pc with
  | readDividerLast value => exact ⟨h.1.trans (htake d le_rfl).symm, h.2.1, hget d h.2.2⟩
  | readNextAgain value divider =>
    exact ⟨h.1.trans (htake d le_rfl).symm, h.2.1, hget d h.2.2.1, h.2.2.2⟩
  | writeDivider value next =>
    exact ⟨h.1.trans (htake d le_rfl).symm, h.2.1, hget d h.2.2.1, h.2.2.2⟩
  | decrement value =>
    obtain ⟨k, rfl, hconsumed, hvalue⟩ := h
    exact ⟨k, rfl, hconsumed.trans (htake k (Nat.le_succ k)).symm, hget k hvalue⟩
  | idle => exact h.trans (htake d le_rfl).symm
  | readDivider => exact h.trans (htake d le_rfl).symm
  | readLast divider => exact ⟨h.1.trans (htake d le_rfl).symm, h.2⟩
  | readDividerAgain => exact ⟨h.1.trans (htake d le_rfl).symm, h.2⟩
  | readNext divider => exact ⟨h.1.trans (htake d le_rfl).symm, h.2⟩
  | readValue next => exact ⟨h.1.trans (htake d le_rfl).symm, h.2⟩

theorem ConsumerInv.consumed_eq {pc : ConsumerPc T} (h : ConsumerInv produced consumed d l pc) :
    ∃ k, consumed = produced.take k := by
  cases pc with
  | idle => exact ⟨d, h⟩
  | readDivider => exact ⟨d, h⟩
  | decrement value =>
    obtain ⟨k, -, hconsumed, -⟩ := h
    exact ⟨k, hconsumed⟩
  | _ => exact ⟨d, h.1⟩

end threads

/-! ## The queue

The invariant of the queue names the three nodes that `first`, `divider` and `last` are. A step of
the producer may change the first and the last, a step of the consumer the second, so each is an
existence statement about the nodes that its own thread moves. -/

/-- Whether the producer has linked a value and has not counted it yet. -/
def ProducerPc.uncounted {T : Type} : ProducerPc T → ℤ
  | .increment => 1
  | _ => 0

theorem ProducerPc.uncounted_idle {T : Type} : (ProducerPc.idle : ProducerPc T).uncounted = 0 := rfl

/-- The invariant of the queue: `first`, `divider` and `last` are the nodes `f`, `d` and `l`. -/
structure QueueInv {T : Type} (s : LockFreeQueue T) (f d l : ℕ) : Prop where
  first : s.first = some f
  divider : s.divider = some d
  last : s.last = some l
  first_le : f ≤ d
  divider_le : d ≤ l
  producer : ProducerInv s.nodes s.produced s.completed f d l s.producer
  consumer : ConsumerInv s.produced s.consumed d l s.consumer
  size : s.size = ((l : ℤ) - s.producer.uncounted - s.consumed.length).bmod (2 ^ 32)
  began : s.began ≤ s.completed
  failures : ∀ x ∈ s.failures, x.completed <+: x.consumed
  faults : s.faults = []

namespace LockFreeQueue

variable {T : Type} {s : LockFreeQueue T} {f d l : ℕ}

theorem queueInv_init (value : T) : QueueInv (init value) 0 0 0 where
  first := rfl
  divider := rfl
  last := rfl
  first_le := le_rfl
  divider_le := le_rfl
  producer := ⟨⟨Chained.init value, rfl⟩, rfl⟩
  consumer := rfl
  size := (by decide : (0 : ℤ) = (((0 : ℕ) : ℤ) - 0 - (0 : ℕ)).bmod (2 ^ 32))
  began := le_rfl
  failures x hx := absurd hx List.not_mem_nil
  faults := rfl

@[simp] theorem first_access (p : NodePtr) : (s.access p).first = s.first := by
  rw [access]
  split_ifs <;> rfl

@[simp] theorem divider_access (p : NodePtr) : (s.access p).divider = s.divider := by
  rw [access]
  split_ifs <;> rfl

@[simp] theorem consumer_access (p : NodePtr) : (s.access p).consumer = s.consumer := by
  rw [access]
  split_ifs <;> rfl

@[simp] theorem produced_access (p : NodePtr) : (s.access p).produced = s.produced := by
  rw [access]
  split_ifs <;> rfl

@[simp] theorem consumed_access (p : NodePtr) : (s.access p).consumed = s.consumed := by
  rw [access]
  split_ifs <;> rfl

theorem access_of_live {i : ℕ} (h : s.nodes.live i = true) : s.access (some i) = s := if_pos h

end LockFreeQueue

namespace QueueInv

open LockFreeQueue

variable {T : Type} {s : LockFreeQueue T} {f d l : ℕ}

theorem readable (h : QueueInv s f d l) : Readable s.nodes s.produced s.completed f l :=
  h.producer.readable

theorem produce (h : QueueInv s f d l) (t : T) : QueueInv (s.produce t) f d l := by
  have hproducer := h.producer
  have hsize := h.size
  have hconsumer := h.consumer.append (h.divider_le.trans h.readable.length) t
  rw [LockFreeQueue.produce]
  split
  · next hpc =>
    rw [hpc] at hproducer hsize
    obtain ⟨⟨hchained, hlength⟩, hcompleted⟩ := hproducer
    refine { h with producer := ?_, consumer := hconsumer, size := hsize }
    refine ⟨hchained.append t, ?_, hcompleted, ?_⟩
    · rw [List.length_append, hlength]
      rfl
    · rw [← hlength]
      exact List.getElem?_concat_length
  · exact h

theorem consume (h : QueueInv s f d l) : QueueInv s.consume f d l := by
  have hconsumer := h.consumer
  rw [LockFreeQueue.consume]
  split
  · next hpc =>
    rw [hpc] at hconsumer
    exact { h with consumer := hconsumer, began := le_rfl }
  · exact h

theorem producerStep (h : QueueInv s f d l) : ∃ f' l', QueueInv s.producerStep f' d l' := by
  have hproducer := h.producer
  have hsize := h.size
  have hfirst := h.first_le
  have hdivider := h.divider_le
  rw [LockFreeQueue.producerStep]
  rcases hpc : s.producer with _ | t | node | ⟨node, last⟩ | _ | last | next | _ | _ | divider | _ |
    temp | ⟨temp, first⟩ | ⟨temp, next⟩ | temp <;> rw [hpc] at hproducer hsize <;> dsimp only
  · exact ⟨f, l, h⟩
  · -- `new Node(t)`
    obtain ⟨hchained, hlength, hcompleted, ht⟩ := hproducer
    have hnext : s.nodes.next = l + 1 := hchained.next
    refine ⟨f, l, { h with producer := ⟨⟨?_, hlength, hcompleted⟩, ?_⟩, size := hsize }⟩
    · exact hchained.alloc (by omega) le_rfl ht
    · rw [hnext]
  · exact ⟨f, l, { h with producer := ⟨hproducer.1, hproducer.2, h.last⟩, size := hsize }⟩
  · -- `last->next = node`
    obtain ⟨⟨hchained, hlength, hcompleted⟩, rfl, rfl⟩ := hproducer
    rw [access_of_live (h.readable.live l (by omega) le_rfl)]
    exact ⟨f, l, { h with producer := ⟨hchained.link, hlength, hcompleted⟩, size := hsize }⟩
  · exact ⟨f, l, { h with producer := ⟨hproducer, h.last⟩, size := hsize }⟩
  · obtain ⟨hgrowing, rfl⟩ := hproducer
    rw [access_of_live (h.readable.live l (by omega) le_rfl)]
    refine ⟨f, l, { h with producer := ⟨hgrowing, ?_⟩, size := hsize }⟩
    exact hgrowing.chained.linked l (Nat.lt_succ_self l)
  · -- `last = next`, where the value is published
    obtain ⟨⟨hchained, hlength, hcompleted⟩, rfl⟩ := hproducer
    have hcount : ((l + 1 : ℕ) : ℤ) - 1 - s.consumed.length = l - 0 - s.consumed.length := by
      push_cast
      omega
    exact ⟨f, l + 1, { h with
      last := rfl, divider_le := by omega
      producer := ⟨⟨hchained, hlength⟩, congrArg (· + 1) hcompleted⟩
      consumer := h.consumer.mono (Nat.le_succ l)
      size := hsize.trans (congrArg (Int.bmod · (2 ^ 32)) hcount.symm) }⟩
  · -- `++_size`
    have hcount : (l : ℤ) - 1 - s.consumed.length + 1 = l - 0 - s.consumed.length := by omega
    refine ⟨f, l, { h with producer := hproducer, size := ?_ }⟩
    exact (congrArg (fun x ↦ (x + 1).bmod (2 ^ 32)) hsize).trans
      (Int.bmod_add_bmod.trans (congrArg (Int.bmod · (2 ^ 32)) hcount))
  · obtain ⟨hresting, hcompleted⟩ := hproducer
    exact ⟨f, l, { h with
      producer := ⟨hresting, hcompleted, d, h.divider, hfirst, le_rfl⟩, size := hsize }⟩
  · -- `divider != first`, with a `divider` that may be old
    obtain ⟨hresting, hcompleted, k, rfl, hfk, hkd⟩ := hproducer
    split_ifs with heq
    · have hbegan := h.began
      exact ⟨f, l, { h with
        producer := ⟨hresting, hcompleted⟩, size := hsize, began := by dsimp only; omega }⟩
    · have hne : k ≠ f := by
        rintro rfl
        exact heq h.first.symm
      exact ⟨f, l, { h with producer := ⟨hresting, hcompleted, by omega⟩, size := hsize }⟩
  · obtain ⟨hresting, hcompleted, hlt⟩ := hproducer
    exact ⟨f, l, { h with producer := ⟨hresting, hcompleted, hlt, h.first⟩, size := hsize }⟩
  · obtain ⟨hresting, hcompleted, hlt, htemp⟩ := hproducer
    exact ⟨f, l, { h with
      producer := ⟨hresting, hcompleted, hlt, htemp, h.first⟩, size := hsize }⟩
  · obtain ⟨hresting, hcompleted, hlt, htemp, rfl⟩ := hproducer
    rw [access_of_live (h.readable.live f le_rfl (by omega))]
    refine ⟨f, l, { h with
      producer := ⟨hresting, hcompleted, hlt, htemp, ?_⟩, size := hsize }⟩
    exact hresting.chained.linked f (by omega)
  · -- `first = next`, after which nothing refers to the old node
    obtain ⟨hresting, hcompleted, hlt, htemp, rfl⟩ := hproducer
    exact ⟨f + 1, l, { h with
      first := rfl, first_le := hlt, producer := ⟨f, rfl, htemp, hresting, hcompleted⟩
      size := hsize }⟩
  · -- `delete temp`, the node before `first`
    obtain ⟨k, rfl, rfl, hresting, hcompleted⟩ := hproducer
    have hlive : s.nodes.live k = true :=
      (hresting.chained.live k).mpr ⟨le_rfl, by omega⟩
    rw [access_of_live hlive]
    exact ⟨k + 1, l, { h with
      producer := ⟨⟨hresting.chained.free, hresting.length⟩, hcompleted⟩, size := hsize }⟩

theorem consumerStep (h : QueueInv s f d l) : ∃ d', QueueInv s.consumerStep f d' l := by
  have hconsumer := h.consumer
  have hreadable := h.readable
  have hfirst := h.first_le
  have hdivider := h.divider_le
  rw [LockFreeQueue.consumerStep]
  rcases hpc : s.consumer with _ | _ | divider | _ | divider | next | value | ⟨value, divider⟩ |
    ⟨value, next⟩ | value <;> rw [hpc] at hconsumer <;> dsimp only
  · exact ⟨d, h⟩
  · exact ⟨d, { h with consumer := ⟨hconsumer, h.divider⟩ }⟩
  · obtain ⟨hconsumed, rfl⟩ := hconsumer
    split_ifs with heq
    · -- nothing is behind `divider`: all that was published is consumed
      rw [h.last] at heq
      obtain rfl := Option.some.inj heq
      refine ⟨d, { h with consumer := hconsumed, failures := ?_ }⟩
      intro x hx
      rcases List.mem_append.mp hx with hx | hx
      · exact h.failures x hx
      · rw [List.mem_singleton.mp hx]
        dsimp only
        rw [hconsumed]
        exact List.take_prefix_take_left (h.began.trans hreadable.completed_le)
    · have hne : d ≠ l := by
        rintro rfl
        exact heq h.last.symm
      exact ⟨d, { h with consumer := ⟨hconsumed, by omega⟩ }⟩
  · exact ⟨d, { h with consumer := ⟨hconsumer.1, hconsumer.2, h.divider⟩ }⟩
  · obtain ⟨hconsumed, hlt, rfl⟩ := hconsumer
    rw [access_of_live (hreadable.live d hfirst hdivider)]
    exact ⟨d, { h with consumer := ⟨hconsumed, hlt, hreadable.linked d hlt⟩ }⟩
  · obtain ⟨hconsumed, hlt, rfl⟩ := hconsumer
    rw [access_of_live (hreadable.live (d + 1) (by omega) hlt)]
    exact ⟨d, { h with consumer := ⟨hconsumed, hlt, hreadable.value d hlt⟩ }⟩
  · obtain ⟨hconsumed, hlt, hvalue⟩ := hconsumer
    exact ⟨d, { h with consumer := ⟨hconsumed, hlt, hvalue, h.divider⟩ }⟩
  · obtain ⟨hconsumed, hlt, hvalue, rfl⟩ := hconsumer
    rw [access_of_live (hreadable.live d hfirst hdivider)]
    exact ⟨d, { h with consumer := ⟨hconsumed, hlt, hvalue, hreadable.linked d hlt⟩ }⟩
  · -- `divider = next`, after which the producer may free the old node
    obtain ⟨hconsumed, hlt, hvalue, rfl⟩ := hconsumer
    exact ⟨d + 1, { h with
      divider := rfl, first_le := by omega, divider_le := hlt
      producer := h.producer.mono (Nat.le_succ d), consumer := ⟨d, rfl, hconsumed, hvalue⟩ }⟩
  · -- `--_size`, after which the value counts as consumed
    obtain ⟨k, rfl, hconsumed, hvalue⟩ := hconsumer
    have htake : s.consumed ++ [value] = s.produced.take (k + 1) := by
      rw [hconsumed, List.take_add_one, hvalue]
      rfl
    have hcount : (l : ℤ) - s.producer.uncounted - s.consumed.length - 1 =
        l - s.producer.uncounted - (s.consumed ++ [value]).length := by
      rw [List.length_append, List.length_singleton]
      push_cast
      omega
    refine ⟨k + 1, { h with consumer := htake, size := ?_ }⟩
    exact (congrArg (fun x ↦ (x - 1).bmod (2 ^ 32)) h.size).trans
      (Int.bmod_sub_bmod.trans (congrArg (Int.bmod · (2 ^ 32)) hcount))

theorem step (h : QueueInv s f d l) (a : QueueAction T) :
    ∃ f' d' l', QueueInv (s.step a) f' d' l' := by
  cases a with
  | produce t => exact ⟨f, d, l, h.produce t⟩
  | producerStep =>
    obtain ⟨f', l', h'⟩ := h.producerStep
    exact ⟨f', d, l', h'⟩
  | consume => exact ⟨f, d, l, h.consume⟩
  | consumerStep =>
    obtain ⟨d', h'⟩ := h.consumerStep
    exact ⟨f, d', l, h'⟩

end QueueInv

namespace LockFreeQueue

variable {T : Type}

theorem queueInv_exec (value : T) (as : List (QueueAction T)) :
    ∃ f d l, QueueInv (exec step (init value) as) f d l := by
  refine exec_invariant (I := fun s ↦ ∃ f d l, QueueInv s f d l) ?_ ?_ as
  · rintro s a ⟨f, d, l, h⟩
    exact h.step a
  · exact ⟨0, 0, 0, queueInv_init value⟩

/-- What the two threads may rely on: values are consumed in the order in which they are produced,
none twice; only nodes that are alive are accessed; a `consume` only fails when the values are
consumed whose `produce` had returned when it was called; and `size()` of a queue at rest is the
number of values in it, as an `int`. -/
structure Sound (s : LockFreeQueue T) : Prop where
  inOrder : s.consumed <+: s.produced
  alive : s.faults = []
  failures : ∀ x ∈ s.failures, x.completed <+: x.consumed
  size : s.producer = .idle → s.consumer = .idle →
    s.size = ((s.produced.length : ℤ) - s.consumed.length).bmod (2 ^ 32)

/-- Whatever the two threads do, and in whatever order their steps come. -/
theorem sound_exec (value : T) (as : List (QueueAction T)) :
    (exec step (init value) as).Sound := by
  obtain ⟨f, d, l, h⟩ := queueInv_exec value as
  obtain ⟨k, hconsumed⟩ := h.consumer.consumed_eq
  refine ⟨?_, h.faults, h.failures, fun hproducer hconsumer ↦ ?_⟩
  · rw [hconsumed]
    exact List.take_prefix k _
  · have hidle := h.producer
    have hsize := h.size
    rw [hproducer] at hidle hsize
    rw [hsize, ProducerPc.uncounted_idle, hidle.1.length, Int.sub_zero]

/-! ## The range of the counter -/

/-- A call of `produce` from its start to its end, when nothing was consumed. -/
def produceRound (t : T) : List (QueueAction T) := .produce t :: List.replicate 9 .producerStep

/-- Nothing was consumed yet, and the producer is not in a call. -/
structure Untouched (s : LockFreeQueue T) (n : ℕ) : Prop where
  producer : s.producer = .idle
  consumer : s.consumer = .idle
  divider : s.divider = s.first
  produced : s.produced.length = n
  consumed : s.consumed = []

/-- The steps of a call, one after the other; nothing is freed. -/
theorem untouched_produceRound {s : LockFreeQueue T} {n : ℕ} (h : s.Untouched n) (t : T) :
    (exec step s (produceRound t)).Untouched (n + 1) := by
  obtain ⟨hproducer, hconsumer, hdivider, rfl, hconsumed⟩ := h
  constructor <;>
    simp [exec, produceRound, List.replicate, step, produce, producerStep, hproducer, hconsumer,
      hdivider, hconsumed]

theorem exists_untouched (value : T) (n : ℕ) : ∃ as, (exec step (init value) as).Untouched n := by
  induction n with
  | zero => exact ⟨[], rfl, rfl, rfl, rfl, rfl⟩
  | succ n ih =>
    obtain ⟨as, has⟩ := ih
    refine ⟨as ++ produceRound value, ?_⟩
    rw [exec_append]
    exact untouched_produceRound has value

/-- After `2 ^ 31` calls of `produce`, `size()` is negative. -/
theorem not_size_exact :
    ¬∀ (T : Type) (value : T) (as : List (QueueAction T)),
      (exec step (init value) as).producer = .idle →
        (exec step (init value) as).consumer = .idle →
          (exec step (init value) as).size =
            ((exec step (init value) as).produced.length : ℤ) -
              (exec step (init value) as).consumed.length := by
  intro h
  obtain ⟨as, has⟩ := exists_untouched () (2 ^ 31)
  obtain ⟨f, d, l, hinv⟩ := queueInv_exec () as
  have hidle := hinv.producer
  have hsize := hinv.size
  rw [has.producer] at hidle hsize
  have hl : l = 2 ^ 31 := hidle.1.length.symm.trans has.produced
  have hexact := h Unit () as has.producer has.consumer
  rw [hsize, has.produced, has.consumed, hl, ProducerPc.uncounted_idle] at hexact
  exact absurd hexact (by decide)

end LockFreeQueue

end XrtcServer
