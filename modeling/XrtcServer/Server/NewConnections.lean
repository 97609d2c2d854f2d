import XrtcServer.Lib.Dealing
import XrtcServer.Server.Delivery

/-!
# How new connections are dealt out

`SignalingServer` (`server/signaling_server.cpp`) accepts connections on a thread of its own and
gives them to its signaling workers in turn: `notify_new_conn` puts the file descriptor into the
queue of the worker and writes to its pipe, and some time later the worker takes one from the queue
for each such note that it reads.

## The system

All other threads run in between. The steps of the system are those of `RtcSystem`, but now it is
the server that says which worker a connection is for. `opened` are the connections that a worker
has given to `_new_conn`.

## The deal

What a worker has opened, and what is still in its queue, are the connections that were dealt to it,
in their order; and the accepted connections are dealt one after the other, which `Lib/Dealing.lean`
says of any list. The first is kept by every interleaving, and the second is about the one thread
that accepts.
-/

namespace XrtcServer

open EventRun Mailbox Dealing

variable {σ ι ε : Type}

structure SignalingServer (σ : Type) where
  system : RtcSystem σ
  nextWorkerIndex : ℕ := 0
  /-- The connections that were accepted, oldest first. -/
  accepted : List ℕ := []
  /-- The connections that each worker has opened, oldest first. -/
  opened : ℕ → List ℕ := fun _ ↦ []

inductive SignalingServerEvent (ι ε : Type)
  /-- `accept_new_conn`: the next connection has this file descriptor. -/
  | acceptNewConn (fd : ℕ)
  | system (e : RtcEvent ι ε)

namespace SignalingServer

variable (env : RtcServerEnv σ ι ε) (workers : ℕ) (s : SignalingServer σ)

/-- `_dispatch_new_conn`, up to the queue of the worker. -/
def dispatchNewConn (fd : ℕ) : SignalingServer σ :=
  let index := s.nextWorkerIndex
  let nextWorkerIndex := s.nextWorkerIndex + 1
  let nextWorkerIndex := if nextWorkerIndex ≥ workers then 0 else nextWorkerIndex
  { s with
    system := s.system.accept index fd
    nextWorkerIndex
    accepted := s.accepted ++ [fd] }

/-- What the worker `i` gives to `_new_conn` in its next step. -/
def opening (i : ℕ) : List ℕ :=
  if (s.system.signaling i).pc = .notified .newConn then (s.system.signaling i).qConn.head?.toList
  else []

/-- The thread that accepts does nothing else while it is in `notify_new_conn`. -/
def step : SignalingServerEvent ι ε → SignalingServer σ
  | .acceptNewConn fd => if s.system.acceptor.isNone then s.dispatchNewConn workers fd else s
  | .system (.accept _ _) => s
  | .system (.signaling i) =>
    { s with
      system := s.system.stepSignaling i
      opened := Function.update s.opened i (s.opened i ++ s.opening i) }
  | .system e => { s with system := s.system.step env e }

/-- The state after a run. -/
def run (streams : σ) (now : ℕ) (es : List (SignalingServerEvent ι ε)) : SignalingServer σ :=
  exec (step env workers) { system := RtcSystem.init env streams now } es

/-- The worker `i` has read all notes, and none is on its way to it. -/
def Settled (i : ℕ) : Prop :=
  (s.system.signaling i).pc = .idle ∧ (s.system.signaling i).inbox.pipe = [] ∧
    s.system.acceptor ≠ some i

end SignalingServer

/-! ## The queues of connections

The queue of connections of a signaling worker is touched by the accepting thread and by the worker
itself, and by nobody else. `SameConns` is what all other steps are for this queue. -/

namespace RtcSystem

variable {env : RtcServerEnv σ ι ε} {s s' : RtcSystem σ} {i j : ℕ}

/-- Every connection in a queue has a note on its way. -/
def ConnsBacked (s : RtcSystem σ) : Prop :=
  ∀ i, Backed .newConn (s.signaling i).qConn (s.signaling i).inbox.pipe
    {_u : Unit | s.acceptor = some i} ((s.signaling i).pc.reading .newConn)

/-- A signaling worker where no connection came and none was taken. -/
structure SameConns (t t' : SignalingThread) : Prop where
  qConn : t'.qConn = t.qConn
  pipe : t'.inbox.pipe = t.inbox.pipe ∨ t'.inbox.pipe = t.inbox.pipe ++ [.rtcMsg]
  reading : t'.pc.reading .newConn = t.pc.reading .newConn

theorem SameConns.refl (t : SignalingThread) : SameConns t t := ⟨rfl, .inl rfl, rfl⟩

theorem SameConns.backed {t t' : SignalingThread} (h : SameConns t t') {sending : Set Unit}
    (hbacked : Backed .newConn t.qConn t.inbox.pipe sending (t.pc.reading .newConn)) :
    Backed .newConn t'.qConn t'.inbox.pipe sending (t'.pc.reading .newConn) := by
  rw [h.qConn, h.reading]
  rcases h.pipe with hpipe | hpipe
  · rw [hpipe]
    exact hbacked
  · rw [hpipe]
    exact hbacked.notify_of_ne (by decide)

theorem sameConns_setSignaling {t : SignalingThread} (h : SameConns (s.signaling i) t) (j : ℕ) :
    SameConns (s.signaling j) ((s.setSignaling i t).signaling j) :=
  forall_setSignaling (P := fun j t ↦ SameConns (s.signaling j) t) h (fun _ _ ↦ .refl _) j

/-- The other threads send messages only. -/
theorem sameConns_step (s : RtcSystem σ) {e : RtcEvent ι ε} (haccept : ∀ i fd, e ≠ .accept i fd)
    (hacceptor : e ≠ .acceptor) (hsignaling : ∀ i, e ≠ .signaling i) :
    (s.step env e).acceptor = s.acceptor ∧
      ∀ j, SameConns (s.signaling j) ((s.step env e).signaling j) := by
  have hsame : s.acceptor = s.acceptor ∧ ∀ j, SameConns (s.signaling j) (s.signaling j) :=
    ⟨rfl, fun _ ↦ .refl _⟩
  cases e with
  | request i msg =>
    rw [step, request]
    split
    · next h =>
      refine ⟨rfl, sameConns_setSignaling ⟨rfl, .inl rfl, ?_⟩⟩
      rw [h.1]
      rfl
    · exact hsame
  | accept i fd => exact absurd rfl (haccept i fd)
  | acceptor => exact absurd rfl hacceptor
  | signaling i => exact absurd rfl (hsignaling i)
  | server =>
    rw [step, stepServer]
    split
    · split <;> exact hsame
    · split <;> exact hsame
    · exact hsame
    · next m _ =>
      obtain ⟨certificates, certificate, generations, hcheck⟩ :=
        s.exists_generateAndCheckCertificate env
      rw [serverCertify]
      dsimp only
      rw [hcheck]
      split_ifs <;> exact hsame
    · rw [serverPush]
      split <;> exact hsame
    · exact hsame
  | worker w x =>
    rw [step, stepWorker]
    split
    · split <;> exact hsame
    · split <;> exact hsame
    · exact hsame
    · rw [workerExecute]
      dsimp only
      split <;> exact hsame
    · rw [workerPush]
      dsimp only
      split
      · exact hsame
      · exact ⟨rfl, sameConns_setSignaling ⟨rfl, .inl rfl, rfl⟩⟩
    · exact ⟨rfl, sameConns_setSignaling ⟨rfl, .inr rfl, rfl⟩⟩
  | loop w e =>
    rw [step, loopEvent]
    split_ifs <;> exact hsame
  | clock seconds => exact hsame

/-- What one thread does with its connections, and that it keeps the books. -/
structure Opens (sending : Set Unit) (opening : List ℕ) (t t' : SignalingThread) : Prop where
  qConn : t.qConn = opening ++ t'.qConn
  backed : Backed .newConn t'.qConn t'.inbox.pipe sending (t'.pc.reading .newConn)

theorem opens_stepSignaling (h : s.ConnsBacked) (i : ℕ) :
    Opens {_u : Unit | s.acceptor = some i}
      (if (s.signaling i).pc = .notified .newConn then (s.signaling i).qConn.head?.toList else [])
      (s.signaling i) ((s.stepSignaling i).signaling i) := by
  have hbacked := h i
  rw [stepSignaling]
  generalize hthread : s.signaling i = t at hbacked ⊢
  have hsame {t' : SignalingThread} (hsame : SameConns t t') :
      Opens {_u : Unit | s.acceptor = some i} [] t t' :=
    ⟨hsame.qConn.symm, hsame.backed hbacked⟩
  dsimp only
  rcases hpc : t.pc with _ | m | k | m
  · rw [if_neg (by simp)]
    dsimp only
    split
    · rw [hthread]
      exact hsame (.refl t)
    · next k inbox hread =>
      rw [signaling_setSignaling_self]
      obtain ⟨hpipe, -, -⟩ := read_eq_some hread
      rw [hpipe, hpc] at hbacked
      refine ⟨rfl, ?_⟩
      cases k with
      | rtcMsg => exact hbacked.read_of_ne (by decide)
      | newConn => exact hbacked.read
  · rw [if_neg (by simp)]
    refine hsame ?_
    rw [show ({ s.setSignaling i { t with pc := .idle } with
      server := s.server.notify .rtcMsg } : RtcSystem σ).signaling i = { t with pc := .idle } from
        Function.update_self ..]
    exact ⟨rfl, .inl rfl, by rw [hpc]; rfl⟩
  · cases k with
    | newConn =>
      rw [if_pos rfl, signaling_setSignaling_self]
      rw [hpc] at hbacked
      have hone : Backed .newConn t.qConn t.inbox.pipe {_u : Unit | s.acceptor = some i} (0 + 1) :=
        hbacked
      obtain ⟨fd, q, hq⟩ := List.exists_cons_of_ne_nil hone.ne_nil
      rw [hq] at hone ⊢
      exact ⟨hq, hone.pop⟩
    | rtcMsg =>
      rw [if_neg (by simp)]
      dsimp only
      split
      · rw [signaling_setSignaling_self]
        exact hsame ⟨rfl, .inl rfl, by rw [hpc]; rfl⟩
      · next m inbox hpop =>
        rw [signaling_setSignaling_self]
        exact hsame ⟨rfl, .inl (pop_eq_some hpop).2.1, by rw [hpc]; rfl⟩
  · rw [if_neg (by simp), signaling_setSignaling_self]
    exact hsame ⟨rfl, .inl rfl, by rw [hpc]; rfl⟩

theorem stepSignaling_other (s : RtcSystem σ) (i : ℕ) :
    (s.stepSignaling i).acceptor = s.acceptor ∧
      ∀ j, j ≠ i → (s.stepSignaling i).signaling j = s.signaling j := by
  rw [stepSignaling]
  have hset (t : SignalingThread) (j : ℕ) (hj : j ≠ i) :
      (s.setSignaling i t).signaling j = s.signaling j := signaling_setSignaling_of_ne hj
  split
  · split
    · exact ⟨rfl, fun _ _ ↦ rfl⟩
    · exact ⟨rfl, hset _⟩
  · exact ⟨rfl, hset _⟩
  · exact ⟨rfl, hset _⟩
  · split <;> exact ⟨rfl, hset _⟩
  · exact ⟨rfl, hset _⟩

end RtcSystem

/-! ## The deal

`Deals` is the invariant: what worker `i` has opened or still has in its queue is its hand. A step
of the worker moves connections from the queue to the opened ones, which does not change the hand;
only an accept does, and it is the turn of that worker. -/

namespace SignalingServer

variable {env : RtcServerEnv σ ι ε} {workers : ℕ} {s : SignalingServer σ}

/-- Each worker has its hand of the connections, opened or in its queue. -/
structure Deals (workers : ℕ) (s : SignalingServer σ) : Prop where
  index : s.nextWorkerIndex = s.accepted.length % workers
  hands : ∀ i, s.opened i ++ (s.system.signaling i).qConn = hand workers i s.accepted
  backed : s.system.ConnsBacked

theorem Deals.dispatchNewConn (h : s.Deals workers) (hworkers : 0 < workers)
    (hacceptor : s.system.acceptor = none) (fd : ℕ) :
    (s.dispatchNewConn workers fd).Deals workers := by
  have hindex := h.index
  have hsystem : (s.dispatchNewConn workers fd).system = s.system.accept s.nextWorkerIndex fd := rfl
  rw [RtcSystem.accept, hacceptor] at hsystem
  dsimp only at hsystem
  -- the threads: only the queue of the worker has changed
  have hself : (s.dispatchNewConn workers fd).system.signaling s.nextWorkerIndex =
      { s.system.signaling s.nextWorkerIndex with
        qConn := (s.system.signaling s.nextWorkerIndex).qConn ++ [fd] } := by
    rw [hsystem]
    exact Function.update_self ..
  have hother (i : ℕ) (hi : i ≠ s.nextWorkerIndex) :
      (s.dispatchNewConn workers fd).system.signaling i = s.system.signaling i := by
    rw [hsystem]
    exact Function.update_of_ne hi ..
  have hsending : (s.dispatchNewConn workers fd).system.acceptor = some s.nextWorkerIndex := by
    rw [hsystem]
  constructor
  · change (if s.nextWorkerIndex + 1 ≥ workers then 0 else s.nextWorkerIndex + 1) =
      (s.accepted ++ [fd]).length % workers
    rw [List.length_append, List.length_singleton, hindex, succ_mod_eq_ite hworkers]
  · intro i
    change s.opened i ++ _ = hand workers i (s.accepted ++ [fd])
    by_cases hi : i = s.nextWorkerIndex
    · rw [hi, hself, hand_append_singleton_of_eq hindex.symm, ← h.hands, List.append_assoc]
    · rw [hother i hi, hand_append_singleton_of_ne (by rw [← hindex]; exact Ne.symm hi), h.hands]
  · intro i
    rw [hsending]
    by_cases hi : i = s.nextWorkerIndex
    · rw [hi, hself]
      exact (h.backed _).push_one (by rw [hacceptor]; simp) rfl fd
    · rw [hother i hi]
      refine (h.backed i).congr_one ?_
      rw [hacceptor]
      simp [Ne.symm hi]

theorem Deals.congr (h : s.Deals workers) {system : RtcSystem σ}
    (hacceptor : system.acceptor = s.system.acceptor)
    (hsame : ∀ i, RtcSystem.SameConns (s.system.signaling i) (system.signaling i)) :
    ({ s with system } : SignalingServer σ).Deals workers where
  index := h.index
  hands i := by
    rw [← h.hands i]
    exact congrArg (s.opened i ++ ·) (hsame i).qConn
  backed i := by
    change Backed _ _ _ {_u : Unit | system.acceptor = some i} _
    rw [hacceptor]
    exact (hsame i).backed (h.backed i)

theorem Deals.stepSignaling (h : s.Deals workers) (i : ℕ) :
    (s.step env workers (.system (.signaling i))).Deals workers := by
  have hopens := RtcSystem.opens_stepSignaling h.backed i
  obtain ⟨hacceptor, hother⟩ := s.system.stepSignaling_other i
  constructor
  · exact h.index
  · intro j
    rw [step]
    dsimp only
    by_cases hj : j = i
    · rw [hj, Function.update_self, List.append_assoc, ← h.hands i, hopens.qConn]
      rfl
    · rw [Function.update_of_ne hj, hother j hj, h.hands]
  · intro j
    change Backed _ _ _ {_u : Unit | (s.system.stepSignaling i).acceptor = some j} _
    rw [hacceptor]
    by_cases hj : j = i
    · rw [hj]
      exact hopens.backed
    · change Backed _ ((s.system.stepSignaling i).signaling j).qConn
        ((s.system.stepSignaling i).signaling j).inbox.pipe _
        (((s.system.stepSignaling i).signaling j).pc.reading .newConn)
      rw [hother j hj]
      exact h.backed j

theorem Deals.stepAcceptor (h : s.Deals workers) :
    (s.step env workers (.system .acceptor)).Deals workers := by
  change ({ s with system := s.system.stepAcceptor } : SignalingServer σ).Deals workers
  rw [RtcSystem.stepAcceptor]
  split
  · exact h
  · next i hacceptor =>
    have hself (t : SignalingThread) :
        ({ s.system.setSignaling i t with acceptor := none } : RtcSystem σ).signaling i = t :=
      Function.update_self ..
    have hother (t : SignalingThread) (j : ℕ) (hj : j ≠ i) :
        ({ s.system.setSignaling i t with acceptor := none } : RtcSystem σ).signaling j =
          s.system.signaling j := Function.update_of_ne hj ..
    refine ⟨h.index, fun j ↦ ?_, fun j ↦ ?_⟩
    · rw [← h.hands j]
      by_cases hj : j = i
      · rw [hj, hself]
      · rw [hother _ j hj]
    · by_cases hj : j = i
      · rw [hj, hself]
        exact (h.backed i).notify_one hacceptor (by simp)
      · rw [hother _ j hj]
        refine (h.backed j).congr_one ?_
        rw [hacceptor]
        simp [Ne.symm hj]

theorem Deals.step (h : s.Deals workers) (hworkers : 0 < workers)
    (e : SignalingServerEvent ι ε) : (s.step env workers e).Deals workers := by
  cases e with
  | acceptNewConn fd =>
    rw [SignalingServer.step]
    split_ifs with hacceptor
    · exact h.dispatchNewConn hworkers (Option.isNone_iff_eq_none.mp hacceptor) fd
    · exact h
  | system e =>
    have hcongr (haccept : ∀ i fd, e ≠ .accept i fd) (hacceptor : e ≠ .acceptor)
        (hsignaling : ∀ i, e ≠ .signaling i) :
        ({ s with system := s.system.step env e } : SignalingServer σ).Deals workers := by
      obtain ⟨hsame, hconns⟩ :=
        @RtcSystem.sameConns_step _ _ _ env s.system e haccept hacceptor hsignaling
      exact h.congr hsame hconns
    cases e with
    | accept i fd => exact h
    | acceptor => exact h.stepAcceptor
    | signaling i => exact h.stepSignaling i
    | request i msg => exact hcongr (by simp) (by simp) (by simp)
    | server => exact hcongr (by simp) (by simp) (by simp)
    | worker w x => exact hcongr (by simp) (by simp) (by simp)
    | loop w e => exact hcongr (by simp) (by simp) (by simp)
    | clock seconds => exact hcongr (by simp) (by simp) (by simp)

theorem deals_run (env : RtcServerEnv σ ι ε) (hworkers : 0 < workers) (streams : σ) (now : ℕ)
    (es : List (SignalingServerEvent ι ε)) : (run env workers streams now es).Deals workers := by
  refine exec_invariant (I := fun s : SignalingServer σ ↦ s.Deals workers)
    (fun s e h ↦ h.step hworkers e) ?_ es
  obtain ⟨certificates, certificate, generations, hcheck⟩ :=
    RtcSystem.exists_generateAndCheckCertificate env
      { now, workers := fun _ ↦ { streams } : RtcSystem σ }
  rw [RtcSystem.init, hcheck]
  exact ⟨(Nat.zero_mod _).symm, fun _ ↦ rfl, fun _ ↦ .empty _ (by simp)⟩

/-- What a balanced deal of the connections means. -/
structure Balanced (workers : ℕ) (s : SignalingServer σ) : Prop where
  /-- Every accepted connection is with one worker. -/
  complete : ((List.range workers).flatMap fun i ↦
    s.opened i ++ (s.system.signaling i).qConn).Perm s.accepted
  /-- The worker `i` gets each `workers`-th connection, in the order they came. -/
  hands : ∀ i, s.opened i ++ (s.system.signaling i).qConn = hand workers i s.accepted
  /-- Nobody gets two more than another. -/
  balanced : ∀ i < workers, ∀ j < workers,
    (s.opened i ++ (s.system.signaling i).qConn).length ≤
      (s.opened j ++ (s.system.signaling j).qConn).length + 1
  /-- A worker that has read all its notes has opened all its connections. -/
  settled : ∀ i, s.Settled i → s.opened i = hand workers i s.accepted

/-- **New connections are dealt out in turn**, however the threads are interleaved. -/
theorem balanced_run (env : RtcServerEnv σ ι ε) (hworkers : 0 < workers) (streams : σ) (now : ℕ)
    (es : List (SignalingServerEvent ι ε)) : (run env workers streams now es).Balanced workers := by
  have h := deals_run env hworkers streams now es
  generalize run env workers streams now es = s at h ⊢
  constructor
  · simp only [h.hands]
    exact flatMap_hand_perm hworkers s.accepted
  · exact h.hands
  · intro i hi j hj
    rw [h.hands, h.hands]
    exact length_hand_le hi hj s.accepted
  · rintro i ⟨hpc, hpipe, hacceptor⟩
    have hbacked := h.backed i
    rw [hpc, hpipe] at hbacked
    have hempty := hbacked.queue_eq_nil fun _ ↦ hacceptor
    rw [← h.hands i, hempty, List.append_nil]

/-- Two clients come; the first worker opens its connection, the second has not read its note. -/
def twoClients : List (SignalingServerEvent Unit Unit) :=
  [.acceptNewConn 7, .system .acceptor, .acceptNewConn 8, .system .acceptor,
    .system (.signaling 0), .system (.signaling 0)]

theorem balanced_twoClients :
    (run RtcSystem.twoWorkers 2 () 0 twoClients).opened 0 = [7] ∧
      (run RtcSystem.twoWorkers 2 () 0 twoClients).Balanced 2 :=
  ⟨by decide, balanced_run RtcSystem.twoWorkers (by decide) () 0 twoClients⟩

end SignalingServer

end XrtcServer
