import XrtcServer.Server.Numbering

/-!
# How a command reaches its worker

A command is alone in one place at a time: in the server's queue, in the hands of the server's
thread, in a worker's queue, in the hands of the worker's thread, or done. `DispatchInv` says this
of all commands at once.

## The stages

What entered a worker's queue, followed by what the server holds for that worker, are the commands
that left the server's queue for it, in their order. What was carried out, followed by what the
worker holds, is what left the worker's queue. Of this the offers are what was sent back, followed
by what still has to be; and what entered the queue of a signaling worker are the messages that were
sent back to it. Each of these is an equation between a log before a stage and one behind it, so a
step of a thread moves one message across one equation, and nothing is lost or done twice.

## Notifications

A message in a queue is of no use if nobody wakes the thread. That every queue is `Backed` goes
beside the equations: for each message there is a notification in the pipe, one that was read and
not acted upon, or a thread that is about to write one.

As long as there is a certificate and all workers exist, the server drops no message, and the
invariant gives the whole path: see `RtcSystem.dispatched_run`.
-/

namespace XrtcServer

open EventRun Mailbox

variable {σ ι ε : Type}

namespace RtcServerEnv

variable {env : RtcServerEnv σ ι ε}

/-- All workers were created. -/
def Ready (env : RtcServerEnv σ ι ε) : Prop := 1 ≤ env.workerNum ∧ env.workers = env.workerNum

/-- Every certificate that is asked for is made. -/
def Available (env : RtcServerEnv σ ι ε) : Prop :=
  ∀ n now, (env.generateCertificate n kYearInMs now).isSome

theorem Ready.getWorker (h : env.Ready) (streamName : ByteString) :
    env.getWorker streamName = some (env.workerIndex streamName) := by
  rw [RtcServerEnv.getWorker, if_neg]
  rintro (hzero | hne)
  · have hpos := h.1
    rw [← h.2, hzero] at hpos
    exact absurd hpos (by decide)
  · exact hne h.2

end RtcServerEnv

theorem StreamHandlers.isSome_processRtcMsg (h : StreamHandlers σ ι ε)
    (certificates : Arena Certificate) (x : ι) (streams : σ) (msg : QueuedMsg) :
    (h.processRtcMsg certificates x streams msg).2.isSome = msg.isOffer := by
  rw [processRtcMsg, RtcMsg.isOffer]
  by_cases hpush : msg.cmdno = cmdnoPush
  · rw [if_pos hpush]
    simp [hpush]
  rw [if_neg hpush]
  by_cases hpull : msg.cmdno = cmdnoPull
  · rw [if_pos hpull]
    simp [hpull]
  rw [if_neg hpull]
  have hnone : decide (msg.cmdno = cmdnoPush ∨ msg.cmdno = cmdnoPull) = false := by
    simp [hpush, hpull]
  rw [hnone]
  split_ifs <;> rfl

theorem RtcSystem.generateAndCheckCertificate_snd {env : RtcServerEnv σ ι ε} (h : env.Available)
    (s : RtcSystem σ) : (s.generateAndCheckCertificate env).2 = 0 := by
  rw [generateAndCheckCertificate]
  by_cases hexpired : s.certificateExpired = true
  · obtain ⟨x, hx⟩ := Option.isSome_iff_exists.mp (h s.generations s.now)
    rw [if_pos hexpired, renewCertificate, hx]
    rfl
  · rw [if_neg hexpired]
    rw [certificateExpired] at hexpired
    split at hexpired
    · exact absurd rfl hexpired
    · next c hc =>
      rw [hc]
      rfl

/-! ## What a thread has in hand

A thread works on one message or one notification at a time, and its program counter says which.
These functions read it: the message that has left a queue and has not come to the next one, the
pipe that is still to be written to, and the notification that was read and not acted upon. -/

namespace ServerPc

/-- The worker whose pipe comes next. -/
def forwarding : ServerPc → Option ℕ
  | pushed w _ => some w
  | _ => none

/-- The notifications of kind `k` that were read and not acted upon. -/
def reading (k : Notification) : ServerPc → ℕ
  | notified k' => if k' = k then 1 else 0
  | _ => 0

theorem reading_eq_zero {pc : ServerPc} (h : ∀ k, pc ≠ notified k) (k : Notification) :
    pc.reading k = 0 := by
  cases pc with
  | notified k' => exact absurd rfl (h k')
  | _ => rfl

theorem forwarding_ne {pc : ServerPc} (h : ∀ w m, pc ≠ pushed w m) (w : ℕ) :
    pc.forwarding ≠ some w := by
  cases pc with
  | pushed w' m => exact absurd rfl (h w' m)
  | _ => nofun

end ServerPc

namespace RtcWorkerPc

/-- The message that left the worker's queue and was not carried out. -/
def held : RtcWorkerPc → List ℕ
  | popped m => [m]
  | _ => []

/-- The message that was carried out and has to be sent back. -/
def owed : RtcWorkerPc → List ℕ
  | processed m => [m]
  | _ => []

/-- The signaling worker whose pipe comes next. -/
def answering : RtcWorkerPc → Option ℕ
  | pushed i _ => some i
  | _ => none

@[inherit_doc ServerPc.reading]
def reading (k : Notification) : RtcWorkerPc → ℕ
  | notified k' => if k' = k then 1 else 0
  | _ => 0

theorem reading_eq_zero {pc : RtcWorkerPc} (h : ∀ k, pc ≠ notified k) (k : Notification) :
    pc.reading k = 0 := by
  cases pc with
  | notified k' => exact absurd rfl (h k')
  | _ => rfl

theorem answering_ne {pc : RtcWorkerPc} (h : ∀ i m, pc ≠ pushed i m) (i : ℕ) :
    pc.answering ≠ some i := by
  cases pc with
  | pushed i' m => exact absurd rfl (h i' m)
  | _ => nofun

end RtcWorkerPc

namespace SignalingPc

/-- The server's pipe comes next. -/
def requesting : SignalingPc → Bool
  | pushed _ => true
  | _ => false

@[inherit_doc ServerPc.reading]
def reading (k : Notification) : SignalingPc → ℕ
  | notified k' => if k' = k then 1 else 0
  | _ => 0

theorem reading_eq_zero {pc : SignalingPc} (h : ∀ k, pc ≠ notified k) (k : Notification) :
    pc.reading k = 0 := by
  cases pc with
  | notified k' => exact absurd rfl (h k')
  | _ => rfl

theorem requesting_ne {pc : SignalingPc} (h : ∀ m, pc ≠ pushed m) : pc.requesting ≠ true := by
  cases pc with
  | pushed m => exact absurd rfl (h m)
  | _ => nofun

end SignalingPc

namespace RtcSystem

section
variable (env : RtcServerEnv σ ι ε) (s : RtcSystem σ)

/-- The worker that the message `m` is for. -/
def dest (m : ℕ) : ℕ := env.workerIndex (s.msg m).streamName

/-- The message `m` is answered with an offer. -/
def offer (m : ℕ) : Bool := (s.msg m).isOffer

def sender (m : ℕ) : ℕ := (s.msg m).sender

/-- The signaling workers inside `send_rtc_msg` of the server. -/
def requesters : Set ℕ := {i | (s.signaling i).pc.requesting = true}

/-- The workers inside `send_rtc_msg` of the signaling worker `i`. -/
def answerers (i : ℕ) : Set ℕ := {w | (s.workers w).pc.answering = some i}

/-- The messages that were sent back. -/
def posted : Set ℕ := {m | ∃ w, m ∈ (s.workers w).posted}

end

/-! ## The invariant

`WorkerInv` and `SignalingInv` are about one thread, and take as arguments what they need of the
others: the lists of the server's thread, and who is in a send. A move of one thread therefore
leaves the invariants of all the others as they are, up to those arguments. There is one lemma for
each move, and the steps of the three kinds of threads are assembled from them. -/

/-- The path of the messages for the worker `w`; `forwarded` left the server's queue, `held` is in
the hands of the server, which may be `forwarding`. -/
structure WorkerInv (dest : ℕ → ℕ) (offer : ℕ → Bool) (forwarded held : List ℕ)
    (forwarding : Option ℕ) (w : ℕ) (worker : RtcWorker σ) : Prop where
  routed : worker.inbox.entered ++ held.filter (fun m ↦ dest m = w) =
    forwarded.filter fun m ↦ dest m = w
  executed : worker.inbox.taken = worker.executed ++ worker.pc.held
  posted : worker.executed.filter offer = worker.posted ++ worker.pc.owed
  backed : Backed .rtcMsg worker.inbox.queue worker.inbox.pipe {_u : Unit | forwarding = some w}
    (worker.pc.reading .rtcMsg)

/-- The path of the answers for the signaling worker `i`. -/
structure SignalingInv (sender : ℕ → ℕ) (posted answerers : Set ℕ) (acceptor : Option ℕ) (i : ℕ)
    (thread : SignalingThread) : Prop where
  nodup : thread.inbox.entered.Nodup
  mem_entered : ∀ m, m ∈ thread.inbox.entered ↔ sender m = i ∧ m ∈ posted
  backed : Backed .rtcMsg thread.inbox.queue thread.inbox.pipe answerers
    (thread.pc.reading .rtcMsg)
  backedConn : Backed .newConn thread.qConn thread.inbox.pipe {_u : Unit | acceptor = some i}
    (thread.pc.reading .newConn)

structure DispatchInv (env : RtcServerEnv σ ι ε) (s : RtcSystem σ) : Prop where
  /-- The answer to an offer goes to the signaling worker that sent the request. -/
  offers : ∀ m < s.messages.next, s.offer m = true → (s.msg m).worker = some (s.sender m)
  backed : Backed .rtcMsg s.server.queue s.server.pipe s.requesters (s.serverPc.reading .rtcMsg)
  worker : ∀ w, WorkerInv (s.dest env) s.offer s.server.taken s.serverPc.held s.serverPc.forwarding
    w (s.workers w)
  signaling : ∀ i, SignalingInv s.sender s.posted (s.answerers i) s.acceptor i (s.signaling i)

variable {env : RtcServerEnv σ ι ε} {s : RtcSystem σ} {dest dest' : ℕ → ℕ} {offer offer' : ℕ → Bool}
  {forwarded held : List ℕ} {forwarding : Option ℕ} {w i m : ℕ} {worker x : RtcWorker σ}
  {sender sender' : ℕ → ℕ} {posted answerers : Set ℕ} {acceptor : Option ℕ}
  {thread t : SignalingThread}

/-! ### Who is in a send -/

theorem posted_setWorker {l : List ℕ} (hx : x.posted = (s.workers w).posted ++ l) :
    (s.setWorker w x).posted = s.posted ∪ {m | m ∈ l} := by
  ext m
  constructor
  · rintro ⟨w', hm⟩
    by_cases hw : w' = w
    · rw [hw, workers_setWorker_self, hx, List.mem_append] at hm
      exact hm.imp_left fun hm ↦ ⟨w, hm⟩
    · rw [workers_setWorker_of_ne hw] at hm
      exact .inl ⟨w', hm⟩
  · rintro (⟨w', hm⟩ | hm)
    · by_cases hw : w' = w
      · refine ⟨w, ?_⟩
        rw [workers_setWorker_self, hx]
        exact List.mem_append_left _ (hw ▸ hm)
      · exact ⟨w', by rwa [workers_setWorker_of_ne hw]⟩
    · refine ⟨w, ?_⟩
      rw [workers_setWorker_self, hx]
      exact List.mem_append_right _ hm

theorem posted_setWorker_of_eq (hx : x.posted = (s.workers w).posted) :
    (s.setWorker w x).posted = s.posted := by
  rw [posted_setWorker (l := []) (by rw [hx, List.append_nil])]
  simp

theorem answerers_setWorker_of_eq (hx : x.pc.answering = some i) :
    (s.setWorker w x).answerers i = insert w (s.answerers i) :=
  setOf_update_of_pos (p := fun x : RtcWorker σ ↦ x.pc.answering = some i) hx

theorem answerers_setWorker_of_ne (hx : x.pc.answering ≠ some i) :
    (s.setWorker w x).answerers i = s.answerers i \ {w} :=
  setOf_update_of_neg (p := fun x : RtcWorker σ ↦ x.pc.answering = some i) hx

theorem answerers_setWorker (hx : x.pc.answering = (s.workers w).pc.answering) :
    (s.setWorker w x).answerers i = s.answerers i :=
  setOf_update_of_iff (p := fun x : RtcWorker σ ↦ x.pc.answering = some i) (by rw [hx])

theorem requesters_setSignaling_of_eq (ht : t.pc.requesting = true) :
    (s.setSignaling i t).requesters = insert i s.requesters :=
  setOf_update_of_pos (p := fun t : SignalingThread ↦ t.pc.requesting = true) ht

theorem requesters_setSignaling_of_ne (ht : t.pc.requesting = false) :
    (s.setSignaling i t).requesters = s.requesters \ {i} :=
  setOf_update_of_neg (p := fun t : SignalingThread ↦ t.pc.requesting = true) (by rw [ht]; nofun)

theorem requesters_setSignaling (ht : t.pc.requesting = (s.signaling i).pc.requesting) :
    (s.setSignaling i t).requesters = s.requesters :=
  setOf_update_of_iff (p := fun t : SignalingThread ↦ t.pc.requesting = true) (by rw [ht])

/-! ### What follows from the invariant -/

namespace WorkerInv

theorem mem_forwarded (h : WorkerInv dest offer forwarded held forwarding w worker)
    (hm : m ∈ worker.executed) : m ∈ forwarded ∧ dest m = w := by
  have htaken : m ∈ worker.inbox.taken := by
    rw [h.executed]
    exact List.mem_append_left _ hm
  have hrouted : m ∈ worker.inbox.entered ++ held.filter fun m ↦ dest m = w :=
    List.mem_append_left _ (List.mem_append_left _ htaken)
  rw [h.routed] at hrouted
  simpa using hrouted

theorem mem_executed (h : WorkerInv dest offer forwarded held forwarding w worker)
    (hm : m ∈ worker.posted ++ worker.pc.owed) : m ∈ worker.executed ∧ offer m = true := by
  rw [← h.posted] at hm
  exact List.mem_filter.mp hm

/-- Of the messages only their stream and their command matter. -/
theorem congr (h : WorkerInv dest offer forwarded held forwarding w worker)
    (hheld : held ⊆ forwarded) (hdest : ∀ m ∈ forwarded, dest' m = dest m)
    (hoffer : ∀ m ∈ forwarded, offer' m = offer m) :
    WorkerInv dest' offer' forwarded held forwarding w worker where
  routed := by
    have hfilter : ∀ l ⊆ forwarded, (l.filter fun m ↦ dest' m = w) = l.filter fun m ↦ dest m = w :=
      fun l hl ↦ List.filter_congr fun m hm ↦ by rw [hdest m (hl hm)]
    rw [hfilter held hheld, hfilter forwarded (List.Subset.refl _)]
    exact h.routed
  executed := h.executed
  posted := by
    rw [← h.posted]
    exact List.filter_congr fun m hm ↦ hoffer m (h.mem_forwarded hm).1
  backed := h.backed

end WorkerInv

theorem WorkerInv.nodup_executed (h : WorkerInv dest offer forwarded held forwarding w worker)
    (hnodup : forwarded.Nodup) : worker.executed.Nodup := by
  have hrouted := hnodup.filter fun m ↦ dest m = w
  rw [← h.routed, Mailbox.entered, h.executed, List.append_assoc, List.append_assoc,
    List.nodup_append] at hrouted
  exact hrouted.1

theorem SignalingInv.congr (h : SignalingInv sender posted answerers acceptor i thread)
    (hsender : ∀ m ∈ posted, sender' m = sender m) :
    SignalingInv sender' posted answerers acceptor i thread where
  nodup := h.nodup
  mem_entered m := by
    rw [h.mem_entered m]
    exact and_congr_left fun hm ↦ by rw [hsender m hm]
  backed := h.backed
  backedConn := h.backedConn

namespace DispatchInv

theorem mem_entered_of_posted (h : DispatchInv env s) (hm : m ∈ s.posted) :
    m ∈ s.server.entered := by
  obtain ⟨w, hm⟩ := hm
  have hexecuted := ((h.worker w).mem_executed (List.mem_append_left _ hm)).1
  exact List.mem_append_left _ ((h.worker w).mem_forwarded hexecuted).1

theorem modifyMsg (h : DispatchInv env s) (m : ℕ) {f : QueuedMsg → QueuedMsg}
    (hname : ∀ msg, (f msg).streamName = msg.streamName)
    (hcmdno : ∀ msg, (f msg).cmdno = msg.cmdno) (hworker : ∀ msg, (f msg).worker = msg.worker)
    (hsender : ∀ msg, (f msg).sender = msg.sender) : DispatchInv env (s.modifyMsg m f) := by
  have hdest : (s.modifyMsg m f).dest env = s.dest env := funext fun j ↦
    congrArg env.workerIndex
      (Arena.proj_cell_modify (p := fun msg : QueuedMsg ↦ msg.streamName) hname m j)
  have hoffer : (s.modifyMsg m f).offer = s.offer := funext fun j ↦
    Arena.proj_cell_modify (p := fun msg : QueuedMsg ↦ msg.isOffer)
      (fun msg ↦ by rw [RtcMsg.isOffer, RtcMsg.isOffer, hcmdno]) m j
  have hsender : (s.modifyMsg m f).sender = s.sender := funext fun j ↦
    Arena.proj_cell_modify (p := QueuedMsg.sender) hsender m j
  refine ⟨?_, h.backed, ?_, ?_⟩
  · intro j hj hj'
    rw [hoffer] at hj'
    rw [hsender]
    exact (Arena.proj_cell_modify (p := QueuedMsg.worker) hworker m j).trans (h.offers j hj hj')
  · rw [hdest, hoffer]
    exact h.worker
  · rw [hsender]
    exact h.signaling

/-! ### Moves of one thread -/

/-- A worker changes, and the server takes note of it; the signaling workers see nothing. -/
theorem setWorkerPc (h : DispatchInv env s) {pc : ServerPc}
    (hreading : pc.reading .rtcMsg = s.serverPc.reading .rtcMsg)
    (hx : WorkerInv (s.dest env) s.offer s.server.taken pc.held pc.forwarding w x)
    (hother : ∀ w' ≠ w, WorkerInv (s.dest env) s.offer s.server.taken pc.held pc.forwarding w'
      (s.workers w'))
    (hposted : x.posted = (s.workers w).posted)
    (hanswering : x.pc.answering = (s.workers w).pc.answering) :
    DispatchInv env { s.setWorker w x with serverPc := pc } := by
  refine ⟨h.offers, ?_, fun w' ↦ ?_, fun i ↦ ?_⟩
  · have hbacked := h.backed
    rw [← hreading] at hbacked
    exact hbacked
  · exact forall_setWorker (P := WorkerInv (s.dest env) s.offer s.server.taken pc.held
      pc.forwarding) hx hother w'
  · have hsignaling := h.signaling i
    rw [← posted_setWorker_of_eq hposted, ← answerers_setWorker hanswering] at hsignaling
    exact hsignaling

/-- A worker moves without touching what others see of it. -/
theorem setWorker (h : DispatchInv env s)
    (hx : WorkerInv (s.dest env) s.offer s.server.taken s.serverPc.held s.serverPc.forwarding w x)
    (hposted : x.posted = (s.workers w).posted)
    (hanswering : x.pc.answering = (s.workers w).pc.answering) :
    DispatchInv env (s.setWorker w x) :=
  h.setWorkerPc rfl hx (fun w' _ ↦ h.worker w') hposted hanswering

theorem setSignaling (h : DispatchInv env s)
    (ht : SignalingInv s.sender s.posted (s.answerers i) s.acceptor i t)
    (hpc : t.pc.requesting = (s.signaling i).pc.requesting) :
    DispatchInv env (s.setSignaling i t) := by
  refine ⟨h.offers, ?_, h.worker, ?_⟩
  · rw [requesters_setSignaling hpc]
    exact h.backed
  · exact forall_setSignaling (P := fun j ↦ SignalingInv s.sender s.posted (s.answerers j)
      s.acceptor j) ht fun j _ ↦ h.signaling j

/-! ### The server's thread -/

/-- The server moves between two places that others cannot tell apart. -/
theorem setServer (h : DispatchInv env s) {server : Inbox} {pc : ServerPc}
    (hbacked : Backed .rtcMsg server.queue server.pipe s.requesters (pc.reading .rtcMsg))
    (hworker : ∀ w, WorkerInv (s.dest env) s.offer server.taken pc.held pc.forwarding w
      (s.workers w)) : DispatchInv env (s.setServer server pc) :=
  ⟨h.offers, hbacked, hworker, h.signaling⟩

theorem serverRead (h : DispatchInv env s) (hpc : s.serverPc = .idle) {k : Notification}
    {server : Inbox} (hread : s.server.read = some (k, server)) :
    DispatchInv env (s.setServer server (.notified k)) := by
  obtain ⟨hpipe, hqueue, htaken⟩ := read_eq_some hread
  have hbacked := h.backed
  have hworker := h.worker
  rw [hpc] at hbacked hworker
  refine h.setServer ?_ ?_
  · rw [hpipe, ← hqueue] at hbacked
    rw [ServerPc.reading]
    split_ifs with hk
    · rw [hk] at hbacked
      exact hbacked.read
    · exact hbacked.read_of_ne hk
  · rw [htaken]
    exact hworker

theorem serverPop (h : DispatchInv env s) (hpc : s.serverPc = .notified .rtcMsg) {server : Inbox}
    (hpop : s.server.pop = some (m, server)) :
    DispatchInv env (s.setServer server (.popped m)) := by
  obtain ⟨hqueue, hpipe, htaken⟩ := pop_eq_some hpop
  have hbacked := h.backed
  rw [hpc, hqueue] at hbacked
  refine h.setServer ?_ fun w ↦ ?_
  · rw [hpipe]
    exact hbacked.pop
  · have hworker := h.worker w
    rw [hpc] at hworker
    refine ⟨?_, hworker.executed, hworker.posted, hworker.backed⟩
    -- the message goes to the end of what left the queue
    rw [htaken, List.filter_append, ← hworker.routed]
    exact (congrArg (· ++ _) (List.append_nil _)).symm

theorem serverIdle (h : DispatchInv env s) (hheld : s.serverPc.held = [])
    (hforwarding : s.serverPc.forwarding = none) (hreading : s.serverPc.reading .rtcMsg = 0) :
    DispatchInv env (s.setServer s.server .idle) := by
  have hbacked := h.backed
  have hworker := h.worker
  rw [hreading] at hbacked
  rw [hheld, hforwarding] at hworker
  exact h.setServer hbacked hworker

theorem setCertificates (h : DispatchInv env s) (certificates : Arena Certificate)
    (certificate : Option ℕ) (generations : ℕ) :
    DispatchInv env { s with certificates, certificate, generations } :=
  ⟨h.offers, h.backed, h.worker, h.signaling⟩

theorem serverCertify (h : DispatchInv env s) (havailable : env.Available)
    (hpc : s.serverPc = .popped m) : DispatchInv env (s.serverCertify env m) := by
  obtain ⟨certificates, certificate, generations, hcheck⟩ :=
    s.exists_generateAndCheckCertificate env
  rw [RtcSystem.serverCertify]
  dsimp only
  rw [generateAndCheckCertificate_snd havailable, hcheck, if_neg (by decide)]
  have hmodify := (h.setCertificates certificates certificate generations).modifyMsg m
    (f := fun msg ↦ { msg with certificate })
    (fun _ ↦ rfl) (fun _ ↦ rfl) (fun _ ↦ rfl) (fun _ ↦ rfl)
  have hbacked := hmodify.backed
  have hworker := hmodify.worker
  change Backed _ _ _ _ (s.serverPc.reading _) at hbacked
  change ∀ w, WorkerInv _ _ _ s.serverPc.held s.serverPc.forwarding w _ at hworker
  rw [hpc] at hbacked hworker
  -- with a certificate the message is held as it was without
  have hbacked' : Backed .rtcMsg s.server.queue s.server.pipe s.requesters
    (ServerPc.reading .rtcMsg (.certified m)) := hbacked
  exact hmodify.setServer hbacked' hworker

theorem serverPush (h : DispatchInv env s) (hready : env.Ready) (hpc : s.serverPc = .certified m) :
    DispatchInv env (s.serverPush env m) := by
  have hget : env.getWorker (s.msg m).streamName = some (s.dest env m) := hready.getWorker _
  rw [RtcSystem.serverPush, hget]
  dsimp only
  have hworker := h.worker
  rw [hpc] at hworker
  refine h.setWorkerPc (by rw [hpc]; rfl) ?_ (fun w hw ↦ ?_) rfl rfl
  · have hdest := hworker (s.dest env m)
    have hheld :
        (ServerPc.certified m).held.filter (fun j ↦ s.dest env j = s.dest env m) = [m] := by
      simp [ServerPc.held]
    have hrouted := hdest.routed
    rw [hheld] at hrouted
    refine ⟨?_, hdest.executed, hdest.posted, ?_⟩
    · rw [entered_push, ← hrouted]
      exact List.append_nil _
    · exact hdest.backed.push_one (by intro hpushed; cases hpushed) rfl m
  · have hother := hworker w
    have hheld : (ServerPc.certified m).held.filter (fun j ↦ s.dest env j = w) = [] := by
      simp [ServerPc.held, hw.symm]
    refine ⟨?_, hother.executed, hother.posted, ?_⟩
    · rw [← hother.routed, hheld]
      rfl
    · exact hother.backed.congr_one
        (iff_of_false (by intro hpushed; cases hpushed) fun heq ↦ hw (Option.some.inj heq).symm)

theorem serverNotify (h : DispatchInv env s) (hpc : s.serverPc = .pushed w m) :
    DispatchInv env (s.serverNotify w) := by
  have hworker := h.worker
  rw [hpc] at hworker
  refine h.setWorkerPc (by rw [hpc]; rfl) ?_ (fun w' hw ↦ ?_) rfl rfl
  · have hw := hworker w
    exact ⟨hw.routed, hw.executed, hw.posted,
      hw.backed.notify_one rfl (by intro hpushed; cases hpushed)⟩
  · have hother := hworker w'
    refine ⟨hother.routed, hother.executed, hother.posted, ?_⟩
    exact hother.backed.congr_one
      (iff_of_false (fun heq ↦ hw (Option.some.inj heq).symm) (by intro hpushed; cases hpushed))

theorem stepServer (h : DispatchInv env s) (hready : env.Ready) (havailable : env.Available) :
    DispatchInv env (s.stepServer env) := by
  rw [RtcSystem.stepServer]
  split
  · next hpc =>
    split
    · exact h
    · next hread => exact h.serverRead hpc hread
  · next hpc =>
    have hbacked := h.backed
    rw [hpc] at hbacked
    split
    · next hpop => exact absurd (pop_eq_none.mp hpop) hbacked.ne_nil
    · next hpop => exact h.serverPop hpc hpop
  · next hpc => exact h.serverIdle (by rw [hpc]; rfl) (by rw [hpc]; rfl) (by rw [hpc]; rfl)
  · next hpc => exact h.serverCertify havailable hpc
  · next hpc => exact h.serverPush hready hpc
  · next hpc => exact h.serverNotify hpc

/-! ### The workers' threads -/

theorem workerRead (h : DispatchInv env s) (hpc : (s.workers w).pc = .idle) {k : Notification}
    {inbox : Inbox} (hread : (s.workers w).inbox.read = some (k, inbox)) :
    DispatchInv env (s.setWorker w { s.workers w with inbox, pc := .notified k }) := by
  obtain ⟨hpipe, hqueue, htaken⟩ := read_eq_some hread
  obtain ⟨hrouted, hexecuted, hposted, hbacked⟩ := h.worker w
  rw [hpc] at hexecuted hposted hbacked
  refine h.setWorker ⟨?_, htaken.trans hexecuted, hposted, ?_⟩ rfl (by rw [hpc]; rfl)
  · rw [entered_of_read hread]
    exact hrouted
  · rw [hpipe, ← hqueue] at hbacked
    rw [RtcWorkerPc.reading]
    split_ifs with hk
    · rw [hk] at hbacked
      exact hbacked.read
    · exact hbacked.read_of_ne hk

theorem workerPop (h : DispatchInv env s) (hpc : (s.workers w).pc = .notified .rtcMsg)
    {inbox : Inbox} (hpop : (s.workers w).inbox.pop = some (m, inbox)) :
    DispatchInv env (s.setWorker w { s.workers w with inbox, pc := .popped m }) := by
  obtain ⟨hqueue, hpipe, htaken⟩ := pop_eq_some hpop
  obtain ⟨hrouted, hexecuted, hposted, hbacked⟩ := h.worker w
  rw [hpc] at hexecuted hposted hbacked
  refine h.setWorker ⟨?_, ?_, hposted, ?_⟩ rfl (by rw [hpc]; rfl)
  · rw [entered_of_pop hpop]
    exact hrouted
  · rw [htaken, hexecuted]
    exact congrArg (· ++ _) (List.append_nil _)
  · rw [hqueue] at hbacked
    rw [hpipe]
    exact hbacked.pop

theorem workerIdle (h : DispatchInv env s) (hheld : (s.workers w).pc.held = [])
    (howed : (s.workers w).pc.owed = []) (hanswering : (s.workers w).pc.answering = none)
    (hreading : (s.workers w).pc.reading .rtcMsg = 0) :
    DispatchInv env (s.setWorker w { s.workers w with pc := .idle }) := by
  obtain ⟨hrouted, hexecuted, hposted, hbacked⟩ := h.worker w
  rw [hheld] at hexecuted
  rw [howed] at hposted
  rw [hreading] at hbacked
  exact h.setWorker ⟨hrouted, hexecuted, hposted, hbacked⟩ rfl hanswering.symm

theorem workerExecute (h : DispatchInv env s) (hpc : (s.workers w).pc = .popped m) (x : ι) :
    DispatchInv env (s.workerExecute env w x m) := by
  have hanswer := env.handlers.isSome_processRtcMsg s.certificates x (s.workers w).streams (s.msg m)
  rw [RtcSystem.workerExecute]
  rcases hr : env.handlers.processRtcMsg s.certificates x (s.workers w).streams (s.msg m) with
    ⟨streams, _ | ⟨offer, ret⟩⟩
  · obtain ⟨hrouted, hexecuted, hposted, hbacked⟩ := h.worker w
    rw [hpc] at hexecuted hposted hbacked
    rw [hr] at hanswer
    have hoffer : s.offer m = false := hanswer.symm
    refine h.setWorker ⟨hrouted, ?_, ?_, hbacked⟩ rfl (by rw [hpc]; rfl)
    · rw [hexecuted]
      exact (List.append_nil _).symm
    · rw [List.filter_append, List.filter_singleton, hoffer, hposted]
      exact List.append_nil _
  · have hmodify := h.modifyMsg m (f := fun msg ↦ msg.answer offer ret)
      (fun _ ↦ rfl) (fun _ ↦ rfl) (fun _ ↦ rfl) (fun _ ↦ rfl)
    have hworker := hmodify.worker w
    change WorkerInv _ _ _ _ _ w (s.workers w) at hworker
    obtain ⟨hrouted, hexecuted, hposted, hbacked⟩ := hworker
    rw [hpc] at hexecuted hposted hbacked
    rw [hr] at hanswer
    have hoffer : (s.modifyMsg m fun msg ↦ msg.answer offer ret).offer m = true := by
      rw [RtcSystem.offer, RtcSystem.msg, RtcSystem.modifyMsg, Arena.cell_modify_self]
      exact hanswer.symm
    have hanswering := congrArg RtcWorkerPc.answering hpc
    refine hmodify.setWorker ⟨hrouted, ?_, ?_, hbacked⟩ rfl hanswering.symm
    · rw [hexecuted]
      exact (List.append_nil _).symm
    · rw [List.filter_append, List.filter_singleton, hoffer, hposted]
      exact congrArg (· ++ _) (List.append_nil _)

theorem setAnswer (h : DispatchInv env s)
    (hx : WorkerInv (s.dest env) s.offer s.server.taken s.serverPc.held s.serverPc.forwarding w x)
    (hpc : t.pc.requesting = (s.signaling i).pc.requesting)
    (ht : SignalingInv s.sender (s.setWorker w x).posted ((s.setWorker w x).answerers i) s.acceptor
      i t)
    (hother : ∀ j ≠ i, SignalingInv s.sender (s.setWorker w x).posted
      ((s.setWorker w x).answerers j) s.acceptor j (s.signaling j)) :
    DispatchInv env ((s.setSignaling i t).setWorker w x) := by
  refine ⟨h.offers, ?_, ?_, ?_⟩
  · have hbacked := h.backed
    rw [← requesters_setSignaling hpc] at hbacked
    exact hbacked
  · exact forall_setWorker (P := WorkerInv (s.dest env) s.offer s.server.taken s.serverPc.held
      s.serverPc.forwarding) hx fun w' _ ↦ h.worker w'
  · exact forall_setSignaling (P := fun j ↦ SignalingInv s.sender (s.setWorker w x).posted
      ((s.setWorker w x).answerers j) s.acceptor j) ht hother

theorem workerPush (h : DispatchInv env s) (hnumbered : s.Numbered)
    (hpc : (s.workers w).pc = .processed m) :
    DispatchInv env (s.workerPush w m) := by
  obtain ⟨hrouted, hexecuted, hposted, hbacked⟩ := h.worker w
  have hnodup := (h.worker w).nodup_executed (List.nodup_append.mp hnumbered.nodup_entered).1
  have howed := (h.worker w).mem_executed (m := m) (by rw [hpc]; simp [RtcWorkerPc.owed])
  have hforwarded := (h.worker w).mem_forwarded howed.1
  rw [hpc] at hexecuted hposted hbacked
  have hlt := hnumbered.lt_next (List.mem_append_left _ hforwarded.1)
  rw [RtcSystem.workerPush, h.offers m hlt howed.2]
  dsimp only
  -- the answer was not sent before, by this worker or another one
  have hnew : m ∉ s.posted := by
    rintro ⟨w', hm⟩
    have hm' := (h.worker w').mem_executed (List.mem_append_left _ hm)
    obtain rfl : w' = w := ((h.worker w').mem_forwarded hm'.1).2.symm.trans hforwarded.2
    have hfilter := hnodup.filter s.offer
    rw [hposted] at hfilter
    exact List.disjoint_of_nodup_append hfilter hm (List.mem_singleton_self m)
  have hset {x : RtcWorker σ} (hx : x.posted = (s.workers w).posted ++ [m]) :
      (s.setWorker w x).posted = insert m s.posted := by
    rw [posted_setWorker hx]
    ext j
    simp [or_comm]
  refine h.setAnswer ⟨hrouted, hexecuted, ?_, hbacked⟩ rfl ?_ fun j hj ↦ ?_
  · rw [hposted]
    exact (List.append_nil _).symm
  · rw [hset (by rfl), answerers_setWorker_of_eq (by rfl)]
    obtain ⟨hnodup, hmem, hbacked, hconn⟩ := h.signaling (s.sender m)
    refine ⟨?_, fun j ↦ ?_, ?_, hconn⟩
    · rw [entered_push]
      refine List.nodup_append.mpr ⟨hnodup, List.nodup_singleton m, fun j hj k hk ↦ ?_⟩
      rintro rfl
      rw [List.mem_singleton.mp hk] at hj
      exact hnew ((hmem m).mp hj).2
    · rw [entered_push, List.mem_append, List.mem_singleton, hmem, Set.mem_insert_iff]
      constructor
      · rintro (⟨hj, hj'⟩ | rfl)
        · exact ⟨hj, .inr hj'⟩
        · exact ⟨rfl, .inl rfl⟩
      · rintro ⟨hj, rfl | hj'⟩
        · exact .inr rfl
        · exact .inl ⟨hj, hj'⟩
    · refine hbacked.push ?_ m
      intro hw
      have hnone : (s.workers w).pc.answering = none := by rw [hpc]; rfl
      cases hnone.symm.trans hw
  · have hne : (some (s.sender m) : Option ℕ) ≠ some j := fun heq ↦ hj (Option.some.inj heq).symm
    have hnotMem : w ∉ s.answerers j := by
      intro hw
      have hnone : (s.workers w).pc.answering = none := by rw [hpc]; rfl
      cases hnone.symm.trans hw
    rw [hset (by rfl), answerers_setWorker_of_ne (by exact hne),
      Set.sdiff_singleton_eq_self hnotMem]
    obtain ⟨hnodup, hmem, hbacked, hconn⟩ := h.signaling j
    refine ⟨hnodup, fun k ↦ ?_, hbacked, hconn⟩
    rw [hmem, Set.mem_insert_iff]
    refine and_congr_right fun hk ↦ ⟨.inr, fun hmem ↦ hmem.resolve_left ?_⟩
    rintro rfl
    exact hj hk.symm

theorem workerNotify (h : DispatchInv env s) (hpc : (s.workers w).pc = .pushed i m) :
    DispatchInv env (s.workerNotify w i) := by
  obtain ⟨hrouted, hexecuted, hposted, hbacked⟩ := h.worker w
  rw [hpc] at hexecuted hposted hbacked
  refine h.setAnswer ⟨hrouted, hexecuted, hposted, hbacked⟩ rfl ?_ fun j hj ↦ ?_
  · rw [posted_setWorker_of_eq (by rfl), answerers_setWorker_of_ne (by nofun)]
    obtain ⟨hnodup, hmem, hbacked, hconn⟩ := h.signaling i
    have hw : w ∈ s.answerers i := congrArg RtcWorkerPc.answering hpc
    exact ⟨hnodup, hmem, hbacked.notify hw, hconn.notify_of_ne nofun⟩
  · have hw : w ∉ s.answerers j := by
      intro hw
      have hsome : (s.workers w).pc.answering = some i := by rw [hpc]; rfl
      exact hj (Option.some.inj (hsome.symm.trans hw)).symm
    rw [posted_setWorker_of_eq (by rfl), answerers_setWorker_of_ne (by nofun),
      Set.sdiff_singleton_eq_self hw]
    exact h.signaling j

theorem stepWorker (h : DispatchInv env s) (hnumbered : s.Numbered) (w : ℕ) (x : ι) :
    DispatchInv env (s.stepWorker env w x) := by
  rw [RtcSystem.stepWorker]
  split
  · next hpc =>
    split
    · exact h
    · next hread => exact h.workerRead hpc hread
  · next hpc =>
    have hbacked := (h.worker w).backed
    rw [hpc] at hbacked
    split
    · next hpop => exact absurd (pop_eq_none.mp hpop) hbacked.ne_nil
    · next hpop => exact h.workerPop hpc hpop
  · next hpc => apply h.workerIdle <;> rw [hpc] <;> rfl
  · next hpc => exact h.workerExecute hpc x
  · next hpc => exact h.workerPush hnumbered hpc
  · next hpc => exact h.workerNotify hpc

theorem loopEvent (h : DispatchInv env s) (w : ℕ) (e : ε) :
    DispatchInv env (s.loopEvent env w e) := by
  rw [RtcSystem.loopEvent]
  split_ifs
  · obtain ⟨hrouted, hexecuted, hposted, hbacked⟩ := h.worker w
    exact h.setWorker ⟨hrouted, hexecuted, hposted, hbacked⟩ rfl rfl
  · exact h

/-! ### The signaling workers' threads -/

theorem signalingRead (h : DispatchInv env s) (hpc : (s.signaling i).pc = .idle)
    {k : Notification} {inbox : Inbox} (hread : (s.signaling i).inbox.read = some (k, inbox)) :
    DispatchInv env (s.setSignaling i { s.signaling i with inbox, pc := .notified k }) := by
  obtain ⟨hpipe, hqueue, -⟩ := read_eq_some hread
  obtain ⟨hnodup, hmem, hbacked, hconn⟩ := h.signaling i
  rw [hpc, hpipe] at hbacked hconn
  rw [← entered_of_read hread] at hnodup hmem
  rw [← hqueue] at hbacked
  refine h.setSignaling ⟨hnodup, hmem, ?_, ?_⟩ (by rw [hpc]; rfl)
  · rw [SignalingPc.reading]
    split_ifs with hk
    · rw [hk] at hbacked
      exact hbacked.read
    · exact hbacked.read_of_ne hk
  · rw [SignalingPc.reading]
    split_ifs with hk
    · rw [hk] at hconn
      exact hconn.read
    · exact hconn.read_of_ne hk

theorem signalingPop (h : DispatchInv env s) (hpc : (s.signaling i).pc = .notified .rtcMsg)
    {inbox : Inbox} (hpop : (s.signaling i).inbox.pop = some (m, inbox)) :
    DispatchInv env (s.setSignaling i { s.signaling i with inbox, pc := .popped m }) := by
  obtain ⟨hqueue, hpipe, -⟩ := pop_eq_some hpop
  obtain ⟨hnodup, hmem, hbacked, hconn⟩ := h.signaling i
  rw [hpc] at hbacked hconn
  rw [← entered_of_pop hpop] at hnodup hmem
  rw [← hpipe] at hbacked hconn
  rw [hqueue] at hbacked
  exact h.setSignaling ⟨hnodup, hmem, hbacked.pop, hconn⟩ (by rw [hpc]; rfl)

theorem signalingConn (h : DispatchInv env s) (hpc : (s.signaling i).pc = .notified .newConn) :
    DispatchInv env (s.setSignaling i
      { s.signaling i with qConn := (s.signaling i).qConn.tail, pc := .idle }) := by
  obtain ⟨hnodup, hmem, hbacked, hconn⟩ := h.signaling i
  rw [hpc] at hbacked hconn
  obtain ⟨fd, qConn, hqConn⟩ := List.exists_cons_of_ne_nil hconn.ne_nil
  rw [hqConn] at hconn ⊢
  exact h.setSignaling ⟨hnodup, hmem, hbacked, hconn.pop⟩ (by rw [hpc]; rfl)

theorem signalingNotify (h : DispatchInv env s) (hpc : (s.signaling i).pc = .pushed m) :
    DispatchInv env { s.setSignaling i { s.signaling i with pc := .idle } with
      server := s.server.notify .rtcMsg } := by
  obtain ⟨hnodup, hmem, hbacked, hconn⟩ := h.signaling i
  rw [hpc] at hbacked hconn
  have hi : i ∈ s.requesters := congrArg SignalingPc.requesting hpc
  refine ⟨h.offers, ?_, h.worker, ?_⟩
  · have hserver := h.backed.notify hi
    rw [← requesters_setSignaling_of_ne (t := { s.signaling i with pc := .idle }) rfl] at hserver
    exact hserver
  · exact forall_setSignaling (P := fun j ↦ SignalingInv s.sender s.posted (s.answerers j)
      s.acceptor j) ⟨hnodup, hmem, hbacked, hconn⟩ fun j _ ↦ h.signaling j

theorem signalingIdle (h : DispatchInv env s) (hpc : (s.signaling i).pc = .popped m) :
    DispatchInv env (s.setSignaling i { s.signaling i with pc := .idle }) := by
  obtain ⟨hnodup, hmem, hbacked, hconn⟩ := h.signaling i
  rw [hpc] at hbacked hconn
  exact h.setSignaling ⟨hnodup, hmem, hbacked, hconn⟩ (by rw [hpc]; rfl)

theorem stepSignaling (h : DispatchInv env s) (i : ℕ) : DispatchInv env (s.stepSignaling i) := by
  rw [RtcSystem.stepSignaling]
  split
  · next hpc =>
    split
    · exact h
    · next hread => exact h.signalingRead hpc hread
  · next hpc => exact h.signalingNotify hpc
  · next hpc => exact h.signalingConn hpc
  · next hpc =>
    have hbacked := (h.signaling i).backed
    rw [hpc] at hbacked
    split
    · next hpop => exact absurd (pop_eq_none.mp hpop) hbacked.ne_nil
    · next hpop => exact h.signalingPop hpc hpop
  · next hpc => exact h.signalingIdle hpc

/-- A new message gets a number that no thread has seen. -/
theorem request (h : DispatchInv env s) (hnumbered : s.Numbered) (i : ℕ) (msg : RtcMsg) :
    DispatchInv env (s.request i msg) := by
  rw [RtcSystem.request]
  by_cases hrequest : (s.signaling i).pc = .idle ∧ msg.isCommand = true
  swap
  · rw [if_neg hrequest]
    exact h
  rw [if_pos hrequest]
  have hpc := hrequest.1
  obtain ⟨hnodup, hmem, hbacked, hconn⟩ := h.signaling i
  rw [hpc] at hbacked hconn
  have hi : i ∉ s.requesters := by
    intro hi
    cases (congrArg SignalingPc.requesting hpc).symm.trans hi
  have hold {m : ℕ} (x : QueuedMsg) (hm : m ∈ s.server.entered) :
      (s.messages.alloc x).cell m = s.messages.cell m :=
    Arena.cell_alloc_of_ne (hnumbered.lt_next hm).ne
  refine ⟨?_, ?_, ?_, ?_⟩
  · intro m hm hoffer
    rcases Nat.lt_succ_iff_lt_or_eq.mp hm with hlt | rfl
    · have hcell (x : QueuedMsg) : (s.messages.alloc x).cell m = s.messages.cell m :=
        Arena.cell_alloc_of_ne hlt.ne
      rw [RtcSystem.offer, RtcSystem.msg, hcell] at hoffer
      rw [RtcSystem.msg, RtcSystem.sender, RtcSystem.msg, hcell]
      exact h.offers m hlt hoffer
    · rw [RtcSystem.offer, RtcSystem.msg, Arena.cell_alloc_next] at hoffer
      rw [RtcSystem.msg, RtcSystem.sender, RtcSystem.msg, Arena.cell_alloc_next]
      exact if_pos hoffer
  · have hserver := h.backed.push hi s.messages.next
    rw [← requesters_setSignaling_of_eq (t := { s.signaling i with pc := .pushed s.messages.next })
      rfl] at hserver
    exact hserver
  · intro w
    refine (h.worker w).congr hnumbered.held (fun m hm ↦ ?_) fun m hm ↦ ?_
    · exact congrArg (fun msg : QueuedMsg ↦ env.workerIndex msg.streamName)
        (hold _ (List.mem_append_left _ hm))
    · exact congrArg (fun msg : QueuedMsg ↦ msg.isOffer) (hold _ (List.mem_append_left _ hm))
  · refine forall_setSignaling (P := fun j ↦ SignalingInv _ s.posted (s.answerers j)
      s.acceptor j) ?_ fun j _ ↦ ?_
    · refine SignalingInv.congr ⟨hnodup, hmem, hbacked, hconn⟩ fun m hm ↦ ?_
      exact congrArg QueuedMsg.sender (hold _ (h.mem_entered_of_posted hm))
    · refine (h.signaling j).congr fun m hm ↦ ?_
      exact congrArg QueuedMsg.sender (hold _ (h.mem_entered_of_posted hm))

/-! ### The thread that accepts -/

/-- A signaling worker moves, and the accepting thread takes note of it. -/
theorem setAcceptor (h : DispatchInv env s)
    (ht : SignalingInv s.sender s.posted (s.answerers i) acceptor i t)
    (hother : ∀ j ≠ i, SignalingInv s.sender s.posted (s.answerers j) acceptor j (s.signaling j))
    (hpc : t.pc = (s.signaling i).pc) :
    DispatchInv env { s.setSignaling i t with acceptor } := by
  refine ⟨h.offers, ?_, h.worker, ?_⟩
  · have hbacked := h.backed
    rw [← requesters_setSignaling (t := t) (congrArg SignalingPc.requesting hpc)] at hbacked
    exact hbacked
  · exact forall_setSignaling (P := fun j ↦ SignalingInv s.sender s.posted (s.answerers j)
      acceptor j) ht hother

theorem accept (h : DispatchInv env s) (i fd : ℕ) : DispatchInv env (s.accept i fd) := by
  rw [RtcSystem.accept]
  rcases hacceptor : s.acceptor with _ | j
  swap
  · exact h
  have hsignaling := h.signaling
  rw [hacceptor] at hsignaling
  obtain ⟨hnodup, hmem, hbacked, hconn⟩ := hsignaling i
  refine h.setAcceptor ⟨hnodup, hmem, hbacked, hconn.push_one (by simp) rfl fd⟩ (fun j hj ↦ ?_) rfl
  obtain ⟨hnodup, hmem, hbacked, hconn⟩ := hsignaling j
  refine ⟨hnodup, hmem, hbacked, hconn.congr_one (iff_of_false (by simp) fun heq ↦ ?_)⟩
  exact hj (Option.some.inj heq).symm

theorem stepAcceptor (h : DispatchInv env s) : DispatchInv env s.stepAcceptor := by
  rw [RtcSystem.stepAcceptor]
  rcases hacceptor : s.acceptor with _ | i
  · exact h
  have hsignaling := h.signaling
  rw [hacceptor] at hsignaling
  obtain ⟨hnodup, hmem, hbacked, hconn⟩ := hsignaling i
  refine h.setAcceptor
    ⟨hnodup, hmem, hbacked.notify_of_ne (by simp), hconn.notify_one rfl (by simp)⟩
    (fun j hj ↦ ?_) rfl
  obtain ⟨hnodup, hmem, hbacked, hconn⟩ := hsignaling j
  refine ⟨hnodup, hmem, hbacked, hconn.congr_one (iff_of_false (fun heq ↦ ?_) (by simp))⟩
  exact hj (Option.some.inj heq).symm

/-! ### Runs -/

theorem step (h : DispatchInv env s) (hnumbered : s.Numbered) (hready : env.Ready)
    (havailable : env.Available) (e : RtcEvent ι ε) : DispatchInv env (s.step env e) := by
  cases e with
  | request i msg => exact h.request hnumbered i msg
  | accept i fd => exact h.accept i fd
  | acceptor => exact h.stepAcceptor
  | signaling i => exact h.stepSignaling i
  | server => exact h.stepServer hready havailable
  | worker w x => exact h.stepWorker hnumbered w x
  | loop w e => exact h.loopEvent w e
  | clock seconds => exact ⟨h.offers, h.backed, h.worker, h.signaling⟩

end DispatchInv

theorem dispatchInv_init (env : RtcServerEnv σ ι ε) (streams : σ) (now : ℕ) :
    DispatchInv env (init env streams now) := by
  have hempty : DispatchInv env { now, workers := fun _ ↦ { streams } : RtcSystem σ } := by
    refine ⟨fun m hm ↦ absurd hm (Nat.not_lt_zero m), ?_, fun w ↦ ?_,
      fun i ↦ ?_⟩
    · exact Backed.empty _ fun i hi ↦ Bool.false_ne_true hi
    · exact ⟨rfl, rfl, rfl, Backed.empty _ fun _ ↦ nofun⟩
    · have hposted : ∀ m, m ∉ ({ now, workers := fun _ ↦ { streams } : RtcSystem σ }).posted := by
        rintro m ⟨w, hm⟩
        exact List.not_mem_nil hm
      exact ⟨List.nodup_nil, fun m ↦ iff_of_false List.not_mem_nil fun hm ↦ hposted m hm.2,
        Backed.empty _ fun _ ↦ nofun, Backed.empty _ fun _ ↦ nofun⟩
  obtain ⟨certificates, certificate, generations, hcheck⟩ :=
    exists_generateAndCheckCertificate env { now, workers := fun _ ↦ { streams } : RtcSystem σ }
  rw [init, hcheck]
  exact hempty.setCertificates certificates certificate generations

theorem dispatchInv_run (hready : env.Ready) (havailable : env.Available) (streams : σ) (now : ℕ)
    (es : List (RtcEvent ι ε)) : DispatchInv env (run env streams now es) :=
  (exec_invariant (I := fun s ↦ s.Numbered ∧ DispatchInv env s)
    (fun _ e h ↦ ⟨h.1.step env e, h.2.step h.1 hready havailable e⟩)
    ⟨numbered_init env streams now, dispatchInv_init env streams now⟩ es).2

end RtcSystem

end XrtcServer
