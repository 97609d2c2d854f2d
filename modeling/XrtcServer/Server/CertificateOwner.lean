import XrtcServer.Server.Numbering
import XrtcServer.Stream.LocalCertificate
import XrtcServer.Stream.Registration

/-!
# Who owns the certificate

The server's thread holds the only counted reference to the certificate. It replaces it when it has
expired, and that destroys the old one, whoever else has a pointer to it: messages on their way to a
worker or back, the peer connections of the workers, their transport controllers and their DTLS
transports.

## One inclusion

Every pointer is a copy of another one, and the first one is written by the server from its own
reference; so as long as the reference is never replaced while a copy is held, every copy points to
the owned certificate. `KeepsPointers` is this inclusion for one step, together with what the
workers have read: whoever follows a pointer had it before. It is reflexive and transitive, so a
step of several assignments is a chain of them, and the streams of a worker come in at one place
only, where a message is carried out.

## The renewal

The step that checks the certificate is the one step that is not such an inclusion. A copy survives
a renewal, as nobody else looks at it (`holds_serverCertify`), and a new certificate is another
object. That gives the exact condition, `RenewsUnused`: the certificate has not expired, or nobody
has a pointer to it.
-/

namespace XrtcServer

open EventRun Mailbox

variable {Ctx σ ι ε : Type}

/-! ## The messages a thread has

A message is a `shared_ptr` that several queues and threads may have at once. It is in flight as
long as one of them has it; a message that nobody has any more is destroyed with its pointer. -/

def ServerPc.inHand : ServerPc → List ℕ
  | .popped m | .certified m | .pushed _ m => [m]
  | _ => []

def RtcWorkerPc.inHand : RtcWorkerPc → List ℕ
  | .popped m | .processed m | .pushed _ m => [m]
  | _ => []

def SignalingPc.inHand : SignalingPc → List ℕ
  | .pushed m | .popped m => [m]
  | _ => []

/-- The messages in the queue of a worker and in its hands. -/
def RtcWorker.messages (worker : RtcWorker σ) : List ℕ := worker.inbox.queue ++ worker.pc.inHand

@[inherit_doc RtcWorker.messages]
def SignalingThread.messages (thread : SignalingThread) : List ℕ :=
  thread.inbox.queue ++ thread.pc.inHand

namespace RtcSystem

/-- Some queue or thread has a `shared_ptr` to the message. -/
def InFlight (s : RtcSystem σ) (m : ℕ) : Prop :=
  m ∈ s.server.queue ++ s.serverPc.inHand ∨ (∃ w, m ∈ (s.workers w).messages) ∨
    ∃ i, m ∈ (s.signaling i).messages

/-- Somebody has the raw pointer `c`: a message in flight, or a peer connection with its transport
controller and its DTLS transports. -/
def Holds (s : RtcSystem (WorkerStreams Ctx)) (c : ℕ) : Prop :=
  (∃ m, s.InFlight m ∧ (s.msg m).certificate = some c) ∨ ∃ w, (s.workers w).streams.Holds c

/-- Every raw pointer is to the certificate that the server owns, and no worker has followed one to
a certificate that was gone. -/
structure CertificatesOwned (s : RtcSystem (WorkerStreams Ctx)) : Prop where
  owned : ∀ c, s.Holds c → s.certificate = some c
  used : ∀ w, ∀ r ∈ (s.workers w).streams.reads, r.2 = true

end RtcSystem

/-- The server whose workers carry streams. -/
def WorkerStreamsEnv.server (streams : WorkerStreamsEnv Ctx) (config : RtcServerConfig) :
    RtcServerEnv (WorkerStreams Ctx) StreamInput StreamsEvent :=
  { config with handlers := WorkerStreams.handlers streams }

namespace RtcSystem

/-! ## Every pointer is a copy

One lemma for each step of each thread, all of the same shape: what is in flight afterwards was in
flight before, or is the message that the thread has just put there. -/

/-- The raw pointers of `s'` are pointers of `s`, and only those were followed. -/
structure KeepsPointers (s s' : RtcSystem (WorkerStreams Ctx)) : Prop where
  certificate : s'.certificate = s.certificate
  certificates : s'.certificates = s.certificates
  holds : ∀ c, s'.Holds c → s.Holds c
  reads : ∀ w, ∀ r ∈ (s'.workers w).streams.reads, r ∈ (s.workers w).streams.reads ∨
    ∃ c, s.Holds c ∧ r = (c, s.certificates.live c)

section
variable {s s' : RtcSystem σ} {w i m : ℕ}

theorem inFlight_server (h : m ∈ s.server.queue ++ s.serverPc.inHand) : s.InFlight m := .inl h

theorem inFlight_worker (h : m ∈ (s.workers w).messages) : s.InFlight m := .inr (.inl ⟨w, h⟩)

theorem inFlight_signaling (h : m ∈ (s.signaling i).messages) : s.InFlight m :=
  .inr (.inr ⟨i, h⟩)

end

variable {streams : WorkerStreamsEnv Ctx} {config : RtcServerConfig}
  {s s' : RtcSystem (WorkerStreams Ctx)} {w i m : ℕ}

theorem KeepsPointers.of_moves (hcertificate : s'.certificate = s.certificate)
    (hcertificates : s'.certificates = s.certificates)
    (hstreams : ∀ w, (s'.workers w).streams = (s.workers w).streams)
    (hmsg : ∀ m c, s'.InFlight m → (s'.msg m).certificate = some c →
      s.InFlight m ∧ (s.msg m).certificate = some c) : KeepsPointers s s' where
  certificate := hcertificate
  certificates := hcertificates
  holds c := by
    rintro (⟨m, hm, hc⟩ | ⟨w, hc⟩)
    · exact .inl ⟨m, hmsg m c hm hc⟩
    · rw [hstreams] at hc
      exact .inr ⟨w, hc⟩
  reads w r hr := by
    rw [hstreams] at hr
    exact .inl hr

theorem KeepsPointers.refl (s : RtcSystem (WorkerStreams Ctx)) : KeepsPointers s s :=
  ⟨rfl, rfl, fun _ h ↦ h, fun _ _ h ↦ .inl h⟩

theorem KeepsPointers.trans {s'' : RtcSystem (WorkerStreams Ctx)} (h : KeepsPointers s s')
    (h' : KeepsPointers s' s'') : KeepsPointers s s'' where
  certificate := h'.certificate.trans h.certificate
  certificates := h'.certificates.trans h.certificates
  holds c hc := h.holds c (h'.holds c hc)
  reads w r hr := by
    rcases h'.reads w r hr with hr | ⟨c, hc, hr⟩
    · exact h.reads w r hr
    · rw [h.certificates] at hr
      exact .inr ⟨c, h.holds c hc, hr⟩

/-! ### Moves of one thread -/

theorem keepsPointers_setServer {server : Inbox} {pc : ServerPc}
    (h : ∀ m ∈ server.queue ++ pc.inHand, s.InFlight m) :
    KeepsPointers s (s.setServer server pc) := by
  refine .of_moves rfl rfl (fun _ ↦ rfl) fun m c hm hc ↦ ⟨?_, hc⟩
  rcases hm with hm | hm
  · exact h m hm
  · exact .inr hm

theorem keepsPointers_setSignaling {thread : SignalingThread}
    (h : ∀ m ∈ thread.messages, s.InFlight m) : KeepsPointers s (s.setSignaling i thread) := by
  refine .of_moves rfl rfl (fun _ ↦ rfl) fun m c hm hc ↦ ⟨?_, hc⟩
  rcases hm with hm | hm | ⟨j, hm⟩
  · exact .inl hm
  · exact .inr (.inl hm)
  · revert j
    exact forall_setSignaling (P := fun _ thread ↦ m ∈ thread.messages → s.InFlight m) (h m)
      fun _ _ ↦ inFlight_signaling

theorem keepsPointers_setWorker {worker : RtcWorker (WorkerStreams Ctx)}
    (hstreams : (s.workers w).streams.CopiesFrom s.certificates s.Holds worker.streams)
    (h : ∀ m ∈ worker.messages, s.InFlight m) : KeepsPointers s (s.setWorker w worker) where
  certificate := rfl
  certificates := rfl
  holds c := by
    rintro (⟨m, hm, hc⟩ | ⟨w', hc⟩)
    · refine .inl ⟨m, ?_, hc⟩
      rcases hm with hm | ⟨w', hm⟩ | hm
      · exact .inl hm
      · revert w'
        exact forall_setWorker (P := fun _ worker ↦ m ∈ worker.messages → s.InFlight m) (h m)
          fun _ _ ↦ inFlight_worker
      · exact .inr (.inr hm)
    · revert w'
      refine forall_setWorker (P := fun _ (worker : RtcWorker (WorkerStreams Ctx)) ↦
        worker.streams.Holds c → s.Holds c) ?_ ?_
      · intro hc
        exact (hstreams.holds c hc).elim (fun hold ↦ .inr ⟨w, hold⟩) id
      · exact fun w' _ hc ↦ .inr ⟨w', hc⟩
  reads := by
    refine forall_setWorker (P := fun w' (worker : RtcWorker (WorkerStreams Ctx)) ↦
      ∀ r ∈ worker.streams.reads,
        r ∈ (s.workers w').streams.reads ∨ ∃ c, s.Holds c ∧ r = (c, s.certificates.live c)) ?_ ?_
    · intro r hr
      rcases hstreams.reads r hr with hr | ⟨c, hc, hr⟩
      · exact .inl hr
      · exact .inr ⟨c, hc.elim (fun hold ↦ .inr ⟨w, hold⟩) id, hr⟩
    · exact fun w' _ r hr ↦ .inl hr

theorem keepsPointers_setWorker_of_eq {worker : RtcWorker (WorkerStreams Ctx)}
    (hstreams : worker.streams = (s.workers w).streams)
    (h : ∀ m ∈ worker.messages, s.InFlight m) : KeepsPointers s (s.setWorker w worker) :=
  keepsPointers_setWorker (.of_eq (by rw [hstreams]) (by rw [hstreams])) h

theorem keepsPointers_modifyMsg {f : QueuedMsg → QueuedMsg}
    (hf : ∀ msg, (f msg).certificate = msg.certificate) : KeepsPointers s (s.modifyMsg m f) := by
  refine .of_moves rfl rfl (fun _ ↦ rfl) fun m' c hm hc ↦ ⟨hm, ?_⟩
  rw [msg, modifyMsg, Arena.proj_cell_modify (p := QueuedMsg.certificate) hf] at hc
  exact hc

theorem mem_of_pop {inbox inbox' : Inbox} {m m' : ℕ} {held : List ℕ}
    (hpop : inbox.pop = some (m, inbox')) (h : m' ∈ inbox'.queue ++ [m]) :
    m' ∈ inbox.queue ++ held := by
  obtain ⟨hqueue, -, -⟩ := pop_eq_some hpop
  rw [hqueue]
  refine List.mem_append_left _ ?_
  rcases List.mem_append.mp h with h | h
  · exact List.mem_cons_of_mem _ h
  · rw [List.mem_singleton.mp h]
    exact List.mem_cons_self

theorem mem_of_push {queue held : List ℕ} {m m' : ℕ} (h : m' ∈ (queue ++ [m]) ++ held) :
    m' = m ∨ m' ∈ queue ++ held := by
  rw [List.append_assoc, List.mem_append, List.singleton_append, List.mem_cons] at h
  rw [List.mem_append]
  exact or_left_comm.mp h

theorem mem_of_queue {queue queue' held : List ℕ} {m : ℕ} (hqueue : queue' = queue)
    (h : m ∈ queue' ++ []) : m ∈ queue ++ held := by
  rw [List.append_nil, hqueue] at h
  exact List.mem_append_left _ h

/-! ### The steps -/

theorem keepsPointers_stepServer (h : ∀ m, s.serverPc ≠ .popped m) :
    KeepsPointers s (s.stepServer (streams.server config)) := by
  rw [stepServer]
  split
  · split
    · exact .refl s
    · next hread =>
      exact keepsPointers_setServer fun m hm ↦
        inFlight_server (mem_of_queue (read_eq_some hread).2.1 hm)
  · split
    · exact keepsPointers_setServer fun m hm ↦ inFlight_server (mem_of_queue rfl hm)
    · next hpop =>
      exact keepsPointers_setServer fun m hm ↦ inFlight_server (mem_of_pop hpop hm)
  · exact keepsPointers_setServer fun m hm ↦ inFlight_server (mem_of_queue rfl hm)
  · next m hpc => exact absurd hpc (h m)
  · next m hpc =>
    have hm : s.InFlight m := by
      refine inFlight_server (List.mem_append_right _ ?_)
      rw [hpc]
      exact List.mem_singleton_self m
    rw [serverPush]
    split
    · exact keepsPointers_setServer fun m hm ↦ inFlight_server (mem_of_queue rfl hm)
    · next w _ =>
      have hpush : KeepsPointers s
          (s.setWorker w { s.workers w with inbox := (s.workers w).inbox.push m }) := by
        refine keepsPointers_setWorker_of_eq rfl fun m' hm' ↦ ?_
        rcases mem_of_push hm' with rfl | hm'
        · exact hm
        · exact inFlight_worker hm'
      refine hpush.trans (keepsPointers_setServer fun m' hm' ↦ inFlight_server ?_)
      change _ ∈ s.server.queue ++ s.serverPc.inHand
      rw [hpc]
      exact hm'
  · next w m _ =>
    have hnotify : KeepsPointers s
        (s.setWorker w { s.workers w with inbox := (s.workers w).inbox.notify .rtcMsg }) :=
      keepsPointers_setWorker_of_eq rfl fun _ ↦ inFlight_worker
    exact hnotify.trans (keepsPointers_setServer fun m hm ↦ inFlight_server (mem_of_queue rfl hm))

/-- **A message gives its pointer to the streams of the worker.** -/
theorem keepsPointers_workerExecute (hpc : (s.workers w).pc = .popped m) (x : StreamInput) :
    KeepsPointers s (s.workerExecute (streams.server config) w x m) := by
  have hm : s.InFlight m := by
    refine inFlight_worker (w := w) (List.mem_append_right _ ?_)
    rw [hpc]
    exact List.mem_singleton_self m
  have hstreams : (s.workers w).streams.CopiesFrom s.certificates s.Holds
      ((streams.server config).handlers.processRtcMsg s.certificates x (s.workers w).streams
        (s.msg m)).1 :=
    (WorkerStreams.copiesFrom_processRtcMsg x (s.msg m)).mono fun c hc ↦ .inl ⟨m, hm, hc⟩
  rw [workerExecute]
  generalize (streams.server config).handlers.processRtcMsg s.certificates x (s.workers w).streams
    (s.msg m) = result at hstreams ⊢
  obtain ⟨streams', _ | ⟨offer, ret⟩⟩ := result
  · exact keepsPointers_setWorker hstreams fun m hm ↦ inFlight_worker (mem_of_queue rfl hm)
  · have hexecute : KeepsPointers s (s.setWorker w { s.workers w with
        streams := streams', executed := (s.workers w).executed ++ [m], pc := .processed m }) := by
      refine keepsPointers_setWorker hstreams fun m' hm' ↦ inFlight_worker (w := w) ?_
      change _ ∈ (s.workers w).inbox.queue ++ (s.workers w).pc.inHand
      rw [hpc]
      exact hm'
    exact hexecute.trans
      (keepsPointers_modifyMsg (f := fun msg : QueuedMsg ↦ msg.answer offer ret) fun _ ↦ rfl)

theorem keepsPointers_stepWorker (w : ℕ) (x : StreamInput) :
    KeepsPointers s (s.stepWorker (streams.server config) w x) := by
  rw [stepWorker]
  split
  · split
    · exact .refl s
    · next hread =>
      exact keepsPointers_setWorker_of_eq rfl fun m hm ↦
        inFlight_worker (mem_of_queue (read_eq_some hread).2.1 hm)
  · split
    · exact keepsPointers_setWorker_of_eq rfl fun m hm ↦ inFlight_worker (mem_of_queue rfl hm)
    · next hpop =>
      exact keepsPointers_setWorker_of_eq rfl fun m hm ↦ inFlight_worker (mem_of_pop hpop hm)
  · exact keepsPointers_setWorker_of_eq rfl fun m hm ↦ inFlight_worker (mem_of_queue rfl hm)
  · next hpc => exact keepsPointers_workerExecute hpc x
  · next m hpc =>
    have hm : m ∈ (s.workers w).messages := by
      refine List.mem_append_right _ ?_
      rw [hpc]
      exact List.mem_singleton_self m
    rw [workerPush]
    dsimp only
    split
    · exact keepsPointers_setWorker_of_eq rfl fun m hm ↦ inFlight_worker (mem_of_queue rfl hm)
    · next i _ =>
      have hpush : KeepsPointers s
          (s.setSignaling i { s.signaling i with inbox := (s.signaling i).inbox.push m }) :=
        keepsPointers_setSignaling fun m' hm' ↦ (mem_of_push hm').elim
          (fun h ↦ by rw [h]; exact inFlight_worker hm) inFlight_signaling
      refine hpush.trans (keepsPointers_setWorker_of_eq rfl fun m' hm' ↦ ?_)
      refine inFlight_worker (w := w) ?_
      change _ ∈ (s.workers w).inbox.queue ++ (s.workers w).pc.inHand
      rw [hpc]
      exact hm'
  · next i m _ =>
    have hnotify : KeepsPointers s
        (s.setSignaling i { s.signaling i with inbox := (s.signaling i).inbox.notify .rtcMsg }) :=
      keepsPointers_setSignaling fun _ ↦ inFlight_signaling
    exact hnotify.trans
      (keepsPointers_setWorker_of_eq rfl fun m hm ↦ inFlight_worker (mem_of_queue rfl hm))

theorem keepsPointers_stepSignaling (i : ℕ) : KeepsPointers s (s.stepSignaling i) := by
  rw [stepSignaling]
  split
  · split
    · exact .refl s
    · next hread =>
      exact keepsPointers_setSignaling fun m hm ↦
        inFlight_signaling (mem_of_queue (read_eq_some hread).2.1 hm)
  · have hnotify : KeepsPointers s (s.setServer (s.server.notify .rtcMsg) s.serverPc) :=
      keepsPointers_setServer fun _ ↦ inFlight_server
    exact hnotify.trans
      (keepsPointers_setSignaling fun m hm ↦ inFlight_signaling (mem_of_queue rfl hm))
  · exact keepsPointers_setSignaling fun m hm ↦ inFlight_signaling (mem_of_queue rfl hm)
  · split
    · exact keepsPointers_setSignaling fun m hm ↦ inFlight_signaling (mem_of_queue rfl hm)
    · next hpop =>
      exact keepsPointers_setSignaling fun m hm ↦ inFlight_signaling (mem_of_pop hpop hm)
  · exact keepsPointers_setSignaling fun m hm ↦ inFlight_signaling (mem_of_queue rfl hm)

theorem keepsPointers_request (i : ℕ) (msg : RtcMsg) : KeepsPointers s (s.request i msg) := by
  rw [request]
  split
  · refine .of_moves rfl rfl (fun _ ↦ rfl) fun m c hm hc ↦ ?_
    by_cases hnew : m = s.messages.next
    · rw [hnew, RtcSystem.msg, Arena.cell_alloc_next] at hc
      cases hc
    · rw [RtcSystem.msg, Arena.cell_alloc_of_ne hnew] at hc
      refine ⟨?_, hc⟩
      rcases hm with hm | hm | ⟨j, hm⟩
      · exact inFlight_server ((mem_of_push hm).resolve_left hnew)
      · exact .inr (.inl hm)
      · revert j
        refine forall_setSignaling (P := fun _ thread ↦ m ∈ thread.messages → s.InFlight m) ?_
          fun _ _ ↦ inFlight_signaling
        intro hm
        refine inFlight_signaling (i := i) (List.mem_append_left _ ?_)
        exact (List.mem_append.mp hm).resolve_right fun h ↦ hnew (List.mem_singleton.mp h)
  · exact .refl s

theorem keepsPointers_accept (i fd : ℕ) : KeepsPointers s (s.accept i fd) := by
  rw [accept]
  split
  · have hconn : KeepsPointers s
        (s.setSignaling i { s.signaling i with qConn := (s.signaling i).qConn ++ [fd] }) :=
      keepsPointers_setSignaling fun _ ↦ inFlight_signaling
    exact ⟨hconn.certificate, hconn.certificates, hconn.holds, hconn.reads⟩
  · exact .refl s

theorem keepsPointers_stepAcceptor : KeepsPointers s s.stepAcceptor := by
  rw [stepAcceptor]
  split
  · exact .refl s
  · next i _ =>
    have hnotify : KeepsPointers s
        (s.setSignaling i { s.signaling i with inbox := (s.signaling i).inbox.notify .newConn }) :=
      keepsPointers_setSignaling fun _ ↦ inFlight_signaling
    exact ⟨hnotify.certificate, hnotify.certificates, hnotify.holds, hnotify.reads⟩

theorem keepsPointers_loopEvent (w : ℕ) (e : StreamsEvent) :
    KeepsPointers s (s.loopEvent (streams.server config) w e) := by
  rw [loopEvent]
  split
  · exact keepsPointers_setWorker (WorkerStreams.copiesFrom_onEvent e) fun _ ↦ inFlight_worker
  · exact .refl s

/-- **Only the server's check of the certificate brings in a pointer.** -/
theorem keepsPointers_step {e : RtcEvent StreamInput StreamsEvent}
    (h : e = .server → ∀ m, s.serverPc ≠ .popped m) :
    KeepsPointers s (s.step (streams.server config) e) := by
  cases e with
  | request i msg => exact keepsPointers_request i msg
  | accept i fd => exact keepsPointers_accept i fd
  | acceptor => exact keepsPointers_stepAcceptor
  | signaling i => exact keepsPointers_stepSignaling i
  | server => exact keepsPointers_stepServer (h rfl)
  | worker w x => exact keepsPointers_stepWorker w x
  | loop w e => exact keepsPointers_loopEvent w e
  | clock seconds => exact .of_moves rfl rfl (fun _ ↦ rfl) fun _ _ hm hc ↦ ⟨hm, hc⟩

/-! ## The renewal

`_generate_and_check_certificate` may make a new certificate, fail to make one, or find that the old
one is still good. `Checked` is what the three have in common, and which objects there are
afterwards. -/

/-- The certificates after the check: the old ones, or a new object in the place of the old. -/
structure Checked {σ : Type} (s : RtcSystem σ) (certificates : Arena Certificate)
    (certificate : Option ℕ) : Prop where
  kept : s.certificateExpired = false → certificate = s.certificate
  renewed : s.certificateExpired = true → ∀ c, s.certificate = some c →
    s.certificates.live c = true → certificate ≠ some c
  live : (∀ c, s.certificate = some c → s.certificates.live c = true) →
    ∀ c, certificate = some c → certificates.live c = true

theorem exists_renewCertificate (env : RtcServerEnv σ ι ε) (s : RtcSystem σ)
    (hexpired : s.certificateExpired = true) :
    ∃ certificates certificate generations,
      s.renewCertificate env = { s with certificates, certificate, generations } ∧
        s.Checked certificates certificate := by
  have hkept {P : Prop} (h : s.certificateExpired = false) : P := by
    rw [hexpired] at h
    cases h
  rw [renewCertificate]
  split
  · exact ⟨_, _, _, rfl, hkept, by simp, by simp⟩
  · refine ⟨_, _, _, rfl, hkept, fun _ c _ hlive hnew ↦ ?_, fun hlive c hnew ↦ ?_⟩
    · exact Arena.ne_next_of_live hlive (Option.some.inj hnew).symm
    · obtain rfl := Option.some.inj hnew
      rcases hold : s.certificate with _ | old
      · exact Arena.live_alloc_next
      · change ((s.certificates.alloc _).free old).live s.certificates.next = true
        rw [Arena.live_free_of_ne (Arena.ne_next_of_live (hlive old hold)).symm]
        exact Arena.live_alloc_next

theorem exists_check (env : RtcServerEnv σ ι ε) (s : RtcSystem σ) :
    ∃ certificates certificate generations,
      s.generateAndCheckCertificate env =
          ({ s with certificates, certificate, generations },
            if certificate.isNone then -1 else 0) ∧
        s.Checked certificates certificate := by
  have hcheck : ∃ certificates certificate generations,
      (if s.certificateExpired then s.renewCertificate env else s) =
        { s with certificates, certificate, generations } ∧
          s.Checked certificates certificate := by
    split_ifs with hexpired
    · exact s.exists_renewCertificate env hexpired
    · exact ⟨_, _, _, rfl, fun _ ↦ rfl, fun h ↦ absurd h hexpired, fun h ↦ h⟩
  obtain ⟨certificates, certificate, generations, heq, hchecked⟩ := hcheck
  refine ⟨certificates, certificate, generations, ?_, hchecked⟩
  rw [generateAndCheckCertificate, heq]
  dsimp only
  split_ifs <;> rfl

/-- The second part of `_process_rtc_msg`: without a certificate the message is dropped. -/
theorem exists_serverCertify (env : RtcServerEnv σ ι ε) (s : RtcSystem σ) (m : ℕ) :
    ∃ certificates certificate generations, s.Checked certificates certificate ∧
      (certificate = none ∧
          s.serverCertify env m =
            { s with certificates, certificate, generations, serverPc := .idle } ∨
        s.serverCertify env m =
          { s.modifyMsg m (fun msg ↦ { msg with certificate }) with
            certificates, certificate, generations, serverPc := .certified m }) := by
  obtain ⟨certificates, certificate, generations, heq, hchecked⟩ := s.exists_check env
  refine ⟨certificates, certificate, generations, hchecked, ?_⟩
  rw [serverCertify, heq]
  rcases certificate with _ | c
  · exact .inl ⟨rfl, rfl⟩
  · exact .inr rfl

/-- What the server relies on between its steps: its certificate exists, and the messages it has not
looked at have none. -/
structure CertificateInv (s : RtcSystem σ) : Prop where
  numbered : s.Numbered
  live : ∀ c, s.certificate = some c → s.certificates.live c = true
  queued : ∀ m ∈ s.server.queue, (s.msg m).certificate = none
  popped : ∀ m, s.serverPc = .popped m → (s.msg m).certificate = none

/-- A pointer that is held after the check was held before, or it is the server's own. -/
theorem holds_of_serverCertify {senv : RtcServerEnv (WorkerStreams Ctx) StreamInput StreamsEvent}
    {c : ℕ} (h : (s.serverCertify senv m).Holds c) :
    s.Holds c ∨ (s.serverCertify senv m).certificate = some c := by
  obtain ⟨certificates, certificate, generations, -, ⟨-, heq⟩ | heq⟩ :=
    s.exists_serverCertify senv m
  · rw [heq] at h
    rcases h with ⟨m', hm | hm, hc⟩ | h
    · exact .inl (.inl ⟨m', inFlight_server (mem_of_queue rfl hm), hc⟩)
    · exact .inl (.inl ⟨m', .inr hm, hc⟩)
    · exact .inl (.inr h)
  · rw [heq] at h ⊢
    rcases h with ⟨m', hm, hc⟩ | h
    · change ((s.modifyMsg m fun msg ↦ { msg with certificate }).msg m').certificate = _ at hc
      by_cases hm' : m' = m
      · rw [hm', msg, modifyMsg, Arena.cell_modify_self] at hc
        exact .inr hc
      · rw [msg, modifyMsg, Arena.cell_modify_of_ne hm'] at hc
        refine .inl (.inl ⟨m', ?_, hc⟩)
        rcases hm with hm | hm
        · refine inFlight_server (List.mem_append_left _ ?_)
          exact (List.mem_append.mp hm).resolve_right fun h ↦ hm' (List.mem_singleton.mp h)
        · exact .inr hm
    · exact .inl (.inr h)

/-- Nobody is told that the certificate was replaced. -/
theorem CertificateInv.holds_serverCertify (hinv : s.CertificateInv)
    {senv : RtcServerEnv (WorkerStreams Ctx) StreamInput StreamsEvent}
    (hpc : s.serverPc = .popped m) {c : ℕ} (h : s.Holds c) : (s.serverCertify senv m).Holds c := by
  -- a message with a pointer has left the server
  have hmsg : ∀ m', s.InFlight m' → (s.msg m').certificate = some c →
      m' ≠ m ∧ ((∃ w, m' ∈ (s.workers w).messages) ∨ ∃ i, m' ∈ (s.signaling i).messages) := by
    intro m' hm hc
    have hne : m' ≠ m := by
      rintro rfl
      rw [hinv.popped _ hpc] at hc
      cases hc
    refine ⟨hne, hm.resolve_left fun hserver ↦ ?_⟩
    rw [hpc] at hserver
    rcases List.mem_append.mp hserver with hqueue | hhand
    · rw [hinv.queued m' hqueue] at hc
      cases hc
    · exact hne (List.mem_singleton.mp hhand)
  obtain ⟨certificates, certificate, generations, -, ⟨-, heq⟩ | heq⟩ :=
    s.exists_serverCertify senv m
  · rw [heq]
    rcases h with ⟨m', hm, hc⟩ | h
    · exact .inl ⟨m', .inr (hmsg m' hm hc).2, hc⟩
    · exact .inr h
  · rw [heq]
    rcases h with ⟨m', hm, hc⟩ | h
    · obtain ⟨hne, hm⟩ := hmsg m' hm hc
      refine .inl ⟨m', .inr hm, ?_⟩
      change ((s.modifyMsg m fun msg ↦ { msg with certificate }).msg m').certificate = some c
      rw [msg, modifyMsg, Arena.cell_modify_of_ne hne]
      exact hc
    · exact .inr h

/-! ## The invariant

`CertificateInv` is about the server alone: the object behind its reference exists, and a message
that it has not looked at has no pointer yet. It is kept whatever the workers do. -/

namespace CertificateInv

theorem of_sameFront (h : s.CertificateInv) (hfront : SameFront s s')
    (hkeeps : KeepsPointers s s') : s'.CertificateInv where
  numbered := h.numbered.of_sameFront hfront
  live c hc := by
    rw [hkeeps.certificate] at hc
    rw [hkeeps.certificates]
    exact h.live c hc
  queued m hm := by
    rw [hfront.server] at hm
    rw [hfront.certificate]
    exact h.queued m hm
  popped m hpc := by
    rw [hfront.serverPc] at hpc
    rw [hfront.certificate]
    exact h.popped m hpc

theorem request (h : s.CertificateInv) (i : ℕ) (msg : RtcMsg) :
    (s.request i msg).CertificateInv := by
  refine ⟨h.numbered.request msg, ?_, ?_, ?_⟩
  · rw [RtcSystem.request]
    split <;> exact h.live
  · rw [RtcSystem.request]
    split
    · intro m hm
      rcases List.mem_append.mp hm with hm | hm
      · have hlt := h.numbered.lt_next (List.mem_append_right _ hm)
        rw [RtcSystem.msg, Arena.cell_alloc_of_ne (Nat.ne_of_lt hlt)]
        exact h.queued m hm
      · rw [List.mem_singleton.mp hm, RtcSystem.msg, Arena.cell_alloc_next]
    · exact h.queued
  · rw [RtcSystem.request]
    split
    · intro m hpc
      have hheld := h.numbered.held
      change s.serverPc = _ at hpc
      rw [hpc] at hheld
      have hlt := h.numbered.lt_next
        (List.mem_append_left _ (hheld (List.mem_singleton_self m)))
      rw [RtcSystem.msg, Arena.cell_alloc_of_ne (Nat.ne_of_lt hlt)]
      exact h.popped m hpc
    · exact h.popped

theorem stepSignaling (h : s.CertificateInv) (i : ℕ) : (s.stepSignaling i).CertificateInv := by
  refine ⟨h.numbered.stepSignaling i, ?_, ?_, ?_⟩
  · have hkeeps := s.keepsPointers_stepSignaling i
    rw [hkeeps.certificate, hkeeps.certificates]
    exact h.live
  · rw [RtcSystem.stepSignaling]
    split
    · split <;> exact h.queued
    · exact h.queued
    · exact h.queued
    · split <;> exact h.queued
    · exact h.queued
  · rw [RtcSystem.stepSignaling]
    split
    · split <;> exact h.popped
    · exact h.popped
    · exact h.popped
    · split <;> exact h.popped
    · exact h.popped

theorem stepServer (h : s.CertificateInv)
    (senv : RtcServerEnv (WorkerStreams Ctx) StreamInput StreamsEvent) :
    (s.stepServer senv).CertificateInv := by
  have hnumbered := h.numbered.stepServer senv
  revert hnumbered
  rw [RtcSystem.stepServer]
  split
  · split
    · exact fun _ ↦ h
    · next hread =>
      refine fun hnumbered ↦
        ⟨hnumbered, h.live, fun m hm ↦ h.queued m ?_, fun _ hpc ↦ by cases hpc⟩
      rw [← (read_eq_some hread).2.1]
      exact hm
  · split
    · exact fun hnumbered ↦ ⟨hnumbered, h.live, h.queued, fun _ hpc ↦ by cases hpc⟩
    · next m _ hpop =>
      obtain ⟨hqueue, -, -⟩ := pop_eq_some hpop
      refine fun hnumbered ↦ ⟨hnumbered, h.live, fun m hm ↦ h.queued m ?_, fun m' hm' ↦ ?_⟩
      · rw [hqueue]
        exact List.mem_cons_of_mem _ hm
      · obtain rfl : m = m' := ServerPc.popped.inj hm'
        refine h.queued m ?_
        rw [hqueue]
        exact List.mem_cons_self
  · exact fun hnumbered ↦ ⟨hnumbered, h.live, h.queued, fun _ hpc ↦ by cases hpc⟩
  · next m hpc =>
    obtain ⟨certificates, certificate, generations, hchecked, ⟨-, heq⟩ | heq⟩ :=
      s.exists_serverCertify senv m
    · rw [heq]
      exact fun hnumbered ↦ ⟨hnumbered, hchecked.live h.live, h.queued, fun _ hpc ↦ by cases hpc⟩
    · rw [heq]
      refine fun hnumbered ↦
        ⟨hnumbered, hchecked.live h.live, fun m' hm' ↦ ?_, fun _ hpc ↦ by cases hpc⟩
      -- the message was taken out of the queue
      have hne : m' ≠ m := by
        rintro rfl
        have hheld := h.numbered.held
        rw [hpc] at hheld
        exact (List.nodup_append.mp h.numbered.nodup_entered).2.2 m'
          (hheld (List.mem_singleton_self m')) m' hm' rfl
      change ((s.modifyMsg m fun msg ↦ { msg with certificate }).msg m').certificate = none
      rw [msg, modifyMsg, Arena.cell_modify_of_ne hne]
      exact h.queued m' hm'
  · rw [serverPush]
    split <;> exact fun hnumbered ↦ ⟨hnumbered, h.live, h.queued, fun _ hpc ↦ by cases hpc⟩
  · exact fun hnumbered ↦ ⟨hnumbered, h.live, h.queued, fun _ hpc ↦ by cases hpc⟩

theorem step (h : s.CertificateInv) (e : RtcEvent StreamInput StreamsEvent) :
    (s.step (streams.server config) e).CertificateInv := by
  cases e with
  | request i msg => exact h.request i msg
  | accept i fd => exact h.of_sameFront (sameFront_accept fd) (keepsPointers_accept i fd)
  | acceptor => exact h.of_sameFront sameFront_stepAcceptor keepsPointers_stepAcceptor
  | signaling i => exact h.stepSignaling i
  | server => exact h.stepServer _
  | worker w x => exact h.of_sameFront (sameFront_stepWorker x) (keepsPointers_stepWorker w x)
  | loop w e => exact h.of_sameFront (sameFront_loopEvent e) (keepsPointers_loopEvent w e)
  | clock seconds => exact ⟨h.numbered.step _ _, h.live, h.queued, h.popped⟩

end CertificateInv

theorem certificateInv_init
    (senv : RtcServerEnv (WorkerStreams Ctx) StreamInput StreamsEvent) (now : ℕ) :
    (init senv {} now).CertificateInv := by
  have hnumbered := numbered_init senv {} now
  revert hnumbered
  obtain ⟨certificates, certificate, generations, heq, hchecked⟩ :=
    exists_check senv { now, workers := fun _ ↦ { streams := {} } }
  rw [init, heq]
  exact fun hnumbered ↦ ⟨hnumbered, hchecked.live (by simp), by simp, by simp⟩

/-! ## The exact condition

A step that is no renewal keeps every pointer owned, since it brings in no pointer but the server's
own. A renewal keeps them owned if there is none, and only then, because nobody is told. -/

/-- When the server renews its certificate, nobody has a pointer to the one it replaces. -/
def RenewsUnused (s : RtcSystem (WorkerStreams Ctx)) (e : RtcEvent StreamInput StreamsEvent) :
    Prop :=
  ∀ m, e = .server → s.serverPc = .popped m → s.certificateExpired = true →
    ∀ c, s.certificate = some c → ¬s.Holds c

theorem CertificatesOwned.of_keepsPointers (h : s.CertificatesOwned) (hinv : s.CertificateInv)
    (hkeeps : KeepsPointers s s') : s'.CertificatesOwned where
  owned c hc := by
    rw [hkeeps.certificate]
    exact h.owned c (hkeeps.holds c hc)
  used w r hr := by
    rcases hkeeps.reads w r hr with hr | ⟨c, hc, rfl⟩
    · exact h.used w r hr
    · exact hinv.live c (h.owned c hc)

theorem reads_serverCertify (senv : RtcServerEnv (WorkerStreams Ctx) StreamInput StreamsEvent) :
    (s.serverCertify senv m).workers = s.workers := by
  obtain ⟨certificates, certificate, generations, -, ⟨-, heq⟩ | heq⟩ :=
    s.exists_serverCertify senv m
  · rw [heq]
  · rw [heq]
    rfl

theorem certificatesOwned_serverCertify_iff (hinv : s.CertificateInv) (h : s.CertificatesOwned)
    {senv : RtcServerEnv (WorkerStreams Ctx) StreamInput StreamsEvent}
    (hpc : s.serverPc = .popped m) :
    (s.serverCertify senv m).CertificatesOwned ↔
      (s.certificateExpired = true → ∀ c, s.certificate = some c → ¬s.Holds c) := by
  have hcertificate : (s.certificateExpired = false →
        (s.serverCertify senv m).certificate = s.certificate) ∧
      (s.certificateExpired = true → ∀ c, s.certificate = some c →
        s.certificates.live c = true → (s.serverCertify senv m).certificate ≠ some c) := by
    obtain ⟨certificates, certificate, generations, hchecked, ⟨-, heq⟩ | heq⟩ :=
      s.exists_serverCertify senv m
    · rw [heq]
      exact ⟨hchecked.kept, hchecked.renewed⟩
    · rw [heq]
      exact ⟨hchecked.kept, hchecked.renewed⟩
  obtain ⟨hkept, hrenewed⟩ := hcertificate
  constructor
  · intro howned hexpired c hc hholds
    exact hrenewed hexpired c hc (hinv.live c hc)
      (howned.owned c (hinv.holds_serverCertify hpc hholds))
  · intro hunused
    refine ⟨fun c hc ↦ ?_, fun w r hr ↦ ?_⟩
    · refine (holds_of_serverCertify hc).elim (fun hold ↦ ?_) id
      have hc' := h.owned c hold
      rcases hexpired : s.certificateExpired with _ | _
      · rw [hkept hexpired]
        exact hc'
      · exact absurd hold (hunused hexpired c hc')
    · rw [reads_serverCertify] at hr
      exact h.used w r hr

theorem certificatesOwned_step_iff (hinv : s.CertificateInv) (h : s.CertificatesOwned)
    (e : RtcEvent StreamInput StreamsEvent) :
    (s.step (streams.server config) e).CertificatesOwned ↔ s.RenewsUnused e := by
  by_cases hrenews : e = .server ∧ ∃ m, s.serverPc = .popped m
  · obtain ⟨rfl, m, hpc⟩ := hrenews
    have hstep : s.step (streams.server config) .server =
        s.serverCertify (streams.server config) m := by
      rw [step, stepServer, hpc]
    rw [hstep, certificatesOwned_serverCertify_iff hinv h hpc]
    exact ⟨fun hunused _ _ _ ↦ hunused, fun hunused ↦ hunused m rfl hpc⟩
  · have hkeeps : KeepsPointers s (s.step (streams.server config) e) :=
      keepsPointers_step fun he m hpc ↦ hrenews ⟨he, m, hpc⟩
    refine iff_of_true (h.of_keepsPointers hinv hkeeps) fun m he hpc ↦ ?_
    exact absurd ⟨he, m, hpc⟩ hrenews

theorem certificatesOwned_init
    (senv : RtcServerEnv (WorkerStreams Ctx) StreamInput StreamsEvent) (now : ℕ) :
    (init senv {} now).CertificatesOwned := by
  obtain ⟨certificates, certificate, generations, heq, -⟩ :=
    exists_check senv { now, workers := fun _ ↦ { streams := {} } }
  rw [init, heq]
  refine ⟨?_, by simp⟩
  rintro c (⟨m, hm | ⟨w, hm⟩ | ⟨i, hm⟩, -⟩ | ⟨w, i, peer, hpeer, -⟩)
  · cases hm
  · cases hm
  · cases hm
  · cases hpeer

/-- **The pointers are owned exactly as long as no renewal finds a copy.** -/
theorem certificatesOwned_iff (streams : WorkerStreamsEnv Ctx) (config : RtcServerConfig)
    (now : ℕ) (es : List (RtcEvent StreamInput StreamsEvent)) :
    (∀ fs, fs <+: es → (run (streams.server config) {} now fs).CertificatesOwned) ↔
      Along (step (streams.server config)) RenewsUnused (init (streams.server config) {} now) es :=
  forall_prefix_iff_along (P := CertificatesOwned) (I := CertificateInv) (fun _ e h ↦ h.step e)
    (fun _ e hinv h ↦ certificatesOwned_step_iff hinv h e) (certificateInv_init _ now)
    (certificatesOwned_init _ now) es

/-! ## A renewal during a stream -/

def sampleWorkerStreamsEnv : WorkerStreamsEnv ByteString where
  stream := sampleStreamEnv
  dtls := sampleDtlsEnv
  srtpCiphers := [1]
  toString _ := []

/-- One worker, and certificates that expire when their lifetime is over. -/
def oneWorker : RtcServerConfig where
  workerNum := 1
  workers := 1
  computeCrc32 _ := 0
  generateCertificate _ lifetime now :=
    some { fingerprint := none, hasExpired := fun t ↦ now * 1000 + lifetime ≤ t }

/-- A stream is published, a year passes, another client asks for something, and only now does the
publisher begin the DTLS handshake. -/
def lateHandshake : List (RtcEvent StreamInput StreamsEvent) :=
  [.request 0 { cmdno := cmdnoPush, streamName := lit "live", audio := 1, video := 1 },
    .signaling 0] ++ List.replicate 5 .server ++ List.replicate 5 (.worker 0 { iceParam := {} }) ++
    [.clock (365 * 24 * 3600), .request 1 { cmdno := cmdnoStopPull }, .signaling 1] ++
    List.replicate 3 .server ++
    [.loop 0 (.dtls 0 (lit "audio") (.readPacket StartWatch.sampleClientHello 0 true {}))]

theorem not_certificatesOwned :
    ¬∀ (Ctx : Type) (streams : WorkerStreamsEnv Ctx) (config : RtcServerConfig) (now : ℕ)
      (es : List (RtcEvent StreamInput StreamsEvent)),
      (run (streams.server config) {} now es).CertificatesOwned := by
  intro h
  have hused := (h ByteString sampleWorkerStreamsEnv oneWorker 0 lateHandshake).used 0
  exact absurd hused (by decide +kernel)

end RtcSystem

end XrtcServer
