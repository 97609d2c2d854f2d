import XrtcServer.Server.Dispatch

/-!
# Delivery

What `DispatchInv` comes to, for a reader who does not want to look into the threads: every command
that a signaling worker hands to the server is executed at most once, by the worker that the name of
its stream determines, after the earlier commands of the stream; no message is forgotten in a queue;
and an offer comes back once, to the signaling worker that asked for it.
-/

namespace XrtcServer

open EventRun Mailbox

variable {σ ι ε : Type}

namespace RtcSystem

variable {env : RtcServerEnv σ ι ε} {s : RtcSystem σ} {w m : ℕ}

/-- No notification is pending and no send is in progress. A notification is pending until the
thread that has read it looks into its queue. -/
structure Quiet (s : RtcSystem σ) : Prop where
  server : s.server.pipe = [] ∧ (∀ k, s.serverPc ≠ .notified k) ∧ ∀ w m, s.serverPc ≠ .pushed w m
  worker : ∀ w, (s.workers w).inbox.pipe = [] ∧ (∀ k, (s.workers w).pc ≠ .notified k) ∧
    ∀ i m, (s.workers w).pc ≠ .pushed i m
  signaling : ∀ i, (s.signaling i).inbox.pipe = [] ∧ (∀ k, (s.signaling i).pc ≠ .notified k) ∧
    ∀ m, (s.signaling i).pc ≠ .pushed m
  acceptor : s.acceptor = none

/-- The commands that entered the server's queue reach their workers, in their order, and the
answers come back. -/
structure Dispatched (env : RtcServerEnv σ ι ε) (s : RtcSystem σ) : Prop where
  /-- Every message is a number of its own in the server's queue. -/
  accepted : s.server.entered.Nodup
  /-- A command is executed at most once, by the worker of its stream. -/
  once : ∀ w, (s.workers w).executed.Nodup
  worker : ∀ w, ∀ m ∈ (s.workers w).executed, m ∈ s.server.entered ∧
    w = (env.computeCrc32 (s.msg m).streamName).toNat % env.workerNum
  /-- The commands of a stream are executed in the order in which they entered the queue. -/
  order : ∀ w streamName,
    (s.workers w).executed.filter (fun m ↦ (s.msg m).streamName = streamName) <+:
      s.server.entered.filter fun m ↦ (s.msg m).streamName = streamName
  /-- When nothing is under way, no queue holds a message. -/
  drained : s.Quiet → s.server.queue = [] ∧ (∀ w, (s.workers w).inbox.queue = []) ∧
    ∀ i, (s.signaling i).inbox.queue = [] ∧ (s.signaling i).qConn = []
  /-- A push or pull that was executed is answered once, to the signaling worker that sent it. -/
  answered : ∀ w, ∀ m ∈ (s.workers w).executed, (s.msg m).isOffer = true →
    (s.workers w).pc ≠ .processed m → ∀ i,
      (s.signaling i).inbox.entered.count m = if (s.msg m).sender = i then 1 else 0
  /-- Nothing else is answered. -/
  answers : ∀ i, ∀ m ∈ (s.signaling i).inbox.entered,
    (s.msg m).isOffer = true ∧ ∃ w, m ∈ (s.workers w).executed

namespace DispatchInv

theorem executed_prefix (h : DispatchInv env s) (w : ℕ) :
    (s.workers w).executed <+: s.server.entered.filter fun m ↦ s.dest env m = w := by
  rw [Mailbox.entered, List.filter_append, ← (h.worker w).routed, Mailbox.entered,
    (h.worker w).executed]
  simp only [List.append_assoc]
  exact List.prefix_append ..

theorem order (h : DispatchInv env s) (w : ℕ) (streamName : ByteString) :
    (s.workers w).executed.filter (fun m ↦ (s.msg m).streamName = streamName) <+:
      s.server.entered.filter fun m ↦ (s.msg m).streamName = streamName := by
  by_cases hw : env.workerIndex streamName = w
  · have hprefix := (h.executed_prefix w).filter fun m ↦ (s.msg m).streamName = streamName
    rw [List.filter_filter] at hprefix
    -- the messages of the stream are all for this worker
    have hall : s.server.entered.filter (fun m ↦ decide ((s.msg m).streamName = streamName) &&
        decide (s.dest env m = w)) =
        s.server.entered.filter fun m ↦ (s.msg m).streamName = streamName := by
      refine List.filter_congr fun m _ ↦ ?_
      by_cases hm : (s.msg m).streamName = streamName
      · simp [hm, RtcSystem.dest, hw]
      · simp [hm]
    rw [hall] at hprefix
    exact hprefix
  · have hnil : (s.workers w).executed.filter (fun m ↦ (s.msg m).streamName = streamName) = [] := by
      refine List.filter_eq_nil_iff.mpr fun m hm heq ↦ hw ?_
      have hdest := ((h.worker w).mem_forwarded hm).2
      rw [← of_decide_eq_true heq]
      exact hdest
    rw [hnil]
    exact List.nil_prefix

theorem drained (h : DispatchInv env s) (hquiet : s.Quiet) :
    s.server.queue = [] ∧ (∀ w, (s.workers w).inbox.queue = []) ∧
      ∀ i, (s.signaling i).inbox.queue = [] ∧ (s.signaling i).qConn = [] := by
  obtain ⟨⟨hserver, hnotified, hpushed⟩, hworkers, hthreads, hacceptor⟩ := hquiet
  refine ⟨?_, fun w ↦ ?_, fun i ↦ ?_⟩
  · have hbacked := h.backed
    rw [hserver, ServerPc.reading_eq_zero hnotified] at hbacked
    exact hbacked.queue_eq_nil fun i ↦ SignalingPc.requesting_ne (hthreads i).2.2
  · obtain ⟨hpipe, hnotified, -⟩ := hworkers w
    have hbacked := (h.worker w).backed
    rw [hpipe, RtcWorkerPc.reading_eq_zero hnotified] at hbacked
    exact hbacked.queue_eq_nil fun _ ↦ ServerPc.forwarding_ne hpushed w
  · obtain ⟨hpipe, hnotified, -⟩ := hthreads i
    obtain ⟨-, -, hbacked, hconn⟩ := h.signaling i
    rw [hpipe, SignalingPc.reading_eq_zero hnotified] at hbacked hconn
    refine ⟨hbacked.queue_eq_nil fun w ↦ RtcWorkerPc.answering_ne (hworkers w).2.2 i, ?_⟩
    refine hconn.queue_eq_nil fun _ hi ↦ ?_
    cases hacceptor.symm.trans hi

/-- What was executed and needs an answer was sent back, unless that comes next. -/
theorem mem_posted (h : DispatchInv env s) (hm : m ∈ (s.workers w).executed)
    (hoffer : s.offer m = true) (hpc : (s.workers w).pc ≠ .processed m) : m ∈ s.posted := by
  have hposted : m ∈ (s.workers w).posted ++ (s.workers w).pc.owed := by
    rw [← (h.worker w).posted]
    exact List.mem_filter.mpr ⟨hm, hoffer⟩
  refine ⟨w, (List.mem_append.mp hposted).resolve_right fun howed ↦ hpc ?_⟩
  cases hw : (s.workers w).pc with
  | processed m' =>
    rw [hw] at howed
    rw [List.mem_singleton.mp howed]
  | _ =>
    rw [hw] at howed
    exact absurd howed List.not_mem_nil

theorem dispatched (h : DispatchInv env s) (hnumbered : s.Numbered) : Dispatched env s where
  accepted := hnumbered.nodup_entered
  once w := (h.worker w).nodup_executed (List.nodup_append.mp hnumbered.nodup_entered).1
  worker w m hm := by
    obtain ⟨hforwarded, hdest⟩ := (h.worker w).mem_forwarded hm
    exact ⟨List.mem_append_left _ hforwarded, hdest.symm⟩
  order := h.order
  drained := h.drained
  answered w m hm hoffer hpc i := by
    obtain ⟨hnodup, hmem, -, -⟩ := h.signaling i
    have hposted := h.mem_posted hm hoffer hpc
    split_ifs with hi
    · exact List.count_eq_one_of_mem hnodup ((hmem m).mpr ⟨hi, hposted⟩)
    · exact List.count_eq_zero_of_not_mem fun hentered ↦ hi ((hmem m).mp hentered).1
  answers i m hm := by
    obtain ⟨-, w, hposted⟩ := ((h.signaling i).mem_entered m).mp hm
    obtain ⟨hexecuted, hoffer⟩ := (h.worker w).mem_executed (List.mem_append_left _ hposted)
    exact ⟨hoffer, w, hexecuted⟩

end DispatchInv

/-- **Every command reaches its worker once**, in the order of its stream, and its answer comes
back: in any interleaving, as long as there are certificates and all workers were created. -/
theorem dispatched_run (env : RtcServerEnv σ ι ε) (hready : env.Ready) (havailable : env.Available)
    (streams : σ) (now : ℕ) (es : List (RtcEvent ι ε)) : Dispatched env (run env streams now es) :=
  (dispatchInv_run hready havailable streams now es).dispatched (numbered_run env streams now es)

/-- Two workers whose streams do nothing, and the checksums of the empty name and of `live`. -/
def twoWorkers : RtcServerEnv Unit Unit Unit where
  workerNum := 2
  workers := 2
  computeCrc32 name := if name = lit "live" then 0x530F2CAF else 0
  generateCertificate _ _ _ := some { fingerprint := none, hasExpired := fun _ ↦ false }
  handlers :=
    { createPushStream := fun _ _ _ _ ↦ ((), [], 0)
      createPullStream := fun _ _ _ _ ↦ ((), [], 0)
      stopPush := fun _ _ ↦ ()
      stopPull := fun _ _ ↦ ()
      setAnswer := fun _ _ _ ↦ ()
      onEvent := fun _ _ _ ↦ () }

/-- A push of the signaling worker 3 goes through the server and the worker 1 and comes back. -/
def pushRun : List (RtcEvent Unit Unit) :=
  [.request 3 { cmdno := cmdnoPush, streamName := lit "live" }, .signaling 3] ++
    List.replicate 5 .server ++ List.replicate 5 (.worker 1 ())

theorem dispatched_run_pushRun :
    ((run twoWorkers () 0 pushRun).signaling 3).inbox.entered.count 0 = 1 :=
  (dispatched_run twoWorkers ⟨by decide, rfl⟩ (fun _ _ ↦ rfl) () 0 pushRun).answered 1 0
    (by decide) rfl (by decide) 3

end RtcSystem

end XrtcServer
