import XrtcServer.Server.RtcServer

/-!
# The numbers of the messages

A message gets its number when it enters the server's queue, so the queue holds the newest messages
in the order of their numbers, and those before them have been taken out. This holds whatever
becomes of the messages later, and the certificate of a message is entered after it was taken out:
a message in the queue has none.
-/

namespace XrtcServer

open EventRun Mailbox

variable {σ ι ε : Type}

/-- The message that left the server's queue and is in no other. -/
def ServerPc.held : ServerPc → List ℕ
  | .popped m => [m]
  | .certified m => [m]
  | _ => []

namespace RtcSystem

/-- The check of the certificate concerns nothing but certificates. -/
theorem exists_generateAndCheckCertificate (env : RtcServerEnv σ ι ε) (s : RtcSystem σ) :
    ∃ certificates certificate generations,
      (s.generateAndCheckCertificate env).1 =
        { s with certificates, certificate, generations } := by
  rw [generateAndCheckCertificate]
  by_cases hexpired : s.certificateExpired = true
  · rw [if_pos hexpired, renewCertificate]
    split <;> split <;> exact ⟨_, _, _, rfl⟩
  · rw [if_neg hexpired]
    split <;> exact ⟨_, _, _, rfl⟩

/-- All messages went through the server's queue in the order of their numbers. -/
structure Numbered (s : RtcSystem σ) : Prop where
  entered : s.server.entered = List.range s.messages.next
  held : s.serverPc.held ⊆ s.server.taken

/-- The server's queue and thread are as they were, and so are the certificates of messages. -/
structure SameFront (s s' : RtcSystem σ) : Prop where
  server : s'.server = s.server
  serverPc : s'.serverPc = s.serverPc
  next : s'.messages.next = s.messages.next
  certificate : ∀ m, (s'.msg m).certificate = (s.msg m).certificate

variable {env : RtcServerEnv σ ι ε} {s s' : RtcSystem σ} {w i m : ℕ}

theorem sameFront_stepWorker (x : ι) : SameFront s (s.stepWorker env w x) := by
  rw [stepWorker]
  split
  · split <;> exact ⟨rfl, rfl, rfl, fun _ ↦ rfl⟩
  · split <;> exact ⟨rfl, rfl, rfl, fun _ ↦ rfl⟩
  · exact ⟨rfl, rfl, rfl, fun _ ↦ rfl⟩
  · next m _ =>
    rw [workerExecute]
    dsimp only
    split
    · exact ⟨rfl, rfl, rfl, fun _ ↦ rfl⟩
    · next offer ret _ =>
      exact ⟨rfl, rfl, rfl, Arena.proj_cell_modify (p := QueuedMsg.certificate)
        (f := fun msg : QueuedMsg ↦ msg.answer offer ret) (fun _ ↦ rfl) m⟩
  · rw [workerPush]
    dsimp only
    split <;> exact ⟨rfl, rfl, rfl, fun _ ↦ rfl⟩
  · exact ⟨rfl, rfl, rfl, fun _ ↦ rfl⟩

theorem sameFront_accept (fd : ℕ) : SameFront s (s.accept i fd) := by
  rw [accept]
  split <;> exact ⟨rfl, rfl, rfl, fun _ ↦ rfl⟩

theorem sameFront_stepAcceptor : SameFront s s.stepAcceptor := by
  rw [stepAcceptor]
  split <;> exact ⟨rfl, rfl, rfl, fun _ ↦ rfl⟩

theorem sameFront_loopEvent (e : ε) : SameFront s (s.loopEvent env w e) := by
  rw [loopEvent]
  split <;> exact ⟨rfl, rfl, rfl, fun _ ↦ rfl⟩

namespace Numbered

theorem of_sameFront (h : s.Numbered) (hs : SameFront s s') : s'.Numbered := by
  refine ⟨?_, ?_⟩
  · rw [hs.server, hs.next]
    exact h.entered
  · rw [hs.server, hs.serverPc]
    exact h.held

theorem lt_next (h : s.Numbered) (hm : m ∈ s.server.entered) : m < s.messages.next := by
  rw [h.entered] at hm
  exact List.mem_range.mp hm

theorem nodup_entered (h : s.Numbered) : s.server.entered.Nodup := by
  rw [h.entered]
  exact List.nodup_range

theorem stepServer (h : s.Numbered) (env : RtcServerEnv σ ι ε) : (s.stepServer env).Numbered := by
  rw [RtcSystem.stepServer]
  split
  · split
    · exact h
    · next hread => exact ⟨(entered_of_read hread).trans h.entered, List.nil_subset _⟩
  · split
    · exact ⟨h.entered, List.nil_subset _⟩
    · next hpop =>
      refine ⟨(entered_of_pop hpop).trans h.entered, ?_⟩
      obtain ⟨-, -, htaken⟩ := pop_eq_some hpop
      change [_] ⊆ _
      rw [setServer, htaken]
      exact List.subset_append_right ..
  · exact ⟨h.entered, List.nil_subset _⟩
  · next m hpc =>
    have hheld := h.held
    rw [hpc] at hheld
    obtain ⟨certificates, certificate, generations, hcheck⟩ :=
      s.exists_generateAndCheckCertificate env
    rw [serverCertify]
    dsimp only
    rw [hcheck]
    split_ifs
    · exact ⟨h.entered, List.nil_subset _⟩
    · exact ⟨h.entered, hheld⟩
  · next m hpc =>
    rw [serverPush]
    split
    · exact ⟨h.entered, List.nil_subset _⟩
    · exact ⟨h.entered, List.nil_subset _⟩
  · exact ⟨h.entered, List.nil_subset _⟩

theorem request (h : s.Numbered) (msg : RtcMsg) : (s.request i msg).Numbered := by
  rw [RtcSystem.request]
  split
  · refine ⟨?_, h.held⟩
    rw [entered_push, h.entered]
    exact List.range_succ.symm
  · exact h

theorem stepSignaling (h : s.Numbered) (i : ℕ) : (s.stepSignaling i).Numbered := by
  rw [RtcSystem.stepSignaling]
  split
  · split
    · exact h
    · exact ⟨h.entered, h.held⟩
  · exact ⟨h.entered, h.held⟩
  · exact ⟨h.entered, h.held⟩
  · split <;> exact ⟨h.entered, h.held⟩
  · exact ⟨h.entered, h.held⟩

theorem step (h : s.Numbered) (env : RtcServerEnv σ ι ε) (e : RtcEvent ι ε) :
    (s.step env e).Numbered := by
  cases e with
  | request i msg => exact h.request msg
  | accept i fd => exact h.of_sameFront (sameFront_accept fd)
  | acceptor => exact h.of_sameFront sameFront_stepAcceptor
  | signaling i => exact h.stepSignaling i
  | server => exact h.stepServer env
  | worker w x => exact h.of_sameFront (sameFront_stepWorker x)
  | loop w e => exact h.of_sameFront (sameFront_loopEvent e)
  | clock seconds => exact ⟨h.entered, h.held⟩

end Numbered

theorem numbered_init (env : RtcServerEnv σ ι ε) (streams : σ) (now : ℕ) :
    (init env streams now).Numbered := by
  obtain ⟨certificates, certificate, generations, hcheck⟩ :=
    exists_generateAndCheckCertificate env { now, workers := fun _ ↦ { streams } : RtcSystem σ }
  rw [init, hcheck]
  exact ⟨rfl, List.nil_subset _⟩

theorem numbered_run (env : RtcServerEnv σ ι ε) (streams : σ) (now : ℕ)
    (es : List (RtcEvent ι ε)) : (run env streams now es).Numbered :=
  exec_invariant (fun _ e h ↦ h.step env e) (numbered_init env streams now) es

end RtcSystem

end XrtcServer
