import XrtcServer.Ice.Destruction

/-!
# The address map of a port

`UDPPort::_connections` says which connection gets a datagram. Entries are made by
`create_connection`, and none is ever taken out: a port does not hear of the destruction of a
connection, only the channel does. So the entries are good as long as no connection fails, and the
first failure leaves one behind that points to freed memory.
-/

namespace XrtcServer

open EventRun ByteString World

namespace World

variable {env : IceEnv} {w w' : World} {c : ConnId} {e : IceEvent}

/-- The maps of the ports hold live connections of the controller, so a datagram is only handed to
one of these. -/
def PortMapOk (w : World) : Prop :=
  ∀ p addr c, w.getConnection p addr = some c →
    w.conns.live c = true ∧ c ∈ w.controller.connections

theorem portMapOk_init (component : IceCandidateComponent)
    (port : PortId → IceParameters × Candidate) : PortMapOk (init component port) := by
  intro p addr c h
  cases h

theorem SameShape.portMapOk (hs : SameShape w w') (h : PortMapOk w) : PortMapOk w' := by
  intro p addr c hc
  rw [getConnection, hs.port] at hc
  obtain ⟨hlive, hmem⟩ := h p addr c hc
  exact ⟨by rw [hs.live, hlive], hs.connections.mem_iff.mpr hmem⟩

/-- `create_connection` and `_add_connection` together enter the connection everywhere. -/
theorem PortMapOk.createConnection (h : PortMapOk w) (p : PortId) (candidate : Candidate) :
    PortMapOk ((w.createConnection p candidate).1.addConnection env w.conns.next) := by
  intro q addr c hc
  have hmem : c = w.conns.next ∨ w.getConnection q addr = some c := by
    rw [getConnection, World.createConnection, addConnection, addToController] at hc
    dsimp only at hc
    by_cases hq : q = p
    · subst hq
      rw [Function.update_self] at hc
      dsimp only at hc
      by_cases ha : addr = candidate.address
      · rw [ha, Function.update_self] at hc
        exact .inl (Option.some.inj hc).symm
      · rw [Function.update_of_ne ha] at hc
        exact .inr hc
    · rw [Function.update_of_ne hq] at hc
      exact .inr hc
  rcases hmem with rfl | hc
  · exact ⟨Arena.live_alloc_next, List.mem_append_right _ (List.mem_singleton_self _)⟩
  · obtain ⟨hlive, hlisted⟩ := h q addr c hc
    exact ⟨Arena.live_alloc_iff.mpr (.inr hlive), List.mem_append_left _ hlisted⟩

/-- One event keeps the maps good exactly when it fails no connection. -/
theorem portMapOk_step_iff (hw : WorldInv w) (h : PortMapOk w) (e : IceEvent) :
    PortMapOk (w.step env e) ↔ ∀ c, ¬w.FailsConnection env e c := by
  constructor
  · intro hstep c hf
    obtain ⟨now, honly, -⟩ := step_of_failsConnection hw.owned hf
    obtain ⟨p, addr, -, -, -, -, -, -, hconn, -⟩ := hf
    -- the entry that brought the datagram to `c` is still there
    have hentry : (w.step env e).getConnection p addr = some c := by
      rw [getConnection, honly.port]
      exact (congrArg (fun port ↦ (port p).connections addr)
        (sameRequests_failing w c now).port).trans
        hconn
    have hlive := (hstep p addr c hentry).1
    rw [honly.live] at hlive
    exact (live_withoutConn_iff.mp hlive).1 rfl
  · intro hf
    obtain ⟨hs | ⟨p, candidate, hs⟩, -⟩ := step_of_not_failsConnection hw.owned hf
    · exact hs.portMapOk h
    · exact hs.portMapOk (h.createConnection p candidate)

end World

/-- **The address maps along a run.** They hold live, listed connections in every state of a run
exactly when no event of the run fails a connection. -/
theorem portMapOk_run_iff (env : IceEnv) (component : IceCandidateComponent)
    (port : PortId → IceParameters × Candidate) (es : List IceEvent) :
    (∀ fs, fs <+: es → PortMapOk (run env component port fs)) ↔
      Along (World.step env) (fun w e ↦ ∀ c, ¬w.FailsConnection env e c) (init component port) es :=
  forall_prefix_iff_along (I := WorldInv) (fun _ e h ↦ h.step e)
    (fun _ e hw h ↦ portMapOk_step_iff hw h e) (worldInv_init component port)
    (portMapOk_init component port) es

/-- An error response 400 to a ping leaves a dangling entry. -/
theorem not_portMapOk :
    ¬∀ (env : IceEnv) (component : IceCandidateComponent)
      (port : PortId → IceParameters × Candidate) (es : List IceEvent),
      PortMapOk (run env component port es) := by
  intro h
  have hlive := (h sampleEnv .rtp (fun _ ↦ samplePort)
    (pingedRun ++ [.datagram 0 peerA errorResponse2 1010 1010]) 0 peerA 0 (by decide +kernel)).1
  exact absurd hlive (by decide +kernel)

example : Fault.connectionCalled 0 ∈ (run sampleEnv .rtp (fun _ ↦ samplePort)
    (pingedRun ++ [.datagram 0 peerA errorResponse2 1010 1010,
      .datagram 0 peerA bindingRequestA 1020 1020])).faults := by decide +kernel

end XrtcServer
