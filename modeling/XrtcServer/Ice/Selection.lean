import XrtcServer.Ice.ReadyToSend

/-!
# The two copies of the selection

The controller and the channel each record the selected connection. When the selected connection is
destroyed, `_on_connection_destroyed` clears the channel's copy and sorts the rest; the controller's
copy changes only if the sort finds a replacement, and the rule for that still compares with the
round trip time of the connection that is going away.

So the copies agree, and point to a live connection, as long as every selected connection that fails
leaves a replacement faster by ten milliseconds. Otherwise the controller keeps the pointer.
-/

namespace XrtcServer

open EventRun ByteString World

namespace World

variable {env : IceEnv} {w w' : World} {c s t : ConnId} {now : ℤ} {e : IceEvent}

/-- The two copies agree, and the selected connection, if there is one, is alive and listed. -/
structure Synced (w : World) : Prop where
  agree : w.controller.selectedConnection = w.channel.selectedConnection
  alive : ∀ s, w.channel.selectedConnection = some s →
    w.conns.live s = true ∧ s ∈ w.controller.connections

theorem synced_init (component : IceCandidateComponent)
    (port : PortId → IceParameters × Candidate) : Synced (init component port) :=
  ⟨rfl, fun s hs ↦ by cases hs⟩

theorem SameShape.synced (hs : SameShape w w')
    (hlive : ∀ c ∈ w.controller.connections, w.conns.live c = true) (h : Synced w) : Synced w' := by
  have hlisted (t : ConnId) (ht : t ∈ w.controller.connections) :
      w'.conns.live t = true ∧ t ∈ w'.controller.connections :=
    ⟨by rw [hs.live, hlive t ht], hs.connections.mem_iff.mpr ht⟩
  rcases hs.selection with ⟨hcontroller, hchannel⟩ | ⟨t, ht, hcontroller, hchannel⟩
  · refine ⟨by rw [hcontroller, hchannel, h.agree], fun s hsel ↦ ?_⟩
    rw [hchannel] at hsel
    exact hlisted s (h.alive s hsel).2
  · refine ⟨by rw [hcontroller, hchannel], fun s hsel ↦ ?_⟩
    rw [hchannel] at hsel
    exact hlisted s (Option.some.inj hsel ▸ ht)

/-! ## Without a failure -/

theorem synced_of_not_failsConnection (hw : WorldInv w) (h : Synced w)
    (hf : ∀ c, ¬w.FailsConnection env e c) : Synced (w.step env e) := by
  obtain ⟨hs | ⟨p, candidate, hs⟩, -⟩ := step_of_not_failsConnection hw.owned hf
  · exact hs.synced hw.live h
  · refine hs.synced (fun c hc ↦ Arena.live_alloc_iff.mpr ?_) ⟨h.agree, fun s hsel ↦ ?_⟩
    · rcases List.mem_append.mp hc with hc | hc
      · exact .inr (hw.live c hc)
      · exact .inl (List.mem_singleton.mp hc)
    · obtain ⟨hlive, hmem⟩ := h.alive s hsel
      exact ⟨Arena.live_alloc_iff.mpr (.inr hlive), List.mem_append_left _ hmem⟩

/-! ## With a failure

When the selected connection fails, the channel forgets it and the controller does not; the sort
that follows is the only chance to bring the two together again. So the condition is about that one
sort: it must find a replacement, and against the connection that is going. -/

/-- Among the other connections the best one can send, and beats `c` by ten milliseconds. -/
def Replaceable (w : World) (c : ConnId) : Prop :=
  ∃ t, w.IsBest (w.controller.connections.erase c) t ∧ w.readyToSend (some t) = true ∧
    (w.conn t).rtt ≤ (w.conn c).rtt - kMinImprovement

/-- The event fails no selected connection without a replacement. -/
def KeepsSelection (env : IceEnv) (w : World) (e : IceEvent) : Prop :=
  ∀ c, w.FailsConnection env e c → w.channel.selectedConnection = some c → w.Replaceable c

/-- The comparator looks at five fields of a connection. -/
theorem goesBefore_congr (hport : w'.port = w.port)
    (hwrite : ∀ c, (w'.conn c).writeState = (w.conn c).writeState)
    (hreceiving : ∀ c, (w'.conn c).receiving = (w.conn c).receiving)
    (hrtt : ∀ c, (w'.conn c).rtt = (w.conn c).rtt)
    (hremote : ∀ c, (w'.conn c).remoteCandidate = (w.conn c).remoteCandidate)
    (hconnPort : ∀ c, (w'.conn c).port = (w.conn c).port) : w'.goesBefore = w.goesBefore := by
  have hpriority (c : ConnId) : w'.priority c = w.priority c := by
    rw [priority, priority, localCandidate, localCandidate, hport, hremote, hconnPort]
  have hwritable (c : ConnId) : (w'.conn c).writable = (w.conn c).writable := by
    rw [IceConnection.writable, IceConnection.writable, hwrite]
  have hcompare (a b : ConnId) : w'.compareConnections a b = w.compareConnections a b := by
    simp only [compareConnections, hwritable, hwrite, hreceiving, hpriority]
  funext a b
  simp only [goesBefore, hcompare, hrtt]

/-- The state in which the rest is sorted after the selected connection has been taken out. -/
def unselected (w : World) (c : ConnId) : World :=
  ((w.setConnState c .failed).removeFromController c).switchSelectedConnection none

theorem proj_conn_unselected {β : Type*} {p : IceConnection → β}
    (hselected : ∀ x v, p { x with selected := v } = p x)
    (hstate : ∀ x v, p { x with state := v } = p x) (w : World) (c d : ConnId) :
    p ((w.unselected c).conn d) = p (w.conn d) := by
  have hfailed : p (((w.setConnState c .failed).removeFromController c).conn d) = p (w.conn d) :=
    Arena.proj_cell_modify (fun x ↦ hstate x _) c d
  rw [← hfailed, unselected, switchSelectedConnection]
  rcases (w.setConnState c .failed).removeFromController c |>.channel.selectedConnection with _ | s
  · rfl
  · exact Arena.proj_cell_modify (fun x ↦ hselected x _) s d

theorem unselected_containers (w : World) (c : ConnId) :
    (w.unselected c).controller.connections = w.controller.connections.erase c ∧
      (w.unselected c).controller.selectedConnection = w.controller.selectedConnection ∧
      (w.unselected c).channel.selectedConnection = none := by
  rw [unselected, switchSelectedConnection]
  dsimp only [setConnState, modifyConn, removeFromController]
  rcases w.channel.selectedConnection with _ | s <;> exact ⟨rfl, rfl, rfl⟩

theorem exists_switch_unselected_iff (hsel : w.controller.selectedConnection = some c) :
    (∃ t, (w.unselected c).sortAndSwitchConnection.2 = some t) ↔ w.Replaceable c := by
  obtain ⟨hconnections, hcontroller, -⟩ := unselected_containers w c
  have hbefore : (w.unselected c).goesBefore = w.goesBefore := by
    refine goesBefore_congr ?_ ?_ ?_ ?_ ?_ ?_
    · exact ((settles_setConnState w c .failed).toSameRequests.trans
        ((sameRequests_removeFromController _ c).trans
          (sameRequests_switchSelectedConnection_none _))).port
    all_goals exact fun d ↦ proj_conn_unselected (fun _ _ ↦ rfl) (fun _ _ ↦ rfl) w c d
  have hrtt (d : ConnId) : ((w.unselected c).conn d).rtt = (w.conn d).rtt :=
    proj_conn_unselected (fun _ _ ↦ rfl) (fun _ _ ↦ rfl) w c d
  have hready (d : ConnId) : (w.unselected c).readyToSend (some d) = w.readyToSend (some d) := by
    rw [Bool.eq_iff_iff, readyToSend_iff, readyToSend_iff, proj_conn_unselected
      (p := fun x ↦ x.writeState.toNat) (fun _ _ ↦ rfl) (fun _ _ ↦ rfl)]
  rw [exists_switch_iff, Replaceable]
  simp only [IsBest, MaySwitchTo, hbefore, hconnections, hcontroller, hready, hrtt, hsel,
    Option.some.injEq, forall_eq']

theorem withoutConn_of_selected (hsel : w.channel.selectedConnection = some c) (now : ℤ) :
    w.withoutConn c now =
      { (w.unselected c).sortConnectionsAndUpdateState now with
        conns := ((w.unselected c).sortConnectionsAndUpdateState now).conns.free c } := by
  rw [withoutConn, onConnectionDestroyed]
  dsimp only
  rw [if_pos (by exact hsel)]
  rfl

theorem withoutConn_of_not_selected (hsel : w.channel.selectedConnection ≠ some c) (now : ℤ) :
    (w.withoutConn c now).controller.selectedConnection = w.controller.selectedConnection ∧
      (w.withoutConn c now).channel.selectedConnection = w.channel.selectedConnection := by
  rw [withoutConn, onConnectionDestroyed]
  dsimp only
  rw [if_neg (by exact hsel)]
  have hsame := sameSelection_updateState ((w.setConnState c .failed).removeFromController c)
  exact ⟨congrArg (·.selectedConnection) hsame.controller, hsame.selected⟩

/-- Destroying `c` keeps the copies together unless `c` was selected and cannot be replaced. -/
theorem synced_withoutConn_iff (hw : WorldInv w) (h : Synced w) (now : ℤ) :
    Synced (w.withoutConn c now) ↔
      (w.channel.selectedConnection = some c → w.Replaceable c) := by
  have hperm := perm_connections_withoutConn w c now
  -- what is still listed is still alive
  have hlisted (t : ConnId) (ht : t ∈ w.controller.connections) (htc : t ≠ c) :
      (w.withoutConn c now).conns.live t = true ∧
        t ∈ (w.withoutConn c now).controller.connections :=
    ⟨live_withoutConn_iff.mpr ⟨htc, hw.live t ht⟩,
      hperm.mem_iff.mpr (hw.nodup.mem_erase_iff.mpr ⟨htc, ht⟩)⟩
  by_cases hsel : w.channel.selectedConnection = some c
  · have hsel' : w.controller.selectedConnection = some c := by rw [h.agree, hsel]
    obtain ⟨hconnections, hcontroller, hchannel⟩ := unselected_containers w c
    have hselection := selection_sortConnectionsAndUpdateState (w.unselected c) now
    rw [hchannel, hcontroller, hsel'] at hselection
    rw [forall_prop_of_true hsel, ← exists_switch_unselected_iff hsel']
    have hwithout := withoutConn_of_selected hsel now
    have hcopies : (w.withoutConn c now).channel.selectedConnection =
          (w.unselected c).sortAndSwitchConnection.2.or none ∧
        (w.withoutConn c now).controller.selectedConnection =
          (w.unselected c).sortAndSwitchConnection.2.or (some c) := by
      rw [hwithout]
      exact hselection
    rcases hswitch : (w.unselected c).sortAndSwitchConnection.2 with _ | t
    · -- nothing to switch to: only the channel's copy is cleared
      rw [hswitch] at hcopies
      refine iff_of_false (fun hsynced ↦ ?_) (by simp)
      have hagree := hsynced.agree
      rw [hcopies.1, hcopies.2] at hagree
      cases hagree
    · rw [hswitch] at hcopies
      refine iff_of_true ⟨by rw [hcopies.1, hcopies.2]; rfl, fun s hs ↦ ?_⟩ ⟨t, rfl⟩
      rw [hcopies.1] at hs
      obtain rfl := Option.some.inj hs
      have hmem := List.mem_of_head? (sortAndSwitchConnection_snd_iff.mp hswitch).1
      rw [StableSort.mem_stableSort, hconnections] at hmem
      obtain ⟨htc, ht⟩ := hw.nodup.mem_erase_iff.mp hmem
      exact hlisted t ht htc
  · obtain ⟨hcontroller, hchannel⟩ := withoutConn_of_not_selected hsel now
    refine iff_of_true ⟨by rw [hcontroller, hchannel, h.agree], fun s hs ↦ ?_⟩
      fun hc ↦ absurd hc hsel
    rw [hchannel] at hs
    refine hlisted s (h.alive s hs).2 ?_
    rintro rfl
    exact hsel hs

theorem OnlyRequests.synced_iff (honly : OnlyRequests w w') : Synced w' ↔ Synced w := by
  have hcongr {w w' : World} (honly : OnlyRequests w w') (h : Synced w) : Synced w' := by
    refine ⟨by rw [honly.controller, honly.channel, h.agree], fun s hs ↦ ?_⟩
    rw [honly.channel] at hs
    rw [honly.live, honly.controller]
    exact h.alive s hs
  refine ⟨hcongr ⟨?_, ?_, ?_, ?_, ?_⟩, hcongr honly⟩
  · exact honly.live.symm
  · exact honly.next.symm
  · exact honly.port.symm
  · exact honly.controller.symm
  · exact honly.channel.symm

/-- One event keeps the copies together exactly when it takes no selected connection away without a
replacement. -/
theorem synced_step_iff (hw : WorldInv w) (h : Synced w) (e : IceEvent) :
    Synced (w.step env e) ↔ w.KeepsSelection env e := by
  by_cases hf : ∃ c, w.FailsConnection env e c
  · obtain ⟨c, hc⟩ := hf
    obtain ⟨now, honly, -⟩ := step_of_failsConnection hw.owned hc
    rw [honly.synced_iff, synced_withoutConn_iff hw h]
    constructor
    · intro hkeeps d hd
      rw [hd.unique hc]
      exact hkeeps
    · exact fun hkeeps ↦ hkeeps c hc
  · refine iff_of_true (synced_of_not_failsConnection hw h fun c hc ↦ hf ⟨c, hc⟩) ?_
    exact fun c hc ↦ absurd ⟨c, hc⟩ hf

end World

/-- **The selection along a run.** The controller and the channel agree on a live, listed connection
or on none, in every state of a run, exactly when every selected connection that fails has a
replacement. -/
theorem synced_run_iff (env : IceEnv) (component : IceCandidateComponent)
    (port : PortId → IceParameters × Candidate) (es : List IceEvent) :
    (∀ fs, fs <+: es → Synced (run env component port fs)) ↔
      Along (World.step env) (fun w e ↦ w.KeepsSelection env e) (init component port) es :=
  forall_prefix_iff_along (I := WorldInv) (fun _ e h ↦ h.step e)
    (fun _ e hw h ↦ synced_step_iff hw h e) (worldInv_init component port)
    (synced_init component port) es

/-- The selected connection is destroyed by an error response, and no other is left. -/
theorem not_synced :
    ¬∀ (env : IceEnv) (component : IceCandidateComponent)
      (port : PortId → IceParameters × Candidate) (es : List IceEvent),
      Synced (run env component port es) := by
  intro h
  have hagree := (h sampleEnv .rtp (fun _ ↦ samplePort)
    [.setRemoteIceParams peerParams 0, .datagram 0 peerA bindingRequestA 10 10,
      .checkAndPing (lit "pingnumber01") 1000, .datagram 0 peerA bindingResponse1 1010 1010,
      .checkAndPing (lit "pingnumber02") 1100, .datagram 0 peerA errorResponse2 1110 1110]).agree
  exact absurd hagree (by decide +kernel)

end XrtcServer
