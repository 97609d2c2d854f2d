import XrtcServer.Ice.Calls

/-!
# What the handlers leave alone

Most of what happens inside a handler changes no ownership: no connection or request is made or
destroyed, no map is written, the list of connections is at most reordered, and the selection either
stays or becomes one listed connection in both places at once. `Settles` says all this of two
states, and every function of the previous modules that neither creates nor destroys gets one lemma.

What creates and destroys is left to the modules that follow.
-/

namespace XrtcServer

namespace World

/-- No connection came or went, and the two copies of the selection stayed or moved together. -/
structure SameShape (w w' : World) : Prop where
  live : w'.conns.live = w.conns.live
  next : w'.conns.next = w.conns.next
  port : w'.port = w.port
  connections : w'.controller.connections.Perm w.controller.connections
  selection :
    (w'.controller.selectedConnection = w.controller.selectedConnection ∧
      w'.channel.selectedConnection = w.channel.selectedConnection) ∨
    ∃ t ∈ w.controller.connections,
      w'.controller.selectedConnection = some t ∧ w'.channel.selectedConnection = some t

/-- No connection or request came or went, and nothing was misused. -/
structure SameRequests (w w' : World) : Prop where
  live : w'.conns.live = w.conns.live
  next : w'.conns.next = w.conns.next
  port : w'.port = w.port
  requests : w'.requests = w.requests
  connRequests : ∀ c, (w'.conn c).requests = (w.conn c).requests
  faults : w'.faults = w.faults

structure Settles (w w' : World) : Prop extends SameShape w w', SameRequests w w'

variable {w w' w'' : World} {c : ConnId} {now : ℤ}

theorem SameShape.refl (w : World) : SameShape w w := ⟨rfl, rfl, rfl, .rfl, .inl ⟨rfl, rfl⟩⟩

theorem SameShape.trans (h : SameShape w w') (h' : SameShape w' w'') : SameShape w w'' where
  live := h'.live.trans h.live
  next := h'.next.trans h.next
  port := h'.port.trans h.port
  connections := h'.connections.trans h.connections
  selection := by
    rcases h'.selection with ⟨hcontroller, hchannel⟩ | ⟨t, ht, hsel⟩
    · rw [hcontroller, hchannel]
      exact h.selection
    · exact .inr ⟨t, h.connections.mem_iff.mp ht, hsel⟩

theorem SameRequests.trans (h : SameRequests w w') (h' : SameRequests w' w'') :
    SameRequests w w'' where
  live := h'.live.trans h.live
  next := h'.next.trans h.next
  port := h'.port.trans h.port
  requests := h'.requests.trans h.requests
  connRequests c := (h'.connRequests c).trans (h.connRequests c)
  faults := h'.faults.trans h.faults

theorem Settles.refl (w : World) : Settles w w := ⟨.refl w, rfl, fun _ ↦ rfl, rfl⟩

theorem Settles.trans (h : Settles w w') (h' : Settles w' w'') : Settles w w'' :=
  { h.toSameShape.trans h'.toSameShape, h.toSameRequests.trans h'.toSameRequests with }

instance : IsPreorder World Settles where
  refl := .refl
  trans _ _ _ := .trans

instance : IsPreorder World SameRequests where
  refl _ := ⟨rfl, rfl, rfl, rfl, fun _ ↦ rfl, rfl⟩
  trans _ _ _ := .trans

/-- Assignments to the remaining fields of the channel, the controller and the logs. -/
theorem Settles.of_eq (hconns : w'.conns = w.conns) (hrequests : w'.requests = w.requests)
    (hport : w'.port = w.port) (hconnections : w'.controller.connections = w.controller.connections)
    (hcontroller : w'.controller.selectedConnection = w.controller.selectedConnection)
    (hchannel : w'.channel.selectedConnection = w.channel.selectedConnection)
    (hfaults : w'.faults = w.faults) : Settles w w' where
  live := by rw [hconns]
  next := by rw [hconns]
  port := hport
  connections := by rw [hconnections]
  selection := .inl ⟨hcontroller, hchannel⟩
  requests := hrequests
  connRequests c := by rw [conn, conn, hconns]
  faults := hfaults

theorem settles_modifyConn (w : World) (c : ConnId) {f : IceConnection → IceConnection}
    (hf : ∀ x, (f x).requests = x.requests) : Settles w (w.modifyConn c f) where
  toSameShape := ⟨rfl, rfl, rfl, .rfl, .inl ⟨rfl, rfl⟩⟩
  requests := rfl
  connRequests d := Arena.proj_cell_modify hf c d
  faults := rfl

theorem settles_signal (w : World) (s : ChannelSignal) : Settles w (w.signal s) :=
  .of_eq rfl rfl rfl rfl rfl rfl rfl

theorem settles_sendTo (w : World) (p : PortId) (data : ByteString) (addr : SocketAddress) :
    Settles w (w.sendTo p data addr) := .of_eq rfl rfl rfl rfl rfl rfl rfl

/-! ## The channel -/

theorem settles_updateState (w : World) : Settles w w.updateState := by
  refine across_updateState ?_ ?_ ?_ ?_ w <;> intros <;> exact .of_eq rfl rfl rfl rfl rfl rfl rfl

theorem settles_setSelected (w : World) (conn : Option ConnId) (value : Bool) :
    Settles w (w.setSelected conn value) :=
  across_setSelected (fun w c ↦ settles_modifyConn w c fun _ ↦ rfl) w conn

/-- Switching *to* a listed connection updates both copies. -/
theorem settles_switchSelectedConnection (hc : c ∈ w.controller.connections) :
    Settles w (w.switchSelectedConnection (some c)) := by
  have h₁ := settles_setSelected
    { w with channel := { w.channel with selectedConnection := some c } }
    w.channel.selectedConnection false
  have h₂ := h₁.trans (settles_setSelected _ (some c) true)
  rw [switchSelectedConnection]
  refine { h₂ with selection := .inr ⟨c, hc, rfl, ?_⟩ }
  -- `set_selected` does not touch the channel
  rcases w.channel.selectedConnection with _ | s <;> rfl

theorem settles_sortConnections (w : World) : Settles w w.sortConnections where
  toSameShape := ⟨rfl, rfl, rfl, StableSort.perm_stableSort _ _, .inl ⟨rfl, rfl⟩⟩
  requests := rfl
  connRequests _ := rfl
  faults := rfl

theorem head_of_connectionToSwitchTo {t : ConnId} (h : w.connectionToSwitchTo = some t) :
    w.controller.connections.head? = some t := by
  rw [connectionToSwitchTo] at h
  split_ifs at h
  split at h
  · exact h
  · cases h
  · next heq =>
    split_ifs at h
    rw [heq]
    exact h

theorem settles_sortConnectionsAndUpdateState (w : World) (now : ℤ) :
    Settles w (w.sortConnectionsAndUpdateState now) := by
  refine across_sortConnectionsAndUpdateState (settles_sortConnections w) (fun t ht ↦ ?_)
    settles_updateState fun w ↦ ?_
  · exact settles_switchSelectedConnection (List.mem_of_head? (head_of_connectionToSwitchTo ht))
  · exact across_maybeStartPinging fun _ ↦ .of_eq rfl rfl rfl rfl rfl rfl rfl

/-! ## The connections -/

theorem settles_setConnState (w : World) (c : ConnId) (state : IceCandidatePairState) :
    Settles w (w.setConnState c state) := settles_modifyConn w c fun _ ↦ rfl

theorem settles_setWriteState (w : World) (c : ConnId) (state : WriteState) (now : ℤ) :
    Settles w (w.setWriteState c state now) :=
  across_setWriteState (settles_modifyConn w c fun _ ↦ rfl)
    fun w ↦ settles_sortConnectionsAndUpdateState w now

theorem settles_updateReceiving (w : World) (c : ConnId) (now : ℤ) :
    Settles w (w.updateReceiving c now) :=
  across_updateReceiving (fun _ ↦ settles_modifyConn w c fun _ ↦ rfl)
    fun w ↦ settles_sortConnectionsAndUpdateState w now

theorem settles_receivedPingResponse (env : IceEnv) (w : World) (c : ConnId) (rtt now : ℤ) :
    Settles w (w.receivedPingResponse env c rtt now) :=
  across_receivedPingResponse (settles_modifyConn w c fun _ ↦ rfl)
    (fun w ↦ settles_updateReceiving w c now) (fun w ↦ settles_setWriteState w c .writable now)
    fun w ↦ settles_setConnState w c .succeeded

theorem settles_updateConnState (w : World) (c : ConnId) (now : ℤ) :
    Settles w (w.updateConnState c now) :=
  across_updateConnState (fun _ ↦ settles_setWriteState w c .writeUnreliable now)
    (fun w ↦ settles_setWriteState w c .writeTimeout now)
    fun w ↦ settles_updateReceiving w c now

/-! ## The ports and the remaining events -/

theorem settles_sendBindingErrorResponse (env : IceEnv) (w : World) (p : PortId)
    (msg : StunMessage) (addr : SocketAddress) (errCode : ℤ) (reason : ByteString) :
    Settles w (w.sendBindingErrorResponse env p msg addr errCode reason) :=
  across_sendBindingErrorResponse (fun _ ↦ settles_sendTo w _ _ _) msg errCode reason

theorem settles_handleStunBindingRequest (env : IceEnv) (w : World) (c : ConnId)
    (msg : StunMessage) :
    Settles w (w.handleStunBindingRequest env c msg) :=
  across_handleStunBindingRequest (settles_sendTo w) c msg

theorem settles_setRemoteIceParams (w : World) (iceParams : IceParameters) (now : ℤ) :
    Settles w (w.setRemoteIceParams iceParams now) := by
  have hone (x : IceConnection) : (x.maybeSetRemoteIceParams iceParams).requests = x.requests := by
    rw [IceConnection.maybeSetRemoteIceParams]
    split_ifs <;> rfl
  exact across_setRemoteIceParams (.of_eq rfl rfl rfl rfl rfl rfl rfl)
    (fun w c ↦ settles_modifyConn w c hone) fun w ↦ settles_sortConnectionsAndUpdateState w now

theorem settles_updateConnectionStates (w : World) (now : ℤ) :
    Settles w (w.updateConnectionStates now) :=
  across_foldl (fun w c ↦ settles_updateConnState w c now) _ w

theorem settles_selectConnectionToPing (env : IceEnv) (w : World) (lastPingSentMs now : ℤ) :
    Settles w (w.selectConnectionToPing env lastPingSentMs now).1 :=
  across_selectConnectionToPing (.of_eq rfl rfl rfl rfl rfl rfl rfl) lastPingSentMs

theorem settles_markConnectionPinged (env : IceEnv) (w : World) (c : ConnId) :
    Settles w (w.markConnectionPinged env c) :=
  across_ite (fun _ ↦ .refl w) fun _ ↦ .of_eq rfl rfl rfl rfl rfl rfl rfl

theorem settles_setPingInterval (w : World) (pingInterval : ℤ) :
    Settles w (w.setPingInterval pingInterval) :=
  across_setPingInterval (fun _ _ ↦ .of_eq rfl rfl rfl rfl rfl rfl rfl) pingInterval

theorem settles_sendPacket (w : World) (data : ByteString) : Settles w (w.sendPacket data) :=
  across_sendPacket (settles_sendTo w) data

end World

end XrtcServer
