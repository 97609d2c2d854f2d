import XrtcServer.Ice.UDPPort
import Mathlib.Order.Defs.Unbundled

/-!
# Who calls whom

Much of what is to be said of the handlers is that something is left alone, or changes only in one
way: no connection comes or goes, nothing is sent, no stamp is written. Such a statement is a
relation between the state before and the state after, reflexive and transitive, and it is proved by
walking through the functions from the assignments up to the events.

The walk is the same for all of them, and is here. For a relation `R` and a function of the program,
the rule `across_f` says that `R` holds across `f` if it holds across what `f` calls and assigns. So
the body of a function is taken apart once, and a statement about all handlers has only to say where
it is about something.

## What a rule asks for

A call is made in a state that the rule does not describe, so most hypotheses are for every state.
Where a function looks before it calls, and some statement needs what it saw, the hypothesis may use
it: a connection that turns unreliable was writable, and a request is only made by a connection that
is alive.
-/

namespace XrtcServer

namespace World

variable {R : World → World → Prop} {env : IceEnv} {w : World} {c : ConnId} {now : ℤ}

theorem across_ite {p : Prop} [Decidable p] {a b : World} (ha : p → R w a) (hb : ¬p → R w b) :
    R w (if p then a else b) := by
  split_ifs with h
  · exact ha h
  · exact hb h

variable [IsPreorder World R]

theorem across_foldl {f : World → ConnId → World} (hf : ∀ w c, R w (f w c)) (cs : List ConnId)
    (w : World) : R w (cs.foldl f w) := by
  induction cs generalizing w with
  | nil => exact refl_of R w
  | cons c cs ih => exact trans_of R (hf w c) (ih (f w c))

/-! ## The channel

Here the signals come together: a change of a connection ends in a sort, and a sort in a switch and
an update. A relation that holds across these three holds across whatever a connection may cause. -/

theorem across_updateState
    (hbeen : ∀ w : World, R w { w with channel := { w.channel with hasBeenConnection := true } })
    (hwritable : ∀ (w : World) (writable : Bool),
      R w ({ w with channel := { w.channel with writable } }.signal .writableState))
    (hreceiving : ∀ (w : World) (receiving : Bool),
      R w ({ w with channel := { w.channel with receiving } }.signal .receivingState))
    (hstate : ∀ w : World, R w (({ w with
      channel := { w.channel with state := w.computeIceTransportState } } : World).signal
        .iceStateChanged))
    (w : World) : R w w.updateState := by
  have hsetWritable (w : World) (writable : Bool) : R w (w.setWritable writable) := by
    refine across_ite (fun _ ↦ refl_of R w) fun _ ↦ ?_
    exact trans_of R (across_ite (fun _ ↦ hbeen w) fun _ ↦ refl_of R w) (hwritable _ writable)
  have hsetReceiving (w : World) (receiving : Bool) : R w (w.setReceiving receiving) :=
    across_ite (fun _ ↦ refl_of R w) fun _ ↦ hreceiving w receiving
  have hset (w : World) : R w (w.setIceTransportState w.computeIceTransportState) :=
    across_ite (fun _ ↦ refl_of R w) fun _ ↦ hstate w
  exact trans_of R (trans_of R (hsetWritable w _) (hsetReceiving _ _)) (hset _)

theorem across_maybeStartPinging
    (h : ∀ (pingTimer : Option ℤ), R w { w with
      pingTimer, channel := { w.channel with startPinging := true } }) :
    R w (w.maybeStartPinging now) :=
  across_ite (fun _ ↦ refl_of R w) fun _ ↦ across_ite (fun _ ↦ h _) fun _ ↦ refl_of R w

theorem across_setSelected {value : Bool}
    (h : ∀ (w : World) (c : ConnId), R w (w.modifyConn c fun x ↦ { x with selected := value }))
    (w : World) (conn : Option ConnId) : R w (w.setSelected conn value) := by
  rcases conn with _ | c
  · exact refl_of R w
  · exact h w c

theorem across_switchSelectedConnection {conn : Option ConnId}
    (hchannel : R w { w with channel := { w.channel with selectedConnection := conn } })
    (hselected : ∀ (w : World) (c : ConnId) (value : Bool),
      R w (w.modifyConn c fun x ↦ { x with selected := value }))
    (hcontroller : ∀ w : World, conn.isSome = true → R w (w.setSelectedConnection conn)) :
    R w (w.switchSelectedConnection conn) := by
  have hold := trans_of R hchannel
    (across_setSelected (fun w c ↦ hselected w c false) _ w.channel.selectedConnection)
  rcases conn with _ | c
  · exact hold
  · refine trans_of R (trans_of R hold ?_) (hcontroller _ rfl)
    exact across_setSelected (fun w c ↦ hselected w c true) _ (some c)

theorem across_sortConnectionsAndUpdateState (hsort : R w w.sortConnections)
    (hswitch : ∀ t, w.sortConnections.connectionToSwitchTo = some t →
      R w.sortConnections (w.sortConnections.switchSelectedConnection (some t)))
    (hupdate : ∀ w : World, R w w.updateState)
    (hstart : ∀ w : World, R w (w.maybeStartPinging now)) :
    R w (w.sortConnectionsAndUpdateState now) := by
  rw [sortConnectionsAndUpdateState, sortAndSwitchConnection]
  dsimp only
  refine trans_of R (trans_of R (trans_of R hsort ?_) (hupdate _)) (hstart _)
  rcases h : w.sortConnections.connectionToSwitchTo with _ | t
  · exact refl_of R _
  · exact hswitch t h

theorem across_onConnectionDestroyed (hremove : ∀ w : World, R w (w.removeFromController c))
    (hswitch : ∀ w : World, R w (w.switchSelectedConnection none))
    (hsort : ∀ w : World, R w (w.sortConnectionsAndUpdateState now))
    (hupdate : ∀ w : World, R w w.updateState) (w : World) :
    R w (w.onConnectionDestroyed c now) := by
  rw [onConnectionDestroyed]
  refine trans_of R (hremove w) (across_ite (fun _ ↦ ?_) fun _ ↦ hupdate _)
  exact trans_of R (hswitch _) (hsort _)

/-! ## The connections -/

theorem across_setWriteState {state : WriteState}
    (hassign : R w (w.modifyConn c fun x ↦ { x with writeState := state }))
    (hsort : ∀ w : World, R w (w.sortConnectionsAndUpdateState now)) :
    R w (w.setWriteState c state now) :=
  across_ite (fun _ ↦ trans_of R hassign (hsort _)) fun _ ↦ hassign

theorem across_updateReceiving
    (hassign : ∀ receiving, R w (w.modifyConn c fun x ↦ { x with receiving }))
    (hsort : ∀ w : World, R w (w.sortConnectionsAndUpdateState now)) :
    R w (w.updateReceiving c now) :=
  across_ite (fun _ ↦ refl_of R w) fun _ ↦ trans_of R (hassign _) (hsort _)

theorem across_receivedPingResponse {rtt : ℤ}
    (hassign : R w (w.modifyConn c fun x ↦ { x with
      rtt := if x.rttSamples > 0 then env.getNextMovingAverage x.rtt rtt rttRatio else rtt
      rttSamples := x.rttSamples + 1
      lastPingResponseReceived := now
      pingsSinceLastResponse := [] }))
    (hreceiving : ∀ w : World, R w (w.updateReceiving c now))
    (hwrite : ∀ w : World, R w (w.setWriteState c .writable now))
    (hstate : ∀ w : World, R w (w.setConnState c .succeeded)) :
    R w (w.receivedPingResponse env c rtt now) :=
  trans_of R (trans_of R (trans_of R hassign (hreceiving _)) (hwrite _)) (hstate _)

theorem across_updateConnState
    (hunreliable : (w.conn c).writeState = .writable → R w (w.setWriteState c .writeUnreliable now))
    (htimeout : ∀ w : World, R w (w.setWriteState c .writeTimeout now))
    (hreceiving : ∀ w : World, R w (w.updateReceiving c now)) : R w (w.updateConnState c now) := by
  rw [updateConnState]
  refine trans_of R ?_ (hreceiving _)
  refine trans_of R ?_ (across_ite (fun _ ↦ htimeout _) fun _ ↦ refl_of R _)
  exact across_ite (fun h ↦ hunreliable h.1) fun _ ↦ refl_of R w

/-! ## Requests and their manager

A connection that fails is destroyed in the middle of `check_response`, with its requests. The walk
goes through that branch as through all others: an access to what is gone is a `fault`, and a
relation has to hold across that as well. -/

theorem across_useRequest {r : RequestId} {f : Fault} (hfault : R w (w.fault f)) :
    R w (w.useRequest r f) := across_ite (fun _ ↦ refl_of R w) fun _ ↦ hfault

theorem across_deleteRequest (hfault : ∀ (w : World) (f : Fault), R w (w.fault f))
    (herase : ∀ (w : World) (c : ConnId) (id : ByteString),
      R w (w.modifyConn c fun x ↦ { x with requests := x.requests.erase id }))
    (hfree : ∀ (w : World) (r : RequestId), R w { w with requests := w.requests.free r })
    (w : World) (r : RequestId) : R w (w.deleteRequest r) := by
  have hleave (w : World) : R w (w.leaveManager r) := by
    rw [leaveManager]
    split
    · exact refl_of R w
    · exact across_ite (fun _ ↦ herase w _ _) fun _ ↦ hfault w _
  exact trans_of R (trans_of R (across_useRequest (hfault w _)) (hleave _)) (hfree _ r)

theorem across_destroyRequests
    (herase : ∀ (w : World) (id : ByteString),
      R w (w.modifyConn c fun x ↦ { x with requests := x.requests.erase id }))
    (hdelete : ∀ (w : World) (r : RequestId), R w (w.deleteRequest r)) (n : ℕ) (w : World) :
    R w (destroyRequests n w c) := by
  induction n generalizing w with
  | zero => exact refl_of R w
  | succ n ih =>
    rw [destroyRequests]
    split
    · exact refl_of R w
    · exact trans_of R (trans_of R (herase w _) (hdelete _ _)) (ih _)

theorem across_failAndDestroy (hstate : ∀ w : World, R w (w.setConnState c .failed))
    (hdestroyed : ∀ w : World, R w (w.onConnectionDestroyed c now))
    (hrequests : ∀ (n : ℕ) (w : World), R w (destroyRequests n w c))
    (hfree : ∀ w : World, R w { w with conns := w.conns.free c }) (w : World) :
    R w (w.failAndDestroy c now) := by
  rw [failAndDestroy, destroy, deleteConnection]
  exact trans_of R (trans_of R (hstate w) (hdestroyed _)) (trans_of R (hrequests _ _) (hfree _))

theorem across_checkResponse (hfault : ∀ (w : World) (f : Fault), R w (w.fault f))
    (hresponse : ∀ (w : World) (c : ConnId) (rtt : ℤ), R w (w.receivedPingResponse env c rtt now))
    (hfail : ∀ (w : World) (c : ConnId), R w (w.failAndDestroy c now))
    (hdelete : ∀ (w : World) (r : RequestId), R w (w.deleteRequest r)) (w : World) (c : ConnId)
    (msg : StunMessage) : R w (w.checkResponse env c msg now).1 := by
  rw [checkResponse]
  split
  · exact refl_of R w
  next r _ =>
  have huse : R w (w.useRequest r (.requestCalled r)) := across_useRequest (hfault w _)
  dsimp only
  split_ifs
  · exact trans_of R (trans_of R huse (hresponse _ _ _)) (hdelete _ r)
  · refine trans_of R (trans_of R huse ?_) (hdelete _ r)
    exact across_ite (fun _ ↦ refl_of R _) fun _ ↦ hfail _ _
  · exact hdelete w r

theorem across_sendRequest {id : ByteString}
    (halloc : ∀ (w : World) (request : StunRequest),
      R w { w with requests := w.requests.alloc request })
    (hinsert : ∀ (w : World) (r : RequestId),
      R w (w.modifyConn c fun x ↦ { x with requests := x.requests.insert id r }))
    (hsend : ∀ (w : World) (p : PortId) (data : ByteString) (addr : SocketAddress),
      R w (w.sendTo p data addr)) (w : World) : R w (w.sendRequest env c id now) := by
  rw [sendRequest]
  split
  · exact trans_of R (halloc w _) (hinsert _ _)
  · exact trans_of R (trans_of R (halloc w _) (hinsert _ _)) (hsend _ _ _ _)

theorem across_ping {id : ByteString}
    (hassign : R w (w.modifyConn c fun x ↦ { x with
      lastPingSent := now
      pingsSinceLastResponse := x.pingsSinceLastResponse ++ [⟨id, now⟩] }))
    (hrequest : w.conns.live c = true → ∀ w : World, R w (w.sendRequest env c id now))
    (hstate : ∀ w : World, R w (w.setConnState c .inProgress))
    (hcount : ∀ w : World,
      R w (w.modifyConn c fun x ↦ { x with numPingsSent := x.numPingsSent + 1 }))
    (hfault : R w (w.fault (.connectionCalled c))) : R w (w.ping env c id now) := by
  refine across_ite (fun hlive ↦ ?_) fun _ ↦ hfault
  exact trans_of R (trans_of R (trans_of R hassign (hrequest hlive _)) (hstate _)) (hcount _)

/-! ## The ports -/

theorem across_sendBindingErrorResponse {p : PortId} {addr : SocketAddress}
    (hsend : ∀ data, R w (w.sendTo p data addr)) (msg : StunMessage) (errCode : ℤ)
    (reason : ByteString) : R w (w.sendBindingErrorResponse env p msg addr errCode reason) := by
  rw [sendBindingErrorResponse]
  split
  · exact refl_of R w
  · exact hsend _

theorem across_handleStunBindingRequest (hsend : ∀ p data addr, R w (w.sendTo p data addr))
    (c : ConnId) (msg : StunMessage) : R w (w.handleStunBindingRequest env c msg) := by
  rw [handleStunBindingRequest]
  refine across_ite (fun _ ↦ refl_of R w) fun _ ↦ ?_
  dsimp only
  split
  · exact refl_of R w
  · exact hsend _ _ _

theorem across_onStunMessage {msg : StunMessage}
    (hsend : ∀ p data addr, R w (w.sendTo p data addr))
    (hresponse :
      (msg.validateMessageIntegrity env (w.conn c).remoteCandidate.password).integrity =
        .integrityOk → R w (w.checkResponse env c
          (msg.validateMessageIntegrity env (w.conn c).remoteCandidate.password) now).1)
    (remoteUfrag : ByteString) : R w (w.onStunMessage env c msg remoteUfrag now) := by
  rw [onStunMessage]
  dsimp only
  split_ifs with _ _ _ hok
  · exact across_sendBindingErrorResponse (fun _ ↦ hsend _ _ _) ..
  · exact across_handleStunBindingRequest hsend c msg
  · exact hresponse hok
  · exact refl_of R w
  · exact refl_of R w

theorem across_onConnReadPacket {data : ByteString} {ts : ℤ}
    (hsend : ∀ p data addr, R w (w.sendTo p data addr))
    (hsignal : R w (w.signal (.readPacket data ts)))
    (hmessage : ∀ msg remoteUfrag, w.conns.live c = true →
      w.stunVerdict env (w.conn c).port data = .accepted msg remoteUfrag →
      R w (w.onStunMessage env c msg remoteUfrag now))
    (hfault : R w (w.fault (.connectionCalled c))) :
    R w (w.onConnReadPacket env c data ts now) := by
  refine across_ite (fun hlive ↦ ?_) fun _ ↦ hfault
  rcases hv : w.stunVerdict env (w.conn c).port data with _ | ⟨msg, errCode, reason⟩ |
    ⟨msg, remoteUfrag⟩
  · exact hsignal
  · exact across_sendBindingErrorResponse (fun _ ↦ hsend _ _ _) ..
  · exact hmessage msg remoteUfrag hlive hv

theorem across_onReadPacket {p : PortId} {addr : SocketAddress} {data : ByteString} {ts : ℤ}
    (hknown : ∀ c, w.getConnection p addr = some c → R w (w.onConnReadPacket env c data ts now))
    (hsend : ∀ data, R w (w.sendTo p data addr))
    (hunknown : ∀ msg remoteUfrag, R w (w.onUnknownAddress env p addr msg remoteUfrag now)) :
    R w (w.onReadPacket env p addr data ts now) := by
  rw [onReadPacket]
  rcases hconn : w.getConnection p addr with _ | c
  · dsimp only
    rcases w.stunVerdict env p data with _ | ⟨msg, errCode, reason⟩ | ⟨msg, remoteUfrag⟩
    · exact refl_of R w
    · exact across_sendBindingErrorResponse hsend msg _ reason
    · exact across_ite (fun _ ↦ hunknown msg remoteUfrag) fun _ ↦ refl_of R w
  · exact hknown c hconn

/-! ## The other events -/

theorem across_setRemoteIceParams {iceParams : IceParameters}
    (hchannel : R w { w with channel := { w.channel with remoteIceParams := iceParams } })
    (hone : ∀ (w : World) (c : ConnId),
      R w (w.modifyConn c fun x ↦ x.maybeSetRemoteIceParams iceParams))
    (hsort : ∀ w : World, R w (w.sortConnectionsAndUpdateState now)) :
    R w (w.setRemoteIceParams iceParams now) :=
  trans_of R (trans_of R hchannel (across_foldl hone _ _)) (hsort _)

theorem across_selectConnectionToPing (hrestart : R w (w.restartPings env)) (lastPingSentMs : ℤ) :
    R w (w.selectConnectionToPing env lastPingSentMs now).1 := by
  have hfind : R w (w.findNextPingableConnection env now).1 := by
    rw [findNextPingableConnection]
    split
    · exact refl_of R w
    · exact across_ite (fun _ ↦ refl_of R w) fun _ ↦ hrestart
  have hif (p : Prop) [Decidable p] (a b : World × Option ConnId × ℤ) (ha : R w a.1)
      (hb : R w b.1) : R w (if p then a else b).1 := by
    split_ifs
    · exact ha
    · exact hb
  exact hif _ _ _ hfind (refl_of R w)

theorem across_pingConnection {conn : Option ConnId} {id : ByteString}
    (hchannel : R w { w with channel := { w.channel with lastPingSentMs := now } })
    (hping : ∀ c, conn = some c →
      R { w with channel := { w.channel with lastPingSentMs := now } }
        (World.ping env { w with channel := { w.channel with lastPingSentMs := now } } c id now))
    (hcontroller : ∀ (w : World) (controller : IceController),
      controller.connections = w.controller.connections →
      controller.selectedConnection = w.controller.selectedConnection → R w { w with controller }) :
    R w (w.pingConnection env conn id now) := by
  rcases conn with _ | c
  · exact refl_of R w
  · refine trans_of R (trans_of R hchannel (hping c rfl)) ?_
    exact across_ite (fun _ ↦ refl_of R _) fun _ ↦ hcontroller _ _ rfl rfl

theorem across_setPingInterval
    (h : ∀ (curPingInterval : ℤ) (pingTimer : Option ℤ), R w { w with
      channel := { w.channel with curPingInterval }, pingTimer }) (pingInterval : ℤ) :
    R w (w.setPingInterval pingInterval) :=
  across_ite (fun _ ↦ refl_of R w) fun _ ↦ h _ _

theorem across_sendPacket (hsend : ∀ p data addr, R w (w.sendTo p data addr)) (data : ByteString) :
    R w (w.sendPacket data) := by
  rw [sendPacket]
  split
  · exact refl_of R w
  · exact across_ite (fun _ ↦ hsend _ _ _) fun _ ↦ refl_of R w

end World

end XrtcServer
