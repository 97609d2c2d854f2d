import XrtcServer.Ice.ChannelState
import XrtcServer.Ice.Consent
import XrtcServer.Ice.Selection

/-!
# The first connection that is answered

As long as the controller has no selection, no connection can send: the first one that can is the
best of the list, and is chosen at once. So whatever has happened before, the first success response
to an outstanding ping makes its connection the selected one in both places
(`selectedFirst_of_answersPing`).
-/

namespace XrtcServer

open EventRun ByteString

namespace World

variable {env : IceEnv} {w w' : World} {c : ConnId} {e : IceEvent} {now : ℤ}

/-! ## What a step leaves -/

/-- The controller lists every connection that is alive. -/
def Listed (w : World) : Prop := ∀ c, w.conns.live c = true → c ∈ w.controller.connections

theorem SameShape.listed (hs : SameShape w w') (h : Listed w) : Listed w' := by
  intro c hc
  rw [hs.live] at hc
  exact hs.connections.mem_iff.mpr (h c hc)

theorem Listed.step (h : Listed w) (hw : WorldInv w) (e : IceEvent) : Listed (w.step env e) := by
  cases (stepOutcome_step env hw.owned e).1 with
  | kept hs => exact hs.listed h
  | created hs =>
    refine hs.listed fun d hd ↦ ?_
    rcases Arena.live_alloc_iff.mp hd with rfl | hd
    · exact List.mem_append_right _ (List.mem_singleton_self _)
    · exact List.mem_append_left _ (h d hd)
  | failed c now _ honly =>
    refine honly.sameShape.listed fun d hd ↦ ?_
    obtain ⟨hdc, hd⟩ := live_withoutConn_iff.mp hd
    exact (perm_connections_withoutConn w c now).mem_iff.mpr
      ((List.mem_erase_of_ne hdc).mpr (h d hd))

/-- No connection is selected, and none can send. -/
structure NoneSelected (w : World) : Prop where
  controller : w.controller.selectedConnection = none
  channel : w.channel.selectedConnection = none
  canSend : ∀ c, ¬CanSend w.conns c

/-- A selection never goes without another one taking its place in the controller. -/
theorem SameShape.selection_none (hs : SameShape w w')
    (h : w'.controller.selectedConnection = none) :
    w.controller.selectedConnection = none ∧
      w'.channel.selectedConnection = w.channel.selectedConnection := by
  rcases hs.selection with ⟨hcontroller, hchannel⟩ | ⟨t, -, ht, -⟩
  · exact ⟨hcontroller ▸ h, hchannel⟩
  · rw [h] at ht
    cases ht

theorem selection_none_of_step (hw : WorldInv w)
    (hchannel : w.controller.selectedConnection = none → w.channel.selectedConnection = none)
    (h : (w.step env e).controller.selectedConnection = none) :
    w.controller.selectedConnection = none ∧
      (w.step env e).channel.selectedConnection = none := by
  cases (stepOutcome_step env hw.owned e).1 with
  | kept hs | created hs =>
    obtain ⟨hbefore, hafter⟩ := hs.selection_none h
    exact ⟨hbefore, hafter.trans (hchannel hbefore)⟩
  | failed c now _ honly =>
    rw [honly.controller] at h
    rw [honly.channel]
    by_cases hsel : w.channel.selectedConnection = some c
    · rw [withoutConn_of_selected hsel] at h ⊢
      obtain ⟨-, hcontroller, hnone⟩ := unselected_containers w c
      obtain ⟨hbefore, hafter⟩ :=
        (settles_sortConnectionsAndUpdateState (w.unselected c) now).selection_none h
      exact ⟨hcontroller ▸ hbefore, hafter.trans hnone⟩
    · obtain ⟨hcontroller, hafter⟩ := withoutConn_of_not_selected hsel now
      rw [hcontroller] at h
      exact ⟨h, hafter.trans (hchannel h)⟩

/-! ## The answer

Until the first answer no connection can send, so no sort can select one. The answer makes one
connection able to send, and the sort that follows in the same call has one candidate only: the
margin of ten milliseconds plays no part, since there is no selection to be beaten. -/

theorem selection_sort_of_not_canSend (h : ∀ d ∈ w.controller.connections, ¬CanSend w.conns d)
    (now : ℤ) :
    (w.sortConnectionsAndUpdateState now).controller.selectedConnection =
        w.controller.selectedConnection ∧
      (w.sortConnectionsAndUpdateState now).channel.selectedConnection =
        w.channel.selectedConnection := by
  have hnone : w.sortAndSwitchConnection.2 = none := by
    rw [Option.eq_none_iff_forall_ne_some]
    intro t ht
    obtain ⟨hhead, hready, -⟩ := sortAndSwitchConnection_snd_iff.mp ht
    exact h t (isBest_head hhead).1 ((readyToSend_iff w t).mp hready)
  obtain ⟨hchannel, hcontroller⟩ := selection_sortConnectionsAndUpdateState w now
  rw [hnone, Option.none_or] at hchannel hcontroller
  exact ⟨hcontroller, hchannel⟩

theorem selection_sort_of_canSend (hcontroller : w.controller.selectedConnection = none)
    (hc : c ∈ w.controller.connections) (hcan : CanSend w.conns c)
    (honly : ∀ d ∈ w.controller.connections, CanSend w.conns d → d = c) (now : ℤ) :
    (w.sortConnectionsAndUpdateState now).controller.selectedConnection = some c ∧
      (w.sortConnectionsAndUpdateState now).channel.selectedConnection = some c := by
  have hready : w.readyToSend (some c) = true := (readyToSend_iff w c).mpr hcan
  rcases hhead : (StableSort.stableSort w.goesBefore w.controller.connections).head? with _ | t
  · rw [List.head?_eq_none_iff, StableSort.stableSort_eq_nil] at hhead
    rw [hhead] at hc
    cases hc
  have hbest := isBest_head hhead
  have hreadyt := hbest.readyToSend hc hready
  obtain rfl : t = c := honly t hbest.1 ((readyToSend_iff w t).mp hreadyt)
  have hswitch : w.sortAndSwitchConnection.2 = some t :=
    sortAndSwitchConnection_snd_iff.mpr ⟨hhead, hready, fun s hs ↦ by
      rw [hcontroller] at hs
      cases hs⟩
  obtain ⟨hchannel', hcontroller'⟩ := selection_sortConnectionsAndUpdateState w now
  rw [hswitch, Option.some_or] at hchannel' hcontroller'
  exact ⟨hcontroller', hchannel'⟩

theorem not_canSend_sort (h : ∀ d, ¬CanSend w.conns d) (now : ℤ) (d : ConnId) :
    ¬CanSend (w.sortConnectionsAndUpdateState now).conns d := by
  have hwrite := proj_conn_sortConnectionsAndUpdateState (p := fun x ↦ x.writeState.toNat)
    (fun _ _ ↦ rfl) w d now
  rw [CanSend, ← conn, hwrite]
  exact h d

theorem NoneSelected.modifyConn (h : w.NoneSelected) (c : ConnId)
    {f : IceConnection → IceConnection} (hf : ∀ x, (f x).writeState = x.writeState) :
    (w.modifyConn c f).NoneSelected where
  controller := h.controller
  channel := h.channel
  canSend d := by
    have hwrite := Arena.proj_cell_modify (a := w.conns) (p := fun x ↦ x.writeState.toNat)
      (fun x ↦ congrArg WriteState.toNat (hf x)) c d
    rw [CanSend, World.modifyConn, hwrite]
    exact h.canSend d

theorem NoneSelected.updateReceiving (h : w.NoneSelected) (c : ConnId) (now : ℤ) :
    (w.updateReceiving c now).NoneSelected := by
  rw [World.updateReceiving]
  by_cases hsame : (w.conn c).receiving =
      if (w.conn c).lastPingSent < (w.conn c).lastPingResponseReceived then true
      else (w.conn c).lastReceived > 0 &&
        now < (w.conn c).lastReceived + IceConnection.receivingTimeout
  · rw [if_pos hsame]
    exact h
  · rw [if_neg hsame]
    have hflag := h.modifyConn c (f := fun x ↦ { x with
      receiving := if (w.conn c).lastPingSent < (w.conn c).lastPingResponseReceived then true
        else (w.conn c).lastReceived > 0 &&
          now < (w.conn c).lastReceived + IceConnection.receivingTimeout }) fun _ ↦ rfl
    obtain ⟨hcontroller, hchannel⟩ := selection_sort_of_not_canSend
      (fun d _ ↦ hflag.canSend d) now
    exact ⟨hcontroller.trans h.controller, hchannel.trans h.channel,
      not_canSend_sort hflag.canSend now⟩

/-- The first connection to become writable is selected in both places. -/
structure SelectedFirst (w : World) (c : ConnId) : Prop where
  controller : w.controller.selectedConnection = some c
  channel : w.channel.selectedConnection = some c
  writable : (w.conn c).writeState = .writable
  listed : c ∈ w.controller.connections

theorem NoneSelected.setWriteState (h : w.NoneSelected) (hc : c ∈ w.controller.connections)
    (now : ℤ) : (w.setWriteState c .writable now).SelectedFirst c := by
  have hnot : (w.conn c).writeState ≠ .writable := by
    intro heq
    refine h.canSend c ?_
    rw [CanSend, ← conn, heq]
    decide
  have hself : ((w.modifyConn c fun x ↦ { x with writeState := .writable }).conn c).writeState =
      .writable := by
    rw [conn, World.modifyConn, Arena.cell_modify_self]
  have hcan : CanSend (w.modifyConn c fun x ↦ { x with writeState := .writable }).conns c := by
    rw [CanSend, ← conn, hself]
    decide
  have honly : ∀ d ∈ w.controller.connections,
      CanSend (w.modifyConn c fun x ↦ { x with writeState := .writable }).conns d → d = c := by
    intro d _ hd
    by_contra hdc
    rw [CanSend, World.modifyConn, Arena.cell_modify_of_ne hdc] at hd
    exact h.canSend d hd
  obtain ⟨hcontroller, hchannel⟩ := selection_sort_of_canSend
    (w := w.modifyConn c fun x ↦ { x with writeState := .writable }) h.controller hc hcan honly now
  have hlisted := (settles_sortConnectionsAndUpdateState
    (w.modifyConn c fun x ↦ { x with writeState := .writable }) now).connections.mem_iff.mpr hc
  rw [World.setWriteState, if_pos hnot]
  refine ⟨hcontroller, hchannel, ?_, hlisted⟩
  rw [proj_conn_sortConnectionsAndUpdateState (p := IceConnection.writeState) (fun _ _ ↦ rfl),
    hself]

theorem NoneSelected.receivedPingResponse (h : w.NoneSelected) (hc : c ∈ w.controller.connections)
    (rtt now : ℤ) : (w.receivedPingResponse env c rtt now).SelectedFirst c := by
  rw [World.receivedPingResponse]
  have hsample := h.modifyConn c (f := fun x ↦ { x with
    rtt := if x.rttSamples > 0 then env.getNextMovingAverage x.rtt rtt rttRatio else rtt
    rttSamples := x.rttSamples + 1
    lastPingResponseReceived := now
    pingsSinceLastResponse := [] }) fun _ ↦ rfl
  have hreceiving := hsample.updateReceiving c now
  have hlisted := (settles_updateReceiving (w.modifyConn c fun x ↦ { x with
    rtt := if x.rttSamples > 0 then env.getNextMovingAverage x.rtt rtt rttRatio else rtt
    rttSamples := x.rttSamples + 1
    lastPingResponseReceived := now
    pingsSinceLastResponse := [] }) c now).connections.mem_iff.mpr hc
  have hfirst := hreceiving.setWriteState hlisted now
  refine ⟨hfirst.controller, hfirst.channel, ?_, hfirst.listed⟩
  exact (Arena.proj_cell_modify (p := IceConnection.writeState)
    (f := fun x ↦ { x with state := .succeeded }) (fun _ ↦ rfl) c c).trans hfirst.writable

theorem SelectedFirst.deleteRequest (h : w.SelectedFirst c) {r : RequestId} {d : ConnId}
    {id : ByteString} (hr : Owned w d id r) (hd : w.conns.live d = true) :
    (w.deleteRequest r).SelectedFirst c := by
  have honly := onlyRequests_deleteRequest w r
  refine ⟨?_, ?_, ?_, ?_⟩
  · rw [honly.controller, h.controller]
  · rw [honly.channel, h.channel]
  · rw [hr.deleteRequest_eq hd]
    exact (Arena.proj_cell_modify (p := IceConnection.writeState)
      (f := fun x ↦ { x with requests := x.requests.erase id }) (fun _ ↦ rfl) d c).trans h.writable
  · rw [honly.controller]
    exact h.listed

/-- The event is an authenticated success response to an outstanding ping of `c`. -/
def AnswersPing (env : IceEnv) (w : World) (e : IceEvent) (c : ConnId) : Prop :=
  ∃ msg, w.Authenticated env e c msg ∧ msg.type = stunBindingResponse ∧
    msg.transactionId ∈ (w.conn c).requests

theorem selectedFirst_of_answersPing (h : w.NoneSelected) (hw : WorldInv w) (hlisted : w.Listed)
    (hc : w.AnswersPing env e c) : (w.step env e).SelectedFirst c := by
  obtain ⟨msg, ⟨⟨p, addr, data, ts, now, remoteUfrag, rfl, hconn, hverdict⟩, hlive, hok⟩, htype,
    hid⟩ := hc
  have hstep : w.step env (.datagram p addr data ts now) = (w.checkResponse env c
      (msg.validateMessageIntegrity env (w.conn c).remoteCandidate.password) now).1 := by
    rw [step, onReadPacket, hconn]
    dsimp only
    rw [onConnReadPacket, if_pos hlive, hverdict]
    dsimp only
    rw [onStunMessage]
    dsimp only
    rw [htype, if_neg (by decide), if_pos (.inl rfl), if_pos hok]
  rw [hstep]
  have houtcome := responseOutcome_checkResponse env now
    (msg.validateMessageIntegrity env (w.conn c).remoteCandidate.password) hw.owned hlive
  generalize (w.checkResponse env c
    (msg.validateMessageIntegrity env (w.conn c).remoteCandidate.password) now).1 = w'
    at houtcome ⊢
  cases houtcome with
  | unknown hl => exact absurd hid (AList.lookup_eq_none.mp hl)
  | success r hl _ =>
    have hs := settles_receivedPingResponse env w c (w.elapsed r now) now
    exact (h.receivedPingResponse (hlisted c hlive) _ now).deleteRequest
      ((hw.owned c hlive _ r hl).congr hs.requests) (by rw [hs.live, hlive])
  | dropped r hl hne => exact absurd htype hne
  | fatal r hl hfatal => exact absurd htype hfatal.type_ne

/-! ## Runs -/

/-- What holds until the first answer: the connections that are alive are listed, and as long as
none of them is selected none can send. -/
structure FirstInv (w : World) : Prop where
  listed : w.Listed
  noneSelected : w.controller.selectedConnection = none → w.NoneSelected

theorem FirstInv.step (h : w.FirstInv) (hw : WorldInv w) (e : IceEvent) :
    (w.step env e).FirstInv where
  listed := h.listed.step hw e
  noneSelected hnone := by
    obtain ⟨hbefore, hchannel⟩ :=
      selection_none_of_step hw (fun hnone ↦ (h.noneSelected hnone).channel) hnone
    have hw' := h.noneSelected hbefore
    refine ⟨hnone, hchannel, fun c hc ↦ ?_⟩
    rcases (traced_step env hw.owned e).canSend c hc with hc | hc
    · exact hw'.canSend c hc
    · have hfirst := (selectedFirst_of_answersPing hw' hw h.listed hc).controller
      rw [hnone] at hfirst
      cases hfirst

theorem firstInv_run (env : IceEnv) (component : IceCandidateComponent)
    (port : PortId → IceParameters × Candidate) (es : List IceEvent) :
    (run env component port es).FirstInv := by
  induction es using List.reverseRecOn with
  | nil =>
    refine ⟨fun c hc ↦ (by cases hc), fun _ ↦ ⟨rfl, rfl, fun c hc ↦ ?_⟩⟩
    exact absurd hc (by decide : ¬2 ≤ 1)
  | append_singleton es e ih =>
    rw [run, exec_append_singleton]
    exact ih.step (worldInv_run env component port es) e

end World

end XrtcServer
