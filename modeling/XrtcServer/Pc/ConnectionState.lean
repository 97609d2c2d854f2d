import XrtcServer.Ice.IceAgent
import XrtcServer.Pc.DtlsSrtpTransport
import XrtcServer.Pc.TransportController

/-!
# The state of the connection

`TransportController::_update_state` (`pc/transport_controller.cpp`) sums up the states of the DTLS
transports and of their ICE channels, whenever a transport changes, and whenever the agent says that
its own summary of the channels has changed. A change of a channel that leaves the summary as it is
does not reach the controller, and need not: as long as no channel shows that it is closed, the
state of the controller depends on the channels through the summary only.
-/

namespace XrtcServer

open Census

/-- The state `TransportController::_update_state` computes from those of the DTLS transports and
their ICE channels. -/
def TransportController.computeState (dtls : List DtlsTransportState)
    (ice : List IceTransportState) : PeerConnectionState :=
  let totalConnected := dtls.count .connected + ice.count .connected
  let totalDtlsConnecting := dtls.count .connecting
  let totalFailed := dtls.count .failed + ice.count .failed
  let totalClosed := dtls.count .closed + ice.count .closed
  let totalNew := dtls.count .new + ice.count .new
  let totalIceChecking := ice.count .checking
  let totalIceDisconnected := ice.count .disconnected
  let totalIceCompleted := ice.count .completed
  let totalTransports := dtls.length * 2
  if totalFailed > 0 then .failed
  else if totalIceDisconnected > 0 then .disconnected
  else if totalNew + totalClosed = totalTransports then .new
  else if totalIceChecking + totalDtlsConnecting + totalNew > 0 then .connecting
  else if totalConnected + totalIceCompleted + totalClosed = totalTransports then .connected
  else .new

namespace TransportController

/-- The state of the controller from the summary of the channels. -/
def stateFromIceState (dtls : List DtlsTransportState) (iceState : IceTransportState) :
    PeerConnectionState :=
  if .failed ∈ dtls ∨ iceState = .failed then .failed
  else if iceState = .disconnected then .disconnected
  else if (∀ x ∈ dtls, x = .new ∨ x = .closed) ∧ iceState = .new then .new
  else if .connecting ∈ dtls ∨ .new ∈ dtls ∨ iceState = .new ∨ iceState = .checking then .connecting
  else .connected

variable {dtls : List DtlsTransportState} {ice : List IceTransportState}

theorem computeState_eq_ite (hlen : dtls.length = ice.length) :
    computeState dtls ice =
      if .failed ∈ dtls ∨ .failed ∈ ice then .failed
      else if .disconnected ∈ ice then .disconnected
      else if (∀ x ∈ dtls, x = .new ∨ x = .closed) ∧ (∀ x ∈ ice, x = .new ∨ x = .closed) then .new
      else if (.checking ∈ ice ∨ .connecting ∈ dtls) ∨ .new ∈ dtls ∨ .new ∈ ice then .connecting
      else .connected := by
  have hnew : dtls.count .new + ice.count .new + (dtls.count .closed + ice.count .closed) =
      dtls.length * 2 ↔
      (∀ x ∈ dtls, x = .new ∨ x = .closed) ∧ ∀ x ∈ ice, x = .new ∨ x = .closed := by
    have h := sum_map_count_add_eq [.new, .closed] dtls [.new, .closed] ice (by decide) (by decide)
    simp only [List.map_cons, List.map_nil, List.sum_cons, List.sum_nil, List.mem_cons,
      List.not_mem_nil, or_false] at h
    rw [← h]
    omega
  have hconnected : dtls.count .connected + ice.count .connected + ice.count .completed +
      (dtls.count .closed + ice.count .closed) = dtls.length * 2 ↔
      (∀ x ∈ dtls, x = .connected ∨ x = .closed) ∧
        ∀ x ∈ ice, x = .connected ∨ x = .completed ∨ x = .closed := by
    have h := sum_map_count_add_eq [.connected, .closed] dtls [.connected, .completed, .closed] ice
      (by decide) (by decide)
    simp only [List.map_cons, List.map_nil, List.sum_cons, List.sum_nil, List.mem_cons,
      List.not_mem_nil, or_false] at h
    rw [← h]
    omega
  rw [computeState]
  simp only [hnew, hconnected, Nat.add_pos_iff_pos_or_pos, gt_iff_lt, List.count_pos_iff]
  split_ifs with hfailed hdisconnected _ hconnecting hrest
  all_goals try rfl
  refine absurd ⟨fun x hx ↦ ?_, fun x hx ↦ ?_⟩ hrest
  · cases x with
    | connected => exact .inl rfl
    | closed => exact .inr rfl
    | new => exact absurd (.inr (.inl hx)) hconnecting
    | connecting => exact absurd (.inl (.inr hx)) hconnecting
    | failed => exact absurd (.inl hx) hfailed
  · cases x with
    | connected => exact .inl rfl
    | completed => exact .inr (.inl rfl)
    | closed => exact .inr (.inr rfl)
    | new => exact absurd (.inr (.inr hx)) hconnecting
    | checking => exact absurd (.inl (.inl hx)) hconnecting
    | failed => exact absurd (.inr hx) hfailed
    | disconnected => exact absurd hx hdisconnected

/-- Beside a transport that is under way stands a channel, which is new if no channel is more. -/
theorem new_mem_of_idle (hlen : dtls.length = ice.length) (hclosed : .closed ∉ ice)
    (hnew : ∀ x ∈ ice, x = .new ∨ x = .closed) (hdtls : ¬∀ x ∈ dtls, x = .new ∨ x = .closed) :
    .new ∈ ice := by
  have hne : 0 < dtls.length := by
    refine List.length_pos_iff.mpr fun hnil ↦ hdtls fun x hx ↦ ?_
    rw [hnil] at hx
    cases hx
  obtain ⟨x, hx⟩ := List.exists_mem_of_length_pos (hlen ▸ hne)
  rcases hnew x hx with rfl | rfl
  · exact hx
  · exact absurd hx hclosed

/-- **The summary is enough**, as long as no channel shows that it is closed. -/
theorem computeState_eq_stateFromIceState (hlen : dtls.length = ice.length)
    (hclosed : .closed ∉ ice) :
    computeState dtls ice = stateFromIceState dtls (IceAgent.computeState ice) := by
  rw [computeState_eq_ite hlen, IceAgent.computeState_eq_ite, stateFromIceState]
  by_cases hfailed : .failed ∈ ice
  · simp [hfailed]
  by_cases hdisconnected : .disconnected ∈ ice
  · simp [hfailed, hdisconnected]
  rw [if_neg hfailed, if_neg hdisconnected, if_neg hdisconnected]
  by_cases hnew : ∀ x ∈ ice, x = .new ∨ x = .closed
  · rw [if_pos hnew]
    simp only [eq_true hnew, eq_false hfailed, reduceCtorEq, or_false, and_true, if_false,
      or_true, if_true]
    split_ifs with _ hdtls hconnecting
    all_goals try rfl
    exact absurd (.inr (.inr (new_mem_of_idle hlen hclosed hnew hdtls))) hconnecting
  rw [if_neg hnew]
  by_cases hchecking : .new ∈ ice ∨ .checking ∈ ice
  · have hconnecting : (.checking ∈ ice ∨ .connecting ∈ dtls) ∨ .new ∈ dtls ∨ .new ∈ ice := by
      rcases hchecking with h | h
      · exact .inr (.inr h)
      · exact .inl (.inl h)
    rw [if_pos hchecking]
    simp only [eq_false hnew, eq_false hfailed, eq_true hconnecting, reduceCtorEq, or_false,
      and_false, if_false, or_true, if_true]
  · obtain ⟨hnotNew, hnotChecking⟩ := not_or.mp hchecking
    rw [if_neg hchecking]
    rcases ite_eq_or_eq (∀ x ∈ ice, x = .completed ∨ x = .closed) IceTransportState.completed
      .connected with h | h
    all_goals
      simp only [h, eq_false hnew, eq_false hfailed, hnotNew, hnotChecking, reduceCtorEq, or_false,
        false_or, and_false, if_false]

end TransportController

/-! ## The two summaries

The agent tells the controller of a new summary once for each transport, and of `k_completed` after
`k_checking` in two steps. All of these calls compute the same, so the first one is noticed and the
others find nothing new. -/

/-- What the DTLS transports and their ICE channels show while a signal is handled. -/
structure ShownStates (n : ℕ) where
  dtls : Fin n → DtlsTransportState
  ice : Fin n → IceTransportState

namespace ShownStates

variable {n : ℕ} (v : ShownStates n)

def iceState : IceTransportState := IceAgent.computeState (List.ofFn v.ice)

def pcState : PeerConnectionState :=
  TransportController.computeState (List.ofFn v.dtls) (List.ofFn v.ice)

def setDtls (i : Fin n) (state : DtlsTransportState) : ShownStates n :=
  { v with dtls := Function.update v.dtls i state }

def setIce (i : Fin n) (state : IceTransportState) : ShownStates n :=
  { v with ice := Function.update v.ice i state }

theorem ice_setIce_self (i : Fin n) (state : IceTransportState) :
    (v.setIce i state).ice i = state := Function.update_self ..

theorem ice_setIce_of_ne {i j : Fin n} (h : j ≠ i) (state : IceTransportState) :
    (v.setIce i state).ice j = v.ice j := Function.update_of_ne h ..

theorem pcState_eq (hopen : ∀ i, v.ice i ≠ .closed) :
    v.pcState = TransportController.stateFromIceState (List.ofFn v.dtls) v.iceState := by
  refine TransportController.computeState_eq_stateFromIceState (by simp) fun hclosed ↦ ?_
  obtain ⟨i, hi⟩ := List.mem_ofFn.mp hclosed
  exact hopen i hi

end ShownStates

/-- What the agent and the controller keep of it. -/
structure ConnectionState where
  /-- `_ice_state` of the agent. -/
  iceState : IceTransportState := .new
  /-- `_pc_state` of the controller. -/
  pcState : PeerConnectionState := .new
  /-- What `signal_connection_state` has told. -/
  emitted : List PeerConnectionState := []

namespace ConnectionState

variable {n : ℕ} {v v' : ShownStates n} {c : ConnectionState}

/-- `TransportController::_update_state`. -/
def updateState (v : ShownStates n) (c : ConnectionState) : ConnectionState :=
  if c.pcState ≠ v.pcState then
    { c with pcState := v.pcState, emitted := c.emitted ++ [v.pcState] }
  else c

/-- `signal_ice_state`, to which the controller is connected once for each transport. -/
def signalIceState (v : ShownStates n) (c : ConnectionState) : ConnectionState :=
  (updateState v)^[n] c

/-- `IceAgent::_update_state`. -/
def updateIceState (v : ShownStates n) (c : ConnectionState) : ConnectionState :=
  if c.iceState ≠ v.iceState then
    let c := if c.iceState = .checking ∧ v.iceState = .completed then c.signalIceState v else c
    signalIceState v { c with iceState := v.iceState }
  else c

/-- The last value told, if any, is the state of the controller. -/
def Told (c : ConnectionState) : Prop := ∀ state ∈ c.emitted.getLast?, state = c.pcState

/-- Both summaries are those of the states shown, and none of these is that a channel is closed. -/
structure InStep (v : ShownStates n) (c : ConnectionState) : Prop where
  notClosed : ∀ i, v.ice i ≠ .closed
  iceState : c.iceState = v.iceState
  pcState : c.pcState = v.pcState
  told : c.Told

theorem pcState_updateState (v : ShownStates n) (c : ConnectionState) :
    (c.updateState v).pcState = v.pcState := by
  rw [updateState]
  split_ifs with h
  · rfl
  · exact not_not.mp h

theorem iceState_updateState (v : ShownStates n) (c : ConnectionState) :
    (c.updateState v).iceState = c.iceState := by
  rw [updateState]
  split_ifs <;> rfl

theorem Told.updateState (h : c.Told) (v : ShownStates n) : (c.updateState v).Told := by
  rw [ConnectionState.updateState]
  split_ifs
  · intro state hstate
    rw [List.getLast?_append_of_ne_nil _ (List.cons_ne_nil _ _)] at hstate
    exact (Option.mem_some_iff.mp hstate).symm
  · exact h

theorem updateState_eq_self (h : c.pcState = v.pcState) : c.updateState v = c :=
  if_neg (not_not.mpr h)

/-- The controller notices the first of the signals. -/
theorem signalIceState_eq (hn : n ≠ 0) (v : ShownStates n) (c : ConnectionState) :
    c.signalIceState v = c.updateState v := by
  obtain ⟨m, rfl⟩ := Nat.exists_eq_succ_of_ne_zero hn
  rw [signalIceState, Function.iterate_succ_apply]
  exact Function.iterate_fixed (updateState_eq_self (pcState_updateState v c)) m

theorem inStep_updateState (hopen : ∀ i, v.ice i ≠ .closed) (hice : c.iceState = v.iceState)
    (htold : c.Told) : InStep v (c.updateState v) where
  notClosed := hopen
  iceState := (iceState_updateState v c).trans hice
  pcState := pcState_updateState v c
  told := htold.updateState v

/-- An update of the agent gets both in step, though the controller may not hear of it. -/
theorem InStep.updateIceState (h : InStep v c) (hn : n ≠ 0) (hdtls : v'.dtls = v.dtls)
    (hopen : ∀ i, v'.ice i ≠ .closed) : InStep v' (c.updateIceState v') := by
  rw [ConnectionState.updateIceState]
  by_cases hchange : c.iceState = v'.iceState
  · rw [if_neg (not_not.mpr hchange)]
    refine ⟨hopen, hchange, ?_, h.told⟩
    calc c.pcState
        = TransportController.stateFromIceState (List.ofFn v.dtls) v.iceState := by
          rw [h.pcState, v.pcState_eq h.notClosed]
      _ = TransportController.stateFromIceState (List.ofFn v'.dtls) v'.iceState := by
          rw [hdtls, ← hchange, h.iceState]
      _ = v'.pcState := (v'.pcState_eq hopen).symm
  · rw [if_pos hchange]
    simp only [signalIceState_eq hn]
    refine inStep_updateState hopen rfl ?_
    split_ifs
    · exact h.told.updateState v'
    · exact h.told

end ConnectionState

end XrtcServer
