import XrtcServer.Ice.Trace
import XrtcServer.Pc.ConnectionState
import XrtcServer.Pc.DtlsTransport

/-!
# The transports of a connection

The ICE channels and DTLS transports of one peer connection, with the agent and the controller above
them.

## Signals in the middle

A signal is handled while the object that gives it is half updated: the channel turns writable
before its state says so, and the DTLS transport that hears of it may take several steps of its own
in the meantime. So each object logs its signals with what their handlers find, and these are called
for one signal after the other, with the states shown at that time. A handler does nothing to the
objects below it but send packets, which shows no other state.

## When the outermost handler returns

The state of the controller is then nevertheless that of the transports as they are: `pcState_run`.
The last signal of each transport has been handled with the state it still shows, and every handler
computes the whole aggregate again, from the states shown at that time.
-/

namespace XrtcServer

open EventRun SignalLog ByteString

/-! ## Signals of a DTLS transport -/

namespace DtlsPair

variable {Ctx : Type} {env : DtlsEnv Ctx} {s s' : DtlsPair Ctx}

def TellsDtlsState (x : SentDtlsSignal) : Prop := ∃ state, x.signal = .dtlsState state

/-- `s'` has come from `s`, and no change of the state of the transport went without a signal. -/
def ToldSince (s s' : DtlsPair Ctx) : Prop :=
  ∃ new, s'.signals = s.signals ++ new ∧ Announced TellsDtlsState
    (fun x ↦ x.transport.dtlsState) s.transport.dtlsState new s'.transport.dtlsState

theorem ToldSince.refl (s : DtlsPair Ctx) : ToldSince s s := ⟨[], (List.append_nil _).symm, rfl⟩

theorem ToldSince.of_eq (h : ToldSince s s') {s'' : DtlsPair Ctx}
    (hsignals : s''.signals = s'.signals)
    (hstate : s''.transport.dtlsState = s'.transport.dtlsState) : ToldSince s s'' := by
  obtain ⟨new, hnew, hannounced⟩ := h
  exact ⟨new, hsignals.trans hnew, hstate ▸ hannounced⟩

/-- A signal that tells of the state, or finds the state that was told. -/
theorem ToldSince.snoc (h : ToldSince s s') {s'' : DtlsPair Ctx} {x : SentDtlsSignal}
    (hsignals : s''.signals = s'.signals ++ [x])
    (hstate : s''.transport.dtlsState = x.transport.dtlsState)
    (hx : x.transport.dtlsState = s'.transport.dtlsState ∨ TellsDtlsState x) : ToldSince s s'' := by
  obtain ⟨new, hnew, hannounced⟩ := h
  refine ⟨new ++ [x], by rw [hsignals, hnew, List.append_assoc], ?_⟩
  rw [hstate]
  exact hannounced.append (.singleton hx)

theorem ToldSince.setDtlsState (h : ToldSince s s') (state : DtlsTransportState)
    (answers : SrtpAnswers) : ToldSince s (s'.setDtlsState env state answers) := by
  rw [DtlsPair.setDtlsState]
  split_ifs
  · exact h
  · exact h.snoc rfl rfl (.inr ⟨state, rfl⟩)

theorem ToldSince.setWritableState (h : ToldSince s s') (writable : Bool) :
    ToldSince s (s'.setWritableState writable) := by
  rw [DtlsPair.setWritableState]
  split_ifs
  · exact h
  · exact h.snoc rfl rfl (.inl rfl)

theorem pairInvariant_toldSince (env : DtlsEnv Ctx) (s : DtlsPair Ctx) :
    PairInvariant env (ToldSince s) where
  assign s' f hf h := h.of_eq rfl (hf _).1
  signal s' x h := h.snoc rfl rfl (.inl rfl)
  setDtlsState s' state answers h := h.setDtlsState state answers
  createAdapter s' ok _ h := by
    rw [DtlsPair.createAdapter]
    split_ifs
    · exact h.of_eq rfl rfl
    · exact h.of_eq rfl rfl
  dropAdapter s' h := by
    have hdropped : ToldSince s (s'.modify fun t ↦ { t with dtls := none }) := h.of_eq rfl rfl
    exact (hdropped.setDtlsState .new {}).setWritableState false
  readPacket s' data ts h := h.of_eq rfl rfl
  sendRtp s' data h := h.of_eq rfl rfl
  sendRtcp s' data h := h.of_eq rfl rfl

theorem toldSince_step (env : DtlsEnv Ctx) (s : DtlsPair Ctx) (e : DtlsEvent) :
    ToldSince s (s.step env e) :=
  (pairInvariant_toldSince env s).step (.refl s) e

end DtlsPair

/-! ## The system

A channel handles its event first, and then its signals are handled one after the other, with the
state that its handlers found. The answers of the adapter come in a list, one for each signal that
reaches a DTLS transport. -/

/-- The channels and transports, with what the agent and the controller keep. -/
structure PeerTransports (Ctx : Type) (n : ℕ) where
  ice : Fin n → World
  dtls : Fin n → DtlsPair Ctx
  state : ConnectionState := {}

/-- The calls that reach the transports from outside. -/
inductive PeerEvent (n : ℕ)
  /-- A call of the channel; with it come what the adapter answers in each of the signals. -/
  | ice (i : Fin n) (e : IceEvent) (answers : List AdapterAnswers)
  | adapter (i : Fin n) (e : AdapterEvent)
  | setLocalCertificate (i : Fin n) (cert : Option ℕ)
  | setRemoteFingerprint (i : Fin n) (digestAlg digest : ByteString) (answers : AdapterAnswers)
  | sendRtp (i : Fin n) (data : ByteString)
  | sendRtcp (i : Fin n) (data : ByteString)

variable {Ctx : Type} {n : ℕ}

/-- The handlers of the controller for a signal of the DTLS transport `i`. -/
def ConnectionState.onDtlsSignal (v : ShownStates n) (i : Fin n) (c : ConnectionState)
    (x : SentDtlsSignal) : ConnectionState :=
  match x.signal with
  | .dtlsState _ | .writableState | .receivingState =>
    c.updateState (v.setDtls i x.transport.dtlsState)
  | .readPacket _ _ | .closed => c

namespace PeerTransports

variable (iceEnv : Fin n → IceEnv) (dtlsEnv : Fin n → DtlsEnv Ctx) (s : PeerTransports Ctx n)

def shown : ShownStates n where
  dtls i := (s.dtls i).transport.dtlsState
  ice i := (s.ice i).channel.state

/-- A call of the DTLS transport `i`, while the channels show the states `ice`. -/
def dtlsStep (ice : Fin n → IceTransportState) (i : Fin n) (e : DtlsEvent) : PeerTransports Ctx n :=
  let pair := (s.dtls i).step (dtlsEnv i) e
  { s with
    dtls := Function.update s.dtls i pair
    state := (pair.signals.drop (s.dtls i).signals.length).foldl
      (ConnectionState.onDtlsSignal { s.shown with ice } i) s.state }

/-- `_on_ice_receiving_state`, `_on_ice_writable_state` and `_on_ice_state_changed` of the agent. -/
def updateIceState (ice : Fin n → IceTransportState) : PeerTransports Ctx n :=
  { s with state := s.state.updateIceState { s.shown with ice } }

/-- The handlers of a signal of the channel `i`: the agent was connected first, then the DTLS
transport. -/
def onIceSignal (i : Fin n) (x : SentSignal) (answers : AdapterAnswers) : PeerTransports Ctx n :=
  let ice := Function.update s.shown.ice i x.channel.state
  match x.signal with
  | .writableState =>
    (s.updateIceState ice).dtlsStep dtlsEnv ice i (.writableState x.channel.writable answers)
  | .receivingState =>
    (s.updateIceState ice).dtlsStep dtlsEnv ice i (.receivingState x.channel.receiving)
  | .iceStateChanged => s.updateIceState ice
  | .readPacket data ts =>
    s.dtlsStep dtlsEnv ice i (.readPacket data ts x.channel.writable answers)

/-- A signal takes the first of the answers. -/
def handleIceSignal (i : Fin n) (r : PeerTransports Ctx n × List AdapterAnswers) (x : SentSignal) :
    PeerTransports Ctx n × List AdapterAnswers :=
  (r.1.onIceSignal dtlsEnv i x (r.2.headD {}), r.2.tail)

/-- A call of the channel `i`. -/
def iceStep (i : Fin n) (e : IceEvent) (answers : List AdapterAnswers) : PeerTransports Ctx n :=
  let w := (s.ice i).step (iceEnv i) e
  let handled := (w.signals.drop (s.ice i).signals.length).foldl (handleIceSignal dtlsEnv i)
    (s, answers)
  { handled.1 with ice := Function.update s.ice i w }

/-- The handler of one event. -/
def step : PeerEvent n → PeerTransports Ctx n
  | .ice i e answers => s.iceStep iceEnv dtlsEnv i e answers
  | .adapter i e => s.dtlsStep dtlsEnv s.shown.ice i (.adapter e)
  | .setLocalCertificate i cert => s.dtlsStep dtlsEnv s.shown.ice i (.setLocalCertificate cert)
  | .setRemoteFingerprint i digestAlg digest answers =>
    s.dtlsStep dtlsEnv s.shown.ice i
      (.setRemoteFingerprint digestAlg digest (s.ice i).channel.writable answers)
  | .sendRtp i data => s.dtlsStep dtlsEnv s.shown.ice i (.sendRtp data)
  | .sendRtcp i data => s.dtlsStep dtlsEnv s.shown.ice i (.sendRtcp data)

/-- The transports as `set_local_description` makes them, each with the ports of its channel. -/
def init (Ctx : Type) (port : Fin n → PortId → IceParameters × Candidate) (srtpCiphers : List ℤ) :
    PeerTransports Ctx n where
  ice i := .init .rtp (port i)
  dtls _ := .init Ctx srtpCiphers

/-- The state after a run. -/
def run (port : Fin n → PortId → IceParameters × Candidate) (srtpCiphers : List ℤ)
    (es : List (PeerEvent n)) : PeerTransports Ctx n :=
  exec (step iceEnv dtlsEnv) (init Ctx port srtpCiphers) es

/-! ## No lost update

Between two signals of a channel the controller is in step with the state that was shown at the
first of them. `SignalLog.Announced` says of the log of a channel that no state is skipped, and its
rule carries the controller over the whole stretch. -/

variable {iceEnv : Fin n → IceEnv} {dtlsEnv : Fin n → DtlsEnv Ctx} {s : PeerTransports Ctx n}

theorem inStep_onDtlsSignal {v : ShownStates n} {i : Fin n} {state : DtlsTransportState}
    {c : ConnectionState} {x : SentDtlsSignal} (h : c.InStep (v.setDtls i state))
    (hx : x.transport.dtlsState = state ∨ DtlsPair.TellsDtlsState x) :
    (c.onDtlsSignal v i x).InStep (v.setDtls i x.transport.dtlsState) := by
  have hupdate : (c.updateState (v.setDtls i x.transport.dtlsState)).InStep
      (v.setDtls i x.transport.dtlsState) :=
    ConnectionState.inStep_updateState h.notClosed h.iceState h.told
  have hsame (hquiet : ∀ st, x.signal ≠ .dtlsState st) :
      c.InStep (v.setDtls i x.transport.dtlsState) := by
    rw [hx.resolve_right fun ⟨st, hst⟩ ↦ hquiet st hst]
    exact h
  rw [ConnectionState.onDtlsSignal]
  rcases hsignal : x.signal with _ | _ | _ | _ | _
  · exact hupdate
  · exact hupdate
  · exact hupdate
  · exact hsame fun st hst ↦ by cases hsignal.symm.trans hst
  · exact hsame fun st hst ↦ by cases hsignal.symm.trans hst

theorem shown_dtlsStep (ice : Fin n → IceTransportState) (i : Fin n) (e : DtlsEvent) :
    (s.dtlsStep dtlsEnv ice i e).shown =
      s.shown.setDtls i ((s.dtls i).step (dtlsEnv i) e).transport.dtlsState := by
  rw [shown, ShownStates.setDtls, ShownStates.mk.injEq]
  refine ⟨funext fun j ↦ ?_, rfl⟩
  exact Function.apply_update (fun _ (pair : DtlsPair Ctx) ↦ pair.transport.dtlsState) _ _ _ j

theorem inStep_dtlsStep {ice : Fin n → IceTransportState} (i : Fin n) (e : DtlsEvent)
    (h : s.state.InStep { s.shown with ice }) :
    (s.dtlsStep dtlsEnv ice i e).state.InStep { (s.dtlsStep dtlsEnv ice i e).shown with ice } := by
  obtain ⟨new, hnew, hannounced⟩ := DtlsPair.toldSince_step (dtlsEnv i) (s.dtls i) e
  have hstart : s.state.InStep (ShownStates.setDtls { s.shown with ice } i
      (s.dtls i).transport.dtlsState) := by
    rw [ShownStates.setDtls, show (s.dtls i).transport.dtlsState = s.shown.dtls i from rfl,
      Function.update_eq_self]
    exact h
  have hend := hannounced.foldl (R := fun (c : ConnectionState) state ↦
      c.InStep (ShownStates.setDtls { s.shown with ice } i state))
    (fun _ _ _ hc hx ↦ inStep_onDtlsSignal hc hx) hstart
  rw [shown_dtlsStep, dtlsStep]
  dsimp only
  rw [hnew, List.drop_left]
  exact hend

theorem ice_onIceSignal (i : Fin n) (x : SentSignal) (answers : AdapterAnswers) :
    (s.onIceSignal dtlsEnv i x answers).ice = s.ice := by
  rw [onIceSignal]
  split <;> rfl

theorem inStep_onIceSignal {i : Fin n} {state : IceTransportState} {x : SentSignal}
    (answers : AdapterAnswers) (h : s.state.InStep (s.shown.setIce i state))
    (hx : x.channel.state = state ∨ World.TellsState x) :
    (s.onIceSignal dtlsEnv i x answers).state.InStep
      ((s.onIceSignal dtlsEnv i x answers).shown.setIce i x.channel.state) := by
  have hopen : ∀ j, (s.shown.setIce i x.channel.state).ice j ≠ .closed := by
    intro j
    have hj := h.notClosed j
    by_cases hji : j = i
    · subst hji
      rw [ShownStates.ice_setIce_self] at hj ⊢
      rcases hx with hx | hx
      · rwa [hx]
      · exact hx.2
    · rw [ShownStates.ice_setIce_of_ne _ hji] at hj ⊢
      exact hj
  have hupdate : (s.updateIceState (s.shown.setIce i x.channel.state).ice).state.InStep
      (s.shown.setIce i x.channel.state) := h.updateIceState i.pos.ne' rfl hopen
  rw [onIceSignal]
  rcases hsignal : x.signal with _ | _ | _ | ⟨data, ts⟩
  · exact inStep_dtlsStep i _ hupdate
  · exact inStep_dtlsStep i _ hupdate
  · exact hupdate
  · -- a packet tells of no state
    have hquiet : ¬World.TellsState x := by
      rintro ⟨htells, -⟩
      cases hsignal.symm.trans htells
    rw [← hx.resolve_right hquiet] at h
    exact inStep_dtlsStep i _ h

theorem inStep_iceStep (i : Fin n) (e : IceEvent) (answers : List AdapterAnswers)
    (hw : World.WorldInv (s.ice i)) (h : s.state.InStep s.shown) :
    (s.iceStep iceEnv dtlsEnv i e answers).state.InStep
      (s.iceStep iceEnv dtlsEnv i e answers).shown := by
  obtain ⟨new, hnew, hannounced⟩ := (World.traced_step (iceEnv i) hw.owned e).announced
  have hstart : s.ice = s.ice ∧ s.state.InStep (s.shown.setIce i (s.ice i).channel.state) := by
    refine ⟨rfl, ?_⟩
    rw [ShownStates.setIce, show (s.ice i).channel.state = s.shown.ice i from rfl,
      Function.update_eq_self]
    exact h
  obtain ⟨hice, hend⟩ := hannounced.foldl
    (R := fun (r : PeerTransports Ctx n × List AdapterAnswers) state ↦
      r.1.ice = s.ice ∧ r.1.state.InStep (r.1.shown.setIce i state))
    (f := handleIceSignal dtlsEnv i) (fun r _ _ hr hx ↦ ⟨(ice_onIceSignal i _ _).trans hr.1,
      inStep_onIceSignal (r.2.headD {}) hr.2 hx⟩) (t := (s, answers)) hstart
  rw [iceStep]
  dsimp only
  rw [hnew, List.drop_left]
  have hshown (r : PeerTransports Ctx n) (w : World) (hr : r.ice = s.ice) :
      shown { r with ice := Function.update s.ice i w } = r.shown.setIce i w.channel.state := by
    rw [← hr, shown, ShownStates.setIce, ShownStates.mk.injEq]
    refine ⟨rfl, funext fun j ↦ ?_⟩
    exact Function.apply_update (fun _ (w : World) ↦ w.channel.state) _ _ _ j
  rw [hshown _ _ hice]
  exact hend

/-- In every state between handlers. -/
structure Settled (s : PeerTransports Ctx n) : Prop where
  ice : ∀ i, World.WorldInv (s.ice i)
  inStep : s.state.InStep s.shown

theorem settled_init (port : Fin n → PortId → IceParameters × Candidate) (srtpCiphers : List ℤ) :
    Settled (init Ctx port srtpCiphers) where
  ice i := World.worldInv_init .rtp (port i)
  inStep := by
    have hopen : ∀ i, (init Ctx port srtpCiphers).shown.ice i ≠ .closed :=
      fun _ hclosed ↦ by cases hclosed
    have hnew : (init Ctx port srtpCiphers).shown.iceState = .new := by
      rw [ShownStates.iceState, IceAgent.computeState_eq_ite]
      simp [shown, init, World.init]
    refine ⟨hopen, hnew.symm, ?_, fun _ hstate ↦ by cases hstate⟩
    rw [ShownStates.pcState_eq _ hopen, hnew, TransportController.stateFromIceState]
    simp [shown, init, DtlsPair.init]

theorem Settled.dtlsStep (h : Settled s) (i : Fin n) (e : DtlsEvent) :
    Settled (s.dtlsStep dtlsEnv s.shown.ice i e) where
  ice := h.ice
  inStep := inStep_dtlsStep i e h.inStep

theorem Settled.iceStep (h : Settled s) (i : Fin n) (e : IceEvent) (answers : List AdapterAnswers) :
    Settled (s.iceStep iceEnv dtlsEnv i e answers) where
  ice j := by
    change World.WorldInv (Function.update s.ice i ((s.ice i).step (iceEnv i) e) j)
    by_cases hji : j = i
    · subst hji
      rw [Function.update_self]
      exact (h.ice j).step e
    · rw [Function.update_of_ne hji]
      exact h.ice j
  inStep := inStep_iceStep i e answers (h.ice i) h.inStep

theorem Settled.step (h : Settled s) (e : PeerEvent n) : Settled (s.step iceEnv dtlsEnv e) := by
  cases e with
  | ice i e answers => exact h.iceStep i e answers
  | adapter i e => exact h.dtlsStep i _
  | setLocalCertificate i cert => exact h.dtlsStep i _
  | setRemoteFingerprint i digestAlg digest answers => exact h.dtlsStep i _
  | sendRtp i data => exact h.dtlsStep i _
  | sendRtcp i data => exact h.dtlsStep i _

/-- **No update is lost.** -/
theorem pcState_run (iceEnv : Fin n → IceEnv) (dtlsEnv : Fin n → DtlsEnv Ctx)
    (port : Fin n → PortId → IceParameters × Candidate) (srtpCiphers : List ℤ)
    (es : List (PeerEvent n)) :
    (run iceEnv dtlsEnv port srtpCiphers es).state.pcState =
        TransportController.computeState
          (List.ofFn fun i ↦
            ((run iceEnv dtlsEnv port srtpCiphers es).dtls i).transport.dtlsState)
          (List.ofFn fun i ↦ ((run iceEnv dtlsEnv port srtpCiphers es).ice i).channel.state) ∧
      ∀ state ∈ (run iceEnv dtlsEnv port srtpCiphers es).state.emitted.getLast?,
        state = (run iceEnv dtlsEnv port srtpCiphers es).state.pcState := by
  have h : Settled (run iceEnv dtlsEnv port srtpCiphers es) :=
    exec_invariant (I := Settled) (fun _ e h ↦ h.step e) (settled_init port srtpCiphers) es
  exact ⟨h.inStep.pcState, h.inStep.told⟩

/-- One of two transports gets no adapter. -/
example (iceEnv : Fin 2 → IceEnv) (dtlsEnv : Fin 2 → DtlsEnv Ctx)
    (port : Fin 2 → PortId → IceParameters × Candidate) :
    (run iceEnv dtlsEnv port [1] [.setLocalCertificate 0 (some 0),
      .setRemoteFingerprint 0 (lit "sha-256") [1] { create := false }]).state.emitted =
        [.failed] := rfl

end PeerTransports

end XrtcServer
