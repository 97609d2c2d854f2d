import XrtcServer.Ice.ReadyToSend
import XrtcServer.Ice.Trace

/-!
# What a connection has gone through

`IceConnection` decides from a few time stamps whether it is receiving and whether it can still
send. The history of a connection is the list of its pings and of what it received, told by the
datagrams and ticks of the run and not by these fields; `stamps_run` says how the fields come from
the history. Two of the three stamps that `last_received` looks at are never written: only a ping
and the response to one leave a trace.

## Quiet calls

`Quiet` says that a handler records nothing and leaves the two sets of the controller alone. It is
reflexive and transitive, so `Ice/Calls.lean` has the rule for every function that only calls
others, and what is left are the assignments themselves. `SameStamps` is the same without the sets;
it is what remains when a connection goes, which leaves both sets, and no stamp.

## One entry for an event

An event makes one entry at most in the history of a connection, and a history is empty before the
connection is made. So `Records`, for one event, is what a run needs, and the stamps of a run are a
fold over the history.
-/

namespace XrtcServer

open EventRun ByteString

/-- The fields in which a connection records its pings and what it received. -/
structure ConnStamps where
  lastPingSent : ℤ := 0
  lastPingRecevied : ℤ := 0
  lastPingResponseReceived : ℤ := 0
  lastDataRecevied : ℤ := 0
  /-- When the pings since the last response were sent. -/
  outstanding : List ℤ := []

def IceConnection.stamps (x : IceConnection) : ConnStamps where
  lastPingSent := x.lastPingSent
  lastPingRecevied := x.lastPingRecevied
  lastPingResponseReceived := x.lastPingResponseReceived
  lastDataRecevied := x.lastDataRecevied
  outstanding := x.pingsSinceLastResponse.map (·.sentTime)

namespace World

variable {env : IceEnv} {w w' w'' : World} {c d : ConnId} {now : ℤ}

/-- All connections have the stamps they had. -/
def SameStamps (w w' : World) : Prop := ∀ c, (w'.conn c).stamps = (w.conn c).stamps

/-- The two sets of the controller. -/
def pools (w : World) : List ConnId × List ConnId :=
  (w.controller.unpingedConnections, w.controller.pingedConnections)

/-- Nothing is recorded. -/
structure Quiet (w w' : World) : Prop where
  stamps : SameStamps w w'
  pools : w'.pools = w.pools

theorem SameStamps.trans (h : SameStamps w w') (h' : SameStamps w' w'') : SameStamps w w'' :=
  fun c ↦ (h' c).trans (h c)

instance : IsPreorder World SameStamps where
  refl _ _ := rfl
  trans _ _ _ := .trans

theorem Quiet.refl (w : World) : Quiet w w := ⟨fun _ ↦ rfl, rfl⟩

theorem Quiet.trans (h : Quiet w w') (h' : Quiet w' w'') : Quiet w w'' where
  stamps := h.stamps.trans h'.stamps
  pools := h'.pools.trans h.pools

instance : IsPreorder World Quiet where
  refl := .refl
  trans _ _ _ := .trans

theorem Quiet.of_eq (hconns : w'.conns = w.conns) (hpools : w'.pools = w.pools) :
    Quiet w w' where
  stamps c := by rw [conn, hconns, ← conn]
  pools := hpools

theorem quiet_modifyConn (w : World) (c : ConnId) {f : IceConnection → IceConnection}
    (hf : ∀ x, (f x).stamps = x.stamps) : Quiet w (w.modifyConn c f) :=
  ⟨Arena.proj_cell_modify hf c, rfl⟩

theorem quiet_sendTo (w : World) (p : PortId) (data : ByteString) (addr : SocketAddress) :
    Quiet w (w.sendTo p data addr) := .of_eq rfl rfl

theorem quiet_fault (w : World) (f : Fault) : Quiet w (w.fault f) := .of_eq rfl rfl

/-! ## The channel and the connections -/

theorem quiet_updateState (w : World) : Quiet w w.updateState :=
  across_updateState (fun _ ↦ .of_eq rfl rfl) (fun _ _ ↦ .of_eq rfl rfl) (fun _ _ ↦ .of_eq rfl rfl)
    (fun _ ↦ .of_eq rfl rfl) w

/-- A switch is about the selected connection and leaves the sets alone. -/
theorem quiet_switchSelectedConnection (w : World) (conn : Option ConnId) :
    Quiet w (w.switchSelectedConnection conn) :=
  across_switchSelectedConnection (.of_eq rfl rfl)
    (fun w c value ↦ quiet_modifyConn w c (f := fun x ↦ { x with selected := value }) fun _ ↦ rfl)
    fun _ _ ↦ .of_eq rfl rfl

theorem quiet_sortConnectionsAndUpdateState (w : World) (now : ℤ) :
    Quiet w (w.sortConnectionsAndUpdateState now) :=
  across_sortConnectionsAndUpdateState (.of_eq rfl rfl)
    (fun t _ ↦ quiet_switchSelectedConnection _ (some t)) quiet_updateState
    fun _ ↦ across_maybeStartPinging fun _ ↦ .of_eq rfl rfl

theorem quiet_setConnState (w : World) (c : ConnId) (state : IceCandidatePairState) :
    Quiet w (w.setConnState c state) := quiet_modifyConn w c fun _ ↦ rfl

theorem quiet_setWriteState (w : World) (c : ConnId) (state : WriteState) (now : ℤ) :
    Quiet w (w.setWriteState c state now) :=
  across_setWriteState (quiet_modifyConn w c fun _ ↦ rfl)
    fun w ↦ quiet_sortConnectionsAndUpdateState w now

theorem quiet_updateReceiving (w : World) (c : ConnId) (now : ℤ) :
    Quiet w (w.updateReceiving c now) :=
  across_updateReceiving (fun _ ↦ quiet_modifyConn w c fun _ ↦ rfl)
    fun w ↦ quiet_sortConnectionsAndUpdateState w now

theorem quiet_updateConnState (w : World) (c : ConnId) (now : ℤ) :
    Quiet w (w.updateConnState c now) :=
  across_updateConnState (fun _ ↦ quiet_setWriteState w c .writeUnreliable now)
    (fun w ↦ quiet_setWriteState w c .writeTimeout now) fun w ↦ quiet_updateReceiving w c now

theorem quiet_updateConnectionStates (w : World) (now : ℤ) :
    Quiet w (w.updateConnectionStates now) :=
  across_foldl (fun w c ↦ quiet_updateConnState w c now) _ w

theorem quiet_setRemoteIceParams (w : World) (iceParams : IceParameters) (now : ℤ) :
    Quiet w (w.setRemoteIceParams iceParams now) := by
  have hone (x : IceConnection) : (x.maybeSetRemoteIceParams iceParams).stamps = x.stamps := by
    rw [IceConnection.maybeSetRemoteIceParams]
    split_ifs <;> rfl
  exact across_setRemoteIceParams (.of_eq rfl rfl) (fun w c ↦ quiet_modifyConn w c hone)
    fun w ↦ quiet_sortConnectionsAndUpdateState w now

theorem quiet_sendPacket (w : World) (data : ByteString) : Quiet w (w.sendPacket data) :=
  across_sendPacket (quiet_sendTo w) data

/-! ## Requests and answers -/

theorem quiet_deleteRequest (w : World) (r : RequestId) : Quiet w (w.deleteRequest r) :=
  across_deleteRequest quiet_fault (fun w c _ ↦ quiet_modifyConn w c fun _ ↦ rfl)
    (fun _ _ ↦ .of_eq rfl rfl) w r

/-- A connection that goes leaves both sets, and no stamp. -/
theorem sameStamps_failAndDestroy (w : World) (c : ConnId) (now : ℤ) :
    SameStamps w (w.failAndDestroy c now) := by
  have hdestroyed (w : World) : SameStamps w (w.onConnectionDestroyed c now) :=
    across_onConnectionDestroyed (fun _ _ ↦ rfl)
      (fun w ↦ (quiet_switchSelectedConnection w none).stamps)
      (fun w ↦ (quiet_sortConnectionsAndUpdateState w now).stamps)
      (fun w ↦ (quiet_updateState w).stamps) w
  have herase (w : World) (id : ByteString) :
      Quiet w (w.modifyConn c fun x ↦ { x with requests := x.requests.erase id }) :=
    quiet_modifyConn w c fun _ ↦ rfl
  exact across_failAndDestroy (fun w ↦ (quiet_setConnState w c .failed).stamps) hdestroyed
    (fun n w ↦ (across_destroyRequests herase quiet_deleteRequest n w).stamps) (fun _ _ ↦ rfl) w

theorem quiet_sendRequest (env : IceEnv) (w : World) (c : ConnId) (id : ByteString) (now : ℤ) :
    Quiet w (w.sendRequest env c id now) :=
  across_sendRequest (fun _ _ ↦ .of_eq rfl rfl) (fun w _ ↦ quiet_modifyConn w c fun _ ↦ rfl)
    quiet_sendTo w

theorem quiet_sendBindingErrorResponse (env : IceEnv) (w : World) (p : PortId) (msg : StunMessage)
    (addr : SocketAddress) (errCode : ℤ) (reason : ByteString) :
    Quiet w (w.sendBindingErrorResponse env p msg addr errCode reason) :=
  across_sendBindingErrorResponse (fun data ↦ quiet_sendTo w p data addr) msg errCode reason

/-- The request is answered; that it was received is not written down. -/
theorem quiet_handleStunBindingRequest (env : IceEnv) (w : World) (c : ConnId)
    (msg : StunMessage) : Quiet w (w.handleStunBindingRequest env c msg) :=
  across_handleStunBindingRequest (quiet_sendTo w) c msg

end World

/-! ## The history

`entry` asks only what has come in and what was outstanding, never a stamp. Otherwise the fields
would be described by themselves. -/

inductive EntryKind
  | pingSent
  | requestReceived
  | responseReceived
  | dataReceived
deriving DecidableEq

structure ConnEntry where
  kind : EntryKind
  time : ℤ
deriving DecidableEq

def ConnEntry.isPing (x : ConnEntry) : Bool := x.kind = .pingSent

def ConnEntry.isResponse (x : ConnEntry) : Bool := x.kind = .responseReceived

/-- What is written down of an entry. -/
def ConnStamps.record (s : ConnStamps) (x : ConnEntry) : ConnStamps :=
  match x.kind with
  | .pingSent => { s with lastPingSent := x.time, outstanding := s.outstanding ++ [x.time] }
  | .requestReceived => s
  | .responseReceived => { s with lastPingResponseReceived := x.time, outstanding := [] }
  | .dataReceived => s

namespace World

variable {env : IceEnv} {w w' : World} {c d : ConnId} {now : ℤ} {msg : StunMessage}
  {remoteUfrag data : ByteString}

/-- The message is the response to a ping of `c` that is not answered yet. -/
def Answers (w : World) (c : ConnId) (msg : StunMessage) : Prop :=
  msg.type = stunBindingResponse ∧ ((w.conn c).requests.lookup msg.transactionId).isSome

instance (w : World) (c : ConnId) (msg : StunMessage) : Decidable (w.Answers c msg) :=
  inferInstanceAs (Decidable (_ ∧ _))

/-- What an accepted message is to `c`: an authenticated binding request, an authenticated response,
or nothing. -/
def stunKind (env : IceEnv) (w : World) (c : ConnId) (msg : StunMessage)
    (remoteUfrag : ByteString) : Option EntryKind :=
  if msg.type = stunBindingRequest then
    if remoteUfrag = (w.conn c).remoteCandidate.username then some .requestReceived else none
  else if (msg.validateMessageIntegrity env (w.conn c).remoteCandidate.password).integrity =
      .integrityOk ∧ w.Answers c msg then some .responseReceived
  else none

/-- What a datagram that is handed to `c` is to it. -/
def receivedKind (env : IceEnv) (w : World) (c : ConnId) (data : ByteString) : Option EntryKind :=
  match w.stunVerdict env (w.conn c).port data with
  | .notStun => some .dataReceived
  | .rejected _ _ _ => none
  | .accepted msg remoteUfrag => w.stunKind env c msg remoteUfrag

/-- What a datagram from an unknown address is to the connection that is made for it, if one is. -/
def createdKind (env : IceEnv) (w : World) (p : PortId) (data : ByteString) : Option EntryKind :=
  match w.stunVerdict env p data with
  | .accepted msg _ =>
    if msg.type = stunBindingRequest ∧ (msg.getUInt32 stunAttrPriority).isSome then
      some .requestReceived
    else none
  | _ => none

/-- The entry that an event makes in the history of `c`. -/
def entry (env : IceEnv) (c : ConnId) (w : World) : IceEvent → Option ConnEntry
  | .datagram p addr data _ now =>
    let kind :=
      match w.getConnection p addr with
      | some d => if d = c ∧ w.conns.live c = true then w.receivedKind env c data else none
      | none => if c = w.conns.next then w.createdKind env p data else none
    kind.map (⟨·, now⟩)
  | .checkAndPing _ now =>
    if w.connectionToPing env now = some c ∧ w.conns.live c = true then some ⟨.pingSent, now⟩
    else none
  | .setRemoteIceParams _ _ => none
  | .sendPacket _ => none

/-- The history of `c` in a run, oldest entry first. -/
def history (env : IceEnv) (component : IceCandidateComponent)
    (port : PortId → IceParameters × Candidate) (es : List IceEvent) (c : ConnId) :
    List ConnEntry :=
  trail (World.step env) (entry env c) (init component port) es

/-! ## One event

In an event at most one assignment is a record, and everything before and after it is quiet. So the
lemmas follow the handlers and need the `Quiet` ones for the rest. -/

/-- The entry `x` is recorded, if there is one, and nothing else is. -/
def Records (c : ConnId) (x : Option ConnEntry) (w w' : World) : Prop :=
  ∀ d, (w'.conn d).stamps =
    if d = c then x.elim (w.conn d).stamps (w.conn d).stamps.record else (w.conn d).stamps

theorem SameStamps.records (h : SameStamps w w') (c : ConnId) (now : ℤ) (kind : Option EntryKind)
    (hkind : ∀ k ∈ kind, k = .requestReceived ∨ k = .dataReceived) :
    Records c (kind.map (⟨·, now⟩)) w w' := by
  intro d
  rw [h d]
  rcases kind with _ | k
  · exact (ite_self _).symm
  · rcases hkind k rfl with rfl | rfl <;> exact (ite_self _).symm

theorem Records.quiet {x : Option ConnEntry} (h : Records c x w w') {w'' : World}
    (h' : SameStamps w' w'') : Records c x w w'' := fun d ↦ (h' d).trans (h d)

theorem records_modifyConn (w : World) (c : ConnId) {f : IceConnection → IceConnection}
    (x : ConnEntry) (hf : ∀ y, (f y).stamps = y.stamps.record x) :
    Records c (some x) w (w.modifyConn c f) := by
  intro d
  rw [conn, modifyConn]
  split_ifs with hd
  · rw [hd, Arena.cell_modify_self, hf]
    rfl
  · rw [Arena.cell_modify_of_ne hd]
    rfl

theorem records_receivedPingResponse (w : World) (c : ConnId) (rtt now : ℤ) :
    Records c (some ⟨.responseReceived, now⟩) w (w.receivedPingResponse env c rtt now) := by
  rw [receivedPingResponse]
  refine Records.quiet ?_ (quiet_setConnState _ c .succeeded).stamps
  refine Records.quiet ?_ (quiet_setWriteState _ c .writable now).stamps
  refine Records.quiet ?_ (quiet_updateReceiving _ c now).stamps
  exact records_modifyConn w c _ fun _ ↦ rfl

variable (env) in
theorem records_checkResponse (h : RequestsOwned w) (hc : w.conns.live c = true)
    (msg : StunMessage) (now : ℤ) :
    Records c (if w.Answers c msg then some ⟨.responseReceived, now⟩ else none) w
      (w.checkResponse env c msg now).1 := by
  have hnone {w' : World} (hnot : ¬w.Answers c msg) (hs : SameStamps w w') :
      Records c (if w.Answers c msg then some ⟨.responseReceived, now⟩ else none) w w' := by
    rw [if_neg hnot]
    exact hs.records c now none (by simp)
  have houtcome := responseOutcome_checkResponse env now msg h hc
  generalize (w.checkResponse env c msg now).1 = w' at houtcome ⊢
  cases houtcome with
  | unknown hl => exact hnone (by simp [Answers, hl]) fun _ ↦ rfl
  | success r hl htype =>
    rw [if_pos ⟨htype, by rw [hl]; rfl⟩]
    exact (records_receivedPingResponse w c _ now).quiet (quiet_deleteRequest _ r).stamps
  | dropped r hl htype hf =>
    exact hnone (fun hanswers ↦ htype hanswers.1) (quiet_deleteRequest w r).stamps
  | fatal r hl hf =>
    -- the connection goes, but nothing is recorded
    refine hnone (fun hanswers ↦ hf.type_ne hanswers.1) ?_
    exact (sameStamps_failAndDestroy w c now).trans (quiet_deleteRequest _ r).stamps

theorem records_onStunMessage (h : RequestsOwned w) (hc : w.conns.live c = true)
    (msg : StunMessage) (remoteUfrag : ByteString) (now : ℤ) :
    Records c ((w.stunKind env c msg remoteUfrag).map (⟨·, now⟩)) w
      (w.onStunMessage env c msg remoteUfrag now) := by
  have hignored : Records c ((none : Option EntryKind).map (⟨·, now⟩)) w w :=
    SameStamps.records (fun _ ↦ rfl) c now _ (by simp)
  rw [onStunMessage, stunKind]
  dsimp only
  by_cases hrequest : msg.type = stunBindingRequest
  · rw [if_pos hrequest, if_pos hrequest]
    by_cases hufrag : remoteUfrag = (w.conn c).remoteCandidate.username
    · rw [if_pos hufrag, if_neg (not_not.mpr hufrag)]
      exact (quiet_handleStunBindingRequest env w c msg).stamps.records c now _ (by simp)
    · rw [if_neg hufrag, if_pos hufrag]
      exact (quiet_sendBindingErrorResponse env w _ msg _ _ _).stamps.records c now _ (by simp)
  · rw [if_neg hrequest, if_neg hrequest]
    by_cases hresponse : msg.type = stunBindingResponse ∨ msg.type = stunBindingErrorResponse
    · rw [if_pos hresponse]
      by_cases hok : (msg.validateMessageIntegrity env
          (w.conn c).remoteCandidate.password).integrity = .integrityOk
      · -- the verdict on the integrity is not what makes a response an answer
        have hcheck := records_checkResponse env h hc (msg.validateMessageIntegrity env
          (w.conn c).remoteCandidate.password) now
        rw [if_pos hok]
        by_cases hanswers : w.Answers c msg
        · rw [if_pos (by exact hanswers)] at hcheck
          rw [if_pos ⟨hok, hanswers⟩]
          exact hcheck
        · rw [if_neg (by exact hanswers)] at hcheck
          rw [if_neg fun h ↦ hanswers h.2]
          exact hcheck
      · rw [if_neg fun h ↦ hok h.1, if_neg hok]
        exact hignored
    · rw [if_neg hresponse, if_neg fun h ↦ hresponse (.inl h.2.1)]
      exact hignored

theorem records_onConnReadPacket (h : RequestsOwned w) (hc : w.conns.live c = true)
    (data : ByteString) (ts now : ℤ) :
    Records c ((w.receivedKind env c data).map (⟨·, now⟩)) w
      (w.onConnReadPacket env c data ts now) := by
  rw [onConnReadPacket, if_pos hc, receivedKind]
  rcases w.stunVerdict env (w.conn c).port data with _ | ⟨msg, errCode, reason⟩ |
    ⟨msg, remoteUfrag⟩
  · exact SameStamps.records (fun _ ↦ rfl) c now _ (by simp)
  · exact (quiet_sendBindingErrorResponse env w _ msg _ _ _).stamps.records c now _ (by simp)
  · exact records_onStunMessage h hc msg remoteUfrag now

/-- A new connection starts with nothing recorded, not even the request that it is made for. -/
theorem sameStamps_onUnknownAddress (hnew : (w.conn w.conns.next).stamps = {}) (p : PortId)
    (addr : SocketAddress) (msg : StunMessage) (remoteUfrag : ByteString) (now : ℤ) :
    SameStamps w (w.onUnknownAddress env p addr msg remoteUfrag now) := by
  have hcreate (candidate : Candidate) :
      SameStamps w ((w.createConnection p candidate).1.addConnection env w.conns.next) := by
    intro d
    by_cases hd : d = w.conns.next
    · rw [hd, hnew]
      exact congrArg IceConnection.stamps Arena.cell_alloc_next
    · exact congrArg IceConnection.stamps (Arena.cell_alloc_of_ne hd)
  rw [onUnknownAddress]
  split
  · exact fun _ ↦ rfl
  · refine SameStamps.trans ?_ (quiet_sortConnectionsAndUpdateState _ now).stamps
    exact (hcreate _).trans (quiet_handleStunBindingRequest env _ _ msg).stamps

variable (env) in
theorem records_ping (w : World) (c : ConnId) (id : ByteString) (now : ℤ) :
    Records c (if w.conns.live c = true then some ⟨.pingSent, now⟩ else none) w
      (w.ping env c id now) := by
  rw [ping]
  split_ifs
  · refine Records.quiet ?_ (quiet_modifyConn _ c (by exact fun _ ↦ rfl)).stamps
    refine Records.quiet ?_ (quiet_setConnState _ c .inProgress).stamps
    refine Records.quiet ?_ (quiet_sendRequest env _ c id now).stamps
    refine records_modifyConn w c _ fun x ↦ ?_
    rw [IceConnection.stamps, List.map_append]
    rfl
  · exact (quiet_fault w _).stamps.records c now none (by simp)

theorem sameStamps_selectConnectionToPing (w : World) (lastPingSentMs now : ℤ) :
    SameStamps w (w.selectConnectionToPing env lastPingSentMs now).1 :=
  across_selectConnectionToPing (fun _ ↦ rfl) lastPingSentMs

/-- The world after the selection of a tick, before the ping. -/
def selecting (env : IceEnv) (w : World) (now : ℤ) : World :=
  let w := w.updateConnectionStates now
  (w.selectConnectionToPing env (w.channel.lastPingSentMs - pingIntervalDiff) now).1

theorem quiet_setPingInterval (w : World) (pingInterval : ℤ) :
    Quiet w (w.setPingInterval pingInterval) :=
  across_setPingInterval (fun _ _ ↦ .of_eq rfl rfl) pingInterval

theorem quiet_onCheckAndPing (env : IceEnv) (w : World) (id : ByteString) (now : ℤ) :
    Quiet ((w.selecting env now).pingConnection env (w.connectionToPing env now) id now)
      (w.onCheckAndPing env id now) :=
  quiet_setPingInterval _ _

theorem sameStamps_selecting (env : IceEnv) (w : World) (now : ℤ) :
    SameStamps w (w.selecting env now) :=
  (quiet_updateConnectionStates w now).stamps.trans (sameStamps_selectConnectionToPing _ _ now)

theorem live_selecting (env : IceEnv) (w : World) (now : ℤ) :
    (w.selecting env now).conns.live = w.conns.live :=
  ((settles_updateConnectionStates w now).trans (settles_selectConnectionToPing env _ _ now)).live

theorem stamps_onCheckAndPing (w : World) (id : ByteString) (now : ℤ) (c : ConnId) :
    ((w.onCheckAndPing env id now).conn c).stamps =
      (w.entry env c (.checkAndPing id now)).elim (w.conn c).stamps (w.conn c).stamps.record := by
  have hselecting := sameStamps_selecting env w now
  rw [(quiet_onCheckAndPing env w id now).stamps, entry]
  rcases hping : w.connectionToPing env now with _ | d
  · rw [if_neg (by simp)]
    exact hselecting c
  · set w₁ : World := { w.selecting env now with
      channel := { (w.selecting env now).channel with lastPingSentMs := now } }
    -- `w₁` is the world after the channel has noted the time of the ping
    have hmark : SameStamps (w₁.ping env d id now)
        ((w.selecting env now).pingConnection env (some d) id now) := by
      rw [pingConnection, markConnectionPinged]
      split_ifs <;> exact fun _ ↦ rfl
    have hrecords := ((records_ping env w₁ d id now).quiet hmark) c
    have hstamps : (w₁.conn c).stamps = (w.conn c).stamps := hselecting c
    have hlive : w₁.conns.live = w.conns.live := live_selecting env w now
    rw [hrecords, hstamps, hlive]
    by_cases hc : c = d
    · subst hc
      simp
    · rw [if_neg hc, if_neg fun h ↦ hc (Option.some.inj h.1).symm]
      rfl

theorem sameStamps_onReadPacket_unknown (hnew : (w.conn w.conns.next).stamps = {}) {p : PortId}
    {addr : SocketAddress} (hconn : w.getConnection p addr = none) (data : ByteString)
    (ts now : ℤ) : SameStamps w (w.onReadPacket env p addr data ts now) := by
  rw [onReadPacket, hconn]
  dsimp only
  rcases w.stunVerdict env p data with _ | ⟨msg, errCode, reason⟩ | ⟨msg, remoteUfrag⟩
  · exact fun _ ↦ rfl
  · exact (quiet_sendBindingErrorResponse env w p msg addr _ reason).stamps
  · dsimp only
    split_ifs
    · exact sameStamps_onUnknownAddress hnew p addr msg remoteUfrag now
    · exact fun _ ↦ rfl

/-- The request that a connection is made for leaves no stamp. -/
theorem elim_createdKind (p : PortId) (data : ByteString) (now : ℤ) (s : ConnStamps) :
    ((w.createdKind env p data).map fun k ↦ (⟨k, now⟩ : ConnEntry)).elim s s.record = s := by
  rw [createdKind]
  split
  · split_ifs <;> rfl
  · rfl

variable (env) in
/-- **One event.** The stamps of a connection change by the entry of its history. -/
theorem stamps_step (h : WorldInv w) (hnew : (w.conn w.conns.next).stamps = {}) (c : ConnId)
    (e : IceEvent) : ((w.step env e).conn c).stamps =
      (w.entry env c e).elim (w.conn c).stamps (w.conn c).stamps.record := by
  cases e with
  | datagram p addr data ts now =>
    rw [step, entry]
    rcases hconn : w.getConnection p addr with _ | d
    · rw [sameStamps_onReadPacket_unknown hnew hconn data ts now c]
      dsimp only
      split_ifs
      · exact (elim_createdKind p data now _).symm
      · rfl
    · rw [onReadPacket, hconn]
      dsimp only
      by_cases hd : w.conns.live d = true
      · rw [records_onConnReadPacket h.owned hd data ts now c]
        by_cases hc : c = d
        · subst hc
          rw [if_pos rfl, if_pos ⟨rfl, hd⟩]
        · rw [if_neg hc, if_neg fun h ↦ hc h.1.symm]
          rfl
      · -- the connection is gone, and nobody reads the datagram
        rw [onConnReadPacket, if_neg hd, (quiet_fault w _).stamps, if_neg]
        · rfl
        · rintro ⟨rfl, hc⟩
          exact hd hc
  | setRemoteIceParams iceParams now => exact (quiet_setRemoteIceParams w iceParams now).stamps c
  | checkAndPing id now => exact stamps_onCheckAndPing w id now c
  | sendPacket data => exact (quiet_sendPacket w data).stamps c

/-! ## Every run -/

variable (env) in
theorem next_le_step (h : WorldInv w) (e : IceEvent) :
    w.conns.next ≤ (w.step env e).conns.next := by
  cases (stepOutcome_step env h.owned e).1 with
  | kept hs => exact hs.next.ge
  | created hs =>
    rw [hs.next]
    exact Nat.le_succ _
  | failed c now _ honly =>
    rw [honly.next]
    exact (sameRequests_failing w c now).next.ge

/-- Connections that are not there yet have nothing recorded. -/
structure HistoryInv (w : World) : Prop extends WorldInv w where
  new : ∀ c, w.conns.next ≤ c → (w.conn c).stamps = {}

theorem historyInv_init (component : IceCandidateComponent)
    (port : PortId → IceParameters × Candidate) : HistoryInv (init component port) :=
  { worldInv_init component port with new := fun _ _ ↦ rfl }

theorem HistoryInv.step (h : HistoryInv w) (e : IceEvent) : HistoryInv (w.step env e) := by
  refine { h.toWorldInv.step e with new := fun c hc ↦ ?_ }
  have hlt : w.conns.next ≤ c := (next_le_step env h.toWorldInv e).trans hc
  -- only connections that are alive get an entry, and the one being made no stamp
  have hdead : w.conns.live c = false :=
    Bool.eq_false_iff.mpr fun hlive ↦ absurd (w.conns.live_lt c hlive) (not_lt.mpr hlt)
  rw [stamps_step env h.toWorldInv (h.new _ le_rfl), h.new c hlt]
  cases e with
  | datagram p addr data ts now =>
    rw [entry]
    rcases w.getConnection p addr with _ | d
    · dsimp only
      split_ifs
      · exact elim_createdKind p data now _
      · rfl
    · dsimp only
      rw [hdead, if_neg (by simp)]
      rfl
  | setRemoteIceParams iceParams now => rfl
  | checkAndPing id now =>
    rw [entry, hdead, if_neg (by simp)]
    rfl
  | sendPacket data => rfl

/-- **The stamps of a run.** They are what the history writes down. -/
theorem stamps_run (env : IceEnv) (component : IceCandidateComponent)
    (port : PortId → IceParameters × Candidate) (es : List IceEvent) (c : ConnId) :
    ((run env component port es).conn c).stamps =
      (history env component port es c).foldl ConnStamps.record {} :=
  view_exec_eq_foldl (I := HistoryInv) (fun w ↦ (w.conn c).stamps)
    (fun _ e h ↦ h.step e) (fun _ e h ↦ stamps_step env h.toWorldInv (h.new _ le_rfl) c e)
    (historyInv_init component port) es

end World

end XrtcServer
