import XrtcServer.Ice.Authentication
import XrtcServer.Ice.ConnectionHistory
import XrtcServer.Ice.OwnMessages

/-!
# What a channel sends, and to whom

An event gives the socket at most one datagram. An answer goes back to where the request came from,
and a ping or a packet of the owner to the place of a connection; a connection is only made for a
place from which an authenticated binding request has come. So nobody hears from a channel unasked
(`consent_run`), and a host that cannot authenticate itself gets no more out of it than refusals,
one for a datagram and less than twice as long (`unsolicited_run`).

## Mute calls and the others

Most functions of the channel send nothing and leave every connection at its place. `Mute` is that
relation; it is reflexive and transitive and contains the assignments, so the rules of
`Ice/Calls.lean` carry it across every call, and each function needs a line at most. `Emits` is
about the handlers that remain: it bounds the log of the socket by one datagram, says which one it
may be, and for which places a connection may have been made.

## Asked and consented

Over a run, `Asked` collects the places from which an authenticated request has come. The invariant
is that every connection is at such a place; what an event sends is then allowed to it by `Emission`
in terms of the state, and by `Consented` in terms of what has come in. The second theorem counts
the datagrams and their bytes, with the refusals as the only thing a stranger can cause.
-/

namespace XrtcServer

open EventRun ByteString

/-- The port and the address that a connection sends from and to. -/
def IceConnection.place (x : IceConnection) : PortId × SocketAddress :=
  (x.port, x.remoteCandidate.address)

/-- A connection stays at its place and with its peer; only a password that was missing may have
come. -/
structure IceConnection.Keeps (x y : IceConnection) : Prop where
  place : y.place = x.place
  username : y.remoteCandidate.username = x.remoteCandidate.username
  password : x.remoteCandidate.password ≠ [] →
    y.remoteCandidate.password = x.remoteCandidate.password

theorem IceConnection.Keeps.of_eq {x y : IceConnection} (hport : y.port = x.port)
    (hremote : y.remoteCandidate = x.remoteCandidate) : x.Keeps y where
  place := by rw [IceConnection.place, IceConnection.place, hport, hremote]
  username := by rw [hremote]
  password _ := by rw [hremote]

theorem IceConnection.Keeps.trans {x y z : IceConnection} (h : x.Keeps y) (h' : y.Keeps z) :
    x.Keeps z where
  place := h'.place.trans h.place
  username := h'.username.trans h.username
  password hx := (h'.password (by rwa [h.password hx])).trans (h.password hx)

def SentDatagram.place (d : SentDatagram) : PortId × SocketAddress := (d.port, d.address)

/-- What may be sent back to the source of a datagram, by a port with these credentials. -/
inductive AnswerTo (env : IceEnv) (iceParams : IceParameters) (addr : SocketAddress)
    (data : ByteString) : ByteString → Prop
  /-- `get_stun_message` rejects the request. -/
  | refusal {msg errCode reason buf}
    (hverdict : UDPPort.getStunMessage env iceParams data = .rejected msg errCode reason)
    (hwrite : (UDPPort.bindingErrorResponse env iceParams.icePwd msg errCode reason).write =
      some buf) :
    AnswerTo env iceParams addr data buf
  /-- The request is authenticated, but not for the connection that is there. -/
  | mismatch {msg remoteUfrag buf}
    (hverdict : UDPPort.getStunMessage env iceParams data = .accepted msg remoteUfrag)
    (htype : msg.type = stunBindingRequest)
    (hwrite : (UDPPort.bindingErrorResponse env iceParams.icePwd msg stunErrorUnauthorized
      stunErrorReasonUnauthorized).write = some buf) :
    AnswerTo env iceParams addr data buf
  | success {msg remoteUfrag buf}
    (hverdict : UDPPort.getStunMessage env iceParams data = .accepted msg remoteUfrag)
    (htype : msg.type = stunBindingRequest)
    (hwrite : (IceConnection.bindingResponse env iceParams.icePwd msg addr).write = some buf) :
    AnswerTo env iceParams addr data buf

namespace World

variable {env : IceEnv} {w w' w'' : World} {c : ConnId} {now : ℤ}

/-- Nothing was sent, and no connection was made or moved. -/
structure Mute (w w' : World) : Prop where
  sent : w'.sent = w.sent
  next : w'.conns.next = w.conns.next
  keeps : ∀ c, (w.conn c).Keeps (w'.conn c)
  port : w'.port = w.port

theorem Mute.refl (w : World) : Mute w w := ⟨rfl, rfl, fun _ ↦ .of_eq rfl rfl, rfl⟩

theorem Mute.trans (h : Mute w w') (h' : Mute w' w'') : Mute w w'' where
  sent := h'.sent.trans h.sent
  next := h'.next.trans h.next
  keeps c := (h.keeps c).trans (h'.keeps c)
  port := h'.port.trans h.port

instance : IsPreorder World Mute where
  refl := .refl
  trans _ _ _ := .trans

/-- Assignments to the channel, the controller, the requests and the other logs. -/
theorem Mute.of_eq (hsent : w'.sent = w.sent) (hconns : w'.conns = w.conns)
    (hport : w'.port = w.port) : Mute w w' where
  sent := hsent
  next := by rw [hconns]
  keeps c := by
    rw [conn, conn, hconns]
    exact .of_eq rfl rfl
  port := hport

theorem mute_modifyConn (w : World) (c : ConnId) {f : IceConnection → IceConnection}
    (hf : ∀ x : IceConnection, x.Keeps (f x)) : Mute w (w.modifyConn c f) where
  sent := rfl
  next := rfl
  keeps d := by
    rw [conn, conn, modifyConn]
    by_cases hd : d = c
    · rw [hd, Arena.cell_modify_self]
      exact hf _
    · rw [Arena.cell_modify_of_ne hd]
      exact .of_eq rfl rfl
  port := rfl

theorem mute_fault (w : World) (f : Fault) : Mute w (w.fault f) := .of_eq rfl rfl rfl

/-! ## The channel -/

theorem mute_updateState (w : World) : Mute w w.updateState :=
  across_updateState (fun _ ↦ .of_eq rfl rfl rfl) (fun _ _ ↦ .of_eq rfl rfl rfl)
    (fun _ _ ↦ .of_eq rfl rfl rfl) (fun _ ↦ .of_eq rfl rfl rfl) w

theorem mute_switchSelectedConnection (w : World) (conn : Option ConnId) :
    Mute w (w.switchSelectedConnection conn) :=
  across_switchSelectedConnection (.of_eq rfl rfl rfl)
    (fun w c value ↦ mute_modifyConn w c (f := fun x ↦ { x with selected := value })
      fun _ ↦ .of_eq rfl rfl)
    fun _ _ ↦ .of_eq rfl rfl rfl

theorem mute_sortConnectionsAndUpdateState (w : World) (now : ℤ) :
    Mute w (w.sortConnectionsAndUpdateState now) :=
  across_sortConnectionsAndUpdateState (.of_eq rfl rfl rfl)
    (fun t _ ↦ mute_switchSelectedConnection _ (some t)) mute_updateState
    fun _ ↦ across_maybeStartPinging fun _ ↦ .of_eq rfl rfl rfl

theorem mute_onConnectionDestroyed (w : World) (c : ConnId) (now : ℤ) :
    Mute w (w.onConnectionDestroyed c now) :=
  across_onConnectionDestroyed (fun _ ↦ .of_eq rfl rfl rfl)
    (fun w ↦ mute_switchSelectedConnection w none)
    (fun w ↦ mute_sortConnectionsAndUpdateState w now) mute_updateState w

/-! ## The connections -/

theorem mute_setConnState (w : World) (c : ConnId) (state : IceCandidatePairState) :
    Mute w (w.setConnState c state) := mute_modifyConn w c fun _ ↦ .of_eq rfl rfl

theorem mute_setWriteState (w : World) (c : ConnId) (state : WriteState) (now : ℤ) :
    Mute w (w.setWriteState c state now) :=
  across_setWriteState (mute_modifyConn w c fun _ ↦ .of_eq rfl rfl)
    fun w ↦ mute_sortConnectionsAndUpdateState w now

theorem mute_updateReceiving (w : World) (c : ConnId) (now : ℤ) :
    Mute w (w.updateReceiving c now) :=
  across_updateReceiving (fun _ ↦ mute_modifyConn w c fun _ ↦ .of_eq rfl rfl)
    fun w ↦ mute_sortConnectionsAndUpdateState w now

theorem mute_receivedPingResponse (w : World) (c : ConnId) (rtt now : ℤ) :
    Mute w (w.receivedPingResponse env c rtt now) :=
  across_receivedPingResponse (mute_modifyConn w c fun _ ↦ .of_eq rfl rfl)
    (fun w ↦ mute_updateReceiving w c now) (fun w ↦ mute_setWriteState w c .writable now)
    fun w ↦ mute_setConnState w c .succeeded

theorem mute_updateConnState (w : World) (c : ConnId) (now : ℤ) :
    Mute w (w.updateConnState c now) :=
  across_updateConnState (fun _ ↦ mute_setWriteState w c .writeUnreliable now)
    (fun w ↦ mute_setWriteState w c .writeTimeout now) fun w ↦ mute_updateReceiving w c now

theorem mute_updateConnectionStates (w : World) (now : ℤ) :
    Mute w (w.updateConnectionStates now) :=
  across_foldl (fun w c ↦ mute_updateConnState w c now) _ w

/-! ## Requests -/

theorem mute_modifyConn_requests (w : World) (c : ConnId)
    (requests : IceConnection → AList fun _ : ByteString ↦ RequestId) :
    Mute w (w.modifyConn c fun x ↦ { x with requests := requests x }) :=
  mute_modifyConn w c fun _ ↦ .of_eq rfl rfl

theorem mute_deleteRequest (w : World) (r : RequestId) : Mute w (w.deleteRequest r) :=
  across_deleteRequest mute_fault (fun w c _ ↦ mute_modifyConn_requests w c _)
    (fun _ _ ↦ .of_eq rfl rfl rfl) w r

theorem mute_failAndDestroy (w : World) (c : ConnId) (now : ℤ) :
    Mute w (w.failAndDestroy c now) :=
  across_failAndDestroy (fun w ↦ mute_setConnState w c .failed)
    (fun w ↦ mute_onConnectionDestroyed w c now)
    (across_destroyRequests (fun w _ ↦ mute_modifyConn_requests w c _) mute_deleteRequest)
    (fun _ ↦ ⟨rfl, rfl, fun _ ↦ .of_eq rfl rfl, rfl⟩) w

/-- Responses are never answered. -/
theorem mute_checkResponse (w : World) (c : ConnId) (msg : StunMessage) (now : ℤ) :
    Mute w (w.checkResponse env c msg now).1 :=
  across_checkResponse mute_fault (fun w c rtt ↦ mute_receivedPingResponse w c rtt now)
    (fun w c ↦ mute_failAndDestroy w c now) mute_deleteRequest w c msg

/-! ## The remaining events -/

theorem mute_setRemoteIceParams (w : World) (iceParams : IceParameters) (now : ℤ) :
    Mute w (w.setRemoteIceParams iceParams now) := by
  have hone (x : IceConnection) : x.Keeps (x.maybeSetRemoteIceParams iceParams) := by
    rw [IceConnection.maybeSetRemoteIceParams]
    split_ifs with h
    · exact ⟨rfl, rfl, fun hne ↦ absurd h.2 hne⟩
    · exact .of_eq rfl rfl
  exact across_setRemoteIceParams (.of_eq rfl rfl rfl) (fun w c ↦ mute_modifyConn w c hone)
    fun w ↦ mute_sortConnectionsAndUpdateState w now

theorem mute_selectConnectionToPing (env : IceEnv) (w : World) (lastPingSentMs now : ℤ) :
    Mute w (w.selectConnectionToPing env lastPingSentMs now).1 :=
  across_selectConnectionToPing (.of_eq rfl rfl rfl) lastPingSentMs

theorem mute_markConnectionPinged (w : World) (c : ConnId) :
    Mute w (w.markConnectionPinged env c) :=
  across_ite (fun _ ↦ .refl w) fun _ ↦ .of_eq rfl rfl rfl

theorem mute_setPingInterval (w : World) (pingInterval : ℤ) :
    Mute w (w.setPingInterval pingInterval) :=
  across_setPingInterval (fun _ _ ↦ .of_eq rfl rfl rfl) pingInterval

/-! ## The message of a ping

A ping is prepared when it is sent, from the credentials of the port and what is known of the peer.
On the way from the tick to the socket the controller sorts its connections, and states may change;
`SamePeers` is that none of this touches what `prepare` reads, so the datagram is the ping of the
connection in the state before the event. -/

/-- No connection has another port or another peer. -/
structure SamePeers (w w' : World) : Prop where
  port : ∀ c, (w'.conn c).port = (w.conn c).port
  remoteCandidate : ∀ c, (w'.conn c).remoteCandidate = (w.conn c).remoteCandidate

instance : IsPreorder World SamePeers where
  refl _ := ⟨fun _ ↦ rfl, fun _ ↦ rfl⟩
  trans _ _ _ h h' := ⟨fun c ↦ (h'.port c).trans (h.port c),
    fun c ↦ (h'.remoteCandidate c).trans (h.remoteCandidate c)⟩

theorem samePeers_modifyConn (w : World) (c : ConnId) {f : IceConnection → IceConnection}
    (hport : ∀ x, (f x).port = x.port)
    (hremote : ∀ x, (f x).remoteCandidate = x.remoteCandidate) : SamePeers w (w.modifyConn c f) :=
  ⟨Arena.proj_cell_modify hport c, Arena.proj_cell_modify hremote c⟩

theorem samePeers_sortConnectionsAndUpdateState (w : World) (now : ℤ) :
    SamePeers w (w.sortConnectionsAndUpdateState now) where
  port c := proj_conn_sortConnectionsAndUpdateState (p := IceConnection.port) (fun _ _ ↦ rfl) w c
    now
  remoteCandidate c := proj_conn_sortConnectionsAndUpdateState
    (p := IceConnection.remoteCandidate) (fun _ _ ↦ rfl) w c now

theorem samePeers_setWriteState (w : World) (c : ConnId) (state : WriteState) (now : ℤ) :
    SamePeers w (w.setWriteState c state now) :=
  across_setWriteState (samePeers_modifyConn w c (fun _ ↦ rfl) fun _ ↦ rfl)
    fun w ↦ samePeers_sortConnectionsAndUpdateState w now

theorem samePeers_updateConnState (w : World) (c : ConnId) (now : ℤ) :
    SamePeers w (w.updateConnState c now) :=
  across_updateConnState (fun _ ↦ samePeers_setWriteState w c .writeUnreliable now)
    (fun w ↦ samePeers_setWriteState w c .writeTimeout now) fun w ↦
      across_updateReceiving (fun _ ↦ samePeers_modifyConn w c (fun _ ↦ rfl) fun _ ↦ rfl)
        fun w ↦ samePeers_sortConnectionsAndUpdateState w now

/-- Only the answer of the other side tells a connection more about its peer. -/
theorem samePeers_selecting (env : IceEnv) (w : World) (now : ℤ) :
    SamePeers w (w.selecting env now) := by
  have hstates : SamePeers w (w.updateConnectionStates now) :=
    across_foldl (fun w c ↦ samePeers_updateConnState w c now) _ w
  refine trans_of SamePeers hstates (across_selectConnectionToPing ?_ _)
  exact ⟨fun _ ↦ rfl, fun _ ↦ rfl⟩

theorem prepare_congr (hport : (w'.conn c).port = (w.conn c).port)
    (husername : (w'.conn c).remoteCandidate.username = (w.conn c).remoteCandidate.username)
    (hpassword : (w'.conn c).remoteCandidate.password = (w.conn c).remoteCandidate.password)
    (hparams : ∀ p, (w'.port p).iceParams = (w.port p).iceParams ∧
      (w'.port p).candidate = (w.port p).candidate) (id : ByteString) :
    w'.prepare env c id = w.prepare env c id := by
  rw [prepare, prepare, localCandidate, localCandidate, husername, hpassword, hport,
    (hparams _).1, (hparams _).2]

theorem SamePeers.prepare (env : IceEnv) (h : SamePeers w w') (hport : w'.port = w.port)
    (c : ConnId) (id : ByteString) : w'.prepare env c id = w.prepare env c id := by
  have hremote := h.remoteCandidate c
  exact prepare_congr (h.port c) (by rw [hremote]) (by rw [hremote])
    (fun p ↦ by rw [hport]; exact ⟨rfl, rfl⟩) id

/-! ## What an event sends

Three kinds of events may send a datagram, and `Emission` has one constructor for each. That a port
finds every connection by its address (`Found`) is needed for the unknown addresses: only where
there is no connection is a new one made. -/

/-- The event brings an authenticated binding request from this place. -/
def Opens (env : IceEnv) (w : World) (e : IceEvent) (place : PortId × SocketAddress) : Prop :=
  ∃ data ts now msg remoteUfrag, e = .datagram place.1 place.2 data ts now ∧
    w.stunVerdict env place.1 data = .accepted msg remoteUfrag ∧ msg.type = stunBindingRequest

/-- The datagram is the ping of a connection with this transaction id, sent to where it belongs. -/
def Pings (env : IceEnv) (w : World) (id : ByteString) (d : SentDatagram) : Prop :=
  ∃ c, w.conns.live c = true ∧ d.place = (w.conn c).place ∧
    (w.prepare env c id).write = some d.data

/-- The datagrams that the handler of an event may send. -/
inductive Emission (env : IceEnv) (w : World) : IceEvent → SentDatagram → Prop
  | answer {p addr data ts now buf} (h : AnswerTo env (w.port p).iceParams addr data buf) :
    Emission env w (.datagram p addr data ts now) ⟨p, addr, buf⟩
  | ping {id now d} (h : w.Pings env id d) : Emission env w (.checkAndPing id now) d
  | packet {data c} (hc : HandsTo w.channel w.conns c) :
    Emission env w (.sendPacket data)
      ⟨(w.conn c).port, (w.conn c).remoteCandidate.address, data⟩

/-- A port finds every connection that was ever made, by its address. -/
def Found (w : World) : Prop :=
  ∀ c < w.conns.next, w.getConnection (w.conn c).place.1 (w.conn c).place.2 = some c

/-- At most one datagram was sent, and connections were only made for some places. -/
structure Emits (allowed : SentDatagram → Prop) (opens : PortId × SocketAddress → Prop)
    (w w' : World) : Prop where
  sent : ∃ d : Option SentDatagram, w'.sent = w.sent ++ d.toList ∧ ∀ x ∈ d, allowed x
  next : w.conns.next ≤ w'.conns.next
  keeps : ∀ c < w.conns.next, (w.conn c).Keeps (w'.conn c)
  opens : ∀ c, w.conns.next ≤ c → c < w'.conns.next → opens (w'.conn c).place
  port : ∀ p, (w'.port p).iceParams = (w.port p).iceParams ∧
    (w'.port p).candidate = (w.port p).candidate
  found : Found w → Found w'

variable {allowed : SentDatagram → Prop} {opens : PortId × SocketAddress → Prop}

theorem Mute.found (h : Mute w w') (hw : Found w) : Found w' := by
  intro c hc
  rw [(h.keeps c).place, getConnection, h.port]
  exact hw c (h.next ▸ hc)

theorem Mute.emits (h : Mute w w') : Emits allowed opens w w' where
  sent := ⟨none, by rw [h.sent, Option.toList_none, List.append_nil], fun x hx ↦ by cases hx⟩
  next := h.next.ge
  keeps c _ := h.keeps c
  opens c hold hnew := absurd (h.next ▸ hnew) (Nat.not_lt.mpr hold)
  port p := by
    rw [h.port]
    exact ⟨rfl, rfl⟩
  found := h.found

theorem Emits.mute (h : Emits allowed opens w w') (h' : Mute w' w'') :
    Emits allowed opens w w'' where
  sent := by
    rw [h'.sent]
    exact h.sent
  next := h'.next ▸ h.next
  keeps c hc := (h.keeps c hc).trans (h'.keeps c)
  opens c hold hnew := by
    rw [(h'.keeps c).place]
    exact h.opens c hold (h'.next ▸ hnew)
  port p := by
    rw [h'.port]
    exact h.port p
  found hw := h'.found (h.found hw)

theorem Mute.trans_emits (h : Mute w w') (h' : Emits allowed opens w' w'') :
    Emits allowed opens w w'' where
  sent := by
    rw [← h.sent]
    exact h'.sent
  next := h.next ▸ h'.next
  keeps c hc := (h.keeps c).trans (h'.keeps c (h.next.symm ▸ hc))
  opens c hold hnew := h'.opens c (h.next.symm ▸ hold) hnew
  port p := by
    rw [← h.port]
    exact h'.port p
  found hw := h'.found (h.found hw)

theorem Emits.trans_of_sent_eq (h : Emits allowed opens w w') (hsent : w'.sent = w.sent)
    (h' : Emits allowed opens w' w'') : Emits allowed opens w w'' where
  sent := by
    rw [← hsent]
    exact h'.sent
  next := h.next.trans h'.next
  keeps c hc := (h.keeps c hc).trans (h'.keeps c (lt_of_lt_of_le hc h.next))
  opens c hold hnew := by
    by_cases hc : c < w'.conns.next
    · rw [(h'.keeps c hc).place]
      exact h.opens c hold hc
    · exact h'.opens c (not_lt.mp hc) hnew
  port p := ⟨(h'.port p).1.trans (h.port p).1, (h'.port p).2.trans (h.port p).2⟩
  found hw := h'.found (h.found hw)

theorem emits_sendTo (w : World) {p : PortId} {addr : SocketAddress} {data : ByteString}
    (h : allowed ⟨p, addr, data⟩) : Emits allowed opens w (w.sendTo p data addr) where
  sent := ⟨some ⟨p, addr, data⟩, rfl, fun x hx ↦ by rwa [← Option.some.inj hx]⟩
  next := le_rfl
  keeps _ _ := .of_eq rfl rfl
  opens c hold hnew := absurd hnew (Nat.not_lt.mpr hold)
  port _ := ⟨rfl, rfl⟩
  found hw := hw

theorem emits_sendBindingErrorResponse (w : World) {p : PortId} {addr : SocketAddress}
    {msg : StunMessage} {errCode : ℤ} {reason : ByteString}
    (h : ∀ buf, (UDPPort.bindingErrorResponse env (w.port p).iceParams.icePwd msg errCode
      reason).write = some buf → allowed ⟨p, addr, buf⟩) :
    Emits allowed opens w (w.sendBindingErrorResponse env p msg addr errCode reason) := by
  rw [sendBindingErrorResponse]
  split
  · exact (Mute.refl w).emits
  · next buf hwrite => exact emits_sendTo w (h buf hwrite)

theorem emits_handleStunBindingRequest (w : World) {p : PortId} {addr : SocketAddress}
    {msg : StunMessage} (hplace : (w.conn c).place = (p, addr))
    (h : ∀ buf, (IceConnection.bindingResponse env (w.port p).iceParams.icePwd msg addr).write =
      some buf → allowed ⟨p, addr, buf⟩) :
    Emits allowed opens w (w.handleStunBindingRequest env c msg) := by
  obtain ⟨hport, haddr⟩ := Prod.mk.inj hplace
  rw [handleStunBindingRequest]
  split_ifs
  · exact (Mute.refl w).emits
  · dsimp only
    rw [hport, haddr]
    split
    · exact (Mute.refl w).emits
    · next buf hwrite => exact emits_sendTo w (h buf hwrite)

variable {p : PortId} {addr : SocketAddress} {data : ByteString} {ts : ℤ} {msg : StunMessage}
  {remoteUfrag : ByteString}

theorem emits_onConnReadPacket (hplace : (w.conn c).place = (p, addr)) :
    Emits (Emission env w (.datagram p addr data ts now)) opens w
      (w.onConnReadPacket env c data ts now) := by
  obtain ⟨hport, haddr⟩ := Prod.mk.inj hplace
  rw [onConnReadPacket, hport, haddr]
  split_ifs
  · rcases hv : w.stunVerdict env p data with _ | ⟨msg, errCode, reason⟩ | ⟨msg, remoteUfrag⟩
    · exact (Mute.of_eq rfl rfl rfl : Mute w (w.signal _)).emits
    · exact emits_sendBindingErrorResponse w fun buf hwrite ↦ .answer (.refusal hv hwrite)
    · dsimp only
      rw [onStunMessage, hport, haddr]
      dsimp only
      split_ifs with htype
      · exact emits_sendBindingErrorResponse w fun buf hwrite ↦ .answer (.mismatch hv htype hwrite)
      · exact emits_handleStunBindingRequest w hplace fun buf hwrite ↦
          .answer (.success hv htype hwrite)
      · exact (mute_checkResponse w c _ now).emits
      · exact (Mute.refl w).emits
      · exact (Mute.refl w).emits
  · exact (Mute.of_eq rfl rfl rfl : Mute w (w.fault _)).emits

theorem getConnection_createConnection (w : World) (p q : PortId) (candidate : Candidate)
    (addr : SocketAddress) :
    ((w.createConnection p candidate).1.addConnection env w.conns.next).getConnection q addr =
      if (q, addr) = (p, candidate.address) then some w.conns.next
      else w.getConnection q addr := by
  rw [getConnection, addConnection, addToController, createConnection]
  dsimp only
  by_cases hq : q = p
  · rw [hq, Function.update_self]
    by_cases haddr : addr = candidate.address
    · rw [haddr, if_pos rfl]
      exact Function.update_self ..
    · rw [if_neg fun h ↦ haddr (Prod.mk.inj h).2]
      exact Function.update_of_ne haddr ..
  · rw [Function.update_of_ne hq, if_neg fun h ↦ hq (Prod.mk.inj h).1]
    rfl

theorem emits_createConnection (w : World) {candidate : Candidate}
    (hconn : w.getConnection p candidate.address = none) (hopens : opens (p, candidate.address)) :
    Emits allowed opens w ((w.createConnection p candidate).1.addConnection env w.conns.next) where
  sent := ⟨none, (List.append_nil _).symm, fun x hx ↦ by cases hx⟩
  next := Nat.le_succ _
  keeps c hc := by
    have hold : ((w.createConnection p candidate).1.addConnection env w.conns.next).conn c =
        w.conn c := Arena.cell_alloc_of_ne (Nat.ne_of_lt hc)
    rw [hold]
    exact .of_eq rfl rfl
  opens c hold hnew := by
    obtain rfl := Nat.le_antisymm (Nat.lt_succ_iff.mp hnew) hold
    have hnew : ((w.createConnection p candidate).1.addConnection env w.conns.next).conn
        w.conns.next = { port := p, remoteCandidate := candidate } := Arena.cell_alloc_next
    rw [hnew]
    exact hopens
  port q := by
    rw [addConnection, addToController, createConnection]
    dsimp only
    by_cases hq : q = p
    · rw [hq, Function.update_self]
      exact ⟨rfl, rfl⟩
    · rw [Function.update_of_ne hq]
      exact ⟨rfl, rfl⟩
  found hw := by
    intro c hc
    rw [getConnection_createConnection]
    rcases Nat.lt_succ_iff_lt_or_eq.mp hc with hlt | rfl
    · have hold : ((w.createConnection p candidate).1.addConnection env w.conns.next).conn c =
          w.conn c := Arena.cell_alloc_of_ne (Nat.ne_of_lt hlt)
      have hc := hw c hlt
      rw [hold, if_neg, hc]
      rintro hplace
      obtain ⟨hport, haddr⟩ := Prod.mk.inj hplace
      rw [hport, haddr, hconn] at hc
      cases hc
    · have hnew : ((w.createConnection p candidate).1.addConnection env w.conns.next).conn
          w.conns.next = { port := p, remoteCandidate := candidate } := Arena.cell_alloc_next
      rw [hnew]
      exact if_pos rfl

theorem emits_onUnknownAddress (hconn : w.getConnection p addr = none)
    (hv : w.stunVerdict env p data = .accepted msg remoteUfrag)
    (htype : msg.type = stunBindingRequest) :
    Emits (Emission env w (.datagram p addr data ts now))
      (Opens env w (.datagram p addr data ts now)) w
      (w.onUnknownAddress env p addr msg remoteUfrag now) := by
  rw [onUnknownAddress]
  split
  · exact (Mute.refl w).emits
  · next priority _ =>
    have hcreate : Emits (Emission env w (.datagram p addr data ts now))
        (Opens env w (.datagram p addr data ts now)) w
        ((w.createConnection p (w.peerCandidate addr remoteUfrag priority)).1.addConnection env
          w.conns.next) :=
      emits_createConnection w hconn ⟨data, ts, now, msg, remoteUfrag, rfl, hv, htype⟩
    have hplace : (((w.createConnection p (w.peerCandidate addr remoteUfrag
        priority)).1.addConnection env w.conns.next).conn w.conns.next).place = (p, addr) :=
      congrArg IceConnection.place Arena.cell_alloc_next
    refine Emits.mute ?_ (mute_sortConnectionsAndUpdateState _ now)
    refine hcreate.trans_of_sent_eq rfl (emits_handleStunBindingRequest _ hplace ?_)
    intro buf hwrite
    rw [(hcreate.port p).1] at hwrite
    exact .answer (.success hv htype hwrite)

theorem emits_onReadPacket (hentries : EntriesOk w) :
    Emits (Emission env w (.datagram p addr data ts now))
      (Opens env w (.datagram p addr data ts now)) w (w.onReadPacket env p addr data ts now) := by
  rw [onReadPacket]
  rcases hconn : w.getConnection p addr with _ | c
  · dsimp only
    rcases hv : w.stunVerdict env p data with _ | ⟨msg, errCode, reason⟩ | ⟨msg, remoteUfrag⟩
    · exact (Mute.refl w).emits
    · exact emits_sendBindingErrorResponse w fun buf hwrite ↦ .answer (.refusal hv hwrite)
    · dsimp only
      split_ifs with htype
      · exact emits_onUnknownAddress hconn hv htype
      · exact (Mute.refl w).emits
  · obtain ⟨-, hport, haddr⟩ := hentries p addr c hconn
    exact emits_onConnReadPacket (by rw [IceConnection.place, hport, haddr])

theorem emits_ping (w : World) (c : ConnId) (id : ByteString) (now : ℤ)
    (h : ∀ d, w.conns.live c = true → d.place = (w.conn c).place →
      (w.prepare env c id).write = some d.data → allowed d) :
    Emits allowed opens w (w.ping env c id now) := by
  have hrequest (w : World) (requests : Arena StunRequest) : Mute w { w with requests } :=
    .of_eq rfl rfl rfl
  rw [ping]
  split_ifs with hlive
  · refine Emits.mute ?_ (mute_modifyConn _ c fun _ ↦ .of_eq rfl rfl)
    refine Emits.mute ?_ (mute_setConnState _ c .inProgress)
    have hstamp : Mute w (w.modifyConn c fun x ↦ { x with
        lastPingSent := now
        pingsSinceLastResponse := x.pingsSinceLastResponse ++ [⟨id, now⟩] }) :=
      mute_modifyConn w c fun _ ↦ .of_eq rfl rfl
    have hpeers : SamePeers w (w.modifyConn c fun x ↦ { x with
        lastPingSent := now
        pingsSinceLastResponse := x.pingsSinceLastResponse ++ [⟨id, now⟩] }) :=
      samePeers_modifyConn w c (fun _ ↦ rfl) fun _ ↦ rfl
    refine hstamp.trans_emits ?_
    -- the stamps of the ping are no part of its message
    have hprepare := hpeers.prepare env hstamp.port c id
    generalize w.modifyConn c (fun x ↦ { x with
      lastPingSent := now
      pingsSinceLastResponse := x.pingsSinceLastResponse ++ [⟨id, now⟩] }) = w₁
      at hstamp hprepare ⊢
    have hentry : Mute w₁ ({ w₁ with
        requests := w₁.requests.alloc ⟨w₁.prepare env c id, some c, c, now⟩ }.modifyConn c fun x ↦
          { x with requests := x.requests.insert id w₁.requests.next }) :=
      (hrequest w₁ _).trans (mute_modifyConn_requests _ c _)
    rw [sendRequest]
    split
    · exact hentry.emits
    · next buf hwrite =>
      refine hentry.trans_emits (emits_sendTo _ (h _ hlive ?_ ?_))
      · exact ((hstamp.keeps c).trans (hentry.keeps c)).place
      · rw [← hprepare]
        exact hwrite
  · exact (mute_fault w _).emits

theorem emits_onCheckAndPing (w : World) (id : ByteString) (now : ℤ) :
    Emits (Emission env w (.checkAndPing id now)) opens w (w.onCheckAndPing env id now) := by
  have hselect : Mute w (w.selecting env now) := (mute_updateConnectionStates w now).trans
    (mute_selectConnectionToPing env _
      ((w.updateConnectionStates now).channel.lastPingSentMs - pingIntervalDiff) now)
  have hlive := live_selecting env w now
  have hprepare (c : ConnId) := (samePeers_selecting env w now).prepare env hselect.port c id
  have hstep : w.onCheckAndPing env id now =
      ((w.selecting env now).pingConnection env (w.connectionToPing env now) id
        now).setPingInterval ((w.updateConnectionStates now).selectConnectionToPing env
          ((w.updateConnectionStates now).channel.lastPingSentMs - pingIntervalDiff) now).2.2 := rfl
  rw [hstep]
  refine Emits.mute ?_ (mute_setPingInterval _ _)
  refine hselect.trans_emits ?_
  generalize w.selecting env now = w₁ at hselect hlive hprepare ⊢
  rcases w.connectionToPing env now with _ | c
  · exact (Mute.refl w₁).emits
  · refine Emits.mute ?_ (mute_markConnectionPinged _ c)
    have hstamp : Mute w₁ { w₁ with channel := { w₁.channel with lastPingSentMs := now } } :=
      .of_eq rfl rfl rfl
    refine hstamp.trans_emits (emits_ping _ c id now fun d hc hplace hwrite ↦ ?_)
    refine .ping ⟨c, hlive ▸ hc, hplace.trans (hselect.keeps c).place, ?_⟩
    rw [← hprepare c]
    exact hwrite

/-- **What an event can send.** -/
theorem emits_step (env : IceEnv) (hentries : EntriesOk w) (e : IceEvent) :
    Emits (Emission env w e) (Opens env w e) w (w.step env e) := by
  cases e with
  | datagram p addr data ts now => exact emits_onReadPacket hentries
  | setRemoteIceParams iceParams now => exact (mute_setRemoteIceParams w iceParams now).emits
  | checkAndPing id now => exact emits_onCheckAndPing w id now
  | sendPacket data =>
    rw [step]
    by_cases h : ∃ c, HandsTo w.channel w.conns c
    · obtain ⟨c, hc⟩ := h
      rw [sendPacket_of_handsTo hc]
      exact emits_sendTo w (.packet hc)
    · rw [sendPacket_of_not_handsTo fun c hc ↦ h ⟨c, hc⟩]
      exact (Mute.refl w).emits

/-! ## Runs

`Opens` and `Emission` speak of the state before an event, and `Asked` and `Consented` of the events
alone. The step from the one to the other is that the port of a run keeps its credentials, so an
authenticated request can be recognised without the state. -/

/-- The events that bring a datagram from this place, with what they bring. -/
def dataFrom (place : PortId × SocketAddress) : IceEvent → Option ByteString
  | .datagram p addr data _ _ => if (p, addr) = place then some data else none
  | _ => none

variable (env) (component : IceCandidateComponent) (port : PortId → IceParameters × Candidate)

/-- An authenticated binding request has come from this place. -/
def Asked (es : List IceEvent) (place : PortId × SocketAddress) : Prop :=
  ∃ data ∈ es.filterMap (dataFrom place), ∃ msg remoteUfrag,
    UDPPort.getStunMessage env (port place.1).1 data = .accepted msg remoteUfrag ∧
      msg.type = stunBindingRequest

/-- What a datagram is that is sent in the event `e`, after the events `es`. -/
def Consented (es : List IceEvent) (e : IceEvent) (d : SentDatagram) : Prop :=
  match e with
  | .datagram p addr data _ _ => d.place = (p, addr) ∧ AnswerTo env (port p).1 addr data d.data
  | .setRemoteIceParams _ _ => False
  | .checkAndPing id _ =>
    (run env component port es).Pings env id d ∧ Asked env port es d.place
  | .sendPacket data => d.data = data ∧ Asked env port es d.place

variable {env component port} {es : List IceEvent} {e : IceEvent} {place : PortId × SocketAddress}

theorem Asked.append (h : Asked env port es place) (es' : List IceEvent) :
    Asked env port (es ++ es') place := by
  obtain ⟨data, hdata, hask⟩ := h
  rw [Asked, List.filterMap_append]
  exact ⟨data, List.mem_append_left _ hdata, hask⟩

/-- The connections of a run are at places that have asked for them. -/
structure ConsentInv (env : IceEnv) (port : PortId → IceParameters × Candidate)
    (es : List IceEvent) (w : World) : Prop where
  iceParams : ∀ p, (w.port p).iceParams = (port p).1
  asked : ∀ c < w.conns.next, Asked env port es (w.conn c).place
  canSend : ∀ c, CanSend w.conns c → c < w.conns.next

theorem ConsentInv.step (h : ConsentInv env port es w) (howned : RequestsOwned w)
    (hentries : EntriesOk w) (e : IceEvent) : ConsentInv env port (es ++ [e]) (w.step env e) := by
  have hemits := emits_step env hentries e
  refine ⟨fun p ↦ (hemits.port p).1.trans (h.iceParams p), fun c hc ↦ ?_, fun c hc ↦ ?_⟩
  · by_cases hlt : c < w.conns.next
    · rw [(hemits.keeps c hlt).place]
      exact (h.asked c hlt).append [e]
    · have hopens := hemits.opens c (not_lt.mp hlt) hc
      generalize ((w.step env e).conn c).place = place at hopens ⊢
      obtain ⟨data, ts, now, msg, remoteUfrag, rfl, hverdict, htype⟩ := hopens
      refine ⟨data, ?_, msg, remoteUfrag, ?_, htype⟩
      · rw [List.filterMap_append]
        exact List.mem_append_right _ (by simp [dataFrom])
      · rwa [stunVerdict, h.iceParams] at hverdict
  · refine lt_of_lt_of_le ?_ hemits.next
    rcases (traced_step env howned e).canSend c hc with hc | ⟨msg, hmsg, -⟩
    · exact h.canSend c hc
    · exact w.conns.live_lt c hmsg.live

theorem ConsentInv.consented (h : ConsentInv env port es w)
    (hw : w = run env component port es) (hentries : EntriesOk w) (e : IceEvent) :
    ∃ d : Option SentDatagram, (w.step env e).sent = w.sent ++ d.toList ∧
      ∀ x ∈ d, Consented env component port es e x := by
  obtain ⟨d, hsent, hd⟩ := (emits_step env hentries e).sent
  refine ⟨d, hsent, fun x hx ↦ ?_⟩
  cases hd x hx with
  | answer hanswer =>
    rw [h.iceParams] at hanswer
    exact ⟨rfl, hanswer⟩
  | ping hpings =>
    obtain ⟨c, hlive, hplace, -⟩ := id hpings
    refine ⟨hw ▸ hpings, ?_⟩
    rw [hplace]
    exact h.asked c (w.conns.live_lt c hlive)
  | packet hc => exact ⟨rfl, h.asked _ (h.canSend _ hc.2)⟩

theorem consentInv_run (env : IceEnv) (component : IceCandidateComponent)
    (port : PortId → IceParameters × Candidate) (es : List IceEvent) :
    ConsentInv env port es (run env component port es) := by
  refine exec_induction (s := World.init component port)
    (J := fun es w ↦ ConsentInv env port es w) ?_ ?_ es
  · exact ⟨fun _ ↦ rfl, fun c hc ↦ (by cases hc), fun c hc ↦ absurd hc (by decide : ¬2 ≤ 1)⟩
  · intro es e ih
    exact ih.step (worldInv_run env component port es).owned
      (entriesOk_run env component port es).1 e

/-- **Nobody hears from a channel unasked.** An event makes a channel send one datagram at most: the
answer to the one it brings, to where this came from, or else a ping or a packet of the owner, to a
place from which an authenticated binding request has come before. -/
theorem consent_run (env : IceEnv) (component : IceCandidateComponent)
    (port : PortId → IceParameters × Candidate) (es : List IceEvent) (e : IceEvent) :
    ∃ d : Option SentDatagram,
      (run env component port (es ++ [e])).sent = (run env component port es).sent ++ d.toList ∧
      ∀ x ∈ d, Consented env component port es e x := by
  have hconsented := (consentInv_run env component port es).consented rfl
    (entriesOk_run env component port es).1 e
  rwa [run, exec_append_singleton]

/-! ## Strangers

A datagram that is refused has at least 28 bytes, a header and a fingerprint that was checked. The
refusal has 48 whatever the reason is, since the two texts are equally long and the transaction id
always has twelve bytes. -/

/-- A message that passes the check of its fingerprint has the magic cookie, so `read` takes the
twelve bytes after it for the transaction id. -/
theorem length_transactionId_of_read {data rest : ByteString} {msg : StunMessage}
    (hfingerprint : validateFingerprint env data = true)
    (hread : StunMessage.read data = some (msg, rest)) :
    msg.transactionId.length = kStunTransactionIdLength ∧ 28 ≤ data.length := by
  rw [validateFingerprint] at hfingerprint
  dsimp only at hfingerprint
  split_ifs at hfingerprint with hlength hcookie
  rw [not_or, not_lt, kStunHeaderSize, kStunAttributeHeaderSize] at hlength
  refine ⟨?_, hlength.2⟩
  rw [StunMessage.read] at hread
  obtain ⟨⟨type, buf₁⟩, h₁, hread⟩ := Option.bind_eq_some_iff.mp hread
  dsimp only at hread
  split_ifs at hread
  obtain ⟨⟨length, buf₂⟩, h₂, hread⟩ := Option.bind_eq_some_iff.mp hread
  obtain ⟨⟨magicCookie, buf₃⟩, h₃, hread⟩ := Option.bind_eq_some_iff.mp hread
  obtain ⟨⟨transactionId, buf₄⟩, h₄, hread⟩ := Option.bind_eq_some_iff.mp hread
  dsimp only at hread
  obtain ⟨-, rfl⟩ := rest_of_readUInt16 h₁
  obtain ⟨-, rfl⟩ := rest_of_readUInt16 h₂
  rw [readBytes] at h₃ h₄
  split_ifs at h₃
  split_ifs at h₄ with hrest
  cases h₃
  cases h₄
  have hmagic : be32 (((data.drop 2).drop 2).take kStunMagicCookieLength) 0 =
      kStunMagicCookie := by
    rw [be32, be16_take (by decide), be16_take (by decide), be16_drop, be16_drop, be16_drop,
      be16_drop]
    exact not_not.mp hcookie
  dsimp only at hread
  rw [hmagic, if_neg (not_not.mpr rfl)] at hread
  split_ifs at hread
  obtain ⟨⟨attrs, rest'⟩, -, hread⟩ := Option.bind_eq_some_iff.mp hread
  cases hread
  exact List.length_take.trans (Nat.min_eq_left hrest)

theorem rejected_spec {iceParams : IceParameters} {data : ByteString} {msg : StunMessage}
    {errCode : ℕ} {reason : ByteString}
    (h : UDPPort.getStunMessage env iceParams data = .rejected msg errCode reason) :
    msg.transactionId.length = kStunTransactionIdLength ∧ 28 ≤ data.length ∧
      (errCode = stunErrorBadRequest ∧ reason = stunErrorReasonBadRequest ∨
        errCode = stunErrorUnauthorized ∧ reason = stunErrorReasonUnauthorized) := by
  rw [UDPPort.getStunMessage] at h
  split_ifs at h with hfingerprint
  rcases hread : StunMessage.read data with _ | ⟨msg', rest⟩
  · rw [hread] at h
    cases h
  rw [hread] at h
  dsimp only at h
  split_ifs at h
  obtain ⟨htid, hlength⟩ := length_transactionId_of_read (by simpa using hfingerprint) hread
  have hchecked : msg.transactionId = msg'.transactionId ∧
      (errCode = stunErrorBadRequest ∧ reason = stunErrorReasonBadRequest ∨
        errCode = stunErrorUnauthorized ∧ reason = stunErrorReasonUnauthorized) := by
    rw [UDPPort.checkRequest] at h
    split_ifs at h
    · cases h
      exact ⟨rfl, .inl ⟨rfl, rfl⟩⟩
    · rcases husername : UDPPort.parseStunUsername msg' with _ | ⟨localUfrag, remoteUfrag⟩
      · rw [husername] at h
        cases h
        exact ⟨rfl, .inr ⟨rfl, rfl⟩⟩
      · rw [husername] at h
        dsimp only at h
        split_ifs at h <;> cases h
        · exact ⟨rfl, .inr ⟨rfl, rfl⟩⟩
        · exact ⟨rfl, .inr ⟨rfl, rfl⟩⟩
  rw [hchecked.1]
  exact ⟨htid, hlength, hchecked.2⟩

theorem length_write_addFingerprint {msg : StunMessage} {buf : ByteString} (h : msg.WellBuilt)
    (htid : msg.transactionId.length = kStunTransactionIdLength) (hsize : msg.size + 8 < 65536)
    (hwrite : (msg.addFingerprint env).write = some buf) : buf.length = 28 + msg.size := by
  rw [StunMessage.addFingerprint_eq env h hsize] at hwrite
  generalize env.computeCrc32 (StunMessage.header msg.type (msg.size + 8) msg.transactionId ++
    StunMessage.body msg.attrs) ^^^ stunFingerprintXorValue = value at hwrite
  have hattrs : ∀ attr ∈ msg.attrs ++ [StunMessage.fingerprintAttr value], attr.WellFormed := by
    intro attr hmem
    rcases List.mem_append.mp hmem with hmem | hmem
    · exact h.attrs attr hmem
    · rw [List.mem_singleton.mp hmem]
      exact StunMessage.wellFormed_fingerprintAttr value
  have hsum : ((msg.attrs ++ [StunMessage.fingerprintAttr value]).map StunAttribute.size).sum =
      msg.size + 8 := by simp [StunMessage.size]
  rw [StunMessage.write_eq hattrs] at hwrite
  rw [← Option.some.inj hwrite, List.length_append, StunMessage.length_header htid,
    StunMessage.length_body hattrs (by omega), hsum, kStunHeaderSize]
  omega

/-- A refusal has 48 bytes: the header, the error code with its text, and the fingerprint. -/
theorem length_refusal {icePwd : ByteString} {msg : StunMessage} {errCode : ℕ}
    {reason buf : ByteString} (htid : msg.transactionId.length = kStunTransactionIdLength)
    (h : errCode = stunErrorBadRequest ∧ reason = stunErrorReasonBadRequest ∨
      errCode = stunErrorUnauthorized ∧ reason = stunErrorReasonUnauthorized)
    (hwrite : (UDPPort.bindingErrorResponse env icePwd msg errCode reason).write = some buf) :
    buf.length = 48 := by
  have hbuilt := (wellBuilt_new stunBindingErrorResponse msg.transactionId).addAttribute
    (wellFormed_errorCode errCode reason)
  have hreason : reason.length = 11 := by
    rcases h with ⟨-, rfl⟩ | ⟨-, rfl⟩ <;> decide
  have hsize : (({ type := stunBindingErrorResponse, transactionId := msg.transactionId } :
      StunMessage).addAttribute (.createErrorCode errCode reason)).size = 20 := by
    simp [StunMessage.size, StunMessage.addAttribute, StunAttribute.createErrorCode,
      StunAttribute.size, StunAttribute.valueSize, paddingOf, kStunAttributeHeaderSize, hreason]
  have heq : UDPPort.bindingErrorResponse env icePwd msg errCode reason =
      (({ type := stunBindingErrorResponse, transactionId := msg.transactionId } :
        StunMessage).addAttribute (.createErrorCode errCode reason)).addFingerprint env := by
    rcases h with ⟨rfl, -⟩ | ⟨rfl, -⟩
    · rfl
    · rfl
  rw [heq] at hwrite
  rw [length_write_addFingerprint hbuilt htid (by omega) hwrite, hsize]

/-- The bytes in these datagrams. -/
def bytes (datagrams : List ByteString) : ℕ := (datagrams.map List.length).sum

/-- What was sent to this place. -/
def sentTo (w : World) (place : PortId × SocketAddress) : List ByteString :=
  (w.sent.filter fun d ↦ d.place = place).map (·.data)

/-- The datagrams to a place are no more than those from it, and have less than twice their bytes:
a refusal has 48, and what is refused 28 at least. -/
structure Repays (sent received : List ByteString) : Prop where
  length : sent.length ≤ received.length
  bytes : 7 * World.bytes sent ≤ 12 * World.bytes received

theorem Repays.receive {sent received : List ByteString} (h : Repays sent received)
    (more : List ByteString) : Repays sent (received ++ more) where
  length := h.length.trans (by simp)
  bytes := h.bytes.trans (Nat.mul_le_mul_left 12 (by simp [World.bytes]))

theorem Repays.refuse {sent received : List ByteString} (h : Repays sent received)
    {data buf : ByteString} (hdata : 28 ≤ data.length) (hbuf : buf.length = 48) :
    Repays (sent ++ [buf]) (received ++ [data]) where
  length := by
    simpa using h.length
  bytes := by
    have hbytes := h.bytes
    simp only [World.bytes, List.map_append, List.sum_append, List.map_singleton,
      List.sum_singleton] at hbytes ⊢
    omega

/-- All that a place gets that has not asked is refusals of what comes from there. -/
theorem Consented.refused {x : SentDatagram} (h : Consented env component port es e x)
    (hasked : ¬Asked env port (es ++ [e]) x.place) :
    ∃ data, dataFrom x.place e = some data ∧ 28 ≤ data.length ∧ x.data.length = 48 := by
  have hbefore : ¬Asked env port es x.place := fun h ↦ hasked (h.append [e])
  cases e with
  | datagram p addr data ts now =>
    obtain ⟨hplace, hanswer⟩ := h
    have hfrom : dataFrom x.place (.datagram p addr data ts now) = some data :=
      if_pos hplace.symm
    have hport : (port x.place.1).1 = (port p).1 := by rw [hplace]
    have hnot {msg : StunMessage} {remoteUfrag : ByteString}
        (hverdict : UDPPort.getStunMessage env (port p).1 data = .accepted msg remoteUfrag)
        (htype : msg.type = stunBindingRequest) : False := by
      refine hasked ⟨data, ?_, msg, remoteUfrag, hport ▸ hverdict, htype⟩
      rw [List.filterMap_append]
      exact List.mem_append_right _ (by simp [hfrom])
    cases hanswer with
    | refusal hverdict hwrite =>
      obtain ⟨htid, hlength, hreason⟩ := rejected_spec hverdict
      exact ⟨data, hfrom, hlength, length_refusal htid hreason hwrite⟩
    | mismatch hverdict htype => exact absurd htype fun htype ↦ hnot hverdict htype
    | success hverdict htype => exact absurd htype fun htype ↦ hnot hverdict htype
  | setRemoteIceParams iceParams now => cases h
  | checkAndPing id now => exact absurd h.2 hbefore
  | sendPacket data => exact absurd h.2 hbefore

/-- **A channel is no amplifier.** A place from which no authenticated request has come gets no more
datagrams than have come from it, and less than twice as many bytes. -/
theorem unsolicited_run (env : IceEnv) (component : IceCandidateComponent)
    (port : PortId → IceParameters × Candidate) (es : List IceEvent)
    {place : PortId × SocketAddress} (hasked : ¬Asked env port es place) :
    Repays ((run env component port es).sentTo place) (es.filterMap (dataFrom place)) := by
  induction es using List.reverseRecOn with
  | nil => exact ⟨Nat.zero_le _, Nat.zero_le _⟩
  | append_singleton es e ih =>
    have hbefore : ¬Asked env port es place := fun h ↦ hasked (h.append [e])
    obtain ⟨d, hsent, hd⟩ := (consentInv_run env component port es).consented rfl
      (entriesOk_run env component port es).1 e
    have hsent' : ((run env component port (es ++ [e])).sentTo place) =
        (run env component port es).sentTo place ++
          (d.toList.filter fun x ↦ x.place = place).map (·.data) := by
      rw [run, exec_append_singleton, sentTo, sentTo]
      exact (congrArg (fun l ↦ (l.filter fun x : SentDatagram ↦ x.place = place).map (·.data))
        hsent).trans (by rw [List.filter_append, List.map_append])
    rw [hsent', List.filterMap_append]
    rcases d with _ | x
    · rw [Option.toList_none, List.filter_nil, List.map_nil, List.append_nil]
      exact (ih hbefore).receive _
    by_cases hplace : x.place = place
    · obtain ⟨data, hdata, hlength, hbuf⟩ := (hd x rfl).refused (hplace ▸ hasked)
      rw [hplace] at hdata
      simpa [hplace, hdata] using (ih hbefore).refuse hlength hbuf
    · simpa [hplace] using (ih hbefore).receive ([e].filterMap (dataFrom place))

/-- A forged request is refused, and no more. -/
theorem unsolicited_forged :
    ((run sampleEnv .rtp (fun _ ↦ samplePort) [.datagram 0 peerA forgedRequest 10 10]).sentTo
        (0, peerA)).length = 1 ∧
      Repays ((run sampleEnv .rtp (fun _ ↦ samplePort)
        [.datagram 0 peerA forgedRequest 10 10]).sentTo (0, peerA)) [forgedRequest] := by
  refine ⟨by decide +kernel, @unsolicited_run sampleEnv .rtp (fun _ ↦ samplePort)
    [.datagram 0 peerA forgedRequest 10 10] (0, peerA) ?_⟩
  rintro ⟨data, hdata, msg, remoteUfrag, hverdict, -⟩
  obtain rfl : data = forgedRequest := by simpa [dataFrom] using hdata
  have hrejected : UDPPort.getStunMessage sampleEnv samplePort.1 forgedRequest =
      .rejected (forgedMessage.validateMessageIntegrity sampleEnv samplePort.1.icePwd)
        stunErrorUnauthorized stunErrorReasonUnauthorized := by decide +kernel
  cases hrejected.symm.trans hverdict

end World

end XrtcServer
