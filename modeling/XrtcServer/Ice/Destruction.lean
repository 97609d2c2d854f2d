import XrtcServer.Ice.RequestOwnership
import XrtcServer.Ice.StunCodec

/-!
# What an event can do to the connections

An event destroys at most one connection, and it does so in one way only: a datagram from the
connection's address is an authenticated error response to one of its pings. `FailsConnection` is
that condition. There are codes after which a ping is to be tried again, but `read` keeps no code,
so they make no difference (`fatalTo_iff_of_accepted`). Every other event leaves the connections as
they are, or adds one (`step_of_not_failsConnection`).

## Two cases

A run lemma about connections therefore has three cases at each event, and they are listed once, in
`StepOutcome`. What happens in the third, where `delete this` runs in the middle of the handler, is
computed in full: the state without the connection (`withoutConn`), and then a request that is
destroyed once more than it was made.

## What follows

From this follow the invariant of every run, `WorldInv`, and the exact condition under which
`check_response` misuses no request and no manager.
-/

namespace XrtcServer

open EventRun ByteString

namespace World

variable {env : IceEnv} {w w' : World} {c d : ConnId} {r : RequestId} {id : ByteString} {now : ℤ}
  {msg : StunMessage} {e : IceEvent}

/-! ## A response

`check_response` finds the request by its transaction id, hands the response to it and deletes it in
any case. So a response settles one request at most, whatever it says. -/

/-- The message is an error response to an outstanding ping of `c`, with a code that is final. -/
def FatalTo (w : World) (c : ConnId) (msg : StunMessage) : Prop :=
  msg.type = stunBindingErrorResponse ∧ ((w.conn c).requests.lookup msg.transactionId).isSome ∧
    mayRecover msg.getErrorCodeValue = false

instance (w : World) (c : ConnId) (msg : StunMessage) : Decidable (w.FatalTo c msg) :=
  inferInstanceAs (Decidable (_ ∧ _ ∧ _))

theorem getStunSuccessResponse_bindingRequest :
    getStunSuccessResponse stunBindingRequest = stunBindingResponse := by decide

theorem getStunErrorResponse_bindingRequest :
    getStunErrorResponse stunBindingRequest = stunBindingErrorResponse := by decide

/-- What `check_response` can do for a connection that owns its requests. -/
inductive ResponseOutcome (env : IceEnv) (w : World) (c : ConnId) (msg : StunMessage) (now : ℤ) :
    World → Prop
  | unknown (hl : (w.conn c).requests.lookup msg.transactionId = none) :
    ResponseOutcome env w c msg now w
  | success (r : RequestId) (hl : (w.conn c).requests.lookup msg.transactionId = some r)
    (htype : msg.type = stunBindingResponse) :
    ResponseOutcome env w c msg now
      ((w.receivedPingResponse env c (w.elapsed r now) now).deleteRequest r)
  | dropped (r : RequestId) (hl : (w.conn c).requests.lookup msg.transactionId = some r)
    (htype : msg.type ≠ stunBindingResponse) (hf : ¬w.FatalTo c msg) :
    ResponseOutcome env w c msg now (w.deleteRequest r)
  | fatal (r : RequestId) (hl : (w.conn c).requests.lookup msg.transactionId = some r)
    (hf : w.FatalTo c msg) :
    ResponseOutcome env w c msg now ((w.failAndDestroy c now).deleteRequest r)

theorem FatalTo.type_ne (hf : w.FatalTo c msg) : msg.type ≠ stunBindingResponse := by
  rw [hf.1]
  decide

theorem responseOutcome_checkResponse (env : IceEnv) (now : ℤ) (msg : StunMessage)
    (h : RequestsOwned w) (hc : w.conns.live c = true) :
    ResponseOutcome env w c msg now (w.checkResponse env c msg now).1 := by
  rw [checkResponse]
  rcases hl : (w.conn c).requests.lookup msg.transactionId with _ | r
  · exact .unknown hl
  have hr := h c hc _ r hl
  dsimp only
  rw [hr.type, hr.connection, getStunSuccessResponse_bindingRequest,
    getStunErrorResponse_bindingRequest, useRequest, if_pos hr.live]
  split_ifs with hsuccess herror
  · exact .success r hl (by exact_mod_cast hsuccess)
  · have htype : msg.type ≠ stunBindingResponse := fun heq ↦ hsuccess (congrArg _ heq)
    rw [onConnectionRequestErrorResponse]
    by_cases hcode : mayRecover msg.getErrorCodeValue = true
    · rw [if_pos hcode]
      exact .dropped r hl htype fun hf ↦ by cases hcode.symm.trans hf.2.2
    · rw [if_neg hcode]
      exact .fatal r hl ⟨by exact_mod_cast herror, by rw [hl]; rfl, by simpa using hcode⟩
  · refine .dropped r hl (fun heq ↦ hsuccess (congrArg _ heq)) fun hf ↦ ?_
    exact herror (congrArg _ hf.1)

/-- A response that is not fatal settles at most one request, the one it answers. -/
theorem checkResponse_of_not_fatalTo (env : IceEnv) (now : ℤ) (msg : StunMessage)
    (h : RequestsOwned w) (hc : w.conns.live c = true) (hf : ¬w.FatalTo c msg) :
    SameShape w (w.checkResponse env c msg now).1 ∧
      RequestsOwned (w.checkResponse env c msg now).1 ∧
      (w.checkResponse env c msg now).1.faults = w.faults ∧
      msg.transactionId ∉ ((w.checkResponse env c msg now).1.conn c).requests := by
  -- the handlers settle, and the request that is deleted afterwards is still owned
  have hdelete {r : RequestId} {w₁ : World}
      (hl : (w.conn c).requests.lookup msg.transactionId = some r) (hs : Settles w w₁) :
      SameShape w (w₁.deleteRequest r) ∧ RequestsOwned (w₁.deleteRequest r) ∧
        (w₁.deleteRequest r).faults = w.faults ∧
        msg.transactionId ∉ ((w₁.deleteRequest r).conn c).requests := by
    have hr₁ : Owned w₁ c msg.transactionId r := (h c hc _ r hl).congr hs.requests
    have hc₁ : w₁.conns.live c = true := by rw [hs.live, hc]
    refine ⟨hs.toSameShape.trans (onlyRequests_deleteRequest w₁ r).sameShape, ?_, ?_, ?_⟩
    · exact (hs.toSameRequests.requestsOwned h).deleteRequest hr₁ hc₁
    · rw [hr₁.faults_deleteRequest hc₁, hs.faults]
    · intro hmem
      rw [hr₁.deleteRequest_eq hc₁] at hmem
      obtain ⟨r', hr'⟩ := Option.isSome_iff_exists.mp (AList.lookup_isSome.mpr hmem)
      exact (lookup_requests_erase hr').2 rfl rfl
  have houtcome := responseOutcome_checkResponse env now msg h hc
  generalize (w.checkResponse env c msg now).1 = w' at houtcome ⊢
  cases houtcome with
  | unknown hl => exact ⟨.refl w, h, rfl, AList.lookup_eq_none.mp hl⟩
  | success r hl htype => exact hdelete hl (settles_receivedPingResponse env w c _ now)
  | dropped r hl htype hf => exact hdelete hl (.refl w)
  | fatal r hl hfatal => exact absurd hfatal hf

theorem checkResponse_of_fatalTo (env : IceEnv) (now : ℤ) (msg : StunMessage)
    (h : RequestsOwned w) (hc : w.conns.live c = true) (hf : w.FatalTo c msg) :
    ∃ r, Owned w c msg.transactionId r ∧
      (w.checkResponse env c msg now).1 = (w.failAndDestroy c now).deleteRequest r := by
  have houtcome := responseOutcome_checkResponse env now msg h hc
  generalize (w.checkResponse env c msg now).1 = w' at houtcome ⊢
  cases houtcome with
  | unknown hl =>
    have hlookup := hf.2.1
    rw [hl] at hlookup
    cases hlookup
  | success r hl htype => exact absurd htype hf.type_ne
  | dropped r hl htype hnot => exact absurd hf hnot
  | fatal r hl hf => exact ⟨r, h c hc _ r hl, rfl⟩

/-! ## The connection that goes

The destructor of the connection destroys its requests, and `check_response` then deletes one of
them again. Such an access is recorded as a fault and does nothing else; the other connections own
other requests, and do not notice. -/

/-- The state in which `delete this` has run, the requests apart. -/
def withoutConn (w : World) (c : ConnId) (now : ℤ) : World :=
  let w := (w.setConnState c .failed).onConnectionDestroyed c now
  { w with conns := w.conns.free c }

theorem onlyRequests_deleteConnection (w : World) (c : ConnId) :
    OnlyRequests { w with conns := w.conns.free c } (w.deleteConnection c) := by
  have h := onlyRequests_destroyRequests (w.conn c).requests.entries.length w c
  refine ⟨?_, h.next, h.port, h.controller, h.channel⟩
  exact congrArg (Function.update · c false) h.live

theorem onlyRequests_failAndDestroy (w : World) (c : ConnId) (r : RequestId) (now : ℤ) :
    OnlyRequests (w.withoutConn c now) ((w.failAndDestroy c now).deleteRequest r) :=
  (onlyRequests_deleteConnection _ c).trans (onlyRequests_deleteRequest _ r)

theorem live_withoutConn_iff : (w.withoutConn c now).conns.live d = true ↔
    d ≠ c ∧ w.conns.live d = true := by
  rw [← (sameRequests_failing w c now).live]
  exact Arena.live_free_iff

theorem perm_connections_withoutConn (w : World) (c : ConnId) (now : ℤ) :
    (w.withoutConn c now).controller.connections.Perm (w.controller.connections.erase c) := by
  rw [withoutConn, onConnectionDestroyed]
  dsimp only
  split_ifs
  · refine (settles_sortConnectionsAndUpdateState _ now).connections.trans (.of_eq ?_)
    rw [switchSelectedConnection]
    dsimp only [setConnState, modifyConn, removeFromController]
    rcases w.channel.selectedConnection with _ | s <;> rfl
  · exact (settles_updateState _).connections

/-- `delete request` for a request of a connection that is gone. -/
theorem deleteRequest_of_not_live (hm : (w.requests.cell r).manager = some c)
    (hc : w.conns.live c = false) : w.deleteRequest r =
      { (w.useRequest r (.requestDestroyed r)).fault (.managerCalled c) with
        requests := w.requests.free r } := by
  rw [deleteRequest, useRequest, leaveManager]
  split_ifs
  · rw [hm]
    dsimp only
    rw [removeRequest, hc, if_neg Bool.false_ne_true]
    rfl
  · rw [fault]
    dsimp only
    rw [hm]
    dsimp only
    rw [removeRequest]
    dsimp only
    rw [hc, if_neg Bool.false_ne_true]
    rfl

theorem length_faults_deleteRequest (hm : (w.requests.cell r).manager = some c)
    (hc : w.conns.live c = false) : w.faults.length < (w.deleteRequest r).faults.length := by
  have huse : w.faults.length ≤ (w.useRequest r (.requestDestroyed r)).faults.length := by
    rw [useRequest]
    split_ifs
    · exact le_rfl
    · simp [fault]
  rw [World.deleteRequest_of_not_live hm hc, fault]
  dsimp only
  rw [List.length_append, List.length_singleton]
  omega

theorem conns_useRequest (w : World) (r : RequestId) (f : Fault) :
    (w.useRequest r f).conns = w.conns := by
  rw [useRequest]
  split_ifs <;> rfl

/-- The other connections do not notice that a request is destroyed once too often. -/
theorem RequestsOwned.deleteRequest_of_not_live (h : RequestsOwned w)
    (hm : (w.requests.cell r).manager = some c) (hc : w.conns.live c = false) :
    RequestsOwned (w.deleteRequest r) := by
  rw [World.deleteRequest_of_not_live hm hc]
  intro d hd k r' hk
  rw [fault] at hd
  rw [fault, conn] at hk
  dsimp only at hd hk
  rw [conns_useRequest] at hd hk
  have hr' := h d hd k r' hk
  have hrr : r' ≠ r := by
    rintro rfl
    obtain rfl : d = c := Option.some.inj (hr'.manager.symm.trans hm)
    rw [hc] at hd
    cases hd
  exact { hr' with live := Arena.live_free_iff.mpr ⟨hrr, hr'.live⟩ }

theorem RequestsOwned.failAndDestroy (h : RequestsOwned w) (hc : w.conns.live c = true) (now : ℤ) :
    RequestsOwned (w.failAndDestroy c now) ∧ (w.failAndDestroy c now).faults = w.faults ∧
      (w.failAndDestroy c now).requests.cell = w.requests.cell ∧
      (w.failAndDestroy c now).conns.live c = false := by
  have hs := sameRequests_failing w c now
  obtain ⟨howned, hfaults, hcell⟩ := (hs.requestsOwned h).deleteConnection
    (c := c) (by rw [hs.live, hc])
  refine ⟨howned, hfaults.trans hs.faults, hcell.trans (by rw [hs.requests]), ?_⟩
  exact Arena.live_free_self

/-! ## Events

`FailsConnection` is asked of the datagram and the state before it. It can be met for one connection
at most, the one at the address it came from. -/

/-- The datagram `e` is an authenticated error response to an outstanding ping of the connection `c`
at its source. Whatever its code is, `c` will fail. -/
def FailsConnection (env : IceEnv) (w : World) (e : IceEvent) (c : ConnId) : Prop :=
  ∃ p addr data ts now msg remoteUfrag, e = .datagram p addr data ts now ∧
    w.getConnection p addr = some c ∧ w.conns.live c = true ∧
    w.stunVerdict env (w.conn c).port data = .accepted msg remoteUfrag ∧
    (msg.validateMessageIntegrity env (w.conn c).remoteCandidate.password).integrity =
      .integrityOk ∧
    msg.type = stunBindingErrorResponse ∧ ((w.conn c).requests.lookup msg.transactionId).isSome

/-- The code of an error response gets lost in `read`, so none that comes as a datagram is one after
which the ping is tried again. -/
theorem fatalTo_iff_of_accepted {p : PortId} {data remoteUfrag : ByteString}
    (hv : w.stunVerdict env p data = .accepted msg remoteUfrag) :
    w.FatalTo c msg ↔ msg.type = stunBindingErrorResponse ∧
      ((w.conn c).requests.lookup msg.transactionId).isSome := by
  refine ⟨fun hf ↦ ⟨hf.1, hf.2.1⟩, fun ⟨htype, hping⟩ ↦ ⟨htype, hping, ?_⟩⟩
  have hrequest : msg.type ≠ stunBindingRequest := by
    rw [htype]
    decide
  rw [getErrorCodeValue_read (read_of_accepted hv hrequest).2]
  decide

theorem FailsConnection.unique (h : w.FailsConnection env e c) (h' : w.FailsConnection env e d) :
    c = d := by
  obtain ⟨p, addr, data, ts, now, msg, remoteUfrag, rfl, hconn, -⟩ := h
  obtain ⟨p', addr', data', ts', now', msg', remoteUfrag', heq, hconn', -⟩ := h'
  cases heq
  rw [hconn] at hconn'
  exact Option.some.inj hconn'

/-- A new connection is entered in the map of its port and in the list of the controller. -/
def Creates (env : IceEnv) (w w' : World) : Prop :=
  ∃ p candidate,
    SameShape ((w.createConnection p candidate).1.addConnection env w.conns.next) w'

theorem onStunMessage_of_not_fatalTo (h : RequestsOwned w) (hc : w.conns.live c = true)
    {remoteUfrag : ByteString} (hf : (msg.validateMessageIntegrity env
      (w.conn c).remoteCandidate.password).integrity = .integrityOk → ¬w.FatalTo c msg) :
    SameShape w (w.onStunMessage env c msg remoteUfrag now) ∧
      RequestsOwned (w.onStunMessage env c msg remoteUfrag now) := by
  have hsettles {w₁ : World} (hs : Settles w w₁) : SameShape w w₁ ∧ RequestsOwned w₁ :=
    ⟨hs.toSameShape, hs.toSameRequests.requestsOwned h⟩
  rw [onStunMessage]
  dsimp only
  split_ifs with _ _ _ hok
  · exact hsettles (settles_sendBindingErrorResponse env w _ _ _ _ _)
  · exact hsettles (settles_handleStunBindingRequest env w c msg)
  · -- the verdict on the integrity is not what makes a response fatal
    have hresponse := checkResponse_of_not_fatalTo env now
      (msg.validateMessageIntegrity env (w.conn c).remoteCandidate.password) h hc (hf hok)
    exact ⟨hresponse.1, hresponse.2.1⟩
  · exact ⟨.refl w, h⟩
  · exact ⟨.refl w, h⟩

theorem onConnReadPacket_of_not_fatalTo (h : RequestsOwned w) {data : ByteString} (ts now : ℤ)
    (hf : ∀ msg remoteUfrag, w.conns.live c = true →
      w.stunVerdict env (w.conn c).port data = .accepted msg remoteUfrag →
      (msg.validateMessageIntegrity env (w.conn c).remoteCandidate.password).integrity
        = .integrityOk → ¬w.FatalTo c msg) :
    SameShape w (w.onConnReadPacket env c data ts now) ∧
      RequestsOwned (w.onConnReadPacket env c data ts now) := by
  rw [onConnReadPacket]
  split_ifs with hc
  · rcases hv : w.stunVerdict env (w.conn c).port data with _ | ⟨msg, errCode, reason⟩ |
      ⟨msg, remoteUfrag⟩
    · exact ⟨(settles_signal w _).toSameShape, (settles_signal w _).toSameRequests.requestsOwned h⟩
    · have hs := settles_sendBindingErrorResponse env w (w.conn c).port msg
        (w.conn c).remoteCandidate.address errCode reason
      exact ⟨hs.toSameShape, hs.toSameRequests.requestsOwned h⟩
    · exact onStunMessage_of_not_fatalTo h hc (hf msg remoteUfrag hc hv)
  · exact ⟨(onlyRequests_fault w _).sameShape, fun d hd k r hk ↦ (h d hd k r hk).congr rfl⟩

theorem requestsOwned_createConnection (h : RequestsOwned w) (p : PortId) (candidate : Candidate) :
    RequestsOwned ((w.createConnection p candidate).1.addConnection env w.conns.next) := by
  intro d hd k r hk
  rcases Arena.live_alloc_iff.mp hd with rfl | hd
  · -- the new connection has sent nothing
    have hnew : ((w.createConnection p candidate).1.addConnection env w.conns.next).conn
        w.conns.next = { port := p, remoteCandidate := candidate } := Arena.cell_alloc_next
    rw [hnew] at hk
    cases hk
  · have hold : ((w.createConnection p candidate).1.addConnection env w.conns.next).conn d =
        w.conn d := Arena.cell_alloc_of_ne (Arena.ne_next_of_live hd)
    rw [hold] at hk
    exact (h d hd k r hk).congr rfl

theorem onUnknownAddress_cases (h : RequestsOwned w) (p : PortId) (addr : SocketAddress)
    (remoteUfrag : ByteString) :
    (SameShape w (w.onUnknownAddress env p addr msg remoteUfrag now) ∨
      Creates env w (w.onUnknownAddress env p addr msg remoteUfrag now)) ∧
    RequestsOwned (w.onUnknownAddress env p addr msg remoteUfrag now) := by
  rw [onUnknownAddress]
  split
  · exact ⟨.inl (.refl w), h⟩
  · next priority _ =>
    have hs := (settles_handleStunBindingRequest env
      ((w.createConnection p (w.peerCandidate addr remoteUfrag priority)).1.addConnection env
        w.conns.next) w.conns.next msg).trans (settles_sortConnectionsAndUpdateState _ now)
    exact ⟨.inr ⟨p, _, hs.toSameShape⟩,
      hs.toSameRequests.requestsOwned (requestsOwned_createConnection h p _)⟩

theorem onReadPacket_of_not_failsConnection (h : RequestsOwned w) {p : PortId}
    {addr : SocketAddress} {data : ByteString} {ts : ℤ}
    (hf : ∀ c, ¬w.FailsConnection env (.datagram p addr data ts now) c) :
    (SameShape w (w.onReadPacket env p addr data ts now) ∨
      Creates env w (w.onReadPacket env p addr data ts now)) ∧
    RequestsOwned (w.onReadPacket env p addr data ts now) := by
  rw [onReadPacket]
  rcases hconn : w.getConnection p addr with _ | c
  · rcases hv : w.stunVerdict env p data with _ | ⟨msg, errCode, reason⟩ | ⟨msg, remoteUfrag⟩
    · exact ⟨.inl (.refl w), h⟩
    · have hs := settles_sendBindingErrorResponse env w p msg addr errCode reason
      exact ⟨.inl hs.toSameShape, hs.toSameRequests.requestsOwned h⟩
    · dsimp only
      split_ifs
      · exact onUnknownAddress_cases h p addr remoteUfrag
      · exact ⟨.inl (.refl w), h⟩
  · obtain ⟨hshape, howned⟩ := onConnReadPacket_of_not_fatalTo h ts now
      fun msg remoteUfrag hc hv hok hfatal ↦ hf c
        ⟨p, addr, data, ts, now, msg, remoteUfrag, rfl, hconn, hc, hv, hok,
          (fatalTo_iff_of_accepted hv).mp hfatal⟩
    exact ⟨.inl hshape, howned⟩

theorem pingConnection_spec (env : IceEnv) (h : RequestsOwned w) (conn : Option ConnId)
    (id : ByteString) (now : ℤ) : SameShape w (w.pingConnection env conn id now) ∧
      RequestsOwned (w.pingConnection env conn id now) := by
  rcases conn with _ | c
  · exact ⟨.refl w, h⟩
  rw [pingConnection]
  have hstamp : Settles w { w with channel := { w.channel with lastPingSentMs := now } } :=
    .of_eq rfl rfl rfl rfl rfl rfl rfl
  have hshape := hstamp.toSameShape.trans (onlyRequests_ping env _ c id now).sameShape
  have howned := (hstamp.toSameRequests.requestsOwned h).ping env c id now
  have hmark := settles_markConnectionPinged env
    (World.ping env { w with channel := { w.channel with lastPingSentMs := now } } c id now) c
  exact ⟨hshape.trans hmark.toSameShape, hmark.toSameRequests.requestsOwned howned⟩

theorem onCheckAndPing_spec (env : IceEnv) (h : RequestsOwned w) (id : ByteString) (now : ℤ) :
    SameShape w (w.onCheckAndPing env id now) ∧ RequestsOwned (w.onCheckAndPing env id now) := by
  have hselect := (settles_updateConnectionStates w now).trans
    (settles_selectConnectionToPing env _
      ((w.updateConnectionStates now).channel.lastPingSentMs - pingIntervalDiff) now)
  rw [onCheckAndPing]
  rcases hresult : (w.updateConnectionStates now).selectConnectionToPing env
    ((w.updateConnectionStates now).channel.lastPingSentMs - pingIntervalDiff) now
    with ⟨w₁, conn, pingInterval⟩
  rw [hresult] at hselect
  dsimp only at hselect ⊢
  obtain ⟨hshape, howned⟩ :=
    pingConnection_spec env (hselect.toSameRequests.requestsOwned h) conn id now
  have hinterval := settles_setPingInterval (w₁.pingConnection env conn id now) pingInterval
  exact ⟨(hselect.toSameShape.trans hshape).trans hinterval.toSameShape,
    hinterval.toSameRequests.requestsOwned howned⟩

/-- **Events that fail no connection** leave the connections as they are, or add one. -/
theorem step_of_not_failsConnection (h : RequestsOwned w) (hf : ∀ c, ¬w.FailsConnection env e c) :
    (SameShape w (w.step env e) ∨ Creates env w (w.step env e)) ∧ RequestsOwned (w.step env e) := by
  cases e with
  | datagram p addr data ts now => exact onReadPacket_of_not_failsConnection h hf
  | setRemoteIceParams iceParams now =>
    have hs := settles_setRemoteIceParams w iceParams now
    exact ⟨.inl hs.toSameShape, hs.toSameRequests.requestsOwned h⟩
  | checkAndPing id now =>
    obtain ⟨hshape, howned⟩ := onCheckAndPing_spec env h id now
    exact ⟨.inl hshape, howned⟩
  | sendPacket data =>
    have hs := settles_sendPacket w data
    exact ⟨.inl hs.toSameShape, hs.toSameRequests.requestsOwned h⟩

/-- **An event that fails a connection** destroys it, a request once too often, and leaves the other
connections. -/
theorem step_of_failsConnection (h : RequestsOwned w) (hf : w.FailsConnection env e c) :
    ∃ now, OnlyRequests (w.withoutConn c now) (w.step env e) ∧ RequestsOwned (w.step env e) ∧
      w.faults.length < (w.step env e).faults.length := by
  obtain ⟨p, addr, data, ts, now, msg, remoteUfrag, rfl, hconn, hc, hv, hok, hanswer⟩ := hf
  have htype : msg.type = stunBindingErrorResponse := hanswer.1
  have hfatal : w.FatalTo c msg := (fatalTo_iff_of_accepted hv).mpr hanswer
  obtain ⟨r, hr, hcheck⟩ := checkResponse_of_fatalTo env now
    (msg.validateMessageIntegrity env (w.conn c).remoteCandidate.password) h hc hfatal
  have hstep : w.step env (.datagram p addr data ts now) =
      (w.failAndDestroy c now).deleteRequest r := by
    rw [step, onReadPacket, hconn]
    dsimp only
    rw [onConnReadPacket, if_pos hc, hv]
    dsimp only
    rw [onStunMessage]
    dsimp only
    rw [htype, if_neg (by decide), if_pos (.inr rfl), if_pos hok, hcheck]
  obtain ⟨howned, hfaults, hcell, hdead⟩ := h.failAndDestroy hc now
  have hmanager : ((w.failAndDestroy c now).requests.cell r).manager = some c := by
    rw [hcell, hr.manager]
  rw [hstep]
  refine ⟨now, onlyRequests_failAndDestroy w c r now, ?_, ?_⟩
  · exact howned.deleteRequest_of_not_live hmanager hdead
  · rw [← hfaults]
    exact length_faults_deleteRequest hmanager hdead

/-- What an event can do to the connections: none comes or goes, one is made, or one fails. -/
inductive StepOutcome (env : IceEnv) (w : World) (e : IceEvent) (w' : World) : Prop
  | kept (hs : SameShape w w')
  | created {p : PortId} {candidate : Candidate}
    (hs : SameShape ((w.createConnection p candidate).1.addConnection env w.conns.next) w')
  | failed (c : ConnId) (now : ℤ) (hc : w.FailsConnection env e c)
    (honly : OnlyRequests (w.withoutConn c now) w')

variable (env) in
theorem stepOutcome_step (h : RequestsOwned w) (e : IceEvent) :
    StepOutcome env w e (w.step env e) ∧ RequestsOwned (w.step env e) := by
  by_cases hf : ∃ c, w.FailsConnection env e c
  · obtain ⟨c, hc⟩ := hf
    obtain ⟨now, honly, howned, -⟩ := step_of_failsConnection h hc
    exact ⟨.failed c now hc honly, howned⟩
  · obtain ⟨hs | ⟨p, candidate, hs⟩, howned⟩ := step_of_not_failsConnection h fun c hc ↦ hf ⟨c, hc⟩
    · exact ⟨.kept hs, howned⟩
    · exact ⟨.created hs, howned⟩

/-! ## Every run -/

/-- Requests have one owner, and the controller lists live connections, each once. -/
structure WorldInv (w : World) : Prop where
  owned : RequestsOwned w
  nodup : w.controller.connections.Nodup
  live : ∀ c ∈ w.controller.connections, w.conns.live c = true

theorem worldInv_init (component : IceCandidateComponent)
    (port : PortId → IceParameters × Candidate) : WorldInv (init component port) where
  owned := requestsOwned_init component port
  nodup := List.nodup_nil
  live c hc := by cases hc

theorem SameShape.worldInv (hs : SameShape w w') (ho : RequestsOwned w')
    (hnodup : w.controller.connections.Nodup)
    (hlive : ∀ c ∈ w.controller.connections, w.conns.live c = true) : WorldInv w' where
  owned := ho
  nodup := hs.connections.nodup_iff.mpr hnodup
  live c hc := by
    rw [hs.live]
    exact hlive c (hs.connections.mem_iff.mp hc)

theorem WorldInv.step (h : WorldInv w) (e : IceEvent) : WorldInv (w.step env e) := by
  obtain ⟨houtcome, howned⟩ := stepOutcome_step env h.owned e
  cases houtcome with
  | kept hs => exact hs.worldInv howned h.nodup h.live
  | created hs =>
    -- the new connection has a number that no listed one has
    have hnew : w.conns.next ∉ w.controller.connections := fun hmem ↦
      Arena.ne_next_of_live (h.live _ hmem) rfl
    refine hs.worldInv howned ?_ fun d hd ↦ Arena.live_alloc_iff.mpr ?_
    · exact List.nodup_append.mpr ⟨h.nodup, List.nodup_singleton _, fun a ha b hb hab ↦
        hnew (List.mem_singleton.mp hb ▸ hab ▸ ha)⟩
    · rcases List.mem_append.mp hd with hd | hd
      · exact .inr (h.live d hd)
      · exact .inl (List.mem_singleton.mp hd)
  | failed c now _ honly =>
    have hperm := perm_connections_withoutConn w c now
    refine honly.sameShape.worldInv howned (hperm.nodup_iff.mpr (h.nodup.erase c)) fun d hd ↦ ?_
    obtain ⟨hdc, hd⟩ := (h.nodup.mem_erase_iff).mp (hperm.mem_iff.mp hd)
    exact live_withoutConn_iff.mpr ⟨hdc, h.live d hd⟩

theorem worldInv_run (env : IceEnv) (component : IceCandidateComponent)
    (port : PortId → IceParameters × Candidate) (es : List IceEvent) :
    WorldInv (run env component port es) :=
  exec_invariant (fun _ e h ↦ h.step e) (worldInv_init component port) es

/-! ## When handling a response misuses nothing -/

/-- `check_response` destroys no request twice, and uses no request and no manager that is gone. -/
def ResponseSafe (env : IceEnv) (w : World) (c : ConnId) (msg : StunMessage) (now : ℤ) : Prop :=
  (w.checkResponse env c msg now).1.faults = w.faults

instance (env : IceEnv) (w : World) (c : ConnId) (msg : StunMessage) (now : ℤ) :
    Decidable (w.ResponseSafe env c msg now) := inferInstanceAs (Decidable (_ = _))

end World

open World

/-- **Responses and their requests.** In every state of every run, handling a response is safe
exactly when the response does not destroy the connection it is for. -/
theorem responseSafe_iff (env : IceEnv) (component : IceCandidateComponent)
    (port : PortId → IceParameters × Candidate) (es : List IceEvent) (c : ConnId)
    (hc : (run env component port es).conns.live c = true) (msg : StunMessage) (now : ℤ) :
    (run env component port es).ResponseSafe env c msg now ↔
      ¬(run env component port es).FatalTo c msg := by
  have h := (worldInv_run env component port es).owned
  constructor
  · intro hsafe hfatal
    obtain ⟨r, hr, hcheck⟩ := checkResponse_of_fatalTo env now msg h hc hfatal
    obtain ⟨-, hfaults, hcell, hdead⟩ := h.failAndDestroy hc now
    have hlt := length_faults_deleteRequest (r := r) (by rw [hcell, hr.manager]) hdead
    rw [ResponseSafe, hcheck] at hsafe
    rw [hsafe, hfaults] at hlt
    exact Nat.lt_irrefl _ hlt
  · intro hfatal
    exact (checkResponse_of_not_fatalTo env now msg h hc hfatal).2.2.1

/-! ## A conversation

Two peers behind one answer: their binding requests, their responses to pings with the ids
`pingnumber01` and `pingnumber02`, and the error response 400 of the first peer to the second
ping. -/

/-- A datagram by its 32-bit words. -/
def words (l : List ℕ) : ByteString := l.flatMap putBE32

def bindingRequestA : ByteString :=
  words [0x00010038, 0x2112A442, 0x72657175, 0x65737466, 0x726F6D41, 0x00060009, 0x73727631,
    0x3A706565, 0x72000000, 0x00240004, 0x6E0001FF, 0x00080014, 0x998D1783, 0xE9088D70, 0x06CA4865,
    0xF68B0FC6, 0xFF428B69, 0x80280004, 0xF0D3DA94]

def bindingRequestB : ByteString :=
  words [0x00010038, 0x2112A442, 0x72657175, 0x65737466, 0x726F6D42, 0x00060009, 0x73727631,
    0x3A706565, 0x72000000, 0x00240004, 0x6E0001FF, 0x00080014, 0x7F539D55, 0xE17472DA, 0x5E617B53,
    0x971B8776, 0x05D8A3CA, 0x80280004, 0xCB36782D]

def bindingResponse1 : ByteString :=
  words [0x01010020, 0x2112A442, 0x70696E67, 0x6E756D62, 0x65723031, 0x00080014, 0xFB9ED213,
    0x8F220213, 0x918A7E4E, 0x2896141A, 0x7B412A49, 0x80280004, 0xE2217F76]

def bindingResponse2 : ByteString :=
  words [0x01010020, 0x2112A442, 0x70696E67, 0x6E756D62, 0x65723032, 0x00080014, 0x31C128A5,
    0x774BC531, 0xDABFF056, 0xF6BA5B44, 0x0918E867, 0x80280004, 0x30D6612A]

def errorResponse2 : ByteString :=
  words [0x01110034, 0x2112A442, 0x70696E67, 0x6E756D62, 0x65723032, 0x0009000F, 0x00000400,
    0x42616420, 0x72657175, 0x65737400, 0x00080014, 0xC02101B8, 0x755B7154, 0xC41A1A99, 0x62B4B079,
    0xDDC5786F, 0x80280004, 0xE92EC220]

/-- CRC32, bit by bit. -/
def crc32 (data : ByteString) : ℕ :=
  let round (crc : ℕ) (_ : ℕ) := if crc % 2 = 1 then crc / 2 ^^^ 0xEDB88320 else crc / 2
  data.foldl (fun crc b ↦ (List.range 8).foldl round (crc ^^^ b.toNat)) 0xFFFFFFFF ^^^ 0xFFFFFFFF

/-- HMAC-SHA1 on the texts of some datagrams, which carry it before their fingerprints. -/
def digestIn (datagrams : List ByteString) (_key text : ByteString) : ByteString :=
  let textOf (data : ByteString) := setBE16 (data.take (data.length - 32)) 2 (data.length - 28)
  match datagrams.find? fun data ↦ textOf data = text with
  | some data => (data.drop (data.length - 28)).take kStunMessageIntegritySize
  | none => List.replicate kStunMessageIntegritySize 0

def sampleHmac : ByteString → ByteString → ByteString :=
  digestIn [bindingRequestA, bindingRequestB, bindingResponse1, bindingResponse2, errorResponse2]

def sampleEnv : IceEnv where
  computeCrc32 := crc32
  computeHmac := sampleHmac
  heap _ := 0
  getNextMovingAverage old new ratio := (old * ratio + new).tdiv (ratio + 1)
  addrOf c := c

/-- One port, with the credentials of the offer. -/
def samplePort : IceParameters × Candidate :=
  ({ iceUfrag := lit "srv1", icePwd := lit "serverpassword0123456789" },
    { component := .rtp, protocol := lit "udp", address := ⟨.inet 0xC0A80001, 5000⟩, port := 5000
      priority := 0x7E0001FF, username := lit "srv1"
      password := lit "serverpassword0123456789", type := lit "host" })

/-- The credentials of the answer. -/
def peerParams : IceParameters :=
  { iceUfrag := lit "peer", icePwd := lit "peerpassword012345678901" }

def peerA : SocketAddress := ⟨.inet 0xC0A80002, 6000⟩

def peerB : SocketAddress := ⟨.inet 0xC0A80003, 6000⟩

/-- The answer and the first peer arrive, and are pinged. -/
def pingedRun : List IceEvent :=
  [.setRemoteIceParams peerParams 0, .datagram 0 peerA bindingRequestA 10 10,
    .checkAndPing (lit "pingnumber02") 1000]

/-- A success response is handled safely. -/
theorem responseSafe_success :
    (run sampleEnv .rtp (fun _ ↦ samplePort) pingedRun).ResponseSafe sampleEnv 0
      { type := stunBindingResponse, transactionId := lit "pingnumber02" } 1010 :=
  (responseSafe_iff sampleEnv .rtp (fun _ ↦ samplePort) pingedRun 0 (by decide +kernel) _ 1010).mpr
    (by decide +kernel)

/-- What `read` makes of the error response. -/
def errorMessage2 : StunMessage := ((StunMessage.read errorResponse2).map Prod.fst).getD {}

/-- The error response 400 to the ping destroys the request twice. -/
theorem not_responseSafe :
    ¬∀ (env : IceEnv) (component : IceCandidateComponent)
      (port : PortId → IceParameters × Candidate) (es : List IceEvent) (c : ConnId)
      (msg : StunMessage) (now : ℤ), (run env component port es).conns.live c = true →
      (run env component port es).ResponseSafe env c msg now := by
  intro h
  have hsafe := h sampleEnv .rtp (fun _ ↦ samplePort) pingedRun 0
    errorMessage2 1010 (by decide +kernel)
  exact absurd hsafe (by decide +kernel)

example : (run sampleEnv .rtp (fun _ ↦ samplePort)
    (pingedRun ++ [.datagram 0 peerA errorResponse2 1010 1010])).faults =
      [.requestDestroyed 0, .managerCalled 0] := by decide +kernel

end XrtcServer
