import XrtcServer.Ice.Consent
import XrtcServer.Ice.FirstAnswer
import XrtcServer.Ice.PingFairness

/-!
# Two channels find each other

A ping of a channel passes the checks of a peer that has the credentials the channel knows of it,
and the peer's answer passes those of the channel. So whatever either of them has gone through, an
outstanding ping that reaches such a peer, and the answer that comes back, make the pinged
connection the selected one and the channel writable and connected (`handshake_run`), if this is the
first one to be answered.

## Two ends of one format

The first half is about messages: what one side writes, sealed with digest and fingerprint, is what
the other side reads, and its two checks compute what was written (`Ice/StunSeal.lean`). Both sides
have to compute the same digest for the same bytes, and nothing more is asked of them.

## Between the ping and its answer

The second half is about runs. An outstanding request remembers only its transaction id, so it must
be known that what was sent for it is the ping that would be sent now: the credentials of the
connection do not change once it can be pinged. `HandshakeInv` says this of all outstanding pings,
until the first answer.
-/

namespace XrtcServer

open EventRun ByteString

namespace StunMessage

variable {env env' : IceEnv} {msg : StunMessage}

/-! ## What a message says when it arrives

`read` keeps three types of attributes, so a message comes back without the others. What the
handlers ask of a request is among those it keeps: the user name, the priority and the digest. -/

/-- Processes that compute the same digest write the same attribute. -/
theorem addMessageIntegrity_congr (h : env'.computeHmac = env.computeHmac) (key : ByteString) :
    msg.addMessageIntegrity env' key = msg.addMessageIntegrity env key := by
  rw [addMessageIntegrity, addMessageIntegrity, h]

theorem addFingerprint_congr (h : env'.computeCrc32 = env.computeCrc32) :
    msg.addFingerprint env' = msg.addFingerprint env := by
  rw [addFingerprint, addFingerprint, h]

variable (hcrc : ∀ data, env.computeCrc32 data < 2 ^ 32)
  (hhmac : ∀ key text, (env.computeHmac key text).length = kStunMessageIntegritySize)

include hcrc hhmac in
/-- What `read` finds in a sealed message: the attributes it knows, and the digest. -/
theorem attrs_of_read_sealed (h : msg.WellBuilt) (htype : msg.type < 65536)
    (htypeBit : msg.type &&& 0x0800 = 0)
    (htid : msg.transactionId.length = kStunTransactionIdLength) (hsize : msg.size + 32 < 65536)
    {key data rest : ByteString} {received : StunMessage}
    (hwrite : ((msg.addMessageIntegrity env key).addFingerprint env).write = some data)
    (hread : StunMessage.read data = some (received, rest)) :
    ∃ digest, received.attrs =
      msg.attrs.filterMap StunAttribute.received ++ [integrityAttr digest] := by
  have heq := addMessageIntegrity_eq env hhmac h (by omega) key
  have hsum := size_addMessageIntegrity env hhmac msg key
  have hbuilt : (msg.addMessageIntegrity env key).WellBuilt := by
    refine ⟨fun a ha ↦ ?_, fun _ ↦ ?_⟩
    · rw [heq] at ha
      rcases List.mem_append.mp ha with ha | ha
      · exact h.attrs a ha
      · obtain rfl := List.mem_singleton.mp ha
        exact wellFormed_integrityAttr _
    · rw [hsum, heq]
  obtain ⟨data', value, hwrite', -, -, hread'⟩ := read_addFingerprint env hcrc hbuilt
    (by rwa [type_addMessageIntegrity]) (by rwa [type_addMessageIntegrity])
    (by rwa [transactionId_addMessageIntegrity]) (by omega)
  obtain rfl := Option.some.inj (hwrite.symm.trans hwrite')
  obtain ⟨rfl, -⟩ := Prod.mk.inj (Option.some.inj (hread.symm.trans hread'))
  rw [heq]
  exact ⟨_, List.filterMap_append ..⟩

end StunMessage

namespace UDPPort

variable {env : IceEnv} (hcrc : ∀ data, env.computeCrc32 data < 2 ^ 32)
  (hhmac : ∀ key text, (env.computeHmac key text).length = kStunMessageIntegritySize)

/-- What a peer gets out of a binding request: whom it is from, and that it is worth an answer. -/
structure Understands (env : IceEnv) (peer : IceParameters) (data : ByteString)
    (msg : StunMessage) (remoteUfrag : ByteString) : Prop where
  verdict : getStunMessage env peer data = .accepted msg remoteUfrag
  type : msg.type = stunBindingRequest
  username : msg.getByteString stunAttrUsername ≠ none
  priority : (msg.getUInt32 stunAttrPriority).isSome

include hcrc hhmac in
/-- **A ping passes the checks of its peer.** -/
theorem understands_prepare {w : World} {c : ConnId} {id : ByteString} {peer : IceParameters}
    (hpeer : peer = ⟨(w.conn c).remoteCandidate.username, (w.conn c).remoteCandidate.password⟩)
    (hid : id.length = kStunTransactionIdLength)
    (hsize : (w.prepare env c id).size < 65536)
    (hlocal : 58 ∉ (w.port (w.conn c).port).iceParams.iceUfrag) (hremote : 58 ∉ peer.iceUfrag) :
    ∃ data msg, (w.prepare env c id).write = some data ∧
      Understands env peer data msg (w.port (w.conn c).port).iceParams.iceUfrag ∧
      msg.transactionId = id := by
  rw [hpeer] at hremote
  rw [World.prepare] at hsize ⊢
  dsimp only at hremote hsize ⊢
  generalize (w.port (w.conn c).port).iceParams.iceUfrag = ufrag at hlocal hsize ⊢
  generalize iceTypePreferencePrflx <<< 24 |||
    ((w.localCandidate c).priority &&& 0x00FFFFFF) = prflxPriority at hsize ⊢
  generalize hrequest : ((((({ type := stunBindingRequest, transactionId := id } :
    StunMessage).addAttribute (.byteString stunAttrUsername
      ((w.conn c).remoteCandidate.username ++ lit ":" ++ ufrag))).addAttribute
    (.uint64 stunAttrIceControlling 0)).addAttribute
    (.byteString stunAttrUseCandidate [])).addAttribute
    (.uint32 stunAttrPriority prflxPriority.toNat)) = request at hsize ⊢
  rw [StunMessage.size_addFingerprint, StunMessage.size_addMessageIntegrity env hhmac] at hsize
  have hbuilt : request.WellBuilt := by
    rw [← hrequest]
    exact ((((wellBuilt_new _ _).addAttribute (wellFormed_username _)).addAttribute
      (wellFormed_iceControlling 0)).addAttribute wellFormed_useCandidate).addAttribute
      (wellFormed_priority (UInt32.toNat_lt _))
  have hne : ∀ attr ∈ request.attrs, attr.type ≠ stunAttrMessageIntegrity := by
    rw [← hrequest]
    simp [StunMessage.addAttribute, StunAttribute.type]
    decide
  have htype : request.type = stunBindingRequest := by rw [← hrequest]; rfl
  have htid : request.transactionId = id := by rw [← hrequest]; rfl
  obtain ⟨data, received, hwrite, hfingerprint, hread, htype', htid', hok⟩ :=
    StunMessage.read_sealed env hcrc hhmac hbuilt hne (by rw [htype]; decide)
      (by rw [htype]; decide) (htid ▸ hid) hsize (w.conn c).remoteCandidate.password
  obtain ⟨digest, hattrs⟩ := StunMessage.attrs_of_read_sealed hcrc hhmac hbuilt
    (by rw [htype]; decide) (by rw [htype]; decide) (htid ▸ hid) hsize hwrite hread
  have husername : received.getByteString stunAttrUsername =
      some ((w.conn c).remoteCandidate.username ++ lit ":" ++ ufrag) := by
    rw [StunMessage.getByteString, StunMessage.getAttribute, hattrs, ← hrequest]
    rfl
  have hpriority : received.getUInt32 stunAttrPriority = some prflxPriority.toNat := by
    rw [StunMessage.getUInt32, StunMessage.getAttribute, hattrs, ← hrequest]
    rfl
  have hintegrity : received.getByteString stunAttrMessageIntegrity = some digest := by
    rw [StunMessage.getByteString, StunMessage.getAttribute, hattrs, ← hrequest]
    rfl
  have hparse : parseStunUsername received =
      some ((w.conn c).remoteCandidate.username, ufrag) := by
    have hsplit : split 58 ((w.conn c).remoteCandidate.username ++ lit ":" ++ ufrag) =
        [(w.conn c).remoteCandidate.username, ufrag] := by
      rw [List.append_assoc]
      exact (List.splitOn_append_cons_self_of_not_mem hremote _).trans
        (congrArg _ (List.splitOn_eq_singleton hlocal))
    rw [parseStunUsername, husername]
    dsimp only
    rw [hsplit]
  refine ⟨data, received.validateMessageIntegrity env peer.icePwd, hwrite, ⟨?_, ?_, ?_, ?_⟩, ?_⟩
  · rw [getStunMessage, hfingerprint, hread, hpeer]
    dsimp only
    rw [Bool.not_true, if_neg Bool.false_ne_true, if_neg (not_not.mpr rfl),
      if_pos (htype'.trans htype), checkRequest, husername, hintegrity, hparse,
      if_neg (by rintro (h | h) <;> cases h)]
    dsimp only
    rw [if_neg (not_not.mpr rfl), if_neg (not_not.mpr hok)]
  · exact htype'.trans htype
  · exact fun hnone ↦ by cases husername.symm.trans hnone
  · exact Option.isSome_iff_exists.mpr ⟨_, hpriority⟩
  · exact htid'.trans htid

include hcrc hhmac in
/-- **An answer passes the checks of the channel.** -/
theorem accepts_bindingResponse (icePwd : ByteString) {msg : StunMessage}
    (hid : msg.transactionId.length = kStunTransactionIdLength) (addr port : ℕ) :
    ∃ data, (IceConnection.bindingResponse env icePwd msg ⟨.inet addr, port⟩).write = some data ∧
      ∀ iceParams, ∃ received, getStunMessage env iceParams data = .accepted received [] ∧
        received.type = stunBindingResponse ∧ received.transactionId = msg.transactionId ∧
        (received.validateMessageIntegrity env icePwd).integrity = .integrityOk := by
  have hbuilt : (({ type := stunBindingResponse, transactionId := msg.transactionId } :
      StunMessage).addAttribute
        (.xorAddress stunAttrXorMappedAddress ⟨.inet addr, port⟩)).WellBuilt :=
    (wellBuilt_new _ _).addAttribute (wellFormed_xorMappedAddress addr port)
  obtain ⟨data, received, hwrite, hfingerprint, hread, htype, htid, hok⟩ :=
    StunMessage.read_sealed env hcrc hhmac hbuilt
      (by simp [StunMessage.addAttribute, StunAttribute.type]; decide)
      (by exact (by decide : stunBindingResponse < 65536))
      (by exact (by decide : stunBindingResponse &&& 0x0800 = 0)) hid
      (by simp [StunMessage.size, StunMessage.addAttribute, StunAttribute.size,
        StunAttribute.valueSize, StunAttribute.length, paddingOf, kStunAttributeHeaderSize]) icePwd
  refine ⟨data, hwrite, fun iceParams ↦ ⟨received, ?_, htype, htid, hok⟩⟩
  have hne : received.type ≠ stunBindingRequest := by
    rw [htype]
    exact (by decide : stunBindingResponse ≠ stunBindingRequest)
  rw [getStunMessage, hfingerprint, hread]
  dsimp only
  rw [Bool.not_true, if_neg Bool.false_ne_true, if_neg (not_not.mpr rfl), if_neg hne]

end UDPPort

namespace World

variable {env : IceEnv} {w w' : World} {c : ConnId} {id : ByteString} {now : ℤ}

/-! ## The peer answers

Whether the peer has a connection at this place or makes one now, it answers. It does not, or not
with a success, where a connection of another user has the place; `Welcomes` leaves this out. -/

/-- A connection for this place, if there is one, is alive and for this user. -/
def Welcomes (w : World) (p : PortId) (addr : SocketAddress) (remoteUfrag : ByteString) : Prop :=
  ∀ c, w.getConnection p addr = some c →
    w.conns.live c = true ∧ (w.conn c).remoteCandidate.username = remoteUfrag

theorem sent_handleStunBindingRequest {p : PortId} {addr : SocketAddress} {msg : StunMessage}
    {answer : ByteString} (hplace : (w.conn c).place = (p, addr))
    (husername : msg.getByteString stunAttrUsername ≠ none)
    (hwrite : (IceConnection.bindingResponse env (w.port p).iceParams.icePwd msg addr).write =
      some answer) :
    (w.handleStunBindingRequest env c msg).sent = w.sent ++ [⟨p, addr, answer⟩] := by
  obtain ⟨hport, haddr⟩ := Prod.mk.inj hplace
  rw [handleStunBindingRequest, if_neg husername]
  dsimp only
  rw [hport, haddr, hwrite]
  rfl

/-- The peer answers a request it understands, whether it knows the place or not. -/
theorem sent_of_understands (hentries : EntriesOk w) {p : PortId} {addr : SocketAddress}
    {data remoteUfrag answer : ByteString} {msg : StunMessage}
    (hmsg : UDPPort.Understands env (w.port p).iceParams data msg remoteUfrag)
    (hwelcome : w.Welcomes p addr remoteUfrag)
    (hwrite : (IceConnection.bindingResponse env (w.port p).iceParams.icePwd msg addr).write =
      some answer) (ts now : ℤ) :
    (w.step env (.datagram p addr data ts now)).sent = w.sent ++ [⟨p, addr, answer⟩] := by
  have hverdict : w.stunVerdict env p data = .accepted msg remoteUfrag := hmsg.verdict
  rw [step, onReadPacket]
  rcases hconn : w.getConnection p addr with _ | c
  · dsimp only
    rw [hverdict]
    dsimp only
    obtain ⟨priority, hpriority⟩ := Option.isSome_iff_exists.mp hmsg.priority
    rw [if_pos hmsg.type, onUnknownAddress, hpriority]
    dsimp only
    rw [(mute_sortConnectionsAndUpdateState _ now).sent]
    have hcreate : Emits (fun _ ↦ True) (fun _ ↦ True) w ((w.createConnection p
        (w.peerCandidate addr remoteUfrag priority)).1.addConnection env w.conns.next) :=
      emits_createConnection w hconn trivial
    have hplace : (((w.createConnection p (w.peerCandidate addr remoteUfrag
        priority)).1.addConnection env w.conns.next).conn w.conns.next).place = (p, addr) :=
      congrArg IceConnection.place Arena.cell_alloc_next
    exact sent_handleStunBindingRequest hplace hmsg.username ((hcreate.port p).1 ▸ hwrite)
  · obtain ⟨-, hport, haddr⟩ := hentries p addr c hconn
    obtain ⟨hlive, husername⟩ := hwelcome c hconn
    dsimp only
    rw [onConnReadPacket, if_pos hlive, hport, hverdict]
    dsimp only
    rw [onStunMessage, husername]
    dsimp only
    rw [if_pos hmsg.type, if_neg (not_not.mpr rfl)]
    exact sent_handleStunBindingRequest (by rw [IceConnection.place, hport, haddr]) hmsg.username
      hwrite

/-! ## What becomes of a ping

A ping is `Pinged` from the tick that sends it on. Mute calls keep it so, since they fill in a
password at most where there was none, and a connection without one is not pinged. -/

/-- The pings of `c` with this transaction id have been sent as they would be now. -/
structure Pinged (env : IceEnv) (w : World) (c : ConnId) (id : ByteString) : Prop where
  password : (w.conn c).remoteCandidate.password ≠ []
  sent : ∀ data, (w.prepare env c id).write = some data →
    ∃ d ∈ w.sent, d.place = (w.conn c).place ∧ d.data = data

theorem prepare_congr_env {env' : IceEnv} (hcrc : env'.computeCrc32 = env.computeCrc32)
    (hhmac : env'.computeHmac = env.computeHmac) (w : World) (c : ConnId) (id : ByteString) :
    w.prepare env' c id = w.prepare env c id := by
  rw [prepare, prepare, StunMessage.addFingerprint_congr hcrc,
    StunMessage.addMessageIntegrity_congr hhmac]

theorem Mute.prepare (hm : Mute w w') (hpassword : (w.conn c).remoteCandidate.password ≠ [])
    (id : ByteString) : w'.prepare env c id = w.prepare env c id :=
  prepare_congr (congrArg Prod.fst (hm.keeps c).place) (hm.keeps c).username
    ((hm.keeps c).password hpassword) (fun p ↦ by rw [hm.port]; exact ⟨rfl, rfl⟩) id

theorem Pinged.emits {allowed : SentDatagram → Prop} {opens : PortId × SocketAddress → Prop}
    (h : w.Pinged env c id) (hc : c < w.conns.next) (he : Emits allowed opens w w') :
    w'.Pinged env c id := by
  have hpassword := (he.keeps c hc).password h.password
  obtain ⟨more, hsent, -⟩ := he.sent
  refine ⟨hpassword ▸ h.password, fun data hwrite ↦ ?_⟩
  rw [prepare_congr (congrArg Prod.fst (he.keeps c hc).place) (he.keeps c hc).username hpassword
    he.port] at hwrite
  obtain ⟨d, hd, hplace, hdata⟩ := h.sent data hwrite
  refine ⟨d, ?_, hplace.trans (he.keeps c hc).place.symm, hdata⟩
  rw [hsent]
  exact List.mem_append_left _ hd

theorem Pinged.mute (h : w.Pinged env c id) (hc : c < w.conns.next) (hm : Mute w w') :
    w'.Pinged env c id :=
  h.emits hc (hm.emits : Emits (fun _ ↦ True) (fun _ ↦ True) w w')

theorem pinged_sendRequest (hpassword : (w.conn c).remoteCandidate.password ≠ [])
    (id : ByteString) (now : ℤ) : (w.sendRequest env c id now).Pinged env c id := by
  have hrequest (requests : Arena StunRequest) : Mute w { w with requests } := .of_eq rfl rfl rfl
  have hentry : Mute w ({ w with
      requests := w.requests.alloc ⟨w.prepare env c id, some c, c, now⟩ }.modifyConn c fun x ↦
        { x with requests := x.requests.insert id w.requests.next }) :=
    (hrequest _).trans (mute_modifyConn _ c fun _ ↦ .of_eq rfl rfl)
  have hprepare := @Mute.prepare env _ _ c hentry hpassword id
  have hkeeps := hentry.keeps c
  rw [sendRequest]
  generalize { w with
      requests := w.requests.alloc ⟨w.prepare env c id, some c, c, now⟩ }.modifyConn c (fun x ↦
        { x with requests := x.requests.insert id w.requests.next }) = w₁ at hprepare hkeeps ⊢
  have hpassword₁ : (w₁.conn c).remoteCandidate.password ≠ [] :=
    hkeeps.password hpassword ▸ hpassword
  rcases hwrite : (w.prepare env c id).write with _ | buf
  · refine ⟨hpassword₁, fun data hdata ↦ ?_⟩
    rw [hprepare, hwrite] at hdata
    cases hdata
  · refine ⟨hpassword₁, fun data hdata ↦ ?_⟩
    have hdata' : (w₁.prepare env c id).write = some data := hdata
    rw [hprepare, hwrite] at hdata'
    exact ⟨_, List.mem_append_right _ (List.mem_singleton_self _), rfl, Option.some.inj hdata'⟩

theorem pinged_ping (hlive : w.conns.live c = true)
    (hpassword : (w.conn c).remoteCandidate.password ≠ []) (id : ByteString) (now : ℤ) :
    (w.ping env c id now).Pinged env c id := by
  have hc := w.conns.live_lt c hlive
  have hstamp := mute_modifyConn w c (f := fun x ↦ { x with
    lastPingSent := now
    pingsSinceLastResponse := x.pingsSinceLastResponse ++ [⟨id, now⟩] }) fun _ ↦ .of_eq rfl rfl
  have hpassword₁ := hpassword
  rw [← (hstamp.keeps c).password hpassword] at hpassword₁
  rw [ping, if_pos hlive]
  dsimp only
  generalize w.modifyConn c (fun x ↦ { x with
    lastPingSent := now
    pingsSinceLastResponse := x.pingsSinceLastResponse ++ [⟨id, now⟩] }) = w₁
    at hstamp hpassword₁ ⊢
  have hc₁ : c < w₁.conns.next := hstamp.next.symm ▸ hc
  have hsent := @pinged_sendRequest env w₁ c hpassword₁ id now
  have hc₂ : c < (w₁.sendRequest env c id now).conns.next :=
    (onlyRequests_sendRequest w₁ c id now).next.symm ▸ hc₁
  have hstate : Mute (w₁.sendRequest env c id now)
      ((w₁.sendRequest env c id now).setConnState c .inProgress) :=
    mute_setConnState _ c .inProgress
  exact (hsent.mute hc₂ hstate).mute hc₂ (mute_modifyConn _ c fun _ ↦ .of_eq rfl rfl)

/-- A tick that pings a connection for the first time has seen that it has a password. -/
theorem pinged_onCheckAndPing (howned : RequestsOwned w) (id : ByteString)
    (hping : w.connectionToPing env now = some c) (hlive : w.conns.live c = true)
    (hnone : (w.onCheckAndPing env id now).controller.selectedConnection = none) :
    (w.onCheckAndPing env id now).Pinged env c id := by
  have hsettles : Settles w (w.selecting env now) := (settles_updateConnectionStates w now).trans
    (settles_selectConnectionToPing env _
      ((w.updateConnectionStates now).channel.lastPingSentMs - pingIntervalDiff) now)
  have houtcome := tickOutcome env w now
  rw [hping] at houtcome
  have hstep : w.onCheckAndPing env id now = ((w.selecting env now).pingConnection env (some c) id
      now).setPingInterval ((w.updateConnectionStates now).selectConnectionToPing env
        ((w.updateConnectionStates now).channel.lastPingSentMs - pingIntervalDiff) now).2.2 := by
    rw [← hping]
    rfl
  generalize ((w.updateConnectionStates now).selectConnectionToPing env
    ((w.updateConnectionStates now).channel.lastPingSentMs - pingIntervalDiff) now).2.2 =
      pingInterval at hstep
  have hlive₁ : (w.selecting env now).conns.live c = true := by rw [hsettles.live, hlive]
  have howned₁ : RequestsOwned (w.selecting env now) := hsettles.toSameRequests.requestsOwned howned
  rw [hstep] at hnone ⊢
  clear hstep
  generalize w.selecting env now = w₁ at houtcome hlive₁ howned₁ hnone ⊢
  have hshape := (pingConnection_spec env howned₁ (some c) id now).1.trans
    (settles_setPingInterval (w₁.pingConnection env (some c) id now) pingInterval).toSameShape
  have hnone₁ := (hshape.selection_none hnone).1
  have hpassword : (w₁.conn c).remoteCandidate.password ≠ [] := by
    generalize hconn : some c = conn at houtcome
    cases houtcome with
    | idle hnot => cases hconn
    | shortcut hselects s hs =>
      have hsel := (Option.filter_eq_some_iff.mp hs).1
      rw [hnone₁] at hsel
      cases hsel
    | scan hselects hshortcut =>
      have hpingable := (Rotation.leastReady_spec hconn.symm).2.1
      rw [isPingable] at hpingable
      rw [conn, conns_refilled]
      intro hempty
      rw [if_pos (.inr hempty)] at hpingable
      cases hpingable
  have hc := w₁.conns.live_lt c hlive₁
  have hsent := @pinged_ping env { w₁ with channel := { w₁.channel with lastPingSentMs := now } } c
    hlive₁ hpassword id now
  have hnext := (onlyRequests_ping env
    { w₁ with channel := { w₁.channel with lastPingSentMs := now } } c id now).next
  rw [pingConnection]
  dsimp only
  generalize World.ping env { w₁ with channel := { w₁.channel with lastPingSentMs := now } } c id
    now = w₂ at hsent hnext ⊢
  exact hsent.mute (hnext.symm ▸ hc)
    ((mute_markConnectionPinged w₂ c).trans (mute_setPingInterval _ pingInterval))

/-! ## Runs -/

/-- What holds until the first answer: the pings that are outstanding have been sent. -/
structure HandshakeInv (env : IceEnv) (w : World) : Prop where
  first : w.FirstInv
  found : Found w
  pinged : w.controller.selectedConnection = none → ∀ c id, w.conns.live c = true →
    id ∈ (w.conn c).requests → w.Pinged env c id

theorem HandshakeInv.step (h : HandshakeInv env w) (hw : WorldInv w) (hentries : EntriesOk w)
    (e : IceEvent) : HandshakeInv env (w.step env e) where
  first := h.first.step hw e
  found := (emits_step env hentries e).found h.found
  pinged hnone := by
    intro c id hlive hid
    have hbefore := (selection_none_of_step hw
      (fun hnone ↦ (h.first.noneSelected hnone).channel) hnone).1
    rcases (traced_step env hw.owned e).requests c id hlive hid with
      ⟨hlive, hid⟩ | ⟨now, rfl, hping, hlive⟩
    · exact (h.pinged hbefore c id hlive hid).emits (w.conns.live_lt c hlive)
        (emits_step env hentries e)
    · exact pinged_onCheckAndPing hw.owned id hping hlive hnone

theorem handshakeInv_run (env : IceEnv) (component : IceCandidateComponent)
    (port : PortId → IceParameters × Candidate) (es : List IceEvent) :
    HandshakeInv env (run env component port es) := by
  induction es using List.reverseRecOn with
  | nil =>
    exact ⟨firstInv_run env component port [], fun c hc ↦ (by cases hc),
      fun _ c id hlive ↦ by cases hlive⟩
  | append_singleton es e ih =>
    rw [run, exec_append_singleton]
    exact ih.step (worldInv_run env component port es) (entriesOk_run env component port es).1 e

/-- The channel is up, and sends what its owner gives it to this place. -/
structure Established (w : World) (c : ConnId) (place : PortId × SocketAddress) : Prop where
  selected : w.SelectedFirst c
  writable : w.channel.writable = true
  state : w.channel.state = .connected
  sendPacket : ∀ data, (w.sendPacket data).sent = w.sent ++ [⟨place.1, place.2, data⟩]

theorem SelectedFirst.established (h : w.SelectedFirst c) (hreflects : w.Reflects)
    (horderly : w.Orderly) : w.Established c (w.conn c).place := by
  have hwritable : w.channel.writable = true := by
    rw [hreflects.writable, selectedWritable, h.channel]
    exact decide_eq_true h.writable
  have hactive : (w.controller.connections.any fun c ↦ (w.conn c).active) = true := by
    refine List.any_eq_true.mpr ⟨c, h.listed, ?_⟩
    rw [IceConnection.active, h.writable]
    rfl
  have hhad : w.channel.hadConnection = true := by
    by_contra hnot
    have hlisted := h.listed
    rw [(horderly.unused (by simpa using hnot)).1] at hlisted
    cases hlisted
  refine ⟨h, hwritable, ?_, fun data ↦ ?_⟩
  · rw [hreflects.state, computeIceTransportState, hactive, hwritable, hhad]
    simp
  · have hcan : CanSend w.conns c := by
      rw [CanSend, ← conn, h.writable]
      decide
    rw [sendPacket_of_handsTo ⟨h.channel, hcan⟩]
    rfl

/-- **Two channels find each other.** Whatever has happened before, as long as no connection has
been selected: an outstanding ping has been sent to the place of its connection; any channel that
has the credentials it was made for, also in another process, gives it one answer; and this answer
establishes the connection. -/
theorem handshake_run {env env' : IceEnv} (hcrc : ∀ data, env.computeCrc32 data < 2 ^ 32)
    (hhmac : ∀ key text, (env.computeHmac key text).length = kStunMessageIntegritySize)
    (hcrc' : env'.computeCrc32 = env.computeCrc32) (hhmac' : env'.computeHmac = env.computeHmac)
    {component component' : IceCandidateComponent}
    {port port' : PortId → IceParameters × Candidate} {es es' : List IceEvent} {w w' : World}
    (hw : w = run env component port es) (hw' : w' = run env' component' port' es')
    {c : ConnId} {id : ByteString} (hnone : w.controller.selectedConnection = none)
    (hlive : w.conns.live c = true) (hid : id ∈ (w.conn c).requests)
    (hlength : id.length = kStunTransactionIdLength) (hsize : (w.prepare env c id).size < 65536)
    {p : PortId} {addr n : ℕ} {ufrag : ByteString}
    (hufrag : ufrag = (w.port (w.conn c).port).iceParams.iceUfrag)
    (hpeer : (w'.port p).iceParams =
      ⟨(w.conn c).remoteCandidate.username, (w.conn c).remoteCandidate.password⟩)
    (hlocal : 58 ∉ ufrag) (hremote : 58 ∉ (w'.port p).iceParams.iceUfrag)
    (hwelcome : w'.Welcomes p ⟨.inet addr, n⟩ ufrag) :
    ∃ ping ∈ w.sent, ping.place = (w.conn c).place ∧ ∃ answer, ∀ ts now,
      (w'.step env' (.datagram p ⟨.inet addr, n⟩ ping.data ts now)).sent =
        w'.sent ++ [⟨p, ⟨.inet addr, n⟩, answer⟩] ∧
      ∀ ts now, (w.step env (.datagram ping.port ping.address answer ts now)).Established c
        ping.place := by
  have hinv := handshakeInv_run env component port es
  have hworld := worldInv_run env component port es
  have hentries := (entriesOk_run env component port es).1
  have hsteady := steady_run env component port es
  have hentries' := (entriesOk_run env' component' port' es').1
  rw [← hw] at hinv hworld hentries hsteady
  rw [← hw'] at hentries'
  -- the ping arrives
  rw [← prepare_congr_env hcrc' hhmac'] at hsize
  obtain ⟨data, msg, hwrite, hmsg, htid⟩ := UDPPort.understands_prepare
    (by rwa [hcrc']) (by rwa [hhmac']) hpeer hlength hsize (hufrag ▸ hlocal) hremote
  rw [← hufrag] at hmsg
  rw [prepare_congr_env hcrc' hhmac'] at hwrite
  obtain ⟨ping, hping, hplace, rfl⟩ := (hinv.pinged hnone c id hlive hid).sent data hwrite
  -- and is answered
  obtain ⟨answer, hanswer, haccepts⟩ := UDPPort.accepts_bindingResponse hcrc hhmac
    (w'.port p).iceParams.icePwd (htid ▸ hlength) addr n
  have hanswer' : (IceConnection.bindingResponse env' (w'.port p).iceParams.icePwd msg
      ⟨.inet addr, n⟩).write = some answer := by
    rw [← hanswer, IceConnection.bindingResponse, IceConnection.bindingResponse,
      StunMessage.addFingerprint_congr hcrc', StunMessage.addMessageIntegrity_congr hhmac']
  refine ⟨ping, hping, hplace, answer, fun ts now ↦
    ⟨sent_of_understands hentries' hmsg hwelcome hanswer' ts now, fun ts now ↦ ?_⟩⟩
  -- the answer arrives
  obtain ⟨hport, haddr⟩ := Prod.mk.inj hplace
  obtain ⟨received, hverdict, htype, htid', hok⟩ := haccepts (w.port ping.port).iceParams
  have hconn : w.getConnection ping.port ping.address = some c := by
    rw [hport, haddr]
    exact hinv.found c (w.conns.live_lt c hlive)
  have hauthenticated : w.Authenticated env (.datagram ping.port ping.address answer ts now) c
      received := by
    refine ⟨⟨ping.port, ping.address, answer, ts, now, [], rfl, hconn, ?_⟩, hlive, ?_⟩
    · rw [← hport]
      exact hverdict
    · rw [hpeer] at hok
      exact hok
  have hfirst := selectedFirst_of_answersPing (hinv.first.noneSelected hnone) hworld
    hinv.first.listed ⟨received, hauthenticated, htype, by rwa [htid', htid]⟩
  have hestablished := hfirst.established
    ((steady_step env w _).reflects hsteady.2) ((steady_step env w _).orderly hsteady.1)
  have hkeeps := (emits_step env hentries
    (.datagram ping.port ping.address answer ts now)).keeps c (w.conns.live_lt c hlive)
  rwa [hkeeps.place, ← hplace] at hestablished

theorem length_sampleHmac (key text : ByteString) :
    (sampleEnv.computeHmac key text).length = kStunMessageIntegritySize := by
  have hlong : ∀ data ∈ [bindingRequestA, bindingRequestB, bindingResponse1, bindingResponse2,
      errorResponse2], ((data.drop (data.length - 28)).take kStunMessageIntegritySize).length =
        kStunMessageIntegritySize := by decide
  have heq : sampleEnv.computeHmac key text = sampleHmac key text := rfl
  rw [heq, sampleHmac, digestIn]
  split
  · next data hdata => exact hlong data (List.mem_of_find?_eq_some hdata)
  · exact List.length_replicate ..

/-- The ping of `pingedRun` reaches a new channel with the credentials of the answer. -/
theorem handshake_pingedRun :
    ∃ ping ∈ (run sampleEnv .rtp (fun _ ↦ samplePort) pingedRun).sent, ping.place = (0, peerA) ∧
      ∃ answer, ∀ ts now,
        ((run sampleEnv .rtp (fun _ ↦ (peerParams, samplePort.2)) []).step sampleEnv
          (.datagram 0 samplePort.2.address ping.data ts now)).sent =
            [⟨0, samplePort.2.address, answer⟩] ∧
        ∀ ts now, ((run sampleEnv .rtp (fun _ ↦ samplePort) pingedRun).step sampleEnv
          (.datagram ping.port ping.address answer ts now)).Established 0 ping.place := by
  have hplace : ((run sampleEnv .rtp (fun _ ↦ samplePort) pingedRun).conn 0).place =
      (0, peerA) := by decide +kernel
  rw [← hplace]
  exact handshake_run crc32_lt length_sampleHmac rfl rfl rfl rfl (by decide +kernel)
    (by decide +kernel) (by decide +kernel : lit "pingnumber02" ∈ _) (by decide +kernel)
    (by decide +kernel) rfl (by decide +kernel) (by decide +kernel) (by decide +kernel)
    fun c hc ↦ by cases hc

end World

end XrtcServer
