import XrtcServer.Ice.IceTransportChannel

/-!
# ICE connections and their requests

`ice/ice_connection.cpp` and `ice/stun_request.cpp`. The `StunRequestManager` of a connection keeps
the pings that are not answered yet. It destroys a request when the answer has been handled, and the
remaining ones when it is destroyed itself.

`check_response` holds a pointer to the request over the call of its handler. The handler of an
error response may destroy the connection, and with it the manager and all its requests; the last
statement of `check_response` then destroys the request once more.
-/

namespace XrtcServer

namespace World

variable (env : IceEnv) (w : World)

/-! ## The state of a connection -/

def setConnState (c : ConnId) (state : IceCandidatePairState) : World :=
  w.modifyConn c fun x ↦ { x with state }

def setWriteState (c : ConnId) (state : WriteState) (now : ℤ) : World :=
  let oldState := (w.conn c).writeState
  let w := w.modifyConn c fun x ↦ { x with writeState := state }
  if oldState ≠ state then w.sortConnectionsAndUpdateState now else w

def updateReceiving (c : ConnId) (now : ℤ) : World :=
  let x := w.conn c
  let receiving : Bool :=
    if x.lastPingSent < x.lastPingResponseReceived then true
    else x.lastReceived > 0 && now < x.lastReceived + IceConnection.receivingTimeout
  if x.receiving = receiving then w
  else (w.modifyConn c fun x ↦ { x with receiving }).sortConnectionsAndUpdateState now

def receivedPingResponse (c : ConnId) (rtt now : ℤ) : World :=
  let w := w.modifyConn c fun x ↦ { x with
    rtt := if x.rttSamples > 0 then env.getNextMovingAverage x.rtt rtt rttRatio else rtt
    rttSamples := x.rttSamples + 1
    lastPingResponseReceived := now
    pingsSinceLastResponse := [] }
  ((w.updateReceiving c now).setWriteState c .writable now).setConnState c .succeeded

/-- `_too_many_ping_fails`; the sum is stored in an `int`. -/
def tooManyPingFails (c : ConnId) (maxPings : ℕ) (rtt now : ℤ) : Bool :=
  match (w.conn c).pingsSinceLastResponse[maxPings - 1]? with
  | none => false
  | some ping => now > toInt (ping.sentTime + rtt)

/-- `_too_long_without_response`. -/
def tooLongWithoutResponse (c : ConnId) (minTime now : ℤ) : Bool :=
  match (w.conn c).pingsSinceLastResponse with
  | [] => false
  | ping :: _ => now > ping.sentTime + minTime

/-- `IceConnection::update_state`. -/
def updateConnState (c : ConnId) (now : ℤ) : World :=
  let rtt := 2 * (w.conn c).rtt
  let rtt := if rtt < minRtt then minRtt else if rtt > maxRtt then maxRtt else rtt
  let w :=
    if (w.conn c).writeState = .writable ∧
        w.tooManyPingFails c connectionWriteConnectFails rtt now ∧
        w.tooLongWithoutResponse c connectionWriteConnectTimeout now then
      w.setWriteState c .writeUnreliable now
    else w
  let w :=
    if ((w.conn c).writeState = .writeUnreliable ∨ (w.conn c).writeState = .writeInit) ∧
        w.tooLongWithoutResponse c connectionWriteTimeout now then
      w.setWriteState c .writeTimeout now
    else w
  w.updateReceiving c now

/-! ## Requests and their manager -/

/-- A use of a request, recorded as `f` if it is destroyed. -/
def useRequest (r : RequestId) (f : Fault) : World := if w.requests.live r then w else w.fault f

/-- `StunRequestManager::remove`. -/
def removeRequest (c : ConnId) (r : RequestId) : World :=
  if w.conns.live c then
    w.modifyConn c fun x ↦
      { x with requests := x.requests.erase (w.requests.cell r).msg.transactionId }
  else w.fault (.managerCalled c)

/-- `_manager->remove(this)`, if there is a manager. -/
def leaveManager (r : RequestId) : World :=
  match (w.requests.cell r).manager with
  | none => w
  | some c => w.removeRequest c r

/-- `delete request`, with `~StunRequest`. -/
def deleteRequest (r : RequestId) : World :=
  let w := (w.useRequest r (.requestDestroyed r)).leaveManager r
  { w with requests := w.requests.free r }

/-- `~StunRequestManager`: the first entry is taken out and its request destroyed, as long as there
is one. Every round shortens the map; which entry is the first one only decides the order. -/
def destroyRequests : ℕ → World → ConnId → World
  | 0, w, _ => w
  | n + 1, w, c =>
    match (w.conn c).requests.entries with
    | [] => w
    | ⟨id, r⟩ :: _ =>
      destroyRequests n
        ((w.modifyConn c fun x ↦ { x with requests := x.requests.erase id }).deleteRequest r) c

/-- `~IceConnection`, whose only member with a destructor of its own is the request manager. -/
def deleteConnection (c : ConnId) : World :=
  let w := destroyRequests (w.conn c).requests.entries.length w c
  { w with conns := w.conns.free c }

/-- `IceConnection::destroy`. -/
def destroy (c : ConnId) (now : ℤ) : World := (w.onConnectionDestroyed c now).deleteConnection c

def failAndDestroy (c : ConnId) (now : ℤ) : World := (w.setConnState c .failed).destroy c now

/-! ## Responses -/

/-- `elapsed()`, an `int`. -/
def elapsed (r : RequestId) (now : ℤ) : ℤ := toInt (now - (w.requests.cell r).ts)

def onConnectionRequestResponse (c : ConnId) (r : RequestId) (now : ℤ) : World :=
  w.receivedPingResponse env c (w.elapsed r now) now

/-- The error codes after which the ping is tried again. -/
def mayRecover (errorCode : ℕ) : Bool :=
  errorCode = stunErrorUnauthorized || errorCode = stunErrorUnknownAttribute
    || errorCode = stunErrorServerError

def onConnectionRequestErrorResponse (c : ConnId) (msg : StunMessage) (now : ℤ) : World :=
  if mayRecover msg.getErrorCodeValue then w else w.failAndDestroy c now

/-- `StunRequestManager::check_response` of the manager in connection `c`. -/
def checkResponse (c : ConnId) (msg : StunMessage) (now : ℤ) : World × Bool :=
  match (w.conn c).requests.lookup msg.transactionId with
  | none => (w, false)
  | some r =>
    let request := w.requests.cell r
    if (msg.type : ℤ) = getStunSuccessResponse request.msg.type then
      let w := w.useRequest r (.requestCalled r)
      let w := w.onConnectionRequestResponse env request.connection r now
      (w.deleteRequest r, true)
    else if (msg.type : ℤ) = getStunErrorResponse request.msg.type then
      let w := w.useRequest r (.requestCalled r)
      let w := w.onConnectionRequestErrorResponse request.connection msg now
      (w.deleteRequest r, true)
    else (w.deleteRequest r, false)

/-! ## Pings -/

/-- `ConnectionRequest::prepare`, on a message with the transaction id `id`. -/
def prepare (c : ConnId) (id : ByteString) : StunMessage :=
  let remote := (w.conn c).remoteCandidate
  let port := w.port (w.conn c).port
  let prflxPriority :=
    iceTypePreferencePrflx <<< 24 ||| ((w.localCandidate c).priority &&& 0x00FFFFFF)
  let msg : StunMessage := { type := stunBindingRequest, transactionId := id }
  let msg := msg.addAttribute
    (.byteString stunAttrUsername (remote.username ++ lit ":" ++ port.iceParams.iceUfrag))
  let msg := msg.addAttribute (.uint64 stunAttrIceControlling 0)
  let msg := msg.addAttribute (.byteString stunAttrUseCandidate [])
  let msg := msg.addAttribute (.uint32 stunAttrPriority prflxPriority.toNat)
  (msg.addMessageIntegrity env remote.password).addFingerprint env

/-- `StunRequestManager::send`, on a new `ConnectionRequest` with the transaction id `id`. -/
def sendRequest (c : ConnId) (id : ByteString) (now : ℤ) : World :=
  let r := w.requests.next
  let msg := w.prepare env c id
  let w := { w with
    requests := w.requests.alloc { msg, manager := some c, connection := c, ts := now } }
  let w := w.modifyConn c fun x ↦ { x with requests := x.requests.insert id r }
  match msg.write with
  | none => w
  | some buf => w.sendTo (w.conn c).port buf (w.conn c).remoteCandidate.address

/-- `IceConnection::ping`; `id` is the random transaction id of the new request. -/
def ping (c : ConnId) (id : ByteString) (now : ℤ) : World :=
  if w.conns.live c then
    let w := w.modifyConn c fun x ↦ { x with
      lastPingSent := now
      pingsSinceLastResponse := x.pingsSinceLastResponse ++ [⟨id, now⟩] }
    let w := (w.sendRequest env c id now).setConnState c .inProgress
    w.modifyConn c fun x ↦ { x with numPingsSent := x.numPingsSent + 1 }
  else w.fault (.connectionCalled c)

end World

end XrtcServer
