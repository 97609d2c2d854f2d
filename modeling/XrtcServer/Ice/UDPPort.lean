import XrtcServer.Base.ByteString
import XrtcServer.Ice.IceConnection
import XrtcServer.Lib.EventRun

/-!
# Ports, and the events of a channel

`ice/udp_port.cpp` and the entry points of `ice/ice_transport_channel.cpp`. A datagram is first
looked up by its source address: a known address means a connection, an unknown one may become a
connection if the datagram is an authenticated binding request with a priority.

`step` is the reaction to one event of the worker thread: a datagram at a port, the credentials from
an answer, a tick of the ping timer, or a packet to be sent. The transaction id of a ping is random
in the source and comes with the tick here, so that every sequence of ids is covered, colliding ones
included.
-/

namespace XrtcServer

open EventRun ByteString

/-! ## Recognising a STUN message -/

/-- What `get_stun_message` finds out about a datagram. -/
inductive StunVerdict
  /-- The result `false`. -/
  | notStun
  /-- The result `true` without a message, after an error response. -/
  | rejected (msg : StunMessage) (errCode : ℕ) (reason : ByteString)
  | accepted (msg : StunMessage) (remoteUfrag : ByteString)
deriving DecidableEq

namespace UDPPort

/-- `_parse_stun_username`: the local and the remote part. -/
def parseStunUsername (msg : StunMessage) : Option (ByteString × ByteString) :=
  match msg.getByteString stunAttrUsername with
  | none => none
  | some username =>
    match split 58 username with
    | [localUfrag, remoteUfrag] => some (localUfrag, remoteUfrag)
    | _ => none

/-- The checks on a binding request. -/
def checkRequest (env : IceEnv) (iceParams : IceParameters) (msg : StunMessage) : StunVerdict :=
  if msg.getByteString stunAttrUsername = none ∨
      msg.getByteString stunAttrMessageIntegrity = none then
    .rejected msg stunErrorBadRequest stunErrorReasonBadRequest
  else
    match parseStunUsername msg with
    | none => .rejected msg stunErrorUnauthorized stunErrorReasonUnauthorized
    | some (localUfrag, remoteUfrag) =>
      if localUfrag ≠ iceParams.iceUfrag then
        .rejected msg stunErrorUnauthorized stunErrorReasonUnauthorized
      else
        let msg := msg.validateMessageIntegrity env iceParams.icePwd
        if msg.integrity ≠ .integrityOk then
          .rejected msg stunErrorUnauthorized stunErrorReasonUnauthorized
        else .accepted msg remoteUfrag

/-- `get_stun_message`, without sending the error response. -/
def getStunMessage (env : IceEnv) (iceParams : IceParameters) (data : ByteString) : StunVerdict :=
  if !validateFingerprint env data then .notStun
  else
    match StunMessage.read data with
    | none => .notStun
    | some (msg, rest) =>
      if rest ≠ [] then .notStun
      else if msg.type = stunBindingRequest then checkRequest env iceParams msg
      else .accepted msg []

/-- The message of `send_binding_error_response`. -/
def bindingErrorResponse (env : IceEnv) (icePwd : ByteString) (msg : StunMessage) (errCode : ℤ)
    (reason : ByteString) : StunMessage :=
  let response : StunMessage :=
    { type := stunBindingErrorResponse, transactionId := msg.transactionId }
  let response := response.addAttribute (.createErrorCode errCode reason)
  let response :=
    if errCode ≠ stunErrorBadRequest ∧ errCode ≠ stunErrorUnauthorized then
      response.addMessageIntegrity env icePwd
    else response
  response.addFingerprint env

end UDPPort

/-- The message of `send_stun_binding_response`. -/
def IceConnection.bindingResponse (env : IceEnv) (icePwd : ByteString) (msg : StunMessage)
    (address : SocketAddress) : StunMessage :=
  let response : StunMessage :=
    { type := stunBindingResponse, transactionId := msg.transactionId }
  let response := response.addAttribute (.xorAddress stunAttrXorMappedAddress address)
  (response.addMessageIntegrity env icePwd).addFingerprint env

namespace World

variable (env : IceEnv) (w : World)

/-- `get_stun_message` at a port. -/
def stunVerdict (p : PortId) (data : ByteString) : StunVerdict :=
  UDPPort.getStunMessage env (w.port p).iceParams data

/-! ## Answers to requests -/

/-- `send_binding_error_response`. -/
def sendBindingErrorResponse (p : PortId) (msg : StunMessage) (addr : SocketAddress) (errCode : ℤ)
    (reason : ByteString) : World :=
  let response := UDPPort.bindingErrorResponse env (w.port p).iceParams.icePwd msg errCode reason
  match response.write with
  | none => w
  | some buf => w.sendTo p buf addr

/-- `IceConnection::handle_stun_binding_request` and `send_stun_binding_response`. -/
def handleStunBindingRequest (c : ConnId) (msg : StunMessage) : World :=
  if msg.getByteString stunAttrUsername = none then w
  else
    let x := w.conn c
    let response := IceConnection.bindingResponse env (w.port x.port).iceParams.icePwd msg
      x.remoteCandidate.address
    match response.write with
    | none => w
    | some buf => w.sendTo x.port buf x.remoteCandidate.address

/-! ## A datagram from a known address -/

/-- The `switch` over the type of a message in `IceConnection::on_read_packet`. -/
def onStunMessage (c : ConnId) (msg : StunMessage) (remoteUfrag : ByteString) (now : ℤ) : World :=
  let x := w.conn c
  if msg.type = stunBindingRequest then
    if remoteUfrag ≠ x.remoteCandidate.username then
      w.sendBindingErrorResponse env x.port msg x.remoteCandidate.address stunErrorUnauthorized
        stunErrorReasonUnauthorized
    else w.handleStunBindingRequest env c msg
  else if msg.type = stunBindingResponse ∨ msg.type = stunBindingErrorResponse then
    let msg := msg.validateMessageIntegrity env x.remoteCandidate.password
    if msg.integrity = .integrityOk then (w.checkResponse env c msg now).1 else w
  else w

/-- `IceConnection::on_read_packet`. -/
def onConnReadPacket (c : ConnId) (data : ByteString) (ts now : ℤ) : World :=
  if w.conns.live c then
    match w.stunVerdict env (w.conn c).port data with
    | .notStun => w.signal (.readPacket data ts)
    | .rejected msg errCode reason =>
      w.sendBindingErrorResponse env (w.conn c).port msg (w.conn c).remoteCandidate.address errCode
        reason
    | .accepted msg remoteUfrag => w.onStunMessage env c msg remoteUfrag now
  else w.fault (.connectionCalled c)

/-! ## A datagram from an unknown address -/

/-- `create_connection`. -/
def createConnection (p : PortId) (candidate : Candidate) : World × ConnId :=
  let c := w.conns.next
  ({ w with
    conns := w.conns.alloc { port := p, remoteCandidate := candidate }
    port := Function.update w.port p { w.port p with
      connections := Function.update (w.port p).connections candidate.address (some c) } }, c)

/-- The peer reflexive candidate that `_on_unknown_address` makes. -/
def peerCandidate (addr : SocketAddress) (remoteUfrag : ByteString) (priority : ℕ) : Candidate where
  component := w.channel.component
  protocol := lit "udp"
  address := addr
  username := remoteUfrag
  password := w.channel.remoteIceParams.icePwd
  priority := priority.toUInt32
  type := prflxPortType

/-- `_on_unknown_address`. -/
def onUnknownAddress (p : PortId) (addr : SocketAddress) (msg : StunMessage)
    (remoteUfrag : ByteString) (now : ℤ) : World :=
  match msg.getUInt32 stunAttrPriority with
  | none => w
  | some remotePriority =>
    let (w, c) := w.createConnection p (w.peerCandidate addr remoteUfrag remotePriority)
    ((w.addConnection env c).handleStunBindingRequest env c msg).sortConnectionsAndUpdateState now

/-- `UDPPort::_on_read_packet`. -/
def onReadPacket (p : PortId) (addr : SocketAddress) (data : ByteString) (ts now : ℤ) : World :=
  match w.getConnection p addr with
  | some c => w.onConnReadPacket env c data ts now
  | none =>
    match w.stunVerdict env p data with
    | .notStun => w
    | .rejected msg errCode reason => w.sendBindingErrorResponse env p msg addr errCode reason
    | .accepted msg remoteUfrag =>
      if msg.type = stunBindingRequest then w.onUnknownAddress env p addr msg remoteUfrag now else w

/-! ## The other events -/

/-- The loop of `set_remote_ice_params` over the connections. -/
def maybeSetRemoteIceParams (iceParams : IceParameters) : World :=
  w.controller.connections.foldl
    (fun w c ↦ w.modifyConn c fun x ↦ x.maybeSetRemoteIceParams iceParams) w

/-- `set_remote_ice_params`. -/
def setRemoteIceParams (iceParams : IceParameters) (now : ℤ) : World :=
  let w := { w with channel := { w.channel with remoteIceParams := iceParams } }
  (w.maybeSetRemoteIceParams iceParams).sortConnectionsAndUpdateState now

/-- `_update_connection_states`, over a copy of the list of connections. -/
def updateConnectionStates (now : ℤ) : World :=
  w.controller.connections.foldl (fun w c ↦ w.updateConnState c now) w

/-- `_ping_connection` and `mark_connection_pinged`. -/
def pingConnection (conn : Option ConnId) (id : ByteString) (now : ℤ) : World :=
  match conn with
  | none => w
  | some c =>
    let w := { w with channel := { w.channel with lastPingSentMs := now } }
    (w.ping env c id now).markConnectionPinged env c

/-- The last part of `_on_check_and_ping`. -/
def setPingInterval (pingInterval : ℤ) : World :=
  if w.channel.curPingInterval = pingInterval then w
  else
    { w with
      channel := { w.channel with curPingInterval := pingInterval }
      pingTimer := some (pingInterval * 1000) }

/-- `_on_check_and_ping`. -/
def onCheckAndPing (id : ByteString) (now : ℤ) : World :=
  let w := w.updateConnectionStates now
  let (w, conn, pingInterval) :=
    w.selectConnectionToPing env (w.channel.lastPingSentMs - pingIntervalDiff) now
  (w.pingConnection env conn id now).setPingInterval pingInterval

/-- `IceTransportChannel::send_packet`, which changes nothing here. -/
def sendPacket (data : ByteString) : World :=
  match w.channel.selectedConnection with
  | none => w
  | some c =>
    if w.readyToSend (some c) then
      w.sendTo (w.conn c).port data (w.conn c).remoteCandidate.address
    else w

end World

/-! ## Runs -/

inductive IceEvent
  | datagram (port : PortId) (addr : SocketAddress) (data : ByteString) (ts now : ℤ)
  | setRemoteIceParams (iceParams : IceParameters) (now : ℤ)
  | checkAndPing (id : ByteString) (now : ℤ)
  | sendPacket (data : ByteString)

/-- The handler of one event. -/
def World.step (env : IceEnv) (w : World) : IceEvent → World
  | .datagram p addr data ts now => w.onReadPacket env p addr data ts now
  | .setRemoteIceParams iceParams now => w.setRemoteIceParams iceParams now
  | .checkAndPing id now => w.onCheckAndPing env id now
  | .sendPacket data => w.sendPacket data

/-- The state of a new channel after a run. -/
def World.run (env : IceEnv) (component : IceCandidateComponent)
    (port : PortId → IceParameters × Candidate) (es : List IceEvent) : World :=
  exec (World.step env) (World.init component port) es

end XrtcServer
