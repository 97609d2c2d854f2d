import Mathlib.Data.List.AList
import XrtcServer.Ice.Stun
import XrtcServer.Lib.Arena

/-!
# The objects of an ICE channel

One `IceTransportChannel` with everything that hangs on it: its `UDPPort`s, its `IceController`, the
`IceConnection`s, and for each of these the `StunRequest`s its `StunRequestManager` holds. All of it
belongs to one thread and is reached through raw pointers, from four containers of three classes.

Connections and requests live in arenas: a pointer is the number of the object, and a destroyed
object keeps the fields it had, which is what a read through a dangling pointer sees. A *call* that
hands a destroyed object something to do is recorded in `faults` and has no other effect. Up to the
first use of a destroyed object the states are those of the program; what follows has no defined
meaning there, and the model only goes on so that every run has a result. The manager of a
connection is a member of it and lives as long.

Handlers of the owner run inside `signal` and change nothing here, but may look at the channel and
send a packet; so a signal is logged together with what they would see.

The clock is an input: every event brings the time at which its handler runs. A port stands for one
whose `create_ice_candidate` succeeded, the others have no socket and receive nothing.
-/

namespace XrtcServer

/-- A pointer to an `IceConnection`. -/
abbrev ConnId := ℕ

/-- A pointer to a `StunRequest`. -/
abbrev RequestId := ℕ

/-- A pointer to a `UDPPort`. -/
abbrev PortId := ℕ

inductive WriteState
  | writable
  | writeUnreliable
  | writeInit
  | writeTimeout
deriving DecidableEq

/-- The number of the enumerator. -/
def WriteState.toNat : WriteState → ℕ
  | writable => 0
  | writeUnreliable => 1
  | writeInit => 2
  | writeTimeout => 3

inductive IceCandidatePairState
  | waiting
  | inProgress
  | succeeded
  | failed
deriving DecidableEq

structure SentPing where
  id : ByteString
  sentTime : ℤ
deriving DecidableEq

/-- A `ConnectionRequest`. -/
structure StunRequest where
  msg : StunMessage
  /-- `_manager`, by the connection it is a member of. -/
  manager : Option ConnId
  connection : ConnId
  ts : ℤ

structure IceConnection where
  port : PortId
  remoteCandidate : Candidate
  writeState : WriteState := .writeInit
  receiving : Bool := false
  selected : Bool := false
  lastPingSent : ℤ := 0
  lastPingRecevied : ℤ := 0
  lastPingResponseReceived : ℤ := 0
  lastDataRecevied : ℤ := 0
  numPingsSent : ℕ := 0
  pingsSinceLastResponse : List SentPing := []
  /-- The `RequestMap` of the request manager, by transaction id. -/
  requests : AList fun _ : ByteString ↦ RequestId := ∅
  rtt : ℤ := 3000
  rttSamples : ℕ := 0
  state : IceCandidatePairState := .waiting

namespace IceConnection

variable (c : IceConnection)

def writable : Bool := c.writeState = .writable

def weak : Bool := !(c.writable && c.receiving)

def active : Bool := c.writeState ≠ .writeTimeout

def lastReceived : ℤ :=
  max (max c.lastPingRecevied c.lastPingResponseReceived) c.lastDataRecevied

def receivingTimeout : ℤ := weakConnectionReceiveTimeout

def missResponse (now : ℤ) : Bool :=
  match c.pingsSinceLastResponse with
  | [] => false
  | ping :: _ => toInt (now - ping.sentTime) > 2 * c.rtt

def stable (now : ℤ) : Bool := c.rttSamples > rttRatio + 1 && !c.missResponse now

def maybeSetRemoteIceParams (iceParams : IceParameters) : IceConnection :=
  if c.remoteCandidate.username = iceParams.iceUfrag ∧ c.remoteCandidate.password = [] then
    { c with remoteCandidate := { c.remoteCandidate with password := iceParams.icePwd } }
  else c

end IceConnection

structure UDPPort where
  iceParams : IceParameters
  /-- `candidates()[0]`. -/
  candidate : Candidate
  /-- The `AddressMap`. -/
  connections : SocketAddress → Option ConnId

/-- The two sets hold pointers and are ordered by address. -/
structure IceController where
  selectedConnection : Option ConnId := none
  connections : List ConnId := []
  unpingedConnections : List ConnId := []
  pingedConnections : List ConnId := []

inductive IceTransportState
  | new
  | checking
  | connected
  | completed
  | failed
  | disconnected
  | closed
deriving DecidableEq

structure IceTransportChannel where
  component : IceCandidateComponent
  remoteIceParams : IceParameters := {}
  startPinging : Bool := false
  curPingInterval : ℤ := weakPingInterval
  lastPingSentMs : ℤ := 0
  selectedConnection : Option ConnId := none
  receiving : Bool := false
  writable : Bool := false
  state : IceTransportState := .new
  hadConnection : Bool := false
  hasBeenConnection : Bool := false

/-- A datagram given to the socket of a port. -/
structure SentDatagram where
  port : PortId
  address : SocketAddress
  data : ByteString
deriving DecidableEq

/-- What the channel tells its owner. -/
inductive ChannelSignal
  | writableState
  | receivingState
  | iceStateChanged
  | readPacket (data : ByteString) (ts : ℤ)
deriving DecidableEq

/-- A signal, with the channel and the connections as its handlers find them. -/
structure SentSignal where
  signal : ChannelSignal
  channel : IceTransportChannel
  conns : Arena IceConnection

/-- A call on an object that has been destroyed. -/
inductive Fault
  | connectionCalled (conn : ConnId)
  | requestCalled (request : RequestId)
  | requestDestroyed (request : RequestId)
  | managerCalled (conn : ConnId)
deriving DecidableEq

structure World where
  conns : Arena IceConnection
  requests : Arena StunRequest
  port : PortId → UDPPort
  controller : IceController
  channel : IceTransportChannel
  /-- The period of the ping timer in microseconds, while it runs. -/
  pingTimer : Option ℤ := none
  sent : List SentDatagram := []
  signals : List SentSignal := []
  faults : List Fault := []

namespace World

/-- The fields of a connection. -/
def conn (w : World) (c : ConnId) : IceConnection := w.conns.cell c

/-- An assignment to fields of a connection. -/
def modifyConn (w : World) (c : ConnId) (f : IceConnection → IceConnection) : World :=
  { w with conns := w.conns.modify c f }

def fault (w : World) (f : Fault) : World := { w with faults := w.faults ++ [f] }

def signal (w : World) (s : ChannelSignal) : World :=
  { w with signals := w.signals ++ [⟨s, w.channel, w.conns⟩] }

/-- `UDPPort::send_to`. -/
def sendTo (w : World) (p : PortId) (data : ByteString) (address : SocketAddress) : World :=
  { w with sent := w.sent ++ [⟨p, address, data⟩] }

/-- `UDPPort::get_connection`. -/
def getConnection (w : World) (p : PortId) (address : SocketAddress) : Option ConnId :=
  (w.port p).connections address

/-- A channel with its ports, before any packet. -/
def init (component : IceCandidateComponent) (port : PortId → IceParameters × Candidate) :
    World where
  conns := .empty { port := 0, remoteCandidate := (port 0).2 }
  requests := .empty { msg := {}, manager := none, connection := 0, ts := 0 }
  port p := { iceParams := (port p).1, candidate := (port p).2, connections := fun _ ↦ none }
  controller := {}
  channel := { component }

end World

end XrtcServer
