import XrtcServer.Ice.State
import XrtcServer.Lib.StableSort

/-!
# The ICE controller

`ice/ice_controller.cpp`: which connection to ping next, and which connection is the best one. The
controller keeps its own copy of the selected connection; `on_connection_destroyed` takes the
connection out of the three containers and leaves that copy alone.

The comparator of `sort_and_switch_connection` is ranked by the lexicographic key `rank`, so the
first connection of the sorted list is a least one.
-/

namespace XrtcServer

open StableSort

namespace World

variable (env : IceEnv) (w : World)

/-! ## What it asks of a connection -/

def localCandidate (c : ConnId) : Candidate := (w.port (w.conn c).port).candidate

/-- `IceConnection::priority`. The first summand has 64 bits, the second is computed in 32. -/
def priority (c : ConnId) : UInt64 :=
  let g := (w.localCandidate c).priority
  let d := (w.conn c).remoteCandidate.priority
  (min g d).toUInt64 <<< 32 + (2 * max g d).toUInt64 + if g > d then 1 else 0

def readyToSend (conn : Option ConnId) : Bool :=
  match conn with
  | none => false
  | some c => (w.conn c).writable || (w.conn c).writeState = .writeUnreliable

/-- `_weak`. -/
def weak : Bool :=
  match w.controller.selectedConnection with
  | none => true
  | some s => (w.conn s).weak

def getConnectionPingInterval (c : ConnId) (now : ℤ) : ℤ :=
  if (w.conn c).numPingsSent < minPingsAtWeakPingInterval then weakPingInterval
  else if w.weak || !(w.conn c).stable now then stablingConnectionPingInterval
  else stableConnectionPingInterval

def isConnectionPastPingInterval (c : ConnId) (now : ℤ) : Bool :=
  now ≥ (w.conn c).lastPingSent + w.getConnectionPingInterval c now

def isPingable (c : ConnId) (now : ℤ) : Bool :=
  let remote := (w.conn c).remoteCandidate
  if remote.username = [] ∨ remote.password = [] then false
  else if w.weak then true
  else w.isConnectionPastPingInterval c now

def hasPingableConnection (now : ℤ) : Bool :=
  w.controller.connections.any fun c ↦ w.isPingable c now

/-! ## The containers -/

/-- `std::set::insert` of a pointer. -/
def insertConn (env : IceEnv) (c : ConnId) (s : List ConnId) : List ConnId :=
  if c ∈ s then s else s.orderedInsert (fun a b ↦ env.addrOf a ≤ env.addrOf b) c

/-- `add_connection`. -/
def addToController (c : ConnId) : World :=
  { w with controller := { w.controller with
      connections := w.controller.connections ++ [c]
      unpingedConnections := insertConn env c w.controller.unpingedConnections } }

/-- `IceController::on_connection_destroyed`. -/
def removeFromController (c : ConnId) : World :=
  { w with controller := { w.controller with
      pingedConnections := w.controller.pingedConnections.erase c
      unpingedConnections := w.controller.unpingedConnections.erase c
      connections := w.controller.connections.erase c } }

def setSelectedConnection (conn : Option ConnId) : World :=
  { w with controller := { w.controller with selectedConnection := conn } }

def markConnectionPinged (c : ConnId) : World :=
  if c ∈ w.controller.pingedConnections then w
  else
    { w with controller := { w.controller with
        pingedConnections := insertConn env c w.controller.pingedConnections
        unpingedConnections := w.controller.unpingedConnections.erase c } }

/-! ## The next ping -/

def morePingable (conn1 : ConnId) (conn2 : Option ConnId) : Bool :=
  match conn2 with
  | none => true
  | some conn2 => (w.conn conn1).lastPingSent < (w.conn conn2).lastPingSent

/-- All connections count as unpinged again. -/
def restartPings : World :=
  { w with controller := { w.controller with
      unpingedConnections := w.controller.pingedConnections.foldl (fun s c ↦ insertConn env c s)
        w.controller.unpingedConnections
      pingedConnections := [] } }

def findNextPingableConnection (now : ℤ) : World × Option ConnId :=
  match w.controller.selectedConnection.filter fun s ↦
      (w.conn s).writable && w.isConnectionPastPingInterval s now with
  | some s => (w, some s)
  | none =>
    let w :=
      if w.controller.unpingedConnections.any fun c ↦ w.isPingable c now then w
      else w.restartPings env
    (w, w.controller.unpingedConnections.foldl (fun findConn c ↦
      if w.isPingable c now && w.morePingable c findConn then some c else findConn) none)

/-- `select_connection_to_ping`: the connection and the ping interval. -/
def selectConnectionToPing (lastPingSentMs now : ℤ) : World × Option ConnId × ℤ :=
  let needPingMoreAtWeak := w.controller.connections.any fun c ↦
    (w.conn c).numPingsSent < minPingsAtWeakPingInterval
  let pingInterval := if w.weak || needPingMoreAtWeak then weakPingInterval else strongPingInterval
  if now ≥ lastPingSentMs + pingInterval then
    let (w, conn) := w.findNextPingableConnection env now
    (w, conn, pingInterval)
  else (w, none, pingInterval)

/-! ## The best connection -/

/-- `_compare_connections`; positive when `a` is better. -/
def compareConnections (a b : ConnId) : ℤ :=
  if (w.conn a).writable && !(w.conn b).writable then 1
  else if !(w.conn a).writable && (w.conn b).writable then -1
  else if (w.conn a).writeState.toNat < (w.conn b).writeState.toNat then 1
  else if (w.conn a).writeState.toNat > (w.conn b).writeState.toNat then -1
  else if (w.conn a).receiving && !(w.conn b).receiving then 1
  else if !(w.conn a).receiving && (w.conn b).receiving then -1
  else if w.priority a > w.priority b then 1
  else if w.priority a < w.priority b then -1
  else 0

/-- The comparator handed to `c_stable_sort`. -/
def goesBefore (a b : ConnId) : Bool :=
  let cmp := w.compareConnections a b
  if cmp ≠ 0 then cmp > 0 else (w.conn a).rtt < (w.conn b).rtt

def sortConnections : World :=
  { w with controller := { w.controller with
      connections := stableSort w.goesBefore w.controller.connections } }

/-- The second part of `sort_and_switch_connection`: the connection to switch to, if any. -/
def connectionToSwitchTo : Option ConnId :=
  let topConnection := w.controller.connections.head?
  if !w.readyToSend topConnection ∨ w.controller.selectedConnection = topConnection then none
  else
    match w.controller.selectedConnection, topConnection with
    | none, _ => topConnection
    | some _, none => none
    | some s, some t => if (w.conn t).rtt ≤ (w.conn s).rtt - kMinImprovement then some t else none

/-- `sort_and_switch_connection`. -/
def sortAndSwitchConnection : World × Option ConnId :=
  let w := w.sortConnections
  (w, w.connectionToSwitchTo)

end World

end XrtcServer
