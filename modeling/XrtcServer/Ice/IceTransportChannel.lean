import XrtcServer.Ice.IceController

/-!
# The ICE channel

The part of `ice/ice_transport_channel.cpp` that the connections reach through their signals: the
selection of a connection, the state the channel shows to its owner, and the reactions to a change
of a connection's state and to its destruction.

The selection is stored twice. `_switch_selected_connection` passes a new selection on to the
controller, but does not tell it that there is none any more.
-/

namespace XrtcServer

namespace World

variable (env : IceEnv) (w : World)

/-! ## The state shown to the owner -/

def setWritable (writable : Bool) : World :=
  if w.channel.writable = writable then w
  else
    let w :=
      if writable then { w with channel := { w.channel with hasBeenConnection := true } } else w
    { w with channel := { w.channel with writable } }.signal .writableState

def setReceiving (receiving : Bool) : World :=
  if w.channel.receiving = receiving then w
  else { w with channel := { w.channel with receiving } }.signal .receivingState

def computeIceTransportState : IceTransportState :=
  let hasConnection := w.controller.connections.any fun c ↦ (w.conn c).active
  if w.channel.hadConnection && !hasConnection then .failed
  else if w.channel.hasBeenConnection && !w.channel.writable then .disconnected
  else if !w.channel.hadConnection && !hasConnection then .new
  else if hasConnection && !w.channel.writable then .checking
  else .connected

/-- The last part of `_update_state`. -/
def setIceTransportState (state : IceTransportState) : World :=
  if state = w.channel.state then w
  else { w with channel := { w.channel with state } }.signal .iceStateChanged

def selectedWritable : Bool :=
  match w.channel.selectedConnection with
  | none => false
  | some s => (w.conn s).writable

/-- `_update_state`. -/
def updateState : World :=
  let w := w.setWritable w.selectedWritable
  let w := w.setReceiving (w.controller.connections.any fun c ↦ (w.conn c).receiving)
  w.setIceTransportState w.computeIceTransportState

/-! ## The selection -/

/-- `IceConnection::set_selected` on a pointer that may be null. -/
def setSelected (conn : Option ConnId) (value : Bool) : World :=
  match conn with
  | none => w
  | some c => w.modifyConn c fun x ↦ { x with selected := value }

/-- `_switch_selected_connection`. -/
def switchSelectedConnection (conn : Option ConnId) : World :=
  let oldSelectedConnection := w.channel.selectedConnection
  let w := { w with channel := { w.channel with selectedConnection := conn } }
  let w := w.setSelected oldSelectedConnection false
  match conn with
  | none => w
  | some c => (w.setSelected (some c) true).setSelectedConnection (some c)

/-- `_maybe_switch_selected_connection`. -/
def maybeSwitchSelectedConnection (conn : Option ConnId) : World :=
  match conn with
  | none => w
  | some c => w.switchSelectedConnection (some c)

/-- `_maybe_start_pinging`. -/
def maybeStartPinging (now : ℤ) : World :=
  if w.channel.startPinging then w
  else if w.hasPingableConnection now then
    { w with
      pingTimer := some (w.channel.curPingInterval * 1000)
      channel := { w.channel with startPinging := true } }
  else w

/-- `_sort_connections_and_update_state`, which is also `_on_connection_state_change`. -/
def sortConnectionsAndUpdateState (now : ℤ) : World :=
  let (w, conn) := w.sortAndSwitchConnection
  ((w.maybeSwitchSelectedConnection conn).updateState).maybeStartPinging now

/-! ## Connections come and go -/

/-- `_add_connection`. -/
def addConnection (c : ConnId) : World :=
  { w with channel := { w.channel with hadConnection := true } }.addToController env c

/-- `_on_connection_destroyed`. -/
def onConnectionDestroyed (c : ConnId) (now : ℤ) : World :=
  let w := w.removeFromController c
  if w.channel.selectedConnection = some c then
    (w.switchSelectedConnection none).sortConnectionsAndUpdateState now
  else w.updateState

end World

end XrtcServer
