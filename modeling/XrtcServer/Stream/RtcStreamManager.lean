import XrtcServer.Lib.EventRun
import XrtcServer.Lib.Registry
import XrtcServer.Stream.RtcStream

/-!
# The stream manager

`RtcStreamManager` (`stream/rtc_stream_manager.cpp`) keeps the push streams and the pull streams of
one worker thread, each kind in a map by stream name. Clients create, answer and stop streams under
a name and a user id; a stream reports to the manager that its connection failed or that its ICE
timer ran out, and hands it the media it receives.

The two maps are one `Registry` by kind and name. A destroyed stream reports nothing any more: its
destructor deletes the timer and disconnects it from its peer connection, which goes ten
milliseconds later.

The events of `step` are what happens to a manager from outside: the calls of the clients, the state
changes of the peer connections, the timers, and DTLS and media arriving at a transport. While a
peer connection takes an answer it may report states already; they come with the call.
-/

namespace XrtcServer

open EventRun ByteString

/-- A pointer to an `RtcStream`. -/
abbrev StreamId := ℕ

variable {Ctx : Type}

def RtcStream.key (s : RtcStream Ctx) : RtcStreamType × ByteString := (s.streamType, s.streamName)

/-- A call of `send_rtp` or `send_rtcp` on a `DtlsSrtpTransport`. -/
structure Handoff where
  stream : StreamId
  transportName : ByteString
  packet : MediaPacket
  /-- What the transport then did. -/
  sent : List MediaOutput
deriving DecidableEq

structure RtcStreamManager (Ctx : Type) where
  /-- `_push_streams` and `_pull_streams`, and the streams that were made. -/
  streams : Registry (@RtcStream.key Ctx)
  handoffs : List Handoff := []

namespace RtcStreamManager

variable (env : StreamEnv Ctx) (m : RtcStreamManager Ctx)

def init (Ctx : Type) : RtcStreamManager Ctx where
  streams := .empty _
    { streamType := .push, uid := 0, streamName := [], audio := false, video := false }

def stream (i : StreamId) : RtcStream Ctx := m.streams.objects.cell i

def live (i : StreamId) : Bool := m.streams.objects.live i

def findStream (type : RtcStreamType) (streamName : ByteString) : Option StreamId :=
  m.streams.table (type, streamName)

def findPushStream (streamName : ByteString) : Option StreamId := m.findStream .push streamName

def findPullStream (streamName : ByteString) : Option StreamId := m.findStream .pull streamName

/-- An assignment to fields of a stream. -/
def modifyStream (i : StreamId) (f : RtcStream Ctx → RtcStream Ctx)
    (hf : ∀ s, (f s).key = s.key) : RtcStreamManager Ctx :=
  { m with streams := m.streams.modify i f hf }

/-! ## Streams come and go -/

/-- `erase` and `delete`. -/
def eraseStream (type : RtcStreamType) (streamName : ByteString) : RtcStreamManager Ctx :=
  { m with streams := m.streams.remove (type, streamName) }

def removeStream (type : RtcStreamType) (uid : UInt64) (streamName : ByteString) :
    RtcStreamManager Ctx :=
  match m.findStream type streamName with
  | none => m
  | some i => if uid = (m.stream i).uid then m.eraseStream type streamName else m

def removePushStream (uid : UInt64) (streamName : ByteString) : RtcStreamManager Ctx :=
  m.removeStream .push uid streamName

def removePullStream (uid : UInt64) (streamName : ByteString) : RtcStreamManager Ctx :=
  m.removeStream .pull uid streamName

/-- `start`, `create_offer` and the entry in the map. -/
def startStream (s : RtcStream Ctx) (certificate : Option RTCCertificate)
    (iceParam : IceParameters) : RtcStreamManager Ctx :=
  { m with streams := m.streams.add ((s.start certificate).createOffer iceParam) }

/-- A stream of the same name goes, whoever made it. -/
def createPushStream (uid : UInt64) (streamName : ByteString) (audio video : Bool)
    (certificate : Option RTCCertificate) (iceParam : IceParameters) : RtcStreamManager Ctx × ℤ :=
  let m := m.eraseStream .push streamName
  (m.startStream { streamType := .push, uid, streamName, audio, video } certificate iceParam, 0)

/-- A stream of the same name goes only if the same user made it; it is overwritten in any case. -/
def createPullStream (uid : UInt64) (streamName : ByteString) (audio video : Bool)
    (certificate : Option RTCCertificate) (iceParam : IceParameters) : RtcStreamManager Ctx × ℤ :=
  match m.findPushStream streamName with
  | none => (m, -1)
  | some pushStream =>
    let m := m.removePullStream uid streamName
    let s : RtcStream Ctx := { streamType := .pull, uid, streamName, audio, video }
    let s := s.addSource ((m.stream pushStream).getSource .audio)
      ((m.stream pushStream).getSource .video)
    (m.startStream s certificate iceParam, 0)

def stopPush (uid : UInt64) (streamName : ByteString) : RtcStreamManager Ctx × ℤ :=
  (m.removePushStream uid streamName, 0)

def stopPull (uid : UInt64) (streamName : ByteString) : RtcStreamManager Ctx × ℤ :=
  (m.removePullStream uid streamName, 0)

/-! ## What the streams report -/

/-- `_remove_push_stream` and `_remove_pull_stream` on the stream itself. -/
def removeSelf (i : StreamId) : RtcStreamManager Ctx :=
  let s := m.stream i
  match s.streamType with
  | .push => m.removePushStream s.uid s.streamName
  | .pull => m.removePullStream s.uid s.streamName

def onConnectionState (i : StreamId) (state : PeerConnectionState) : RtcStreamManager Ctx :=
  if state = .failed then m.removeSelf i else m

def onStreamException (i : StreamId) : RtcStreamManager Ctx := m.removeSelf i

/-- `RtcStream::_on_connection_state`. -/
def reportState (i : StreamId) (state : PeerConnectionState) : RtcStreamManager Ctx :=
  if m.live i then
    if (m.stream i).state = state then m
    else (m.modifyStream i (fun s ↦ s.setState state) fun _ ↦ rfl).onConnectionState i state
  else m

/-- `ice_timeout_cb`. -/
def iceTimeoutCb (i : StreamId) : RtcStreamManager Ctx :=
  if m.live i && (m.stream i).iceTimeoutWatcher then
    let m := m.modifyStream i (fun s ↦ { s with iceTimeoutWatcher := false }) fun _ ↦ rfl
    if (m.stream i).state ≠ .connected then m.onStreamException i else m
  else m

/-! ## Answers -/

/-- The two branches of `set_answer`; `states` is what the stream reports meanwhile. -/
def answerStream (type : RtcStreamType) (uid : UInt64) (streamName answer : ByteString)
    (states : List PeerConnectionState) : RtcStreamManager Ctx × ℤ :=
  match m.findStream type streamName with
  | none => (m, -1)
  | some i =>
    if uid ≠ (m.stream i).uid then (m, -1)
    else
      let m := m.modifyStream i (fun s ↦ s.setRemoteSdp env.toSdpEnv answer) fun _ ↦ rfl
      (states.foldl (fun m state ↦ m.reportState i state) m, 0)

def setAnswer (uid : UInt64) (streamName answer streamType : ByteString)
    (states : List PeerConnectionState) : RtcStreamManager Ctx × ℤ :=
  if streamType = lit "push" then m.answerStream env .push uid streamName answer states
  else if streamType = lit "pull" then m.answerStream env .pull uid streamName answer states
  else (m, 0)

/-! ## Media -/

theorem key_sendOn (env : SrtpEnv Ctx) (s : RtcStream Ctx) (name : ByteString)
    (packet : MediaPacket) : (s.sendOn env name packet).1.key = s.key := by
  rw [RtcStream.sendOn]
  split <;> rfl

/-- `send_rtp` and `send_rtcp` of a stream. -/
def send (i : StreamId) (packet : MediaPacket) : RtcStreamManager Ctx :=
  let sent := ((m.stream i).sendOn env.toSrtpEnv RtcStream.sendTransportName packet).2
  let m := m.modifyStream i
    (fun s ↦ (s.sendOn env.toSrtpEnv RtcStream.sendTransportName packet).1)
    fun s ↦ key_sendOn _ s _ packet
  match sent with
  | none => m
  | some sent =>
    { m with handoffs := m.handoffs ++ [⟨i, RtcStream.sendTransportName, packet, sent⟩] }

/-- `send` to the stream of this kind and name, if there is one. -/
def sendTo (type : RtcStreamType) (streamName : ByteString) (packet : MediaPacket) :
    RtcStreamManager Ctx :=
  match m.findStream type streamName with
  | none => m
  | some i => m.send env i packet

def onRtpPacketReceived (i : StreamId) (data : ByteString) : RtcStreamManager Ctx :=
  match (m.stream i).streamType with
  | .push => m.sendTo env .pull (m.stream i).streamName (.rtp data)
  | .pull => m

def onRtcpPacketReceived (i : StreamId) (data : ByteString) : RtcStreamManager Ctx :=
  match (m.stream i).streamType with
  | .push => m.sendTo env .pull (m.stream i).streamName (.rtcp data)
  | .pull => m.sendTo env .push (m.stream i).streamName (.rtcp data)

def onPacketReceived (i : StreamId) : MediaPacket → RtcStreamManager Ctx
  | .rtp data => m.onRtpPacketReceived env i data
  | .rtcp data => m.onRtcpPacketReceived env i data

/-- What a transport emits goes up through the transport controller, the peer connection and the
stream to the manager. -/
def onMediaOutput (i : StreamId) : MediaOutput → RtcStreamManager Ctx
  | .rtpPacketReceived packet _ => m.onPacketReceived env i (.rtp packet)
  | .rtcpPacketReceived packet _ => m.onPacketReceived env i (.rtcp packet)
  | .sendPacket _ => m

/-- A call on a transport of a live stream. -/
def onTransport (i : StreamId) (name : ByteString) (e : MediaEvent) : RtcStreamManager Ctx :=
  if m.live i then
    match (m.stream i).dtlsSrtpTransportByName name with
    | none => m
    | some t =>
      let (t, outputs) := t.handle env.toSrtpEnv e
      let m := m.modifyStream i (fun s ↦ s.setTransport name t) fun _ ↦ rfl
      outputs.foldl (fun m output ↦ m.onMediaOutput env i output) m
  else m

end RtcStreamManager

/-! ## Runs -/

/-- The calls a client can make. -/
inductive StreamOp
  | createPushStream (uid : UInt64) (streamName : ByteString) (audio video : Bool)
      (certificate : Option RTCCertificate) (iceParam : IceParameters)
  | createPullStream (uid : UInt64) (streamName : ByteString) (audio video : Bool)
      (certificate : Option RTCCertificate) (iceParam : IceParameters)
  | setAnswer (uid : UInt64) (streamName answer streamType : ByteString)
      (states : List PeerConnectionState)
  | stopPush (uid : UInt64) (streamName : ByteString)
  | stopPull (uid : UInt64) (streamName : ByteString)

/-- Who calls. -/
def StreamOp.uid : StreamOp → UInt64
  | createPushStream uid _ _ _ _ _ => uid
  | createPullStream uid _ _ _ _ _ => uid
  | setAnswer uid _ _ _ _ => uid
  | stopPush uid _ => uid
  | stopPull uid _ => uid

inductive ManagerEvent
  | call (op : StreamOp)
  /-- A peer connection reports a state. -/
  | connectionState (stream : StreamId) (state : PeerConnectionState)
  | iceTimeout (stream : StreamId)
  /-- The DTLS transport `name` reports a state; the rest is what it answers meanwhile. -/
  | dtlsState (stream : StreamId) (name : ByteString) (state : DtlsTransportState) (initOk : Bool)
      (rtp : DtlsTransportView) (rtcp : Option DtlsTransportView)
  /-- A datagram reaches the transport `name`. -/
  | readPacket (stream : StreamId) (name data : ByteString) (ts : ℤ)

namespace RtcStreamManager

variable (env : StreamEnv Ctx)

def call (m : RtcStreamManager Ctx) : StreamOp → RtcStreamManager Ctx × ℤ
  | .createPushStream uid name audio video certificate iceParam =>
    m.createPushStream uid name audio video certificate iceParam
  | .createPullStream uid name audio video certificate iceParam =>
    m.createPullStream uid name audio video certificate iceParam
  | .setAnswer uid name answer type states => m.setAnswer env uid name answer type states
  | .stopPush uid name => m.stopPush uid name
  | .stopPull uid name => m.stopPull uid name

/-- The handler of one event. -/
def step (m : RtcStreamManager Ctx) : ManagerEvent → RtcStreamManager Ctx
  | .call op => (m.call env op).1
  | .connectionState i state => m.reportState i state
  | .iceTimeout i => m.iceTimeoutCb i
  | .dtlsState i name state initOk rtp rtcp =>
    m.onTransport env i name (.dtlsState state initOk rtp rtcp)
  | .readPacket i name data ts => m.onTransport env i name (.readPacket data ts)

/-- The state of a new manager after a run. -/
def run (es : List ManagerEvent) : RtcStreamManager Ctx := exec (step env) (init Ctx) es

end RtcStreamManager

end XrtcServer
