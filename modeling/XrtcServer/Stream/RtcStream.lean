import XrtcServer.Pc.DtlsSrtpTransport
import XrtcServer.Pc.PeerConnection

/-!
# Streams

`RtcStream` (`stream/rtc_stream.cpp`) with its two kinds, `PushStream` and `PullStream`. A stream
owns a peer connection, whose transport controller holds one `DtlsSrtpTransport` for each DTLS
transport of the offer; here the transports are a table of the stream, because that is where media
enters and leaves.

`PeerConnection::send_rtp` and `send_rtcp` name the transport they send on by a constant. The table
is filled by `set_local_description`, under the name of the first section of the bundle.
-/

namespace XrtcServer

open ByteString

inductive RtcStreamType
  | push
  | pull
deriving DecidableEq

/-- A packet on its way through the server, decrypted. -/
inductive MediaPacket
  | rtp (data : ByteString)
  | rtcp (data : ByteString)
deriving DecidableEq

/-- The external functions the streams rest on. -/
structure StreamEnv (Ctx : Type) extends SrtpEnv Ctx, SdpEnv

variable {Ctx : Type}

/-- `DtlsSrtpTransport::send_rtp` and `send_rtcp`. -/
def DtlsSrtpTransport.send (env : SrtpEnv Ctx) (t : DtlsSrtpTransport Ctx) :
    MediaPacket → DtlsSrtpTransport Ctx × List MediaOutput
  | .rtp data => t.sendRtp env data
  | .rtcp data => t.sendRtcp env data

structure RtcStream (Ctx : Type) where
  streamType : RtcStreamType
  uid : UInt64
  streamName : ByteString
  audio : Bool
  video : Bool
  pc : PeerConnection := {}
  /-- `_dtls_srtp_transport_by_name` of the transport controller of `pc`. -/
  dtlsSrtpTransportByName : ByteString → Option (DtlsSrtpTransport Ctx) := fun _ ↦ none
  state : PeerConnectionState := .new
  /-- The ICE timer is running. -/
  iceTimeoutWatcher : Bool := false

namespace RtcStream

variable (s : RtcStream Ctx)

/-- The options of `PushStream::create_offer` and of `PullStream::create_offer`. -/
def offerOptions : RTCOfferAnswerOptions :=
  match s.streamType with
  | .push =>
    { sendAudio := false, sendVideo := false, recvAudio := s.audio, recvVideo := s.video }
  | .pull =>
    { sendAudio := s.audio, sendVideo := s.video, recvAudio := false, recvVideo := false }

def start (certificate : Option RTCCertificate) : RtcStream Ctx :=
  { s with iceTimeoutWatcher := true, pc := { s.pc with certificate } }

/-- `create_offer`; `set_local_description` makes a `DtlsSrtpTransport` beside each DTLS
transport. -/
def createOffer (iceParam : IceParameters) : RtcStream Ctx :=
  let pc := s.pc.createOffer s.offerOptions iceParam
  { s with
    pc
    dtlsSrtpTransportByName := fun name ↦
      if pc.transportController.dtlsTransportByName.contains name then some (.init Ctx true)
      else none }

/-- `PushStream::_get_source`; the vector stays empty when there is nothing to copy. -/
def getSource (type : MediaType) : List StreamParams :=
  match s.pc.remoteDesc with
  | none => []
  | some desc => ((desc.getContent type.mid).map (·.sendStreams)).getD []

/-- `add_audio_source` and `add_video_source`. -/
def addSource (audioSource videoSource : List StreamParams) : RtcStream Ctx :=
  { s with pc := { s.pc with audioSource, videoSource } }

/-- The assignments of `_on_connection_state`; the timer goes when the stream is connected. -/
def setState (state : PeerConnectionState) : RtcStream Ctx :=
  { s with state, iceTimeoutWatcher := if state = .connected then false else s.iceTimeoutWatcher }

def setRemoteSdp (env : SdpEnv) (sdp : ByteString) : RtcStream Ctx :=
  { s with pc := (s.pc.setRemoteSdp env sdp).1 }

def setTransport (name : ByteString) (t : DtlsSrtpTransport Ctx) : RtcStream Ctx :=
  { s with dtlsSrtpTransportByName := Function.update s.dtlsSrtpTransportByName name (some t) }

/-- `TransportController::send_rtp` and `send_rtcp`: what the transport does with the packet, if
there is one of this name. -/
def sendOn (env : SrtpEnv Ctx) (transportName : ByteString) (packet : MediaPacket) :
    RtcStream Ctx × Option (List MediaOutput) :=
  match s.dtlsSrtpTransportByName transportName with
  | none => (s, none)
  | some t =>
    let (t, sent) := t.send env packet
    (s.setTransport transportName t, some sent)

/-- The transport `PeerConnection::send_rtp` and `send_rtcp` send on. -/
def sendTransportName : ByteString := lit "audio"

end RtcStream

end XrtcServer
