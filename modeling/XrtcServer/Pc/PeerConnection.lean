import XrtcServer.Pc.SdpParser
import XrtcServer.Pc.TransportController

/-!
# Offers and answers

The two entry points of `PeerConnection` (`pc/peer_connection.cpp`): `create_offer` builds the local
description and hands it to the transport controller, `set_remote_sdp` parses the answer and hands
the remote description to it.
-/

namespace XrtcServer

open ByteString

structure RTCOfferAnswerOptions where
  recvVideo : Bool := true
  recvAudio : Bool := true
  sendVideo : Bool := true
  sendAudio : Bool := true
  useRtpMux : Bool := true
  dtlsOn : Bool := true
deriving DecidableEq

structure PeerConnection where
  certificate : Option RTCCertificate := none
  transportController : TransportController := {}
  localDesc : Option SessionDescription := none
  remoteDesc : Option SessionDescription := none
  audioSource : List StreamParams := []
  videoSource : List StreamParams := []

namespace PeerConnection

variable (pc : PeerConnection)

/-- One section of the offer: its content, with the streams that are sent, and its transport. -/
def addSection (desc : SessionDescription) (type : MediaType) (send : Bool)
    (source : List StreamParams) (iceParam : IceParameters) : SessionDescription :=
  (desc.addContent { type, sendStreams := if send then source else [] }).addTransportInfoFor
    type.mid iceParam pc.certificate

/-- The local description of an offer; `iceParam` are the random credentials. -/
def offerDescription (options : RTCOfferAnswerOptions) (iceParam : IceParameters) :
    SessionDescription :=
  let desc : SessionDescription := { sdpType := .offer }
  let desc :=
    if options.recvAudio || options.sendAudio then
      pc.addSection desc .audio options.sendAudio pc.audioSource iceParam
    else desc
  let desc :=
    if options.recvVideo || options.sendVideo then
      pc.addSection desc .video options.sendVideo pc.videoSource iceParam
    else desc
  if options.useRtpMux then
    let offerBundle := (desc.contents.map (·.mid)).foldl ContentGroup.addContentName
      { semantics := lit "BUNDLE" }
    if offerBundle.contentNames = [] then desc else desc.addGroup offerBundle
  else desc

theorem contents_addSection (pc : PeerConnection) (desc : SessionDescription) (type : MediaType)
    (send : Bool) (source : List StreamParams) (iceParam : IceParameters) :
    (pc.addSection desc type send source iceParam).contents =
      desc.contents ++ [{ type, sendStreams := if send then source else [] }] := by
  dsimp only [addSection, SessionDescription.addTransportInfoFor]
  rcases pc.certificate with _ | ⟨_ | fp⟩ <;> rfl

theorem contentGroups_addSection (pc : PeerConnection) (desc : SessionDescription)
    (type : MediaType) (send : Bool) (source : List StreamParams) (iceParam : IceParameters) :
    (pc.addSection desc type send source iceParam).contentGroups = desc.contentGroups := by
  dsimp only [addSection, SessionDescription.addTransportInfoFor]
  rcases pc.certificate with _ | ⟨_ | fp⟩ <;> rfl

theorem offerDescription_eq (pc : PeerConnection) (options : RTCOfferAnswerOptions)
    (hmux : options.useRtpMux = true) (iceParam : IceParameters) :
    let mids := (if options.recvAudio || options.sendAudio then [lit "audio"] else []) ++
      if options.recvVideo || options.sendVideo then [lit "video"] else []
    (pc.offerDescription options iceParam).contents.map (·.mid) = mids ∧
      (pc.offerDescription options iceParam).contentGroups =
        if mids = [] then [] else [{ semantics := lit "BUNDLE", contentNames := mids }] := by
  have hne : lit "audio" ≠ lit "video" := by decide
  dsimp only [offerDescription]
  rcases options.recvAudio || options.sendAudio with _ | _ <;>
    rcases options.recvVideo || options.sendVideo with _ | _ <;>
    simp [hmux, hne, contents_addSection, contentGroups_addSection, SessionDescription.addGroup,
      MediaContentDescription.mid, MediaType.mid, ContentGroup.addContentName,
      ContentGroup.hasContentName]

/-- `create_offer`, up to the text of the description. -/
def createOffer (options : RTCOfferAnswerOptions) (iceParam : IceParameters) : PeerConnection :=
  if options.dtlsOn && pc.certificate.isNone then pc
  else
    let desc := pc.offerDescription options iceParam
    { pc with localDesc := some desc
              transportController := pc.transportController.setLocalDescription desc }

/-- How `set_remote_sdp` ends. -/
inductive RemoteSdpResult
  /-- It returns. -/
  | returns (code : ℤ) (calls : List RemoteCall)
  /-- An uncaught `std::out_of_range`. -/
  | outOfRange
  /-- The null fingerprint is dereferenced. -/
  | nullFingerprint
deriving DecidableEq

/-- `set_remote_sdp`. -/
def setRemoteSdp (env : SdpEnv) (sdp : ByteString) : PeerConnection × RemoteSdpResult :=
  match parseRemoteSdp env sdp with
  | .invalid => (pc, .returns (-1) [])
  | .rejected desc => ({ pc with remoteDesc := some desc }, .returns (-1) [])
  | .outOfRange desc => ({ pc with remoteDesc := some desc }, .outOfRange)
  | .accepted desc =>
    match pc.transportController.setRemoteDescription desc with
    | none => ({ pc with remoteDesc := some desc }, .nullFingerprint)
    | some calls => ({ pc with remoteDesc := some desc }, .returns 0 calls)

end PeerConnection

end XrtcServer
