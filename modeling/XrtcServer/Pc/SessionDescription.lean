import XrtcServer.Ice.Candidate

/-!
# Session descriptions

The offer and the answer of a peer connection: media sections, bundle groups and the transport
parameters of each section (`pc/session_description.h`, `pc/stream_params.h`). Codecs, directions
and candidates only matter to the text of an offer and are left out here.
-/

namespace XrtcServer

open ByteString

structure SsrcGroup where
  semantics : ByteString
  ssrcs : List UInt32
deriving DecidableEq

structure StreamParams where
  id : ByteString
  ssrcs : List UInt32 := []
  ssrcGroups : List SsrcGroup := []
  cname : ByteString := []
  streamId : ByteString := []
deriving DecidableEq

def StreamParams.hasSsrc (track : StreamParams) (ssrc : UInt32) : Bool :=
  track.ssrcs.any (· == ssrc)

inductive MediaType
  | audio
  | video
deriving DecidableEq

/-- The two content classes answer `mid()` with a constant. -/
def MediaType.mid : MediaType → ByteString
  | audio => lit "audio"
  | video => lit "video"

structure MediaContentDescription where
  type : MediaType
  sendStreams : List StreamParams := []
deriving DecidableEq

def MediaContentDescription.mid (c : MediaContentDescription) : ByteString := c.type.mid

structure ContentGroup where
  semantics : ByteString
  contentNames : List ByteString := []
deriving DecidableEq

namespace ContentGroup

def hasContentName (g : ContentGroup) (name : ByteString) : Bool := g.contentNames.any (· == name)

def addContentName (g : ContentGroup) (name : ByteString) : ContentGroup :=
  if g.hasContentName name then g else { g with contentNames := g.contentNames ++ [name] }

end ContentGroup

/-- `rtc::SSLFingerprint`. -/
structure SSLFingerprint where
  algorithm : ByteString
  digest : ByteString
deriving DecidableEq

/-- The local certificate, as far as descriptions read it. -/
structure RTCCertificate where
  /-- `rtc::SSLFingerprint::CreateFromCertificate`; `none` is the null pointer. -/
  fingerprint : Option SSLFingerprint
deriving DecidableEq

inductive ConnectionRole
  | none
  | active
  | passive
  | actpass
  | holdconn
deriving DecidableEq

structure TransportDescription where
  mid : ByteString := []
  iceUfrag : ByteString := []
  icePwd : ByteString := []
  /-- The owning pointer `identify_fingerprint`; `none` is null. -/
  identifyFingerprint : Option SSLFingerprint := none
  connectionRole : ConnectionRole := .none
deriving DecidableEq

inductive SdpType
  | offer
  | answer
deriving DecidableEq

structure SessionDescription where
  sdpType : SdpType
  contents : List MediaContentDescription := []
  contentGroups : List ContentGroup := []
  transportInfos : List TransportDescription := []
deriving DecidableEq

namespace SessionDescription

variable (desc : SessionDescription)

def getContent (mid : ByteString) : Option MediaContentDescription :=
  desc.contents.find? fun c ↦ mid == c.mid

def addContent (content : MediaContentDescription) : SessionDescription :=
  { desc with contents := desc.contents ++ [content] }

def addGroup (group : ContentGroup) : SessionDescription :=
  { desc with contentGroups := desc.contentGroups ++ [group] }

def getGroupByName (name : ByteString) : List ContentGroup :=
  desc.contentGroups.filter fun g ↦ g.semantics == name

def addTransportInfo (td : TransportDescription) : SessionDescription :=
  { desc with transportInfos := desc.transportInfos ++ [td] }

def getTransportInfo (mid : ByteString) : Option TransportDescription :=
  desc.transportInfos.find? fun td ↦ td.mid == mid

/-- The overload of `add_transport_info` that creates the description; it adds nothing when the
certificate has no fingerprint. -/
def addTransportInfoFor (mid : ByteString) (iceParam : IceParameters)
    (certificate : Option RTCCertificate) : SessionDescription :=
  let td : TransportDescription :=
    { mid, iceUfrag := iceParam.iceUfrag, icePwd := iceParam.icePwd,
      connectionRole := if desc.sdpType = .offer then .actpass else .active }
  match certificate with
  | none => desc.addTransportInfo td
  | some certificate =>
    match certificate.fingerprint with
    | none => desc
    | some fp => desc.addTransportInfo { td with identifyFingerprint := some fp }

def isBundle (mid : ByteString) : Bool :=
  (desc.getGroupByName (lit "BUNDLE")).any fun g ↦ g.contentNames.any (· == mid)

/-- `content_group[0]->content_names()[0]`. Every group that is added to a description has a name
by then, see `contentNames_addContentName_ne_nil`. -/
def getFirstBundleMid : ByteString :=
  match desc.getGroupByName (lit "BUNDLE") with
  | [] => []
  | group :: _ => group.contentNames.headD []

/-- The sections `TransportController` skips: they ride on the transport of the first bundled
section. -/
def ridesOnBundle (mid : ByteString) : Bool :=
  desc.isBundle mid && mid != desc.getFirstBundleMid

@[simp] theorem getGroupByName_congr {desc desc' : SessionDescription}
    (h : desc.contentGroups = desc'.contentGroups) (name : ByteString) :
    desc.getGroupByName name = desc'.getGroupByName name := by
  rw [getGroupByName, getGroupByName, h]

theorem ridesOnBundle_congr {desc desc' : SessionDescription}
    (h : desc.contentGroups = desc'.contentGroups) (mid : ByteString) :
    desc.ridesOnBundle mid = desc'.ridesOnBundle mid := by
  rw [ridesOnBundle, ridesOnBundle, isBundle, isBundle, getFirstBundleMid, getFirstBundleMid,
    getGroupByName_congr h]

end SessionDescription

end XrtcServer
