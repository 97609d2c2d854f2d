import XrtcServer.Pc.PeerConnection

/-!
# The text of a session description

`SessionDescription::to_string` (`pc/session_description.cpp`) and what it reads: the codecs of the
two kinds of content, directions, candidates and sources. The text is written line by line, and
every line ends with a carriage return and a line feed; here a description has its list of lines,
and the text is made of them.

Addresses and fingerprints are written by `rtc_base`, which is not part of the repository; its
functions are parameters.
-/

namespace XrtcServer

open ByteString

/-- An integer, as a stream writes it. -/
def decimal (n : ℕ) : ByteString := (Nat.toDigits 10 n).map fun c ↦ c.toNat.toUInt8

theorem decimal_ne_nil (n : ℕ) : decimal n ≠ [] :=
  fun h ↦ Nat.toDigits_ne_nil (List.map_eq_nil_iff.mp h)

theorem digit_of_mem_decimal {n : ℕ} {b : UInt8} (h : b ∈ decimal n) : 48 ≤ b ∧ b ≤ 57 := by
  obtain ⟨c, hc, rfl⟩ := List.mem_map.mp h
  have hdigit := Nat.isDigit_of_mem_toDigits (by decide) (by decide) hc
  have hrange : 48 ≤ c.toNat ∧ c.toNat ≤ 57 := by
    simpa [Char.isDigit, UInt32.le_iff_toNat_le] using hdigit
  obtain ⟨hlow, hhigh⟩ := hrange
  rw [UInt8.le_iff_toNat_le, UInt8.le_iff_toNat_le]
  have htoNat : c.toNat.toUInt8.toNat = c.toNat := by
    rw [Nat.toUInt8_eq, UInt8.toNat_ofNat']
    omega
  rw [htoNat]
  exact ⟨hlow, hhigh⟩

/-! ## Contents -/

inductive RtpDirection
  | sendRecv
  | sendOnly
  | recvOnly
  | inactive
deriving DecidableEq

/-- `get_direction`. -/
def getDirection (send recv : Bool) : RtpDirection :=
  if send && recv then .sendRecv
  else if send && !recv then .sendOnly
  else if !send && recv then .recvOnly
  else .inactive

structure FeedbackParam where
  id : ByteString
  param : ByteString := []

structure CodecInfo where
  id : ℕ
  name : ByteString
  clockrate : ℕ
  /-- Of an audio codec. -/
  channels : Option ℕ := none
  feedbackParam : List FeedbackParam := []
  /-- A map, in the order of its keys. -/
  codecParam : List (ByteString × ByteString) := []

/-- The codecs that the constructors of the two content classes fill in. -/
def MediaType.codecs : MediaType → List CodecInfo
  | audio =>
    [{ id := 111, name := lit "opus", clockrate := 48000, channels := some 2,
       feedbackParam := [{ id := lit "transport-cc" }],
       codecParam := [(lit "minptime", lit "10"), (lit "useinbandfec", lit "1")] }]
  | video =>
    [{ id := 107, name := lit "H264", clockrate := 90000,
       feedbackParam :=
        [{ id := lit "goog-remb" }, { id := lit "transport-cc" },
          { id := lit "ccm", param := lit "fir" }, { id := lit "nack" },
          { id := lit "nack", param := lit "pli" }],
       codecParam :=
        [(lit "level-asymmetry-allowed", lit "1"), (lit "packetization-mode", lit "1"),
          (lit "profile-level-id", lit "42e01f")] },
     { id := 99, name := lit "rtx", clockrate := 90000, codecParam := [(lit "apt", lit "107")] }]

/-- What a content has besides its streams. -/
structure ContentAttributes where
  direction : RtpDirection
  rtcpMux : Bool := true
  candidates : List Candidate := []

/-- The external functions of the writer. -/
structure SdpTextEnv where
  /-- `rtc::IPIsPrivateNetwork`. -/
  ipIsPrivateNetwork : IPAddress → Bool
  /-- `rtc::SocketAddress::HostAsURIString`. -/
  hostAsUriString : IPAddress → ByteString
  /-- `g_conf->server_addr`. -/
  serverAddr : ByteString
  /-- `rtc::SSLFingerprint::GetRfc4572Fingerprint`. -/
  rfc4572Fingerprint : SSLFingerprint → ByteString

/-! ## Lines -/

def connectionRoleToString : ConnectionRole → ByteString
  | .active => lit "active"
  | .passive => lit "passive"
  | .actpass => lit "actpass"
  | .holdconn => lit "holdconn"
  | .none => lit "none"

/-- `add_rtcp_fb_line`. -/
def rtcpFbLines (codec : CodecInfo) : List ByteString :=
  codec.feedbackParam.map fun param ↦
    lit "a=rtcp-fb:" ++ decimal codec.id ++ lit " " ++ param.id ++
      if param.param = [] then [] else lit " " ++ param.param

/-- `add_fmtp_line`. -/
def fmtpLines (codec : CodecInfo) : List ByteString :=
  if codec.codecParam = [] then []
  else
    let data := codec.codecParam.flatMap fun param ↦ lit ";" ++ param.1 ++ lit "=" ++ param.2
    [lit "a=fmtp:" ++ decimal codec.id ++ lit " " ++ data.drop 1]

/-- `build_rtp_map`. -/
def rtpMapLines (type : MediaType) : List ByteString :=
  type.codecs.flatMap fun codec ↦
    (lit "a=rtpmap:" ++ decimal codec.id ++ lit " " ++ codec.name ++ lit "/" ++
        decimal codec.clockrate ++
        match codec.channels with
        | some channels => lit "/" ++ decimal channels
        | none => []) ::
      (rtcpFbLines codec ++ fmtpLines codec)

/-- `build_rtp_direction`. -/
def rtpDirectionLine : RtpDirection → ByteString
  | .sendRecv => lit "a=sendrecv"
  | .sendOnly => lit "a=sendonly"
  | .recvOnly => lit "a=recvonly"
  | .inactive => lit "a=inactive"

def candidateValue (env : SdpTextEnv) (c : Candidate) : ByteString :=
  c.foundation ++ lit " " ++ decimal c.component.toNat ++ lit " " ++ c.protocol ++ lit " " ++
    decimal c.priority.toNat ++ lit " " ++
    (if env.ipIsPrivateNetwork c.address.ip then env.serverAddr
      else env.hostAsUriString c.address.ip) ++
    lit " " ++ decimal c.port ++ lit " typ " ++ c.type

/-- A line of `build_candidate`. -/
def candidateLine (env : SdpTextEnv) (c : Candidate) : ByteString :=
  lit "a=candidate:" ++ candidateValue env c

/-- `add_ssrc_line`. -/
def ssrcLine (ssrc : UInt32) (attr value : ByteString) : ByteString :=
  lit "a=ssrc:" ++ decimal ssrc.toNat ++ lit " " ++ attr ++ lit ":" ++ value

def ssrcGroupLine (group : SsrcGroup) : ByteString :=
  lit "a=ssrc-group:" ++ group.semantics ++
    group.ssrcs.flatMap fun ssrc ↦ lit " " ++ decimal ssrc.toNat

/-- The four lines of a source. -/
def ssrcLines (track : StreamParams) (ssrc : UInt32) : List ByteString :=
  [ssrcLine ssrc (lit "cname") track.cname,
    ssrcLine ssrc (lit "msid") (track.streamId ++ lit " " ++ track.id),
    ssrcLine ssrc (lit "mslabel") track.streamId,
    ssrcLine ssrc (lit "label") track.id]

/-- The lines of a track in `build_ssrc`. -/
def trackLines (track : StreamParams) : List ByteString :=
  ((track.ssrcGroups.filter (·.ssrcs ≠ [])).map ssrcGroupLine) ++
    track.ssrcs.flatMap (ssrcLines track)

namespace SessionDescription

variable (env : SdpTextEnv) (attributes : MediaType → ContentAttributes) (desc : SessionDescription)

def bundleLines : List ByteString :=
  let contentGroup := desc.getGroupByName (lit "BUNDLE")
  if contentGroup = [] then []
  else [lit "a=group:BUNDLE" ++
    (contentGroup.flatMap (·.contentNames)).flatMap fun name ↦ lit " " ++ name]

def transportLines (td : TransportDescription) : List ByteString :=
  [lit "a=ice-ufrag:" ++ td.iceUfrag, lit "a=ice-pwd:" ++ td.icePwd] ++
    match td.identifyFingerprint with
    | none => []
    | some fp =>
      [lit "a=fingerprint:" ++ fp.algorithm ++ lit " " ++ env.rfc4572Fingerprint fp,
        lit "a=setup:" ++ connectionRoleToString td.connectionRole]

def mediaLine (type : MediaType) : ByteString :=
  lit "m=" ++ type.mid ++ lit " 9 " ++ lit "UDP/TLS/RTP/SAVPF" ++
    type.codecs.flatMap fun codec ↦ lit " " ++ decimal codec.id

def contentLines (content : MediaContentDescription) : List ByteString :=
  [mediaLine content.type, lit "c=IN IP4 0.0.0.0", lit "a=rtcp:9 IN IP4 0.0.0.0"] ++
    (attributes content.type).candidates.map (candidateLine env) ++
    ((desc.getTransportInfo content.mid).toList.flatMap (transportLines env)) ++
    [lit "a=mid:" ++ content.mid, rtpDirectionLine (attributes content.type).direction] ++
    (if (attributes content.type).rtcpMux then [lit "a=rtcp-mux"] else []) ++
    rtpMapLines content.type ++
    content.sendStreams.flatMap trackLines

/-- The lines of the text. -/
def lines : List ByteString :=
  [lit "v=0", lit "o=- 0 2 IN IP4 127.0.0.1", lit "s=-", lit "t=0 0"] ++ desc.bundleLines ++
    [lit "a=msid-semantic: WMS"] ++
    desc.contents.flatMap (desc.contentLines env attributes)

/-- `to_string`. -/
def text : ByteString := (desc.lines env attributes).flatMap fun line ↦ line ++ lit "\r\n"

end SessionDescription

end XrtcServer
