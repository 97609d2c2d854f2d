import XrtcServer.Pc.SessionDescription

/-!
# The answer parser

The line loop of `PeerConnection::set_remote_sdp` with the functions it calls
(`pc/peer_connection.cpp`). A line can be accepted, make the call return `-1`, or throw
`std::out_of_range` from a `substr`; `SdpError` names the last two.

`set_remote_sdp` replaces `_remote_desc` before it reads the first line and fills it while it
reads, so a call that fails leaves an unfinished description behind. `parseLine` therefore returns
the parser state also with an error.

Two functions of `rtc_base` are not part of the repository and are parameters: the conversion
`rtc::FromString<uint32_t>` and `SSLFingerprint::CreateUniqueFromRfc4572`.
-/

namespace XrtcServer

open ByteString

/-- The external functions of the parser. -/
structure SdpEnv where
  /-- `rtc::FromString` to a `uint32_t`. -/
  fromString : ByteString → Option UInt32
  /-- `rtc::SSLFingerprint::CreateUniqueFromRfc4572`; `none` is the null pointer. -/
  createUniqueFromRfc4572 : ByteString → ByteString → Option SSLFingerprint

/-- How a line can end the loop. -/
inductive SdpError
  /-- `set_remote_sdp` returns `-1`. -/
  | reject
  /-- `substr` throws `std::out_of_range`. -/
  | outOfRange
deriving DecidableEq

structure SsrcInfo where
  ssrcId : UInt32
  cname : ByteString := []
  streamId : ByteString := []
  trackId : ByteString := []
deriving DecidableEq

def space : UInt8 := 32
def colon : UInt8 := 58
def newline : UInt8 := 10

/-- `substr` where a start position past the end throws. -/
def substrOrThrow (s : ByteString) (pos : ℕ) : Except SdpError ByteString :=
  match s.substr pos with
  | some t => .ok t
  | none => .error .outOfRange

/-- `get_atrribute`. -/
def getAttribute (line : ByteString) : ByteString :=
  match tokenize colon line with
  | [_, value] => value
  | _ => []

def parseTransportInfo (env : SdpEnv) (td : TransportDescription) (line : ByteString) :
    Except SdpError TransportDescription :=
  if line.contains (lit "a=ice-ufrag") then
    if getAttribute line = [] then .error .reject
    else .ok { td with iceUfrag := getAttribute line }
  else if line.contains (lit "a=ice-pwd") then
    if getAttribute line = [] then .error .reject
    else .ok { td with icePwd := getAttribute line }
  else if line.contains (lit "a=fingerprint") then
    match tokenize space line with
    | [item, content] => do
      let alg ← substrOrThrow item 14
      match env.createUniqueFromRfc4572 (alg.map toLower) content with
      | none => .error .reject
      | some fp => .ok { td with identifyFingerprint := some fp }
    | _ => .error .reject
  else .ok td

/-- The assignment to the entry of `ssrc_id` that the loop over `ssrc_info` finds or appends. -/
def updateSsrc (infos : List SsrcInfo) (ssrcId : UInt32) (f : SsrcInfo → SsrcInfo) :
    List SsrcInfo :=
  (if infos.any (·.ssrcId == ssrcId) then infos else infos ++ [{ ssrcId := ssrcId }]).map fun info ↦
    if info.ssrcId = ssrcId then f info else info

def parseSsrcInfo (env : SdpEnv) (infos : List SsrcInfo) (line : ByteString) :
    Except SdpError (List SsrcInfo) :=
  if line.contains (lit "a=ssrc:") then do
    let rest ← substrOrThrow line 2
    match tokenizeFirst space rest with
    | none => .error .reject
    | some (field1, field2) =>
      let ssrcIdS ← substrOrThrow field1 5
      match env.fromString ssrcIdS with
      | none => .error .reject
      | some ssrcId =>
        match tokenizeFirst colon field2 with
        | none => .error .reject
        | some (attr, value) =>
          if attr = lit "cname" then
            .ok (updateSsrc infos ssrcId fun info ↦ { info with cname := value })
          else if attr = lit "msid" then
            match split space value with
            | [streamId] => .ok (updateSsrc infos ssrcId fun info ↦ { info with streamId })
            | [streamId, trackId] =>
              .ok (updateSsrc infos ssrcId fun info ↦ { info with streamId, trackId })
            | _ => .error .reject
          else .ok (updateSsrc infos ssrcId id)
  else .ok infos

def parseSsrcGroupInfo (env : SdpEnv) (groups : List SsrcGroup) (line : ByteString) :
    Except SdpError (List SsrcGroup) :=
  if line.contains (lit "a=ssrc-group:") then do
    let rest ← substrOrThrow line 2
    match split space rest with
    | field :: ssrcId :: ssrcIds =>
      if getAttribute field = [] then .error .reject
      else
        match (ssrcId :: ssrcIds).mapM env.fromString with
        | none => .error .reject
        | some ssrcs => .ok (groups ++ [{ semantics := getAttribute field, ssrcs }])
    | _ => .error .reject
  else .ok groups

/-- The body of the loop of `create_track_from_ssrc_info`. -/
def addSsrcToTracks (tracks : List StreamParams) (info : SsrcInfo) : List StreamParams :=
  let tracks := if tracks.any (·.id == info.trackId) then tracks
    else tracks ++ [{ id := info.trackId }]
  tracks.map fun track ↦
    if track.id = info.trackId then
      { track with streamId := info.streamId, cname := info.cname,
                   ssrcs := track.ssrcs ++ [info.ssrcId] }
    else track

def createTrackFromSsrcInfo (infos : List SsrcInfo) : List StreamParams :=
  infos.foldl addSsrcToTracks []

/-- The local variables of `set_remote_sdp`. The two content objects are shared with
`_remote_desc` and get their streams after the loop, so `contents` records which of them were added
and in which order. -/
structure SdpParser where
  contents : List MediaType := []
  contentGroups : List ContentGroup := []
  mediaType : ByteString := []
  audioTd : TransportDescription := {}
  videoTd : TransportDescription := {}
  audioSsrcInfo : List SsrcInfo := []
  videoSsrcInfo : List SsrcInfo := []
  videoSsrcGroups : List SsrcGroup := []

/-- The group a line announces when split at the spaces: the items after the first one. -/
def bundleOf (items : List ByteString) : Option ContentGroup :=
  match items with
  | _ :: name :: names =>
    some ((name :: names).foldl ContentGroup.addContentName { semantics := lit "BUNDLE" })
  | _ => none

namespace SdpParser

/-- The bundle branch. The answer's own keyword is `a=group:BUNDLE`; the source looks for
`m=group:BUNDLE`. -/
def addBundle (st : SdpParser) (items : List ByteString) : SdpParser :=
  { st with contentGroups := st.contentGroups ++ (bundleOf items).toList }

/-- The `m=` branches: what a line does before the current section sees it. -/
def parseMedia (st : SdpParser) (field : ByteString) : Except SdpError SdpParser :=
  if field.contains (lit "m=group:BUNDLE") then .ok (st.addBundle (split space field))
  else if field.contains (lit "m=") then
    match split space field with
    | item :: _ :: _ :: _ => do
      let mediaType ← substrOrThrow item 2
      if mediaType = lit "audio" then
        .ok { st with mediaType, contents := st.contents ++ [.audio],
                      audioTd := { st.audioTd with mid := lit "audio" } }
      else if mediaType = lit "video" then
        .ok { st with mediaType, contents := st.contents ++ [.video],
                      videoTd := { st.videoTd with mid := lit "video" } }
      else .ok { st with mediaType }
    | _ => .error .reject
  else .ok st

/-- What the current section reads from a line. -/
def parseSection (env : SdpEnv) (st : SdpParser) (field : ByteString) :
    Except SdpError SdpParser :=
  if st.mediaType = lit "audio" then do
    let audioTd ← parseTransportInfo env st.audioTd field
    let audioSsrcInfo ← parseSsrcInfo env st.audioSsrcInfo field
    return { st with audioTd, audioSsrcInfo }
  else if st.mediaType = lit "video" then do
    let videoTd ← parseTransportInfo env st.videoTd field
    let videoSsrcGroups ← parseSsrcGroupInfo env st.videoSsrcGroups field
    let videoSsrcInfo ← parseSsrcInfo env st.videoSsrcInfo field
    return { st with videoTd, videoSsrcGroups, videoSsrcInfo }
  else .ok st

/-- One round of the line loop: the state it leaves, and how it ended the loop if it did. -/
def parseLine (env : SdpEnv) (st : SdpParser) (field : ByteString) :
    SdpParser × Option SdpError :=
  match st.parseMedia field with
  | .error e => (st, some e)
  | .ok st' =>
    match st'.parseSection env field with
    | .error e => (st', some e)
    | .ok st'' => (st'', none)

/-- The line loop. -/
def parseLines (env : SdpEnv) : SdpParser → List ByteString → SdpParser × Option SdpError
  | st, [] => (st, none)
  | st, field :: fields =>
    match st.parseLine env field with
    | (st', some e) => (st', some e)
    | (st', none) => parseLines env st' fields

theorem parseLines_append (env : SdpEnv) (st : SdpParser) (lines lines' : List ByteString) :
    st.parseLines env (lines ++ lines') =
      match st.parseLines env lines with
      | (st', some e) => (st', some e)
      | (st', none) => st'.parseLines env lines' := by
  induction lines generalizing st with
  | nil => rfl
  | cons line lines ih =>
    rw [List.cons_append, parseLines, parseLines]
    rcases st.parseLine env line with ⟨st', _ | e⟩
    · exact ih st'
    · rfl

/-- The groups that name one of the track's sources first are the track's groups. -/
def groupsOfTrack (st : SdpParser) (track : StreamParams) : List SsrcGroup :=
  st.videoSsrcGroups.filter fun g ↦
    match g.ssrcs with
    | [] => false
    | ssrc :: _ => track.hasSsrc ssrc

def streams (st : SdpParser) : MediaType → List StreamParams
  | .audio => createTrackFromSsrcInfo st.audioSsrcInfo
  | .video => (createTrackFromSsrcInfo st.videoSsrcInfo).map fun track ↦
      { track with ssrcGroups := st.groupsOfTrack track }

/-- `_remote_desc` while the loop is running: contents without streams, no transport infos. -/
def unfinished (st : SdpParser) : SessionDescription where
  sdpType := .answer
  contents := st.contents.map fun type ↦ { type }
  contentGroups := st.contentGroups

/-- `_remote_desc` after the loop. -/
def finish (st : SdpParser) : SessionDescription :=
  ((({ sdpType := .answer, contentGroups := st.contentGroups,
       contents := st.contents.map fun type ↦ { type, sendStreams := st.streams type } } :
      SessionDescription).addTransportInfo st.audioTd).addTransportInfo st.videoTd)

end SdpParser

/-- The fields the loop runs over: the non-empty lines, with the last byte of each cut off when the
text contains a CRLF. -/
def sdpLines (sdp : ByteString) : List ByteString :=
  if sdp.contains [13, newline] then (tokenize newline sdp).map List.dropLast
  else tokenize newline sdp

/-- How the parsing part of `set_remote_sdp` ends. -/
inductive SdpOutcome
  /-- No line at all: `-1`, and `_remote_desc` is left alone. -/
  | invalid
  /-- `-1`, and `_remote_desc` is the unfinished description. -/
  | rejected (desc : SessionDescription)
  /-- An uncaught `std::out_of_range`. -/
  | outOfRange (desc : SessionDescription)
  /-- `_remote_desc` is the description; it goes to the transport controller, and `0` is
  returned. -/
  | accepted (desc : SessionDescription)
deriving DecidableEq

/-- `PeerConnection::set_remote_sdp` up to the call of the transport controller. -/
def parseRemoteSdp (env : SdpEnv) (sdp : ByteString) : SdpOutcome :=
  if tokenize newline sdp = [] then .invalid
  else
    match SdpParser.parseLines env {} (sdpLines sdp) with
    | (st, none) => .accepted st.finish
    | (st, some .reject) => .rejected st.unfinished
    | (st, some .outOfRange) => .outOfRange st.unfinished

theorem parseRemoteSdp_eq_accepted {env : SdpEnv} {sdp : ByteString} {desc : SessionDescription}
    (h : parseRemoteSdp env sdp = .accepted desc) :
    ∃ st, SdpParser.parseLines env {} (sdpLines sdp) = (st, none) ∧ st.finish = desc := by
  rw [parseRemoteSdp] at h
  split_ifs at h
  rcases hl : SdpParser.parseLines env {} (sdpLines sdp) with ⟨st, _ | (_ | _)⟩ <;> rw [hl] at h
  · exact ⟨st, rfl, SdpOutcome.accepted.inj h⟩
  · cases h
  · cases h

end XrtcServer
