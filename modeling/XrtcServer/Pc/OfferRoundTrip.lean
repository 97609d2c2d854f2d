import XrtcServer.Pc.PeerConnection
import XrtcServer.Pc.SdpRoundTrip

/-!
# An offer comes back

The text of a description, as a whole, through `set_remote_sdp`. `HasRead` says what the parser
holds after the lines of some sections; one section keeps it, so the loop does, and the end of
`set_remote_sdp` makes the streams of the offer from it.

## The header

The header of the text opens no section, and outside a section the parser takes nothing. So the
induction starts with the first `m=` line, in the state in which the loop began.

## What is lost

A section is read as `Pc/SdpSection.lean` says, with one difference between the two kinds: only a
video section reads the groups of sources. A track of an audio section comes back without them, and
its sources with the four attributes that were written. Nothing else of a stream is lost, and the
order of the streams is that of the offer.
-/

namespace XrtcServer

open ByteString

variable {env : SdpEnv} {textEnv : SdpTextEnv} {attributes : MediaType → ContentAttributes}
  {desc : SessionDescription} {content : MediaContentDescription} {type : MediaType}
  {st : SdpParser} {lines : List ByteString} {x : SectionState}

/-! ## The line that opens a section -/

namespace SdpParser

/-- What the first line of a section does. -/
def openSection (st : SdpParser) (type : MediaType) : SdpParser :=
  let x := st.sectionState type
  { st.setSection type { x with td := { x.td with mid := type.mid } } with
    mediaType := type.mid
    contents := st.contents ++ [type] }

theorem sectionState_openSection (st : SdpParser) (type : MediaType) :
    (st.openSection type).sectionState type =
      { st.sectionState type with td := { (st.sectionState type).td with mid := type.mid } } := by
  cases type <;> rfl

theorem setSection_keeps (st : SdpParser) (type : MediaType) (x : SectionState) :
    (st.setSection type x).contents = st.contents ∧
      (st.setSection type x).contentGroups = st.contentGroups ∧
      (st.setSection type x).videoSsrcGroups = x.groups := by
  cases type <;> exact ⟨rfl, rfl, rfl⟩

theorem parseMedia_mediaLine (st : SdpParser) (type : MediaType) :
    st.parseMedia (SessionDescription.mediaLine type) = .ok (st.openSection type) := by
  cases type with
  | audio =>
    have hsplit : split space (SessionDescription.mediaLine .audio) =
        [lit "m=audio", lit "9", lit "UDP/TLS/RTP/SAVPF", lit "111"] := by decide +kernel
    rw [parseMedia, if_neg (by decide +kernel), if_pos (by decide +kernel), hsplit]
    rfl
  | video =>
    have hsplit : split space (SessionDescription.mediaLine .video) =
        [lit "m=video", lit "9", lit "UDP/TLS/RTP/SAVPF", lit "107", lit "99"] := by
      decide +kernel
    rw [parseMedia, if_neg (by decide +kernel), if_pos (by decide +kernel), hsplit]
    rfl

theorem takeLine_mediaLine :
    takeLine env type x (SessionDescription.mediaLine type) = .ok x := by
  have hskip : ∀ q ∈ keywords, q ≠ lit "m=" →
      (SessionDescription.mediaLine type).contains q = false := by
    cases type <;> decide +kernel
  exact takeLine_eq
    (parseTransportInfo_skip (hskip _ (by decide) (by decide)) (hskip _ (by decide) (by decide))
      (hskip _ (by decide) (by decide)))
    (takeGroups_skip (hskip _ (by decide) (by decide)))
    (parseSsrcInfo_skip (hskip _ (by decide) (by decide)))

theorem parseLine_mediaLine (st : SdpParser) (type : MediaType) :
    st.parseLine env (SessionDescription.mediaLine type) = (st.openSection type, none) := by
  have hsection : (st.openSection type).parseSection env (SessionDescription.mediaLine type) =
      .ok ((st.openSection type).setSection type ((st.openSection type).sectionState type)) :=
    parseSection_of_takeLine rfl takeLine_mediaLine
  rw [parseLine, parseMedia_mediaLine]
  dsimp only
  rw [hsection, setSection_sectionState]

theorem parseLines_outside (hst : st.mediaType = [])
    (h : ∀ line ∈ lines, line.contains (lit "m=") = false) :
    st.parseLines env lines = (st, none) := by
  induction lines with
  | nil => rfl
  | cons line lines ih =>
    have hsection : st.parseSection env line = .ok st := by
      rw [parseSection, hst, if_neg (by decide), if_neg (by decide)]
    have hline : st.parseLine env line = (st, none) := by
      rw [parseLine, parseMedia_of_not_contains (h line List.mem_cons_self)]
      dsimp only
      rw [hsection]
    rw [parseLines, hline]
    exact ih fun l hl ↦ h l (List.mem_cons_of_mem _ hl)

end SdpParser

/-! ## The sections

The parser has one set of variables for each kind of section, so a section that is not the first of
its kind would be read into what is already there. The sections of an offer are of different kinds,
and `HasRead` keeps the variables of the kinds that are still to come as they were at the start. -/

namespace SessionDescription

/-- The lines before the first section. -/
def headerLines (desc : SessionDescription) : List ByteString :=
  [lit "v=0", lit "o=- 0 2 IN IP4 127.0.0.1", lit "s=-", lit "t=0 0"] ++ desc.bundleLines ++
    [lit "a=msid-semantic: WMS"]

theorem lines_eq : desc.lines textEnv attributes =
    desc.headerLines ++ desc.contents.flatMap (desc.contentLines textEnv attributes) := rfl

/-- The transport of a section as the parser will have it. -/
def readTransport (desc : SessionDescription) (content : MediaContentDescription) :
    TransportDescription :=
  (desc.getTransportInfo content.mid).elim { mid := content.mid }
    (TransportDescription.read { mid := content.mid })

/-- The parser has read these sections of the text of `desc`. -/
structure HasRead (desc : SessionDescription) (sections : List MediaContentDescription)
    (st : SdpParser) : Prop where
  contents : st.contents = sections.map (·.type)
  contentGroups : st.contentGroups = []
  unread : ∀ type ∉ sections.map (·.type),
    (st.sectionState type).td = {} ∧ (st.sectionState type).infos = []
  td : ∀ content ∈ sections, (st.sectionState content.type).td = desc.readTransport content
  infos : ∀ content ∈ sections,
    (st.sectionState content.type).infos = trackInfos content.sendStreams
  groups : st.videoSsrcGroups = sections.flatMap fun content ↦
    content.type.keptGroups (content.sendStreams.flatMap (·.ssrcGroups))

namespace HasRead

theorem nil (desc : SessionDescription) : desc.HasRead [] {} where
  contents := rfl
  contentGroups := rfl
  unread type _ := by cases type <;> exact ⟨rfl, rfl⟩
  td _ h := absurd h List.not_mem_nil
  infos _ h := absurd h List.not_mem_nil
  groups := rfl

theorem sectionState_of_ne {other : MediaType} (h : other ≠ type) (x : SectionState) :
    (((st.openSection type).setSection type x).sectionState other).td =
        (st.sectionState other).td ∧
      (((st.openSection type).setSection type x).sectionState other).infos =
        (st.sectionState other).infos := by
  cases type <;> cases other <;> first | exact absurd rfl h | exact ⟨rfl, rfl⟩

theorem sectionState_openSection_of_unread
    (h : (st.sectionState type).td = {} ∧ (st.sectionState type).infos = []) :
    (st.openSection type).sectionState type =
      { td := { mid := type.mid }, infos := [], groups := st.videoSsrcGroups } := by
  obtain ⟨htd, hinfos⟩ := h
  rw [SdpParser.sectionState_openSection]
  dsimp only
  rw [htd, hinfos]
  cases type <;> rfl

/-- **One more section.** -/
theorem concat {sections : List MediaContentDescription} (hread : desc.HasRead sections st)
    (hnew : content.type ∉ sections.map (·.type))
    (h : ReadableContent env textEnv attributes desc content) :
    ∃ st', st.parseLines env (desc.contentLines textEnv attributes content) = (st', none) ∧
      desc.HasRead (sections ++ [content]) st' := by
  let x : SectionState := {
    td := desc.readTransport content
    infos := trackInfos content.sendStreams
    groups := st.videoSsrcGroups ++
      content.type.keptGroups (content.sendStreams.flatMap (·.ssrcGroups)) }
  have hempty := sectionState_openSection_of_unread (hread.unread content.type hnew)
  have htake : Takes env content.type ((st.openSection content.type).sectionState content.type)
      (ReadableContent.rest textEnv attributes desc content) x := by
    rw [hempty]
    exact h.takes_rest rfl
  refine ⟨(st.openSection content.type).setSection content.type x, ?_, ?_⟩
  · rw [ReadableContent.contentLines_eq, SdpParser.parseLines, SdpParser.parseLine_mediaLine]
    exact SdpParser.parseLines_of_takes rfl (fun line hline ↦ (h.not_media_rest line hline).1) htake
  · have hkept (content' : MediaContentDescription) (hmem : content' ∈ sections) :
        content'.type ≠ content.type :=
      fun heq ↦ hnew (heq ▸ List.mem_map.mpr ⟨content', hmem, rfl⟩)
    constructor
    · rw [List.map_append, ← hread.contents]
      exact (SdpParser.setSection_keeps _ _ x).1
    · rw [(SdpParser.setSection_keeps _ _ x).2.1, ← hread.contentGroups]
      exact (SdpParser.setSection_keeps st content.type _).2.1
    · intro other hother
      rw [List.map_append, List.mem_append, not_or, List.map_singleton,
        List.mem_singleton] at hother
      rw [(sectionState_of_ne hother.2 x).1, (sectionState_of_ne hother.2 x).2]
      exact hread.unread other hother.1
    · intro content' hmem
      rcases List.mem_append.mp hmem with hmem | hmem
      · rw [(sectionState_of_ne (hkept content' hmem) x).1]
        exact hread.td content' hmem
      · rw [List.mem_singleton.mp hmem, SdpParser.sectionState_setSection]
    · intro content' hmem
      rcases List.mem_append.mp hmem with hmem | hmem
      · rw [(sectionState_of_ne (hkept content' hmem) x).2]
        exact hread.infos content' hmem
      · rw [List.mem_singleton.mp hmem, SdpParser.sectionState_setSection]
    · rw [List.flatMap_append, ← hread.groups, List.flatMap_singleton]
      exact (SdpParser.setSection_keeps _ _ x).2.2

theorem append {sections contents : List MediaContentDescription} (hread : desc.HasRead sections st)
    (hnew : ((sections ++ contents).map (·.type)).Nodup)
    (h : ∀ content ∈ contents, ReadableContent env textEnv attributes desc content) :
    ∃ st', st.parseLines env (contents.flatMap (desc.contentLines textEnv attributes)) =
        (st', none) ∧ desc.HasRead (sections ++ contents) st' := by
  induction contents generalizing sections st with
  | nil => exact ⟨st, rfl, (List.append_nil sections).symm ▸ hread⟩
  | cons content contents ih =>
    have hfirst : content.type ∉ sections.map (·.type) := by
      rw [List.map_append] at hnew
      exact fun hmem ↦ (List.nodup_append.mp hnew).2.2 _ hmem _ List.mem_cons_self rfl
    obtain ⟨st₁, hparse, hread⟩ := hread.concat hfirst (h content List.mem_cons_self)
    rw [List.append_cons] at hnew
    obtain ⟨st₂, hparse', hread⟩ := ih hread hnew fun c hc ↦ h c (List.mem_cons_of_mem _ hc)
    rw [← List.append_cons] at hread
    refine ⟨st₂, ?_, hread⟩
    rw [List.flatMap_cons, SdpParser.parseLines_append, hparse]
    exact hparse'

end HasRead

theorem headerLines_of_bundleLines
    (hbundle : ∀ line ∈ desc.bundleLines, line.contains (lit "m=") = false ∧ newline ∉ line) :
    ∀ line ∈ desc.headerLines, line.contains (lit "m=") = false ∧ newline ∉ line := by
  have hfixed : ∀ line ∈ [lit "v=0", lit "o=- 0 2 IN IP4 127.0.0.1", lit "s=-", lit "t=0 0"],
      line.contains (lit "m=") = false ∧ newline ∉ line := by decide +kernel
  intro line hline
  rcases List.mem_append.mp hline with hline | hline
  · exact (List.mem_append.mp hline).elim (hfixed line) (hbundle line)
  · rw [List.mem_singleton.mp hline]
    decide +kernel

/-- **The text of a description through the line loop.** -/
theorem parseRemoteSdp_text
    (hbundle : ∀ line ∈ desc.bundleLines, line.contains (lit "m=") = false ∧ newline ∉ line)
    (hnew : (desc.contents.map (·.type)).Nodup)
    (h : ∀ content ∈ desc.contents, ReadableContent env textEnv attributes desc content) :
    ∃ st, SdpParser.parseLines env {} (sdpLines (desc.text textEnv attributes)) = (st, none) ∧
      parseRemoteSdp env (desc.text textEnv attributes) = .accepted st.finish ∧
      desc.HasRead desc.contents st := by
  have hheader := headerLines_of_bundleLines hbundle
  have hnewline : ∀ line ∈ desc.lines textEnv attributes, newline ∉ line := by
    intro line hline
    rcases List.mem_append.mp hline with hline | hline
    · exact (hheader line hline).2
    · obtain ⟨content, hcontent, hline⟩ := List.mem_flatMap.mp hline
      rw [ReadableContent.contentLines_eq] at hline
      rcases List.mem_cons.mp hline with rfl | hline
      · cases content.type <;> decide +kernel
      · exact ((h content hcontent).not_media_rest line hline).2
  obtain ⟨st, hparse, hread⟩ := (HasRead.nil desc).append hnew h
  have hlines : sdpLines (desc.text textEnv attributes) = desc.lines textEnv attributes :=
    sdpLines_lines (List.cons_ne_nil _ _) hnewline
  have hrun : SdpParser.parseLines env {} (sdpLines (desc.text textEnv attributes)) =
      (st, none) := by
    rw [hlines, lines_eq, SdpParser.parseLines_append,
      SdpParser.parseLines_outside rfl fun line hline ↦ (hheader line hline).1]
    exact hparse
  have htokens : tokenize newline (desc.text textEnv attributes) ≠ [] := by
    rw [text, tokenize_newline_lines hnewline]
    exact List.cons_ne_nil _ _
  refine ⟨st, hrun, ?_, hread⟩
  rw [parseRemoteSdp, if_neg htokens, hrun]

/-! ## The streams -/

theorem flatMap_keptGroups {contents : List MediaContentDescription}
    (hnew : (contents.map (·.type)).Nodup) (hmem : content ∈ contents)
    (hvideo : content.type = .video) :
    (contents.flatMap fun c ↦ c.type.keptGroups (c.sendStreams.flatMap (·.ssrcGroups))) =
      content.sendStreams.flatMap (·.ssrcGroups) := by
  have hdrop (cs : List MediaContentDescription) (h : ∀ c ∈ cs, c.type ≠ .video) :
      (cs.flatMap fun c ↦ c.type.keptGroups (c.sendStreams.flatMap (·.ssrcGroups))) = [] :=
    List.flatMap_eq_nil_iff.mpr fun c hc ↦ if_neg (h c hc)
  obtain ⟨before, after, rfl⟩ := List.append_of_mem hmem
  rw [List.map_append, List.map_cons, hvideo] at hnew
  obtain ⟨-, hafter, hbefore⟩ := List.nodup_append.mp hnew
  have hb := hdrop before fun c hc ↦
    hbefore _ (List.mem_map.mpr ⟨c, hc, rfl⟩) _ List.mem_cons_self
  have ha := hdrop after fun c hc heq ↦
    (List.nodup_cons.mp hafter).1 (List.mem_map.mpr ⟨c, hc, heq⟩)
  rw [List.flatMap_append, List.flatMap_cons, hb, ha, hvideo, List.append_nil]
  rfl

/-- The streams of a section come back; an audio section loses the groups. -/
theorem HasRead.streams (hread : desc.HasRead desc.contents st)
    (hnew : (desc.contents.map (·.type)).Nodup) (hmem : content ∈ desc.contents)
    (h : WellFormedTracks content.sendStreams) :
    st.streams content.type =
      if content.type = .video then content.sendStreams
      else content.sendStreams.map (·.bare) := by
  have hinfos := hread.infos content hmem
  have htracks := createTrackFromSsrcInfo_trackInfos h.ids h.ssrcs_ne_nil
  rcases htype : content.type
  · rw [htype] at hinfos
    have hinfos : st.audioSsrcInfo = trackInfos content.sendStreams := hinfos
    rw [SdpParser.streams, hinfos, htracks, if_neg (by decide)]
  · rw [htype] at hinfos
    have hinfos : st.videoSsrcInfo = trackInfos content.sendStreams := hinfos
    have hgroups : st.videoSsrcGroups = content.sendStreams.flatMap (·.ssrcGroups) :=
      hread.groups.trans (flatMap_keptGroups hnew hmem htype)
    rw [SdpParser.streams, hinfos, htracks, if_pos rfl, List.map_map]
    refine (List.map_congr_left fun track ht ↦ ?_).trans (List.map_id _)
    have hback : st.groupsOfTrack track.bare = track.ssrcGroups :=
      groupsOfTrack_eq h.ssrcs h.groups hgroups ht
    rw [Function.comp_apply, hback]
    rfl

end SessionDescription

theorem getContent_finish (h : type ∈ st.contents) :
    st.finish.getContent type.mid = some { type, sendStreams := st.streams type } := by
  have hmid (t : MediaType) (heq : type.mid = t.mid) : t = type := by
    cases type <;> cases t <;> first | rfl | exact absurd heq (by decide)
  have hcontents : st.finish.contents =
      st.contents.map fun type ↦ { type, sendStreams := st.streams type } := rfl
  rw [SessionDescription.getContent, hcontents, List.find?_map, Option.map_eq_some_iff]
  refine ⟨type, ?_, rfl⟩
  have hfound : (st.contents.find? ((fun c : MediaContentDescription ↦ type.mid == c.mid) ∘
      fun type ↦ { type, sendStreams := st.streams type })).isSome = true :=
    List.find?_isSome.mpr ⟨type, h, beq_self_eq_true _⟩
  obtain ⟨t, ht⟩ := Option.isSome_iff_exists.mp hfound
  have hsame : (type.mid == t.mid) = true :=
    List.find?_some (p := fun t : MediaType ↦ type.mid == t.mid) ht
  rw [ht, hmid t (beq_iff_eq.mp hsame)]

/-! ## Offers

What is left is to see that an offer is such a description: its sections have different kinds, each
has a transport with the credentials and the fingerprint, and nothing is taken from the group
line. -/

namespace PeerConnection

variable {pc : PeerConnection} {options : RTCOfferAnswerOptions} {iceParam : IceParameters}
  {td : TransportDescription}

theorem mem_transportInfos_addSection {send : Bool} {source : List StreamParams}
    (h : td ∈ (pc.addSection desc type send source iceParam).transportInfos) :
    td ∈ desc.transportInfos ∨ td.iceUfrag = iceParam.iceUfrag ∧ td.icePwd = iceParam.icePwd ∧
      td.identifyFingerprint = pc.certificate.bind (·.fingerprint) := by
  dsimp only [addSection, SessionDescription.addTransportInfoFor] at h
  rcases hcertificate : pc.certificate with _ | ⟨_ | fp⟩ <;> rw [hcertificate] at h
  · refine (List.mem_append.mp h).imp id fun h ↦ ?_
    rw [List.mem_singleton.mp h]
    exact ⟨rfl, rfl, rfl⟩
  · exact .inl h
  · refine (List.mem_append.mp h).imp id fun h ↦ ?_
    rw [List.mem_singleton.mp h]
    exact ⟨rfl, rfl, rfl⟩

/-- The parts of an offer before the group is added. -/
def offerSections (pc : PeerConnection) (options : RTCOfferAnswerOptions)
    (iceParam : IceParameters) : SessionDescription :=
  let desc : SessionDescription := { sdpType := .offer }
  let desc :=
    if options.recvAudio || options.sendAudio then
      pc.addSection desc .audio options.sendAudio pc.audioSource iceParam
    else desc
  if options.recvVideo || options.sendVideo then
    pc.addSection desc .video options.sendVideo pc.videoSource iceParam
  else desc

/-- The group of the sections of a description. -/
def addBundleGroup (options : RTCOfferAnswerOptions) (desc : SessionDescription) :
    SessionDescription :=
  if options.useRtpMux then
    let offerBundle := (desc.contents.map (·.mid)).foldl ContentGroup.addContentName
      { semantics := lit "BUNDLE" }
    if offerBundle.contentNames = [] then desc else desc.addGroup offerBundle
  else desc

theorem offerDescription_eq_addBundleGroup (pc : PeerConnection) (options : RTCOfferAnswerOptions)
    (iceParam : IceParameters) : pc.offerDescription options iceParam =
      addBundleGroup options (pc.offerSections options iceParam) := rfl

theorem offerDescription_keeps (pc : PeerConnection) (options : RTCOfferAnswerOptions)
    (iceParam : IceParameters) :
    (pc.offerDescription options iceParam).contents =
        (pc.offerSections options iceParam).contents ∧
      (pc.offerDescription options iceParam).transportInfos =
        (pc.offerSections options iceParam).transportInfos := by
  rw [offerDescription_eq_addBundleGroup, addBundleGroup]
  dsimp only
  split_ifs <;> exact ⟨rfl, rfl⟩

theorem contents_offerDescription (pc : PeerConnection) (options : RTCOfferAnswerOptions)
    (iceParam : IceParameters) :
    (pc.offerDescription options iceParam).contents =
      (if options.recvAudio || options.sendAudio then
        [{ type := .audio, sendStreams := if options.sendAudio then pc.audioSource else [] }]
      else []) ++
      (if options.recvVideo || options.sendVideo then
        [{ type := .video, sendStreams := if options.sendVideo then pc.videoSource else [] }]
      else []) := by
  rw [(pc.offerDescription_keeps options iceParam).1, offerSections]
  rcases options.recvAudio || options.sendAudio <;>
    rcases options.recvVideo || options.sendVideo <;> simp [contents_addSection]

/-- Every transport of an offer has its credentials and the fingerprint of the certificate. -/
theorem transportInfos_offerDescription
    (h : td ∈ (pc.offerDescription options iceParam).transportInfos) :
    td.iceUfrag = iceParam.iceUfrag ∧ td.icePwd = iceParam.icePwd ∧
      td.identifyFingerprint = pc.certificate.bind (·.fingerprint) := by
  rw [(pc.offerDescription_keeps options iceParam).2, offerSections] at h
  have hnone (h : td ∈ ({ sdpType := .offer } : SessionDescription).transportInfos) :
      td.iceUfrag = iceParam.iceUfrag ∧ td.icePwd = iceParam.icePwd ∧
        td.identifyFingerprint = pc.certificate.bind (·.fingerprint) := nomatch h
  split_ifs at h
  · rcases mem_transportInfos_addSection h with h | h
    · exact (mem_transportInfos_addSection h).elim hnone id
    · exact h
  · exact (mem_transportInfos_addSection h).elim hnone id
  · exact (mem_transportInfos_addSection h).elim hnone id
  · exact hnone h

theorem nodup_types_offerDescription (pc : PeerConnection) (options : RTCOfferAnswerOptions)
    (iceParam : IceParameters) :
    ((pc.offerDescription options iceParam).contents.map (·.type)).Nodup := by
  rw [contents_offerDescription, List.map_append]
  have hne : MediaType.audio ≠ .video := by decide
  rcases options.recvAudio || options.sendAudio <;>
    rcases options.recvVideo || options.sendVideo <;> simp [hne]

/-- The group line of an offer opens nothing. -/
theorem bundleLines_offerDescription (pc : PeerConnection) (options : RTCOfferAnswerOptions)
    (iceParam : IceParameters) :
    ∀ line ∈ (pc.offerDescription options iceParam).bundleLines,
      line.contains (lit "m=") = false ∧ newline ∉ line := by
  rcases hmux : options.useRtpMux with _ | _
  · have hgroups : (pc.offerDescription options iceParam).contentGroups = [] := by
      rw [offerDescription_eq_addBundleGroup, addBundleGroup, hmux, if_neg Bool.false_ne_true,
        offerSections]
      split_ifs <;> simp only [contentGroups_addSection]
    rw [SessionDescription.bundleLines, SessionDescription.getGroupByName, hgroups]
    intro line hline
    cases hline
  · rw [SessionDescription.bundleLines, SessionDescription.getGroupByName,
      (pc.offerDescription_eq options hmux iceParam).2]
    rcases options.recvAudio || options.sendAudio <;>
      rcases options.recvVideo || options.sendVideo <;> decide +kernel

/-- What an offer is made of: credentials over the ICE character set, a certificate whose
fingerprint can be read, plain candidates, and tracks that the text keeps apart. -/
structure ReadableOffer (env : SdpEnv) (textEnv : SdpTextEnv)
    (attributes : MediaType → ContentAttributes) (pc : PeerConnection)
    (options : RTCOfferAnswerOptions) (iceParam : IceParameters) : Prop where
  number : ∀ n : UInt32, env.fromString (decimal n.toNat) = some n
  candidates : ∀ type, ∀ c ∈ (attributes type).candidates, PlainCandidate textEnv c
  iceUfrag : IsIceString iceParam.iceUfrag
  icePwd : IsIceString iceParam.icePwd
  fingerprint : ∀ fp, pc.certificate.bind (·.fingerprint) = some fp →
    ReadableFingerprint env textEnv fp
  audio : options.sendAudio = true → WellFormedTracks pc.audioSource
  video : options.sendVideo = true → WellFormedTracks pc.videoSource

theorem wellFormedTracks_nil : WellFormedTracks [] where
  ids := List.nodup_nil
  ssrcs_ne_nil := nofun
  ssrcs := List.nodup_nil
  groups := nofun
  tokens := nofun

theorem ReadableOffer.readableContent
    (h : ReadableOffer env textEnv attributes pc options iceParam) :
    ∀ content ∈ (pc.offerDescription options iceParam).contents,
      ReadableContent env textEnv attributes (pc.offerDescription options iceParam) content := by
  intro content hcontent
  refine ⟨h.number, h.candidates content.type, fun td htd ↦ ?_, ?_⟩
  · obtain ⟨hufrag, hpwd, hfp⟩ := transportInfos_offerDescription (List.mem_of_find?_eq_some htd)
    exact ⟨hufrag ▸ h.iceUfrag, hpwd ▸ h.icePwd, fun fp heq ↦ h.fingerprint fp (hfp ▸ heq)⟩
  · rw [contents_offerDescription] at hcontent
    rcases List.mem_append.mp hcontent with hcontent | hcontent
    · split_ifs at hcontent with hwanted hsend
      · rw [List.mem_singleton.mp hcontent]
        exact h.audio hsend
      · rw [List.mem_singleton.mp hcontent]
        exact wellFormedTracks_nil
      · cases hcontent
    · split_ifs at hcontent with hwanted hsend
      · rw [List.mem_singleton.mp hcontent]
        exact h.video hsend
      · rw [List.mem_singleton.mp hcontent]
        exact wellFormedTracks_nil
      · cases hcontent

/-- **The streams of an offer come back.** The text of the offer is accepted, and the video section
has the streams of the source, in their order and with everything they have; so has the audio
section, whose groups are not read. -/
theorem parseRemoteSdp_offer (h : ReadableOffer env textEnv attributes pc options iceParam) :
    ∃ desc, parseRemoteSdp env
        ((pc.offerDescription options iceParam).text textEnv attributes) = .accepted desc ∧
      (options.sendVideo = true → desc.getContent (lit "video") =
        some { type := .video, sendStreams := pc.videoSource }) ∧
      (options.sendAudio = true → (∀ track ∈ pc.audioSource, track.ssrcGroups = []) →
        desc.getContent (lit "audio") =
          some { type := .audio, sendStreams := pc.audioSource }) := by
  have hnew := pc.nodup_types_offerDescription options iceParam
  obtain ⟨st, -, hparse, hread⟩ := SessionDescription.parseRemoteSdp_text
    (pc.bundleLines_offerDescription options iceParam) hnew h.readableContent
  have hfinish {content : MediaContentDescription}
      (hmem : content ∈ (pc.offerDescription options iceParam).contents) :
      st.finish.getContent content.type.mid = some {
        type := content.type
        sendStreams := if content.type = .video then content.sendStreams
          else content.sendStreams.map (·.bare) } := by
    have htype : content.type ∈ st.contents := by
      rw [hread.contents]
      exact List.mem_map.mpr ⟨content, hmem, rfl⟩
    rw [getContent_finish htype, hread.streams hnew hmem (h.readableContent content hmem).tracks]
  refine ⟨st.finish, hparse, fun hsend ↦ ?_, fun hsend hgroups ↦ ?_⟩
  · have hmem : (⟨.video, pc.videoSource⟩ : MediaContentDescription) ∈
        (pc.offerDescription options iceParam).contents := by
      simp [contents_offerDescription, hsend]
    exact hfinish hmem
  · have hmem : (⟨.audio, pc.audioSource⟩ : MediaContentDescription) ∈
        (pc.offerDescription options iceParam).contents := by
      simp [contents_offerDescription, hsend]
    have hbare : pc.audioSource.map (·.bare) = pc.audioSource := by
      refine (List.map_congr_left fun track ht ↦ ?_).trans (List.map_id _)
      rw [StreamParams.bare, ← hgroups track ht]
      rfl
    refine (hfinish hmem).trans (congrArg some ?_)
    dsimp only
    rw [if_neg (by decide), hbare]

/-! ### An offer with a camera and a screen -/

/-- A decimal number of 32 bits. -/
def readDecimal (s : ByteString) : Option UInt32 :=
  if s ≠ [] ∧ s.all fun b ↦ 48 ≤ b && b ≤ 57 then
    let n := Nat.ofDigitChars 10 (s.map fun b ↦ Char.ofNat b.toNat) 0
    if n < 2 ^ 32 then some n.toUInt32 else none
  else none

theorem readDecimal_decimal (n : UInt32) : readDecimal (decimal n.toNat) = some n := by
  have hdigits : decimal n.toNat ≠ [] ∧
      (decimal n.toNat).all (fun b ↦ 48 ≤ b && b ≤ 57) = true := by
    refine ⟨decimal_ne_nil _, List.all_eq_true.mpr fun b hb ↦ ?_⟩
    obtain ⟨hlow, hhigh⟩ := digit_of_mem_decimal hb
    rw [decide_eq_true hlow, decide_eq_true hhigh]
    rfl
  have hchars : (decimal n.toNat).map (fun b ↦ Char.ofNat b.toNat) = Nat.toDigits 10 n.toNat := by
    rw [decimal, List.map_map]
    refine (List.map_congr_left fun c hc ↦ ?_).trans (List.map_id _)
    have hdigit := Nat.isDigit_of_mem_toDigits (by decide) (by decide) hc
    have hsmall : c.toNat < 256 := by
      have hrange : 48 ≤ c.toNat ∧ c.toNat ≤ 57 := by
        simpa [Char.isDigit, UInt32.le_iff_toNat_le] using hdigit
      omega
    rw [Function.comp_apply, Nat.toUInt8_eq, UInt8.toNat_ofNat', Nat.mod_eq_of_lt hsmall,
      Char.ofNat_toNat]
    rfl
  have hvalue : Nat.ofDigitChars 10 (Nat.toDigits 10 n.toNat) 0 = n.toNat :=
    Nat.ofDigitChars_ten_toDigits
  rw [readDecimal, if_pos hdigits, hchars, hvalue]
  dsimp only
  rw [if_pos n.toNat_lt]
  exact congrArg some UInt32.ofNat_toNat

def exampleFingerprint : SSLFingerprint := ⟨lit "sha-256", [0xab, 0xcd]⟩

def exampleEnv : SdpEnv where
  fromString := readDecimal
  createUniqueFromRfc4572 algorithm text :=
    if algorithm = lit "sha-256" ∧ text = lit "AB:CD" then some exampleFingerprint else none

def exampleTextEnv : SdpTextEnv where
  ipIsPrivateNetwork _ := false
  hostAsUriString _ := lit "203.0.113.1"
  serverAddr := []
  rfc4572Fingerprint _ := lit "AB:CD"

/-- The source of two video tracks, one with a retransmission source, and of one audio track. -/
def exampleSource : PeerConnection where
  certificate := some ⟨some exampleFingerprint⟩
  audioSource := [{ id := lit "mic", ssrcs := [7], cname := lit "c", streamId := lit "s" }]
  videoSource :=
    [{ id := lit "camera", ssrcs := [1, 2], ssrcGroups := [⟨lit "FID", [1, 2]⟩],
       cname := lit "c", streamId := lit "s" },
     { id := lit "screen", ssrcs := [4294967295] }]

def exampleAttributes (_ : MediaType) : ContentAttributes where
  direction := getDirection true false
  candidates := [{ component := .rtp, protocol := lit "udp", address := ⟨.inet 3405803777, 0⟩,
                   port := 9000, priority := 2130706431, username := [], password := [],
                   type := lit "host", foundation := lit "1" }]

def exampleIceParam : IceParameters := ⟨lit "hlpX", lit "wwYvOxaKnCLCP+I6J5Wb/U3l"⟩

theorem readableOffer_example : ReadableOffer exampleEnv exampleTextEnv exampleAttributes
    exampleSource {} exampleIceParam where
  number := readDecimal_decimal
  candidates := by
    intro type c hc
    rw [List.mem_singleton.mp hc]
    exact ⟨by decide, by decide, by decide, by decide⟩
  iceUfrag := by decide
  icePwd := by decide
  fingerprint := by
    intro fp hfp
    rw [← Option.some.inj hfp]
    exact ⟨by decide, by decide, by decide, by decide⟩
  audio := by
    refine fun _ ↦ ⟨by decide, by decide, by decide, by decide, fun track ht ↦ ?_⟩
    rw [List.mem_singleton.mp ht]
    exact ⟨by decide, by decide, by decide, by decide⟩
  video := by
    refine fun _ ↦ ⟨by decide, by decide, by decide, by decide, fun track ht ↦ ?_⟩
    rcases List.mem_pair.mp ht with rfl | rfl <;>
      exact ⟨by decide, by decide, by decide, by decide⟩

theorem parseRemoteSdp_offer_example :
    ∃ desc, parseRemoteSdp exampleEnv
        ((exampleSource.offerDescription {} exampleIceParam).text exampleTextEnv
          exampleAttributes) = .accepted desc ∧
      desc.getContent (lit "video") =
        some { type := .video, sendStreams := exampleSource.videoSource } ∧
      desc.getContent (lit "audio") =
        some { type := .audio, sendStreams := exampleSource.audioSource } := by
  obtain ⟨desc, hparse, hvideo, haudio⟩ := parseRemoteSdp_offer readableOffer_example
  exact ⟨desc, hparse, hvideo rfl, haudio rfl (by decide)⟩

end PeerConnection

end XrtcServer
