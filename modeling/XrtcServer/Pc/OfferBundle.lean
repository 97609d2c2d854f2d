import XrtcServer.Pc.OfferRoundTrip

/-!
# The bundle group of an offer is not read

`to_string` announces the bundle with `a=group:BUNDLE`, and `set_remote_sdp` looks for
`m=group:BUNDLE`. So the line of the group is not read as one, and the description that comes back
from an offer has no bundle.

## Other lines

Other lines of an offer can have `m=group:BUNDLE` in a string, since the parser looks for it
anywhere: in the candidates, or in the names of the tracks. Then the parser makes a group of the
words of that line, but one of them is not the name of a section. The sections of the offer and
their transports do come back.
-/

namespace XrtcServer

open ByteString

variable {env : SdpEnv} {textEnv : SdpTextEnv} {attributes : MediaType → ContentAttributes}
  {desc : SessionDescription} {content : MediaContentDescription} {td : TransportDescription}
  {line name : ByteString} {lines names : List ByteString}

namespace SessionDescription

/-- The names of the bundled contents. -/
def bundleNames (desc : SessionDescription) : List ByteString :=
  (desc.getGroupByName (lit "BUNDLE")).flatMap (·.contentNames)

/-- What a description that was read has in common with the one that was written. -/
structure Recovers (written read : SessionDescription) : Prop where
  bundleNames : read.bundleNames = written.bundleNames
  mids : read.contents.map (·.mid) = written.contents.map (·.mid)
  transport : ∀ content ∈ written.contents, ∀ td,
    written.getTransportInfo content.mid = some td →
      ∃ td', read.getTransportInfo content.mid = some td' ∧ td'.iceUfrag = td.iceUfrag ∧
        td'.icePwd = td.icePwd ∧ td'.identifyFingerprint = td.identifyFingerprint

end SessionDescription

/-! ## Lines that cannot name the sections

A group is made of the words of a line, whatever the line is. In all lines of an offer in which the
keyword may stand, a word can be named that no section has for its name. -/

/-- A name that no section has. -/
def AlienName (name : ByteString) : Prop := name ≠ lit "audio" ∧ name ≠ lit "video"

instance (name : ByteString) : Decidable (AlienName name) := inferInstanceAs (Decidable (_ ∧ _))

/-- Read as a group, the line has an alien name. -/
def AlienLine (line : ByteString) : Prop := ∃ name ∈ (split space line).tail, AlienName name

theorem mem_foldl_addContentName {g : ContentGroup} :
    name ∈ (names.foldl ContentGroup.addContentName g).contentNames ↔
      name ∈ g.contentNames ∨ name ∈ names := by
  induction names generalizing g with
  | nil => simp
  | cons n names ih =>
    have hadd : name ∈ (g.addContentName n).contentNames ↔ name ∈ g.contentNames ∨ name = n := by
      rw [ContentGroup.addContentName, ContentGroup.hasContentName]
      split_ifs with h
      · refine ⟨.inl, fun hor ↦ hor.elim id ?_⟩
        rintro rfl
        simpa using h
      · rw [List.mem_append, List.mem_singleton]
    rw [List.foldl_cons, ih, hadd, List.mem_cons, or_assoc]

theorem bundleOf_eq_some {items : List ByteString} {g : ContentGroup} (h : bundleOf items = some g)
    (hname : name ∈ items.tail) : name ∈ g.contentNames := by
  rcases items with _ | ⟨item, _ | ⟨n, names⟩⟩
  · cases h
  · cases h
  · obtain rfl := Option.some.inj h
    exact mem_foldl_addContentName.mpr (.inr hname)

/-- A line that does not announce the sections. -/
def SilentLine (line : ByteString) : Prop :=
  line.contains (lit "m=group:BUNDLE") = false ∨ AlienLine line

/-- **Without a line for it there is no bundle of sections.** -/
theorem bundleNames_of_silent {sdp : ByteString} {read : SessionDescription}
    (h : parseRemoteSdp env sdp = .accepted read)
    (hsilent : ∀ line ∈ sdpLines sdp, SilentLine line) :
    read.bundleNames = [] ∨ ∃ name ∈ read.bundleNames, AlienName name := by
  obtain ⟨st, hst, rfl⟩ := parseRemoteSdp_eq_accepted h
  have hr : st.Reads (sdpLines sdp) := SdpParser.reads_nil.parseLines hst
  have hgroups : st.finish.contentGroups = (sdpLines sdp).filterMap groupOf := hr.groups
  rcases hnames : st.finish.bundleNames with _ | ⟨n, names⟩
  · exact .inl rfl
  · right
    have hn : n ∈ st.finish.bundleNames := by
      rw [hnames]
      exact List.mem_cons_self
    obtain ⟨g, hg, -⟩ := List.mem_flatMap.mp hn
    have hmem := (List.mem_filter.mp hg).1
    rw [hgroups] at hmem
    obtain ⟨line, hline, hgroup⟩ := List.mem_filterMap.mp hmem
    rw [groupOf] at hgroup
    split_ifs at hgroup with hfound
    rcases hsilent line hline with hnot | ⟨name, hname, halien⟩
    · cases hfound.symm.trans hnot
    · rw [← hnames]
      exact ⟨name, List.mem_flatMap.mpr ⟨g, hg, bundleOf_eq_some hgroup hname⟩, halien⟩

/-! ## The lines of an offer

Which lines of an offer can have the keyword at all is a question of their constants, line by line.
What remains are the candidates and the tracks, whose strings are anybody's. -/

theorem silentLine_of_not_media (h : line.contains (lit "m=") = false) : SilentLine line :=
  .inl (SdpParser.not_bundle_of_not_media h)

theorem alienLine_of_split {a b : ByteString} (h : ∃ name ∈ split space b, AlienName name) :
    AlienLine (a ++ space :: b) := by
  obtain ⟨name, hname, halien⟩ := h
  refine ⟨name, ?_, halien⟩
  rw [split, List.splitOn_append_cons_self, List.tail_append_of_ne_nil (List.splitOn_ne_nil _ _)]
  exact List.mem_append_right _ hname

/-- The type of a candidate is announced by a word of its own. -/
theorem alienLine_candidateLine (c : Candidate) : AlienLine (candidateLine textEnv c) := by
  have hline : ∃ a b, candidateLine textEnv c = a ++ space :: (lit "typ" ++ space :: b) := by
    refine ⟨lit "a=candidate:" ++ (c.foundation ++ lit " " ++ decimal c.component.toNat ++
      lit " " ++ c.protocol ++ lit " " ++ decimal c.priority.toNat ++ lit " " ++
      (if textEnv.ipIsPrivateNetwork c.address.ip then textEnv.serverAddr
        else textEnv.hostAsUriString c.address.ip) ++ lit " " ++ decimal c.port), c.type, ?_⟩
    simp only [candidateLine, candidateValue, List.append_assoc]
    rfl
  obtain ⟨a, b, hline⟩ := hline
  rw [hline]
  refine alienLine_of_split ⟨lit "typ", ?_, by decide⟩
  rw [split, List.splitOn_append_cons_self]
  exact List.mem_append_left _ (by decide)

theorem alienName_of_colon (h : colon ∈ name) : AlienName name := by
  refine ⟨?_, ?_⟩ <;> rintro rfl <;> revert h <;> decide

theorem alienName_decimal (n : ℕ) : AlienName (decimal n) := by
  obtain ⟨b, s, hs⟩ := List.exists_cons_of_ne_nil (decimal_ne_nil n)
  have hb : b ≤ 57 := by
    have hmem : b ∈ decimal n := hs ▸ List.mem_cons_self
    exact (digit_of_mem_decimal hmem).2
  rw [hs]
  refine ⟨fun heq ↦ ?_, fun heq ↦ ?_⟩ <;> rw [(List.cons.inj heq).1] at hb <;> revert hb <;> decide

theorem alienLine_ssrcLine (ssrc : UInt32) {attr value : ByteString} (hattr : space ∉ attr) :
    AlienLine (ssrcLine ssrc attr value) := by
  have hline : ssrcLine ssrc attr value =
      lit "a=ssrc:" ++ decimal ssrc.toNat ++ space :: (attr ++ colon :: value) := by
    simp only [ssrcLine, List.append_assoc]
    rfl
  have hword (v : ByteString) (hv : space ∉ v) : space ∉ attr ++ colon :: v := by
    rw [List.mem_append, List.mem_cons, not_or, not_or]
    exact ⟨hattr, by decide, hv⟩
  rw [hline]
  apply alienLine_of_split
  by_cases hvalue : space ∈ value
  · obtain ⟨v, rest, rfl, hv⟩ := List.eq_append_cons_of_mem hvalue
    refine ⟨attr ++ colon :: v, ?_, alienName_of_colon (by simp)⟩
    rw [← List.cons_append, ← List.append_assoc, split,
      List.splitOn_append_cons_self_of_not_mem (hword v hv)]
    exact List.mem_cons_self
  · refine ⟨attr ++ colon :: value, ?_, alienName_of_colon (by simp)⟩
    rw [split, List.splitOn_eq_singleton (hword value hvalue)]
    exact List.mem_cons_self

theorem alienLine_ssrcGroupLine {group : SsrcGroup} (h : group.ssrcs ≠ []) :
    AlienLine (ssrcGroupLine group) := by
  have hline : ssrcGroupLine group = lit "a=ssrc-group:" ++ group.semantics ++
      (group.ssrcs.dropLast.flatMap fun ssrc ↦ lit " " ++ decimal ssrc.toNat) ++
      space :: decimal (group.ssrcs.getLast h).toNat := by
    have hssrcs := List.dropLast_append_getLast h
    rw [ssrcGroupLine]
    conv_lhs => rw [← hssrcs]
    rw [List.flatMap_append, List.flatMap_singleton, ← List.append_assoc]
    rfl
  rw [hline]
  apply alienLine_of_split
  refine ⟨decimal (group.ssrcs.getLast h).toNat, ?_, alienName_decimal _⟩
  rw [split, List.splitOn_eq_singleton (isToken_decimal _).not_mem.1]
  exact List.mem_cons_self

/-- The strings of a track have no line break. -/
structure PrintableTrack (track : StreamParams) : Prop where
  id : newline ∉ track.id
  streamId : newline ∉ track.streamId
  cname : newline ∉ track.cname
  semantics : ∀ group ∈ track.ssrcGroups, newline ∉ group.semantics

theorem newline_not_mem_decimal (n : ℕ) : newline ∉ decimal n := (isToken_decimal n).not_mem.2.1

theorem silentLine_trackLines {track : StreamParams} (h : PrintableTrack track) :
    ∀ line ∈ trackLines track, SilentLine line ∧ newline ∉ line := by
  have hssrc (ssrc : UInt32) (attr : ByteString) {value : ByteString} (hattr : IsToken attr)
      (hvalue : newline ∉ value) :
      SilentLine (ssrcLine ssrc attr value) ∧ newline ∉ ssrcLine ssrc attr value := by
    refine ⟨.inr (alienLine_ssrcLine ssrc hattr.not_mem.1), ?_⟩
    simp only [ssrcLine, List.mem_append, not_or]
    exact ⟨⟨⟨⟨⟨by decide, newline_not_mem_decimal _⟩, by decide⟩, hattr.not_mem.2.1⟩, by decide⟩,
      hvalue⟩
  intro line hline
  rcases List.mem_append.mp hline with hline | hline
  · obtain ⟨group, hgroup, rfl⟩ := List.mem_map.mp hline
    obtain ⟨hgroup, hssrcs⟩ := List.mem_filter.mp hgroup
    refine ⟨.inr (alienLine_ssrcGroupLine (of_decide_eq_true hssrcs)), ?_⟩
    rw [ssrcGroupLine, List.mem_append, List.mem_append, not_or, not_or]
    refine ⟨⟨by decide, h.semantics group hgroup⟩, fun hmem ↦ ?_⟩
    obtain ⟨ssrc, -, hmem⟩ := List.mem_flatMap.mp hmem
    rcases List.mem_append.mp hmem with hmem | hmem
    · exact absurd hmem (by decide)
    · exact newline_not_mem_decimal _ hmem
  · obtain ⟨ssrc, -, hline⟩ := List.mem_flatMap.mp hline
    have hmsid : newline ∉ track.streamId ++ lit " " ++ track.id := by
      rw [List.mem_append, List.mem_append, not_or, not_or]
      exact ⟨⟨h.streamId, by decide⟩, h.id⟩
    simp only [ssrcLines, List.mem_cons, List.not_mem_nil, or_false] at hline
    rcases hline with rfl | rfl | rfl | rfl
    · exact hssrc ssrc _ (by decide) h.cname
    · exact hssrc ssrc _ (by decide) hmsid
    · exact hssrc ssrc _ (by decide) h.streamId
    · exact hssrc ssrc _ (by decide) h.id

namespace PeerConnection

variable {pc : PeerConnection} {options : RTCOfferAnswerOptions} {iceParam : IceParameters}

/-- What an offer is made of, whatever the parser makes of it: credentials over the ICE character
set, the text of a fingerprint, and candidates and tracks without line breaks. -/
structure PrintableOffer (textEnv : SdpTextEnv) (attributes : MediaType → ContentAttributes)
    (pc : PeerConnection) (iceParam : IceParameters) : Prop where
  candidates : ∀ type, ∀ c ∈ (attributes type).candidates, newline ∉ candidateValue textEnv c
  iceUfrag : IsIceString iceParam.iceUfrag
  icePwd : IsIceString iceParam.icePwd
  fingerprint : ∀ fp, pc.certificate.bind (·.fingerprint) = some fp →
    IsPlain fp.algorithm ∧ IsPlain (textEnv.rfc4572Fingerprint fp)
  tracks : ∀ track ∈ pc.audioSource ++ pc.videoSource, PrintableTrack track

theorem mem_source_of_mem_contents
    (h : content ∈ (pc.offerDescription options iceParam).contents) {track : StreamParams}
    (ht : track ∈ content.sendStreams) : track ∈ pc.audioSource ++ pc.videoSource := by
  rw [contents_offerDescription] at h
  rcases List.mem_append.mp h with h | h
  · split_ifs at h
    · rw [List.mem_singleton.mp h] at ht
      exact List.mem_append_left _ ht
    · rw [List.mem_singleton.mp h] at ht
      cases ht
    · cases h
  · split_ifs at h
    · rw [List.mem_singleton.mp h] at ht
      exact List.mem_append_right _ ht
    · rw [List.mem_singleton.mp h] at ht
      cases ht
    · cases h

theorem PrintableOffer.silentLine (h : PrintableOffer textEnv attributes pc iceParam) :
    ∀ line ∈ (pc.offerDescription options iceParam).lines textEnv attributes,
      SilentLine line ∧ newline ∉ line := by
  have hplain {line : ByteString} (hline : line.contains (lit "m=") = false ∧ newline ∉ line) :
      SilentLine line ∧ newline ∉ line := ⟨silentLine_of_not_media hline.1, hline.2⟩
  intro line hline
  rcases List.mem_append.mp hline with hline | hline
  · exact hplain (SessionDescription.headerLines_of_bundleLines
      (pc.bundleLines_offerDescription options iceParam) line hline)
  · obtain ⟨content, hcontent, hline⟩ := List.mem_flatMap.mp hline
    rw [ReadableContent.contentLines_eq] at hline
    rcases List.mem_cons.mp hline with rfl | hline
    · cases content.type <;> exact ⟨.inl (by decide +kernel), by decide +kernel⟩
    · rcases ReadableContent.rest_cases hline with hfixed | ⟨c, hc, rfl⟩ | ⟨td, htd, hline⟩ |
        ⟨track, ht, hline⟩
      · exact hplain hfixed
      · refine ⟨.inr (alienLine_candidateLine c), ?_⟩
        rw [candidateLine, List.mem_append, not_or]
        exact ⟨by decide, h.candidates _ c hc⟩
      · obtain ⟨hufrag, hpwd, hfp⟩ :=
          transportInfos_offerDescription (List.mem_of_find?_eq_some htd)
        have hattr := isAttributeLine_transportLines (hufrag ▸ h.iceUfrag) (hpwd ▸ h.icePwd)
          (fun fp heq ↦ h.fingerprint fp (hfp ▸ heq)) line hline
        exact hplain ⟨hattr.not_media, hattr.newline_not_mem⟩
      · exact silentLine_trackLines (h.tracks track (mem_source_of_mem_contents hcontent ht)) line
          hline

/-! ## What comes back -/

/-- The sections of an offer and their transports come back, and no group does. -/
theorem exists_read_offer (h : ReadableOffer env textEnv attributes pc options iceParam) :
    ∃ read, parseRemoteSdp env
        ((pc.offerDescription options iceParam).text textEnv attributes) = .accepted read ∧
      read.contentGroups = [] ∧
      read.contents.map (·.mid) = (pc.offerDescription options iceParam).contents.map (·.mid) ∧
      ∀ content ∈ (pc.offerDescription options iceParam).contents, ∀ td,
        (pc.offerDescription options iceParam).getTransportInfo content.mid = some td →
          ∃ td', read.getTransportInfo content.mid = some td' ∧ td'.iceUfrag = td.iceUfrag ∧
            td'.icePwd = td.icePwd ∧ td'.identifyFingerprint = td.identifyFingerprint := by
  obtain ⟨st, hrun, hparse, hread⟩ := SessionDescription.parseRemoteSdp_text
    (pc.bundleLines_offerDescription options iceParam)
    (pc.nodup_types_offerDescription options iceParam) h.readableContent
  have hmids : st.finish.contents.map (·.mid) = st.contents.map (·.mid) := by
    have hcontents : st.finish.contents =
        st.contents.map fun type ↦ { type, sendStreams := st.streams type } := rfl
    rw [hcontents, List.map_map]
    rfl
  refine ⟨st.finish, hparse, hread.contentGroups, ?_, fun content hcontent td htd ↦ ?_⟩
  · rw [hmids, hread.contents, List.map_map]
    rfl
  · have htype : content.type ∈ st.contents := by
      rw [hread.contents]
      exact List.mem_map.mpr ⟨content, hcontent, rfl⟩
    have hinfo : st.finish.getTransportInfo content.mid = some (st.td content.type) :=
      SdpParser.getTransportInfo_finish (SdpParser.reads_nil.parseLines hrun) htype
    have hsection : st.td content.type = (st.sectionState content.type).td := by
      cases content.type <;> rfl
    refine ⟨st.td content.type, hinfo, ?_⟩
    rw [hsection, hread.td content hcontent, SessionDescription.readTransport, htd]
    exact ⟨rfl, rfl, Option.or_none⟩

theorem bundleNames_offerDescription (hmux : options.useRtpMux = true) :
    (pc.offerDescription options iceParam).bundleNames =
      (if options.recvAudio || options.sendAudio then [lit "audio"] else []) ++
        if options.recvVideo || options.sendVideo then [lit "video"] else [] := by
  rw [SessionDescription.bundleNames, SessionDescription.getGroupByName,
    (pc.offerDescription_eq options hmux iceParam).2]
  rcases options.recvAudio || options.sendAudio <;>
    rcases options.recvVideo || options.sendVideo <;> decide

/-- **The bundle of an offer does not come back.** -/
theorem not_recovers_offer (h : PrintableOffer textEnv attributes pc iceParam)
    (hmux : options.useRtpMux = true)
    (hchoice : (options.recvAudio || options.sendAudio || options.recvVideo ||
      options.sendVideo) = true) :
    ¬∃ read, parseRemoteSdp env
        ((pc.offerDescription options iceParam).text textEnv attributes) = .accepted read ∧
      (pc.offerDescription options iceParam).Recovers read := by
  rintro ⟨read, hparse, hrecovers⟩
  have hlines : sdpLines ((pc.offerDescription options iceParam).text textEnv attributes) =
      (pc.offerDescription options iceParam).lines textEnv attributes :=
    sdpLines_lines (List.cons_ne_nil _ _) fun line hline ↦ (h.silentLine line hline).2
  have hnames := hrecovers.bundleNames.trans (bundleNames_offerDescription hmux)
  rcases bundleNames_of_silent hparse (fun line hline ↦ (h.silentLine line (hlines ▸ hline)).1)
    with hnil | ⟨name, hname, halien⟩
  · rw [hnil] at hnames
    revert hnames hchoice
    rw [Bool.or_assoc]
    rcases options.recvAudio || options.sendAudio <;>
      rcases options.recvVideo || options.sendVideo <;> decide
  · rw [hnames] at hname
    obtain ⟨haudio, hvideo⟩ := halien
    rcases List.mem_append.mp hname with hname | hname
    · split_ifs at hname
      · exact haudio (List.mem_singleton.mp hname)
      · cases hname
    · split_ifs at hname
      · exact hvideo (List.mem_singleton.mp hname)
      · cases hname

theorem not_recovers_offer_video :
    ¬∃ read, parseRemoteSdp exampleEnv
        ((exampleSource.offerDescription { recvAudio := false, sendAudio := false }
          exampleIceParam).text exampleTextEnv exampleAttributes) = .accepted read ∧
      (exampleSource.offerDescription { recvAudio := false, sendAudio := false }
        exampleIceParam).Recovers read := by
  have hoffer : PrintableOffer exampleTextEnv exampleAttributes exampleSource exampleIceParam := {
    candidates := by
      intro type c hc
      rw [List.mem_singleton.mp hc]
      decide
    iceUfrag := by decide
    icePwd := by decide
    fingerprint := by
      intro fp hfp
      rw [← Option.some.inj hfp]
      decide
    tracks := by
      have hstrings : ∀ track ∈ exampleSource.audioSource ++ exampleSource.videoSource,
          newline ∉ track.id ∧ newline ∉ track.streamId ∧ newline ∉ track.cname ∧
            ∀ group ∈ track.ssrcGroups, newline ∉ group.semantics := by decide
      intro track ht
      obtain ⟨hid, hstream, hcname, hsemantics⟩ := hstrings track ht
      exact ⟨hid, hstream, hcname, hsemantics⟩ }
  exact not_recovers_offer hoffer rfl rfl

/-- The offer of the example: it bundles both sections, and what comes back bundles none. -/
theorem not_recovers_offer_example :
    ¬∃ read, parseRemoteSdp exampleEnv
        ((exampleSource.offerDescription {} exampleIceParam).text exampleTextEnv
          exampleAttributes) = .accepted read ∧
      (exampleSource.offerDescription {} exampleIceParam).Recovers read := by
  rintro ⟨read, hparse, hrecovers⟩
  obtain ⟨read', hparse', hgroups, -⟩ := exists_read_offer readableOffer_example
  obtain rfl := SdpOutcome.accepted.inj (hparse.symm.trans hparse')
  have hnames := hrecovers.bundleNames
  rw [SessionDescription.bundleNames, SessionDescription.getGroupByName, hgroups] at hnames
  revert hnames
  decide

end PeerConnection

end XrtcServer
