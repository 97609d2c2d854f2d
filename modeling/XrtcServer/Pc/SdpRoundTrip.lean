import XrtcServer.Pc.SdpSection

/-!
# The text of an offer, read back

An offer is written in one piece and read in three: the loop collects the sources of a section, the
tracks are rebuilt from the sources, and the groups are handed to the tracks by their first source.

## What keeps the tracks apart

The sources of a track stand together, so the tracks come back in their order; the ids and the
sources are distinct, so nothing is merged or handed to the wrong track. These are the conditions of
`WellFormedTracks`: with two tracks of one id the second would be merged into the first, and a group
whose first source belongs to two tracks would be handed to both.

## What keeps the lines apart

`ReadableContent` is about the strings. None of them may have a byte that ends a line or that makes
a keyword, which `Pc/SdpSection.lean` explains, and the credentials and the fingerprint must be such
that the functions of the library read what they wrote.
-/

namespace XrtcServer

open ByteString

/-! ## From the sources to the tracks -/

section Tracks

variable {acc tracks : List StreamParams} {track t : StreamParams} {st : SdpParser}

/-- A track as its sources describe it. -/
def StreamParams.bare (track : StreamParams) : StreamParams := { track with ssrcGroups := [] }

theorem map_other_tracks {info : SsrcInfo} (h : info.trackId ∉ acc.map (·.id))
    (f : StreamParams → StreamParams) :
    acc.map (fun u ↦ if u.id = info.trackId then f u else u) = acc := by
  refine (List.map_congr_left fun u hu ↦ ?_).trans (List.map_id' acc)
  exact if_neg fun heq ↦ h (List.mem_map.mpr ⟨u, hu, heq⟩)

theorem addSsrcToTracks_new {info : SsrcInfo} (h : info.trackId ∉ acc.map (·.id)) :
    addSsrcToTracks acc info = acc ++ [{
      id := info.trackId, streamId := info.streamId, cname := info.cname,
      ssrcs := [info.ssrcId] }] := by
  have hany : ¬acc.any (·.id == info.trackId) = true := by
    rw [List.any_eq_true]
    rintro ⟨u, hu, heq⟩
    exact h (List.mem_map.mpr ⟨u, hu, beq_iff_eq.mp heq⟩)
  rw [addSsrcToTracks, if_neg hany, List.map_append, map_other_tracks h, List.map_singleton,
    if_pos rfl]
  rfl

theorem addSsrcToTracks_last {info : SsrcInfo} (h : info.trackId ∉ acc.map (·.id))
    (ht : t.id = info.trackId) :
    addSsrcToTracks (acc ++ [t]) info = acc ++ [{ t with
      streamId := info.streamId, cname := info.cname, ssrcs := t.ssrcs ++ [info.ssrcId] }] := by
  have hany : (acc ++ [t]).any (·.id == info.trackId) = true := by simp [ht]
  rw [addSsrcToTracks, if_pos hany, List.map_append, map_other_tracks h, List.map_singleton,
    if_pos ht]

theorem foldl_addSsrcToTracks_last (h : track.id ∉ acc.map (·.id)) (before ssrcs : List UInt32) :
    (ssrcs.map (infoOf track)).foldl addSsrcToTracks
        (acc ++ [{ track.bare with ssrcs := before }]) =
      acc ++ [{ track.bare with ssrcs := before ++ ssrcs }] := by
  induction ssrcs generalizing before with
  | nil =>
    rw [List.append_nil]
    rfl
  | cons ssrc ssrcs ih =>
    have hstep : addSsrcToTracks (acc ++ [{ track.bare with ssrcs := before }])
        (infoOf track ssrc) = acc ++ [{ track.bare with ssrcs := before ++ [ssrc] }] :=
      addSsrcToTracks_last h rfl
    rw [List.map_cons, List.foldl_cons, hstep, ih, List.append_assoc]
    rfl

theorem foldl_addSsrcToTracks (h : track.id ∉ acc.map (·.id)) (hne : track.ssrcs ≠ []) :
    (track.ssrcs.map (infoOf track)).foldl addSsrcToTracks acc = acc ++ [track.bare] := by
  rcases hssrcs : track.ssrcs with _ | ⟨ssrc, ssrcs⟩
  · exact absurd hssrcs hne
  · have hstep : addSsrcToTracks acc (infoOf track ssrc) =
        acc ++ [{ track.bare with ssrcs := [ssrc] }] := by
      have hnew : (infoOf track ssrc).trackId ∉ acc.map (·.id) := h
      exact addSsrcToTracks_new hnew
    have hbare : { track.bare with ssrcs := [ssrc] ++ ssrcs } = track.bare := by
      rw [StreamParams.bare, hssrcs]
      rfl
    rw [List.map_cons, List.foldl_cons, hstep, foldl_addSsrcToTracks_last h, hbare]

theorem createTrackFromSsrcInfo_trackInfos (hids : (tracks.map (·.id)).Nodup)
    (hne : ∀ track ∈ tracks, track.ssrcs ≠ []) :
    createTrackFromSsrcInfo (trackInfos tracks) = tracks.map (·.bare) := by
  have hrun (acc : List StreamParams) (hnew : (acc.map (·.id) ++ tracks.map (·.id)).Nodup) :
      (trackInfos tracks).foldl addSsrcToTracks acc = acc ++ tracks.map (·.bare) := by
    clear hids
    induction tracks generalizing acc with
    | nil => exact (List.append_nil _).symm
    | cons track tracks ih =>
      have hfirst : track.id ∉ acc.map (·.id) := fun hmem ↦
        (List.nodup_append.mp hnew).2.2 _ hmem _ List.mem_cons_self rfl
      have hrest : ((acc ++ [track.bare]).map (·.id) ++ tracks.map (·.id)).Nodup := by
        rw [List.map_append, List.append_assoc]
        exact hnew
      have hcons : trackInfos (track :: tracks) =
          track.ssrcs.map (infoOf track) ++ trackInfos tracks := rfl
      rw [hcons, List.foldl_append, foldl_addSsrcToTracks hfirst (hne track List.mem_cons_self),
        ih (fun u hu ↦ hne u (List.mem_cons_of_mem _ hu)) _ hrest, List.append_assoc]
      rfl
  exact hrun [] hids

theorem StreamParams.hasSsrc_iff {ssrc : UInt32} :
    track.hasSsrc ssrc = true ↔ ssrc ∈ track.ssrcs := by
  rw [hasSsrc, List.any_beq', List.contains_iff_mem]

/-- The test by which a track gets its groups. -/
def StreamParams.selects (track : StreamParams) (group : SsrcGroup) : Bool :=
  match group.ssrcs with
  | [] => false
  | ssrc :: _ => track.hasSsrc ssrc

theorem selects_iff {group : SsrcGroup} {ssrc : UInt32} (h : group.ssrcs.head? = some ssrc) :
    track.selects group = true ↔ ssrc ∈ track.ssrcs := by
  obtain ⟨rest, hrest⟩ := List.head?_eq_some_iff.mp h
  rw [StreamParams.selects, hrest]
  exact StreamParams.hasSsrc_iff

theorem groupsOfTrack_eq (hssrcs : (tracks.flatMap (·.ssrcs)).Nodup)
    (hgroups : ∀ track ∈ tracks, ∀ group ∈ track.ssrcGroups,
      ∃ ssrc ∈ track.ssrcs, group.ssrcs.head? = some ssrc)
    (hst : st.videoSsrcGroups = tracks.flatMap (·.ssrcGroups)) (ht : track ∈ tracks) :
    st.groupsOfTrack track.bare = track.ssrcGroups := by
  have hdrop (us : List StreamParams) (hus : ∀ u ∈ us, u ∈ tracks)
      (hdisjoint : ∀ a ∈ us.flatMap (·.ssrcs), a ∉ track.ssrcs) :
      (us.flatMap (·.ssrcGroups)).filter track.bare.selects = [] := by
    refine List.filter_eq_nil_iff.mpr fun group hgroup hsel ↦ ?_
    obtain ⟨u, hu, hgroup⟩ := List.mem_flatMap.mp hgroup
    obtain ⟨ssrc, hssrc, hhead⟩ := hgroups u (hus u hu) group hgroup
    exact hdisjoint ssrc (List.mem_flatMap.mpr ⟨u, hu, hssrc⟩) ((selects_iff hhead).mp hsel)
  have hkeep : track.ssrcGroups.filter track.bare.selects = track.ssrcGroups := by
    refine List.filter_eq_self.mpr fun group hgroup ↦ ?_
    obtain ⟨ssrc, hssrc, hhead⟩ := hgroups track ht group hgroup
    exact (selects_iff hhead).mpr hssrc
  obtain ⟨before, after, htracks⟩ := List.append_of_mem ht
  rw [htracks, List.flatMap_append, List.flatMap_cons] at hssrcs
  obtain ⟨-, hrest, hbefore⟩ := List.nodup_append.mp hssrcs
  obtain ⟨-, -, hafter⟩ := List.nodup_append.mp hrest
  have hb := hdrop before (fun u hu ↦ by rw [htracks]; exact List.mem_append_left _ hu)
    fun a ha hmem ↦ hbefore a ha a (List.mem_append_left _ hmem) rfl
  have ha := hdrop after
    (fun u hu ↦ by rw [htracks]; exact List.mem_append_right _ (List.mem_cons_of_mem _ hu))
    fun a ha hmem ↦ hafter a hmem a ha rfl
  calc st.groupsOfTrack track.bare =
        (tracks.flatMap (·.ssrcGroups)).filter track.bare.selects := by
        rw [SdpParser.groupsOfTrack, hst]
        rfl
    _ = track.ssrcGroups := by
        rw [htracks, List.flatMap_append, List.flatMap_cons, List.filter_append,
          List.filter_append, hb, ha, hkeep, List.nil_append, List.append_nil]

end Tracks

/-! ## A section of the text

First what is assumed of the strings, in one structure for each part of a section; then, part by
part, what the parser takes from its lines. Lines from which it takes nothing only have to be free
of keywords. -/

/-- Lists of tracks that the text keeps apart. -/
structure WellFormedTracks (tracks : List StreamParams) : Prop where
  ids : (tracks.map (·.id)).Nodup
  ssrcs_ne_nil : ∀ track ∈ tracks, track.ssrcs ≠ []
  ssrcs : (tracks.flatMap (·.ssrcs)).Nodup
  groups : ∀ track ∈ tracks, ∀ group ∈ track.ssrcGroups,
    ∃ ssrc ∈ track.ssrcs, group.ssrcs.head? = some ssrc
  tokens : ∀ track ∈ tracks, TrackTokens track

/-- A byte of an ICE user name or password. -/
def IsIceChar (b : UInt8) : Prop :=
  48 ≤ b ∧ b ≤ 57 ∨ 65 ≤ b ∧ b ≤ 90 ∨ 97 ≤ b ∧ b ≤ 122 ∨ b = 43 ∨ b = 47

/-- An ICE user name or password. -/
def IsIceString (s : ByteString) : Prop := s ≠ [] ∧ ∀ b ∈ s, IsIceChar b

instance (b : UInt8) : Decidable (IsIceChar b) := inferInstanceAs (Decidable (_ ∨ _))

instance (s : ByteString) : Decidable (IsIceString s) :=
  @instDecidableAnd (s ≠ []) _ inferInstance (List.decidableBAll IsIceChar s)

/-- A byte that the writer may put into a line. -/
def IsPlainByte (b : UInt8) : Prop := b ≠ newline ∧ b ≠ equalsSign

def IsPlain (s : ByteString) : Prop := ∀ b ∈ s, IsPlainByte b

/-- A fingerprint whose text is two words from which `CreateUniqueFromRfc4572` makes it again. -/
structure ReadableFingerprint (env : SdpEnv) (textEnv : SdpTextEnv) (fp : SSLFingerprint) :
    Prop where
  plain : IsPlain fp.algorithm ∧ IsPlain (textEnv.rfc4572Fingerprint fp)
  words : space ∉ fp.algorithm ∧ space ∉ textEnv.rfc4572Fingerprint fp
  ne_nil : textEnv.rfc4572Fingerprint fp ≠ []
  create : env.createUniqueFromRfc4572 (fp.algorithm.map toLower) (textEnv.rfc4572Fingerprint fp) =
    some fp

/-- What the writer is given for a transport. -/
structure ReadableTransport (env : SdpEnv) (textEnv : SdpTextEnv) (td : TransportDescription) :
    Prop where
  iceUfrag : IsIceString td.iceUfrag
  icePwd : IsIceString td.icePwd
  fingerprint : ∀ fp, td.identifyFingerprint = some fp → ReadableFingerprint env textEnv fp

/-- The strings of a candidate. -/
structure PlainCandidate (textEnv : SdpTextEnv) (c : Candidate) : Prop where
  foundation : IsPlain c.foundation
  protocol : IsPlain c.protocol
  address : IsPlain (if textEnv.ipIsPrivateNetwork c.address.ip then textEnv.serverAddr
    else textEnv.hostAsUriString c.address.ip)
  type : IsPlain c.type

theorem IsPlain.append {s t : ByteString} (hs : IsPlain s) (ht : IsPlain t) : IsPlain (s ++ t) :=
  fun b hb ↦ (List.mem_append.mp hb).elim (hs b) (ht b)

theorem IsPlain.not_mem {s : ByteString} (h : IsPlain s) : newline ∉ s ∧ equalsSign ∉ s :=
  ⟨fun hb ↦ (h _ hb).1 rfl, fun hb ↦ (h _ hb).2 rfl⟩

theorem IsToken.isPlain {s : ByteString} (h : IsToken s) : IsPlain s :=
  fun b hb ↦ ⟨(h b hb).2.2.1, (h b hb).2.2.2.2⟩

theorem IsIceString.not_mem {s : ByteString} (h : IsIceString s) :
    newline ∉ s ∧ colon ∉ s ∧ equalsSign ∉ s :=
  ⟨fun hb ↦ absurd (h.2 _ hb) (by unfold IsIceChar; decide),
    fun hb ↦ absurd (h.2 _ hb) (by unfold IsIceChar; decide),
    fun hb ↦ absurd (h.2 _ hb) (by unfold IsIceChar; decide)⟩

instance (b : UInt8) : Decidable (IsPlainByte b) := inferInstanceAs (Decidable (_ ∧ _))

instance (s : ByteString) : Decidable (IsPlain s) :=
  List.decidableBAll IsPlainByte s

section Contents

variable {env : SdpEnv} {textEnv : SdpTextEnv} {attributes : MediaType → ContentAttributes}
  {desc : SessionDescription} {content : MediaContentDescription} {type : MediaType}
  {x : SectionState} {td : TransportDescription}

/-- What the parser takes from the lines of a transport. -/
def TransportDescription.read (td written : TransportDescription) : TransportDescription :=
  { td with
    iceUfrag := written.iceUfrag
    icePwd := written.icePwd
    identifyFingerprint := written.identifyFingerprint.or td.identifyFingerprint }

theorem takes_transportLines (h : ReadableTransport env textEnv td) :
    Takes env type x (SessionDescription.transportLines textEnv td)
      { x with td := x.td.read td } := by
  have hufrag : takeLine env type x (lit "a=ice-ufrag:" ++ td.iceUfrag) =
      .ok { x with td := { x.td with iceUfrag := td.iceUfrag } } :=
    takeLine_iceUfrag h.iceUfrag.not_mem.2.2 h.iceUfrag.not_mem.2.1 h.iceUfrag.1
  have hpwd : takeLine env type { x with td := { x.td with iceUfrag := td.iceUfrag } }
      (lit "a=ice-pwd:" ++ td.icePwd) =
      .ok { x with td := { x.td with iceUfrag := td.iceUfrag, icePwd := td.icePwd } } :=
    takeLine_icePwd h.icePwd.not_mem.2.2 h.icePwd.not_mem.2.1 h.icePwd.1
  rw [SessionDescription.transportLines]
  refine Takes.cons hufrag (Takes.cons hpwd ?_)
  rcases hfp : td.identifyFingerprint with _ | fp
  · rw [TransportDescription.read, hfp, Option.none_or]
    exact .nil
  · have hreadable := h.fingerprint fp hfp
    obtain ⟨halg, hdigest⟩ := hreadable.plain
    obtain ⟨hspace, hspace'⟩ := hreadable.words
    have hmem : equalsSign ∉ fp.algorithm ++ lit " " ++ textEnv.rfc4572Fingerprint fp :=
      ((halg.append (by decide)).append hdigest).not_mem.2
    have hsetup : Inert (lit "a=setup:" ++ connectionRoleToString td.connectionRole) := by
      cases td.connectionRole <;> decide +kernel
    rw [TransportDescription.read, hfp, Option.some_or]
    exact .cons (takeLine_fingerprint hmem hspace hspace' hreadable.ne_nil hreadable.create)
      (.cons (takeLine_inert hsetup) .nil)

theorem isPlain_decimal (n : ℕ) : IsPlain (decimal n) := (isToken_decimal n).isPlain

theorem isPlain_candidateValue {c : Candidate} (h : PlainCandidate textEnv c) :
    IsPlain (candidateValue textEnv c) := by
  have hspace : IsPlain (lit " ") := by decide
  have hhead := (((h.foundation.append hspace).append (isPlain_decimal c.component.toNat)).append
    hspace).append h.protocol
  have hmiddle := (((hhead.append hspace).append (isPlain_decimal c.priority.toNat)).append
    hspace).append h.address
  exact (((hmiddle.append hspace).append (isPlain_decimal c.port)).append (by decide)).append h.type

theorem inert_candidateLine {c : Candidate} (h : PlainCandidate textEnv c) :
    Inert (candidateLine textEnv c) := by
  have hplain : IsPlain (lit "candidate:" ++ candidateValue textEnv c) :=
    IsPlain.append (by decide) (isPlain_candidateValue h)
  exact inert_attribute hplain.not_mem.2 (by decide) (by decide) (by decide) (by decide)
    (by decide)

theorem inert_rtpMapLines : ∀ line ∈ rtpMapLines type, Inert line := by
  cases type <;> decide +kernel

theorem inert_rtpDirectionLine (direction : RtpDirection) : Inert (rtpDirectionLine direction) := by
  cases direction <;> decide +kernel

/-- A line of the form `a=..` without a line feed or another equals sign. -/
def IsAttributeLine (line : ByteString) : Prop := ∃ rest, line = lit "a=" ++ rest ∧ IsPlain rest

theorem IsAttributeLine.newline_not_mem {line : ByteString} (h : IsAttributeLine line) :
    newline ∉ line := by
  obtain ⟨rest, rfl, hrest⟩ := h
  rw [List.mem_append, not_or]
  exact ⟨by decide, hrest.not_mem.1⟩

theorem IsAttributeLine.not_media {line : ByteString} (h : IsAttributeLine line) :
    line.contains (lit "m=") = false := by
  obtain ⟨rest, rfl, hrest⟩ := h
  have hmem : equalsSign ∉ [] ++ rest := hrest.not_mem.2
  exact contains_media hmem

theorem isAttributeLine_candidateLine {c : Candidate} (h : PlainCandidate textEnv c) :
    IsAttributeLine (candidateLine textEnv c) :=
  ⟨lit "candidate:" ++ candidateValue textEnv c, rfl,
    IsPlain.append (by decide) (isPlain_candidateValue h)⟩

theorem IsIceString.isPlain {s : ByteString} (h : IsIceString s) : IsPlain s := by
  refine fun b hb ↦ ⟨?_, ?_⟩
  · rintro rfl
    exact h.not_mem.1 hb
  · rintro rfl
    exact h.not_mem.2.2 hb

theorem isAttributeLine_transportLines (hufrag : IsIceString td.iceUfrag)
    (hpwd : IsIceString td.icePwd) (hfp : ∀ fp, td.identifyFingerprint = some fp →
      IsPlain fp.algorithm ∧ IsPlain (textEnv.rfc4572Fingerprint fp)) :
    ∀ line ∈ SessionDescription.transportLines textEnv td, IsAttributeLine line := by
  intro line hline
  rcases List.mem_append.mp hline with hline | hline
  · rcases List.mem_pair.mp hline with rfl | rfl
    · exact ⟨lit "ice-ufrag:" ++ td.iceUfrag, rfl,
        IsPlain.append (by decide) hufrag.isPlain⟩
    · exact ⟨lit "ice-pwd:" ++ td.icePwd, rfl,
        IsPlain.append (by decide) hpwd.isPlain⟩
  · rcases htd : td.identifyFingerprint with _ | fp
    · rw [htd] at hline
      cases hline
    · rw [htd] at hline
      obtain ⟨halg, hdigest⟩ := hfp fp htd
      rcases List.mem_pair.mp hline with rfl | rfl
      · refine ⟨lit "fingerprint:" ++ fp.algorithm ++ lit " " ++ textEnv.rfc4572Fingerprint fp,
          ?_, ?_⟩
        · simp only [List.append_assoc]
          rfl
        · exact (((show IsPlain (lit "fingerprint:") by decide).append halg).append
            (by decide)).append hdigest
      · refine ⟨lit "setup:" ++ connectionRoleToString td.connectionRole, rfl, ?_⟩
        cases td.connectionRole <;> decide

theorem isAttributeLine_ssrcLine (ssrc : UInt32) {attr value : ByteString} (hattr : IsPlain attr)
    (hvalue : IsPlain value) : IsAttributeLine (ssrcLine ssrc attr value) := by
  refine ⟨lit "ssrc:" ++ decimal ssrc.toNat ++ lit " " ++ attr ++ lit ":" ++ value, ?_, ?_⟩
  · simp only [ssrcLine, List.append_assoc]
    rfl
  · exact (((((show IsPlain (lit "ssrc:") by decide).append (isPlain_decimal _)).append
      (by decide)).append hattr).append (by decide)).append hvalue

theorem isAttributeLine_ssrcGroupLine {group : SsrcGroup} (h : IsPlain group.semantics) :
    IsAttributeLine (ssrcGroupLine group) := by
  refine ⟨lit "ssrc-group:" ++ group.semantics ++
    group.ssrcs.flatMap fun ssrc ↦ lit " " ++ decimal ssrc.toNat, ?_, ?_⟩
  · simp only [ssrcGroupLine, List.append_assoc]
    rfl
  · refine ((show IsPlain (lit "ssrc-group:") by decide).append h).append fun b hb ↦ ?_
    obtain ⟨ssrc, -, hb⟩ := List.mem_flatMap.mp hb
    exact (show IsPlain (lit " ") by decide).append (isPlain_decimal _) b hb

theorem isAttributeLine_trackLines {track : StreamParams} (h : TrackTokens track) :
    ∀ line ∈ trackLines track, IsAttributeLine line := by
  intro line hline
  rcases List.mem_append.mp hline with hline | hline
  · obtain ⟨group, hgroup, rfl⟩ := List.mem_map.mp hline
    exact isAttributeLine_ssrcGroupLine
      (h.semantics group (List.mem_filter.mp hgroup).1).1.isPlain
  · obtain ⟨ssrc, -, hline⟩ := List.mem_flatMap.mp hline
    have hmsid : IsPlain (track.streamId ++ lit " " ++ track.id) :=
      (h.streamId.isPlain.append (by decide)).append h.id.isPlain
    simp only [ssrcLines, List.mem_cons, List.not_mem_nil, or_false] at hline
    rcases hline with rfl | rfl | rfl | rfl
    · exact isAttributeLine_ssrcLine ssrc (by decide) h.cname.isPlain
    · exact isAttributeLine_ssrcLine ssrc (by decide) hmsid
    · exact isAttributeLine_ssrcLine ssrc (by decide) h.streamId.isPlain
    · exact isAttributeLine_ssrcLine ssrc (by decide) h.id.isPlain

/-- What the writer is given for a section. -/
structure ReadableContent (env : SdpEnv) (textEnv : SdpTextEnv)
    (attributes : MediaType → ContentAttributes) (desc : SessionDescription)
    (content : MediaContentDescription) : Prop where
  number : ∀ n : UInt32, env.fromString (decimal n.toNat) = some n
  candidates : ∀ c ∈ (attributes content.type).candidates, PlainCandidate textEnv c
  transport : ∀ td, desc.getTransportInfo content.mid = some td → ReadableTransport env textEnv td
  tracks : WellFormedTracks content.sendStreams

namespace ReadableContent

/-- The lines of a section after the first. -/
def rest (textEnv : SdpTextEnv) (attributes : MediaType → ContentAttributes)
    (desc : SessionDescription) (content : MediaContentDescription) : List ByteString :=
  [lit "c=IN IP4 0.0.0.0", lit "a=rtcp:9 IN IP4 0.0.0.0"] ++
    (attributes content.type).candidates.map (candidateLine textEnv) ++
    ((desc.getTransportInfo content.mid).toList.flatMap
      (SessionDescription.transportLines textEnv)) ++
    [lit "a=mid:" ++ content.mid, rtpDirectionLine (attributes content.type).direction] ++
    (if (attributes content.type).rtcpMux then [lit "a=rtcp-mux"] else []) ++
    rtpMapLines content.type ++
    content.sendStreams.flatMap trackLines

theorem contentLines_eq : desc.contentLines textEnv attributes content =
    SessionDescription.mediaLine content.type :: rest textEnv attributes desc content := rfl

/-- The lines of a section: those that are always the same, and those of its candidates, of its
transport and of its tracks. -/
theorem rest_cases {line : ByteString} (hline : line ∈ rest textEnv attributes desc content) :
    (line.contains (lit "m=") = false ∧ newline ∉ line) ∨
      (∃ c ∈ (attributes content.type).candidates, candidateLine textEnv c = line) ∨
      (∃ td, desc.getTransportInfo content.mid = some td ∧
        line ∈ SessionDescription.transportLines textEnv td) ∨
      ∃ track ∈ content.sendStreams, line ∈ trackLines track := by
  simp only [rest, List.mem_append] at hline
  rcases hline with (((((hline | hline) | hline) | hline) | hline) | hline) | hline
  · left
    revert line
    decide +kernel
  · exact .inr (.inl (List.mem_map.mp hline))
  · obtain ⟨td, htd, hline⟩ := List.mem_flatMap.mp hline
    exact .inr (.inr (.inl ⟨td, Option.mem_toList.mp htd, hline⟩))
  · left
    rcases List.mem_pair.mp hline with rfl | rfl
    · rw [MediaContentDescription.mid]
      cases content.type <;> decide +kernel
    · cases (attributes content.type).direction <;> decide +kernel
  · left
    split_ifs at hline
    · rw [List.mem_singleton.mp hline]
      decide +kernel
    · cases hline
  · left
    revert line
    cases content.type <;> decide +kernel
  · exact .inr (.inr (.inr (List.mem_flatMap.mp hline)))

variable (h : ReadableContent env textEnv attributes desc content)
include h

theorem takes_rest (hnew : x.infos = []) :
    Takes env content.type x (rest textEnv attributes desc content)
      { td := (desc.getTransportInfo content.mid).elim x.td x.td.read
        infos := trackInfos content.sendStreams
        groups := x.groups ++
          content.type.keptGroups (content.sendStreams.flatMap (·.ssrcGroups)) } := by
  obtain ⟨td₀, infos, groups⟩ := x
  obtain rfl : infos = [] := hnew
  have hfirst : ∀ line ∈ [lit "c=IN IP4 0.0.0.0", lit "a=rtcp:9 IN IP4 0.0.0.0"], Inert line := by
    decide +kernel
  have hcandidates : ∀ line ∈ (attributes content.type).candidates.map (candidateLine textEnv),
      Inert line := by
    intro line hline
    obtain ⟨c, hc, rfl⟩ := List.mem_map.mp hline
    exact inert_candidateLine (h.candidates c hc)
  have hmid : Inert (lit "a=mid:" ++ content.mid) := by
    rw [MediaContentDescription.mid]
    cases content.type <;> decide +kernel
  have hmux : ∀ line ∈ (if (attributes content.type).rtcpMux then [lit "a=rtcp-mux"] else []),
      Inert line := by
    split_ifs
    · decide +kernel
    · exact nofun
  have htransport : Takes env content.type { td := td₀, groups }
      ((desc.getTransportInfo content.mid).toList.flatMap
        (SessionDescription.transportLines textEnv))
      { td := (desc.getTransportInfo content.mid).elim td₀ td₀.read, groups } := by
    rcases htd : desc.getTransportInfo content.mid with _ | td
    · exact .nil
    · have hlines : Takes env content.type { td := td₀, groups }
          (SessionDescription.transportLines textEnv td) { td := td₀.read td, groups } :=
        takes_transportLines (h.transport td htd)
      rwa [Option.toList_some, List.flatMap_singleton]
  have hgroups : ∀ track ∈ content.sendStreams, ∀ group ∈ track.ssrcGroups, group.ssrcs ≠ [] := by
    intro track ht group hgroup hnil
    obtain ⟨_, -, hhead⟩ := h.tracks.groups track ht group hgroup
    rw [hnil] at hhead
    cases hhead
  have htracks : Takes env content.type
      { td := (desc.getTransportInfo content.mid).elim td₀ td₀.read, groups } _ _ :=
    takes_tracks h.number h.tracks.tokens hgroups h.tracks.ssrcs
  refine Takes.append (Takes.append (Takes.append (Takes.append (Takes.append (Takes.append
    (Takes.inert hfirst) (Takes.inert hcandidates)) htransport) (Takes.inert ?_))
    (Takes.inert hmux)) (Takes.inert inert_rtpMapLines)) htracks
  intro line hline
  rcases List.mem_pair.mp hline with rfl | rfl
  · exact hmid
  · exact inert_rtpDirectionLine _

theorem not_media_rest : ∀ line ∈ rest textEnv attributes desc content,
    line.contains (lit "m=") = false ∧ newline ∉ line := by
  have hattr {line : ByteString} (hline : IsAttributeLine line) :
      line.contains (lit "m=") = false ∧ newline ∉ line :=
    ⟨hline.not_media, hline.newline_not_mem⟩
  intro line hline
  rcases rest_cases hline with hfixed | ⟨c, hc, rfl⟩ | ⟨td, htd, hline⟩ | ⟨track, ht, hline⟩
  · exact hfixed
  · exact hattr (isAttributeLine_candidateLine (h.candidates c hc))
  · have htransport := h.transport td htd
    exact hattr (isAttributeLine_transportLines htransport.iceUfrag htransport.icePwd
      (fun fp hfp ↦ (htransport.fingerprint fp hfp).plain) line hline)
  · exact hattr (isAttributeLine_trackLines (h.tracks.tokens track ht) line hline)

end ReadableContent

end Contents

end XrtcServer
