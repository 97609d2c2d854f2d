import XrtcServer.Pc.OfferRoundTrip

/-!
# The tracks that a text can announce

The parser looks every source up by its number and every track up by its id, so whatever a text
says, the tracks it announces have different ids, at least one source each and no source in common,
and a group is with the track of its first source. If their strings have none of the bytes that the
format uses, the text of an offer with these tracks announces the same tracks again.
-/

namespace XrtcServer

open ByteString

variable {env : SdpEnv} {infos infos' : List SsrcInfo} {line : ByteString}

/-! ## The sources of a text

A source is looked up by its number whenever a line names it, so there is one entry for each. What
the entry says does not matter here. -/

/-- No source is listed twice. -/
def SourcesApart (infos : List SsrcInfo) : Prop := (infos.map (·.ssrcId)).Nodup

theorem SourcesApart.updateSsrc (h : SourcesApart infos) (ssrcId : UInt32)
    {f : SsrcInfo → SsrcInfo} (hf : ∀ info, (f info).ssrcId = info.ssrcId) :
    SourcesApart (updateSsrc infos ssrcId f) := by
  have hids (infos : List SsrcInfo) : (infos.map fun info ↦
      if info.ssrcId = ssrcId then f info else info).map (·.ssrcId) = infos.map (·.ssrcId) := by
    rw [List.map_map]
    refine List.map_congr_left fun info _ ↦ ?_
    rw [Function.comp_apply]
    split_ifs
    · exact hf info
    · rfl
  rw [SourcesApart, XrtcServer.updateSsrc, hids]
  split_ifs with hany
  · exact h
  · rw [List.map_append, List.map_singleton]
    refine List.nodup_append.mpr ⟨h, List.pairwise_singleton _ _, ?_⟩
    rintro a ha b hb rfl
    obtain ⟨info, hinfo, rfl⟩ := List.mem_map.mp ha
    rw [List.mem_singleton] at hb
    exact hany (List.any_eq_true.mpr ⟨info, hinfo, beq_iff_eq.mpr hb⟩)

theorem SourcesApart.parseSsrcInfo (h : SourcesApart infos)
    (hparse : parseSsrcInfo env infos line = .ok infos') : SourcesApart infos' := by
  rw [XrtcServer.parseSsrcInfo] at hparse
  split_ifs at hparse
  · obtain ⟨rest, -, hparse⟩ := bind_eq_ok.mp hparse
    split at hparse
    · cases hparse
    obtain ⟨ssrcIdS, -, hparse⟩ := bind_eq_ok.mp hparse
    split at hparse
    · cases hparse
    split at hparse
    · cases hparse
    split_ifs at hparse
    · rw [← Except.ok.inj hparse]
      exact h.updateSsrc _ fun _ ↦ rfl
    · split at hparse
      · rw [← Except.ok.inj hparse]
        exact h.updateSsrc _ fun _ ↦ rfl
      · rw [← Except.ok.inj hparse]
        exact h.updateSsrc _ fun _ ↦ rfl
      · cases hparse
    · rw [← Except.ok.inj hparse]
      exact h.updateSsrc _ fun _ ↦ rfl
  · rwa [← Except.ok.inj hparse]

namespace SdpParser

variable {st st' : SdpParser}

/-- The sources of both sections are apart. -/
structure Apart (st : SdpParser) : Prop where
  audio : SourcesApart st.audioSsrcInfo
  video : SourcesApart st.videoSsrcInfo

theorem Apart.parseMedia (h : st.Apart) (hparse : st.parseMedia line = .ok st') : st'.Apart := by
  rw [SdpParser.parseMedia] at hparse
  split_ifs at hparse
  · rw [← Except.ok.inj hparse]
    exact ⟨h.audio, h.video⟩
  · split at hparse
    · obtain ⟨mediaType, -, hparse⟩ := bind_eq_ok.mp hparse
      split_ifs at hparse <;> rw [← Except.ok.inj hparse] <;> exact ⟨h.audio, h.video⟩
    · cases hparse
  · rwa [← Except.ok.inj hparse]

theorem Apart.parseSection (h : st.Apart) (hparse : st.parseSection env line = .ok st') :
    st'.Apart := by
  rw [SdpParser.parseSection] at hparse
  split_ifs at hparse
  · obtain ⟨td, -, hparse⟩ := bind_eq_ok.mp hparse
    obtain ⟨infos, hinfos, hparse⟩ := bind_eq_ok.mp hparse
    rw [← Except.ok.inj hparse]
    exact ⟨h.audio.parseSsrcInfo hinfos, h.video⟩
  · obtain ⟨td, -, hparse⟩ := bind_eq_ok.mp hparse
    obtain ⟨groups, -, hparse⟩ := bind_eq_ok.mp hparse
    obtain ⟨infos, hinfos, hparse⟩ := bind_eq_ok.mp hparse
    rw [← Except.ok.inj hparse]
    exact ⟨h.audio, h.video.parseSsrcInfo hinfos⟩
  · rwa [← Except.ok.inj hparse]

theorem Apart.parseLines (h : st.Apart) {lines : List ByteString}
    (hparse : st.parseLines env lines = (st', none)) : st'.Apart := by
  induction lines generalizing st with
  | nil =>
    obtain ⟨rfl, -⟩ := Prod.mk.inj hparse
    exact h
  | cons line lines ih =>
    rw [SdpParser.parseLines, SdpParser.parseLine] at hparse
    rcases hmedia : st.parseMedia line with e | st₁ <;> rw [hmedia] at hparse
    · cases hparse
    dsimp only at hparse
    rcases hsection : st₁.parseSection env line with e | st₂ <;> rw [hsection] at hparse
    · cases hparse
    exact ih ((h.parseMedia hmedia).parseSection hsection) hparse

end SdpParser

/-! ## The tracks of a list of sources

The tracks are made in one pass over the sources. A source goes to the track with its id, or makes a
new one; in both cases the ids stay different, and no source is in two tracks, since none comes
twice. -/

variable {acc tracks : List StreamParams} {track : StreamParams} {info : SsrcInfo}

/-- The tracks are apart, and have no groups yet. -/
structure TracksApart (tracks : List StreamParams) : Prop where
  ids : (tracks.map (·.id)).Nodup
  ssrcs_ne_nil : ∀ track ∈ tracks, track.ssrcs ≠ []
  groups : ∀ track ∈ tracks, track.ssrcGroups = []

theorem addSsrcToTracks_cases (h : (acc.map (·.id)).Nodup) (info : SsrcInfo) :
    (∃ before track after, acc = before ++ track :: after ∧ track.id = info.trackId ∧
      addSsrcToTracks acc info = before ++ { track with
        streamId := info.streamId, cname := info.cname,
        ssrcs := track.ssrcs ++ [info.ssrcId] } :: after) ∨
    (info.trackId ∉ acc.map (·.id) ∧ addSsrcToTracks acc info = acc ++ [{
      id := info.trackId, streamId := info.streamId, cname := info.cname,
      ssrcs := [info.ssrcId] }]) := by
  by_cases hmem : info.trackId ∈ acc.map (·.id)
  · obtain ⟨track, htrack, hid⟩ := List.mem_map.mp hmem
    obtain ⟨before, after, rfl⟩ := List.append_of_mem htrack
    refine .inl ⟨before, track, after, rfl, hid, ?_⟩
    rw [List.map_append, List.map_cons, hid] at h
    obtain ⟨-, hafter, hbefore⟩ := List.nodup_append.mp h
    have hany : (before ++ track :: after).any (·.id == info.trackId) = true :=
      List.any_eq_true.mpr ⟨track, htrack, beq_iff_eq.mpr hid⟩
    have hnot : info.trackId ∉ before.map (·.id) :=
      fun hb ↦ hbefore _ hb _ List.mem_cons_self rfl
    rw [addSsrcToTracks, if_pos hany, List.map_append, List.map_cons, map_other_tracks hnot,
      map_other_tracks (List.nodup_cons.mp hafter).1, if_pos hid]
  · exact .inr ⟨hmem, addSsrcToTracks_new hmem⟩

theorem perm_ssrcs_addSsrcToTracks (h : (acc.map (·.id)).Nodup) (info : SsrcInfo) :
    ((addSsrcToTracks acc info).flatMap (·.ssrcs)).Perm
      (acc.flatMap (·.ssrcs) ++ [info.ssrcId]) := by
  rcases addSsrcToTracks_cases h info with ⟨before, track, after, rfl, -, heq⟩ | ⟨-, heq⟩
  · rw [heq]
    simp only [List.flatMap_append, List.flatMap_cons, List.append_assoc]
    exact ((@List.perm_append_comm _ [info.ssrcId] _).append_left _).append_left _
  · rw [heq, List.flatMap_append, List.flatMap_singleton]

theorem TracksApart.addSsrcToTracks (h : TracksApart acc) (info : SsrcInfo) :
    TracksApart (addSsrcToTracks acc info) := by
  rcases addSsrcToTracks_cases h.ids info with ⟨before, track, after, rfl, -, heq⟩ | ⟨hnew, heq⟩
  · have hids : (addSsrcToTracks (before ++ track :: after) info).map (·.id) =
        (before ++ track :: after).map (·.id) := by
      rw [heq]
      simp
    refine ⟨hids ▸ h.ids, ?_, ?_⟩ <;> rw [heq] <;> intro u hu
    · rcases List.mem_append.mp hu with hu | hu
      · exact h.ssrcs_ne_nil u (List.mem_append_left _ hu)
      · rcases List.mem_cons.mp hu with rfl | hu
        · simp
        · exact h.ssrcs_ne_nil u (List.mem_append_right _ (List.mem_cons_of_mem _ hu))
    · rcases List.mem_append.mp hu with hu | hu
      · exact h.groups u (List.mem_append_left _ hu)
      · rcases List.mem_cons.mp hu with rfl | hu
        · exact h.groups track (List.mem_append_right _ List.mem_cons_self)
        · exact h.groups u (List.mem_append_right _ (List.mem_cons_of_mem _ hu))
  · rw [heq]
    refine ⟨?_, fun u hu ↦ ?_, fun u hu ↦ ?_⟩
    · rw [List.map_append, List.map_singleton]
      refine List.nodup_append.mpr ⟨h.ids, List.pairwise_singleton _ _, ?_⟩
      rintro a ha b hb rfl
      rw [List.mem_singleton.mp hb] at ha
      exact hnew ha
    · rcases List.mem_append.mp hu with hu | hu
      · exact h.ssrcs_ne_nil u hu
      · rw [List.mem_singleton.mp hu]
        exact List.cons_ne_nil _ _
    · rcases List.mem_append.mp hu with hu | hu
      · exact h.groups u hu
      · rw [List.mem_singleton.mp hu]

theorem apart_foldl_addSsrcToTracks (infos : List SsrcInfo) (h : TracksApart acc) :
    TracksApart (infos.foldl addSsrcToTracks acc) ∧
      ((infos.foldl addSsrcToTracks acc).flatMap (·.ssrcs)).Perm
        (acc.flatMap (·.ssrcs) ++ infos.map (·.ssrcId)) := by
  induction infos generalizing acc with
  | nil =>
    rw [List.map_nil, List.append_nil]
    exact ⟨h, .refl _⟩
  | cons info infos ih =>
    obtain ⟨hapart, hperm⟩ := ih (h.addSsrcToTracks info)
    refine ⟨hapart, hperm.trans ?_⟩
    have hstep := (perm_ssrcs_addSsrcToTracks h.ids info).append_right (infos.map (·.ssrcId))
    rwa [List.append_assoc] at hstep

/-- **The tracks of a text.** -/
theorem createTrackFromSsrcInfo_spec (h : SourcesApart infos) :
    TracksApart (createTrackFromSsrcInfo infos) ∧
      ((createTrackFromSsrcInfo infos).flatMap (·.ssrcs)).Nodup := by
  have hnil : TracksApart [] := ⟨List.Pairwise.nil, nofun, nofun⟩
  obtain ⟨hapart, hperm⟩ := apart_foldl_addSsrcToTracks infos hnil
  exact ⟨hapart, hperm.nodup_iff.mpr h⟩

/-- Whatever the text is, only the strings can keep its tracks from coming back. -/
theorem SdpParser.Apart.wellFormedTracks {st : SdpParser} (h : st.Apart) {type : MediaType}
    (htokens : ∀ track ∈ st.streams type, TrackTokens track) :
    WellFormedTracks (st.streams type) := by
  cases type with
  | audio =>
    obtain ⟨hapart, hssrcs⟩ := createTrackFromSsrcInfo_spec h.audio
    refine ⟨hapart.ids, hapart.ssrcs_ne_nil, hssrcs, fun track ht group hgroup ↦ ?_, htokens⟩
    rw [hapart.groups track ht] at hgroup
    cases hgroup
  | video =>
    obtain ⟨hapart, hssrcs⟩ := createTrackFromSsrcInfo_spec h.video
    have hids : (st.streams .video).map (·.id) =
        (createTrackFromSsrcInfo st.videoSsrcInfo).map (·.id) := by
      rw [SdpParser.streams, List.map_map]
      rfl
    have hsame : (st.streams .video).flatMap (·.ssrcs) =
        (createTrackFromSsrcInfo st.videoSsrcInfo).flatMap (·.ssrcs) := by
      rw [SdpParser.streams, List.flatMap_map]
    refine ⟨hids ▸ hapart.ids, fun track ht ↦ ?_, hsame ▸ hssrcs, fun track ht group hgroup ↦ ?_,
      htokens⟩
    · obtain ⟨t, hmem, rfl⟩ := List.mem_map.mp ht
      exact hapart.ssrcs_ne_nil t hmem
    · obtain ⟨t, -, rfl⟩ := List.mem_map.mp ht
      have hselects : t.selects group = true := (List.mem_filter.mp hgroup).2
      rcases hg : group.ssrcs with _ | ⟨ssrc, rest⟩
      · rw [StreamParams.selects, hg] at hselects
        cases hselects
      · exact ⟨ssrc, (selects_iff (by rw [hg]; rfl)).mp hselects, rfl⟩

/-! ## Answers -/

theorem getContent_finish_of_not_mem {st : SdpParser} {type : MediaType} (h : type ∉ st.contents) :
    st.finish.getContent type.mid = none := by
  rw [SessionDescription.getContent, List.find?_eq_none]
  intro content hmem hmid
  have hcontents : content ∈ st.contents.map fun type ↦
      ({ type, sendStreams := st.streams type } : MediaContentDescription) := hmem
  obtain ⟨t, ht, rfl⟩ := List.mem_map.mp hcontents
  have hmid' : (type.mid == t.mid) = true := hmid
  have hsame : type = t := by
    cases type <;> cases t <;> first | rfl | exact absurd hmid' (by decide)
  exact h (hsame ▸ ht)

/-- A text that breaks off leaves no tracks. -/
theorem sendStreams_of_breaks_off {sdp : ByteString} {desc : SessionDescription}
    (h : parseRemoteSdp env sdp = .rejected desc ∨ parseRemoteSdp env sdp = .outOfRange desc)
    (type : MediaType) : ((desc.getContent type.mid).map (·.sendStreams)).getD [] = [] := by
  have hdesc : ∃ st : SdpParser, st.unfinished = desc := by
    rw [parseRemoteSdp] at h
    split_ifs at h
    · rcases h with h | h <;> cases h
    · rcases hl : SdpParser.parseLines env {} (sdpLines sdp) with ⟨st, _ | (_ | _)⟩ <;>
        rw [hl] at h <;> rcases h with h | h <;> cases h
      · exact ⟨st, rfl⟩
      · exact ⟨st, rfl⟩
  obtain ⟨st, rfl⟩ := hdesc
  rcases hcontent : st.unfinished.getContent type.mid with _ | content
  · rfl
  · have hmem : content ∈ st.contents.map fun type ↦ ({ type } : MediaContentDescription) :=
      List.mem_of_find?_eq_some hcontent
    obtain ⟨t, -, rfl⟩ := List.mem_map.mp hmem
    rfl

/-- The tracks of this type that a publisher announces, when it announced these before and answers
now. A rejected answer withdraws them. -/
def announcedAfter (env : SdpEnv) (type : MediaType) (source : List StreamParams)
    (answer : ByteString) : List StreamParams :=
  match parseRemoteSdp env answer with
  | .invalid => source
  | .accepted desc => ((desc.getContent type.mid).map (·.sendStreams)).getD []
  | .rejected _ => []
  | .outOfRange _ => []

/-- The tracks of this type that the answers announce, oldest first. -/
def announced (env : SdpEnv) (answers : List ByteString) (type : MediaType) : List StreamParams :=
  answers.foldl (announcedAfter env type) []

/-- What holds of no tracks, and of the tracks of any text that is accepted, holds of the tracks
that are announced. -/
theorem announced_induction {type : MediaType} {P : List StreamParams → Prop} (hnil : P [])
    (haccepted : ∀ st : SdpParser, st.Apart → type ∈ st.contents → P (st.streams type))
    (answers : List ByteString) : P (announced env answers type) := by
  induction answers using List.reverseRecOn with
  | nil => exact hnil
  | append_singleton answers answer ih =>
    rw [announced, List.foldl_append, List.foldl_cons, List.foldl_nil, announcedAfter, ← announced]
    rcases hparse : parseRemoteSdp env answer with _ | desc | desc | desc <;> dsimp only
    · exact ih
    · exact hnil
    · exact hnil
    · obtain ⟨st, hst, rfl⟩ := parseRemoteSdp_eq_accepted hparse
      have hempty : SdpParser.Apart {} := ⟨List.Pairwise.nil, List.Pairwise.nil⟩
      have hapart : st.Apart := hempty.parseLines hst
      by_cases hmem : type ∈ st.contents
      · rw [getContent_finish hmem]
        exact haccepted st hapart hmem
      · rw [getContent_finish_of_not_mem hmem]
        exact hnil

theorem wellFormedTracks_announced {answers : List ByteString} {type : MediaType}
    (htokens : ∀ track ∈ announced env answers type, TrackTokens track) :
    WellFormedTracks (announced env answers type) := by
  revert htokens
  refine announced_induction (P := fun tracks ↦
    (∀ track ∈ tracks, TrackTokens track) → WellFormedTracks tracks) ?_ ?_ answers
  · exact fun _ ↦ PeerConnection.wellFormedTracks_nil
  · exact fun st hapart _ ↦ hapart.wellFormedTracks

theorem bare_announced_audio (answers : List ByteString) :
    (announced env answers .audio).map (·.bare) = announced env answers .audio := by
  refine announced_induction (P := fun tracks ↦ tracks.map (·.bare) = tracks) rfl
    (fun st hapart _ ↦ ?_) answers
  refine (List.map_congr_left fun track ht ↦ ?_).trans (List.map_id _)
  have hgroups := (createTrackFromSsrcInfo_spec hapart.audio).1.groups track ht
  rw [StreamParams.bare, ← hgroups]
  rfl

/-! ## Offers -/

namespace PeerConnection

variable {textEnv : SdpTextEnv} {attributes : MediaType → ContentAttributes} {pc : PeerConnection}
  {options : RTCOfferAnswerOptions} {iceParam : IceParameters}

/-- The sections of an offer come back and no others; an audio section loses the groups. -/
theorem getContent_offer (h : ReadableOffer env textEnv attributes pc options iceParam) :
    ∃ desc, parseRemoteSdp env
        ((pc.offerDescription options iceParam).text textEnv attributes) = .accepted desc ∧
      (∀ content ∈ (pc.offerDescription options iceParam).contents,
        desc.getContent content.type.mid = some {
          type := content.type
          sendStreams := if content.type = .video then content.sendStreams
            else content.sendStreams.map (·.bare) }) ∧
      ∀ type ∉ (pc.offerDescription options iceParam).contents.map (·.type),
        desc.getContent type.mid = none := by
  have hnew := pc.nodup_types_offerDescription options iceParam
  obtain ⟨st, -, hparse, hread⟩ := SessionDescription.parseRemoteSdp_text
    (pc.bundleLines_offerDescription options iceParam) hnew h.readableContent
  refine ⟨st.finish, hparse, fun content hmem ↦ ?_, fun type htype ↦ ?_⟩
  · have htype : content.type ∈ st.contents := by
      rw [hread.contents]
      exact List.mem_map.mpr ⟨content, hmem, rfl⟩
    rw [getContent_finish htype, hread.streams hnew hmem (h.readableContent content hmem).tracks]
  · refine getContent_finish_of_not_mem ?_
    rw [hread.contents]
    exact htype

/-- The offer of one who sends these media and receives nothing. -/
def sendOptions (audio video : Bool) : RTCOfferAnswerOptions :=
  { sendAudio := audio, sendVideo := video, recvAudio := false, recvVideo := false }

theorem contents_sendOptions (pc : PeerConnection) (audio video : Bool)
    (iceParam : IceParameters) :
    (pc.offerDescription (sendOptions audio video) iceParam).contents =
      (if audio then [{ type := .audio, sendStreams := pc.audioSource }] else []) ++
      if video then [{ type := .video, sendStreams := pc.videoSource }] else [] := by
  rw [contents_offerDescription]
  cases audio <;> cases video <;> rfl

end PeerConnection

end XrtcServer
