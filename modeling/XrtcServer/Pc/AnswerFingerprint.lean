import XrtcServer.Pc.PeerConnection
import XrtcServer.Pc.SdpSafety

/-!
# Which answers lead to the null fingerprint

The transport controller dereferences the fingerprint of every section it applies, and the parser
sets a fingerprint only when it reads a fingerprint line *inside* the section. Whether an accepted
answer is safe is therefore a question about its text: which sections it opens, which of them ride
on a bundle, and for which of them a fingerprint line stands below a line that opened them last.

`Reads` says what the parser knows after a prefix of the lines in these terms. It is the invariant
of the line loop, and the two functions of the transport controller only see what it describes.
-/

namespace XrtcServer

open ByteString

/-! ## The text -/

/-- The section the last of these lines stands in. -/
def sectionAt (lines : List ByteString) : ByteString := lines.foldl mediaTypeAfter []

theorem sectionAt_concat (lines : List ByteString) (line : ByteString) :
    sectionAt (lines ++ [line]) = mediaTypeAfter (sectionAt lines) line := by
  rw [sectionAt, List.foldl_append]
  rfl

/-- The sections a line opens: none or one. -/
def openedBy (line : ByteString) : List MediaType :=
  if IsMediaLine line then
    if mediaTypeOf line = lit "audio" then [.audio]
    else if mediaTypeOf line = lit "video" then [.video]
    else []
  else []

/-- The bundle group a line announces. -/
def groupOf (line : ByteString) : Option ContentGroup :=
  if line.contains (lit "m=group:BUNDLE") then bundleOf (split space line) else none

/-- An answer with the bundle groups of the text and nothing else. -/
def groupsOnly (lines : List ByteString) : SessionDescription where
  sdpType := .answer
  contentGroups := lines.filterMap groupOf

/-- A fingerprint line stands in the section `type`. -/
def FingerprintSeen (lines : List ByteString) (type : MediaType) : Prop :=
  ∃ before line, before ++ [line] <+: lines ∧ IsFingerprintLine line ∧
    sectionAt (before ++ [line]) = type.mid

theorem fingerprintSeen_concat {lines : List ByteString} {line : ByteString} {type : MediaType} :
    FingerprintSeen (lines ++ [line]) type ↔
      FingerprintSeen lines type ∨
        IsFingerprintLine line ∧ sectionAt (lines ++ [line]) = type.mid := by
  constructor
  · rintro ⟨before, line', hp, hf, hs⟩
    rcases List.prefix_concat_iff.mp hp with heq | hp
    · obtain ⟨rfl, hline⟩ := List.append_inj' heq rfl
      obtain rfl := List.singleton_inj.mp hline
      exact .inr ⟨hf, hs⟩
    · exact .inl ⟨before, line', hp, hf, hs⟩
  · rintro (⟨before, line', hp, hf, hs⟩ | ⟨hf, hs⟩)
    · exact ⟨before, line', hp.trans (List.prefix_append ..), hf, hs⟩
    · exact ⟨lines, line, List.prefix_refl _, hf, hs⟩

/-! ## The parser

`Reads` is proved for one round in two halves, as the source has it: what opens a section or a
group, and what is read inside of a section. -/

namespace SdpParser

def td (st : SdpParser) : MediaType → TransportDescription
  | .audio => st.audioTd
  | .video => st.videoTd

/-- What the parser has made of the lines read so far. -/
structure Reads (st : SdpParser) (lines : List ByteString) : Prop where
  mediaType : st.mediaType = sectionAt lines
  contents : st.contents = lines.flatMap openedBy
  groups : st.contentGroups = lines.filterMap groupOf
  mid : ∀ type, (st.td type).mid = if type ∈ st.contents then type.mid else []
  fingerprint : ∀ type,
    (st.td type).identifyFingerprint.isSome = true ↔ FingerprintSeen lines type

theorem reads_nil : Reads {} [] where
  mediaType := rfl
  contents := rfl
  groups := rfl
  mid type := by rcases type <;> rfl
  fingerprint type := by
    refine ⟨fun h ↦ ?_, ?_⟩
    · rcases type <;> cases h
    · rintro ⟨before, line, hp, -⟩
      simp at hp

variable {env : SdpEnv} {line : ByteString} {lines : List ByteString}

/-- What the first half of a round does to the fields the transport controller will see. -/
theorem parseMedia_cases {st st' : SdpParser} (h : st.parseMedia line = .ok st') :
    st'.contents = st.contents ++ openedBy line ∧
      st'.contentGroups = st.contentGroups ++ (groupOf line).toList ∧
      ∀ type, st'.td type =
        if type ∈ openedBy line then { st.td type with mid := type.mid } else st.td type := by
  rw [parseMedia] at h
  rw [openedBy, groupOf]
  by_cases hb : line.contains (lit "m=group:BUNDLE") = true
  · rw [if_pos hb] at h
    obtain rfl := Except.ok.inj h
    have hm : ¬IsMediaLine line := fun hm ↦ by simp [hm.1] at hb
    rw [if_pos hb, if_neg hm]
    exact ⟨(List.append_nil _).symm, rfl, fun type ↦ by rcases type <;> rfl⟩
  rw [if_neg hb] at h ⊢
  by_cases hm : line.contains (lit "m=") = true
  · have hopen : IsMediaLine line := ⟨by simpa using hb, hm⟩
    rw [if_pos hm] at h
    rw [if_pos hopen, mediaTypeOf]
    rcases hi : split space line with _ | ⟨item, _ | ⟨a, _ | ⟨b, items⟩⟩⟩ <;> rw [hi] at h
    · cases h
    · cases h
    · cases h
    obtain ⟨mediaType, hsub, h⟩ := bind_eq_ok.mp h
    obtain rfl : item.drop 2 = mediaType := by
      rcases lt_or_ge item.length 2 with hlt | hge
      · rw [substrOrThrow_of_lt hlt] at hsub
        cases hsub
      · rw [substrOrThrow_of_le hge] at hsub
        exact Except.ok.inj hsub
    rw [List.headD_cons]
    split_ifs at h ⊢ with ha hv
    · obtain rfl := Except.ok.inj h
      exact ⟨rfl, (List.append_nil _).symm, fun type ↦ by rcases type <;> rfl⟩
    · obtain rfl := Except.ok.inj h
      exact ⟨rfl, (List.append_nil _).symm, fun type ↦ by rcases type <;> rfl⟩
    · obtain rfl := Except.ok.inj h
      exact ⟨(List.append_nil _).symm, (List.append_nil _).symm, fun type ↦ by rcases type <;> rfl⟩
  · rw [if_neg hm] at h
    obtain rfl := Except.ok.inj h
    have hm : ¬IsMediaLine line := fun hm' ↦ hm hm'.2
    rw [if_neg hm]
    exact ⟨(List.append_nil _).symm, (List.append_nil _).symm, fun type ↦ by rcases type <;> rfl⟩

/-- An accepted line sets the fingerprint if it is a fingerprint line and keeps it otherwise. -/
theorem parseTransportInfo_cases {td td' : TransportDescription}
    (h : parseTransportInfo env td line = .ok td') :
    td'.mid = td.mid ∧ (td'.identifyFingerprint.isSome = true ↔
      td.identifyFingerprint.isSome = true ∨ IsFingerprintLine line) := by
  rw [parseTransportInfo] at h
  rw [IsFingerprintLine]
  by_cases hu : line.contains (lit "a=ice-ufrag") = true
  · rw [if_pos hu] at h
    split_ifs at h
    obtain rfl := Except.ok.inj h
    simp [hu]
  rw [if_neg hu] at h
  by_cases hp : line.contains (lit "a=ice-pwd") = true
  · rw [if_pos hp] at h
    split_ifs at h
    obtain rfl := Except.ok.inj h
    simp [hp]
  rw [if_neg hp] at h
  by_cases hf : line.contains (lit "a=fingerprint") = true
  · rw [if_pos hf] at h
    rcases ht : tokenize space line with _ | ⟨item, _ | ⟨content, _ | ⟨c, l⟩⟩⟩ <;> rw [ht] at h
    · cases h
    · cases h
    · obtain ⟨alg, -, h⟩ := bind_eq_ok.mp h
      rcases hc : env.createUniqueFromRfc4572 (alg.map toLower) content with _ | fp
      · rw [hc] at h
        cases h
      · rw [hc] at h
        obtain rfl := Except.ok.inj h
        simp [hu, hp, hf]
    · cases h
  · rw [if_neg hf] at h
    obtain rfl := Except.ok.inj h
    simp [hf]

/-- What the second half of a round does to the transport descriptions. -/
theorem td_of_parseSection {st st' : SdpParser} (h : st.parseSection env line = .ok st') :
    ∀ type, (st'.td type).mid = (st.td type).mid ∧
      ((st'.td type).identifyFingerprint.isSome = true ↔
        (st.td type).identifyFingerprint.isSome = true ∨
          IsFingerprintLine line ∧ st.mediaType = type.mid) := by
  have hne : lit "audio" ≠ lit "video" := by decide
  intro type
  rcases parseSection_cases h with ⟨ha, td, infos, htd, rfl⟩ | ⟨hv, td, groups, infos, htd, rfl⟩ |
    ⟨hs, rfl⟩
  · obtain ⟨hmid, hfp⟩ := parseTransportInfo_cases htd
    rcases type with _ | _
    · simpa [SdpParser.td, MediaType.mid, ha, hfp] using hmid
    · simp [SdpParser.td, MediaType.mid, ha, hne]
  · obtain ⟨hmid, hfp⟩ := parseTransportInfo_cases htd
    rcases type with _ | _
    · simp [SdpParser.td, MediaType.mid, hv, hne.symm]
    · simpa [SdpParser.td, MediaType.mid, hv, hfp] using hmid
  · have : ¬st'.mediaType = type.mid := by
      intro ht
      rcases type with _ | _
      · exact hs (.inl ht)
      · exact hs (.inr ht)
    simp [this]

theorem parseSection_keeps {st st' : SdpParser} (h : st.parseSection env line = .ok st') :
    st'.contents = st.contents ∧ st'.contentGroups = st.contentGroups := by
  rcases parseSection_cases h with
    ⟨-, td, infos, -, rfl⟩ | ⟨-, td, groups, infos, -, rfl⟩ | ⟨-, rfl⟩
  · exact ⟨rfl, rfl⟩
  · exact ⟨rfl, rfl⟩
  · exact ⟨rfl, rfl⟩

/-- **One round of the loop.** -/
theorem Reads.parseLine {st st' : SdpParser} (hr : st.Reads lines)
    (h : st.parseLine env line = (st', none)) : st'.Reads (lines ++ [line]) := by
  obtain ⟨st₁, hmedia, hsection⟩ := parseLine_eq_none.mp h
  obtain ⟨hcontents, hgroups, htd⟩ := parseMedia_cases hmedia
  obtain ⟨hcontents', hgroups'⟩ := parseSection_keeps hsection
  have hmt : st₁.mediaType = sectionAt (lines ++ [line]) := by
    rw [mediaType_of_parseMedia hmedia, hr.mediaType, sectionAt_concat]
  refine ⟨?_, ?_, ?_, fun type ↦ ?_, fun type ↦ ?_⟩
  · rw [mediaType_of_parseSection hsection, hmt]
  · rw [hcontents', hcontents, hr.contents, List.flatMap_append, List.flatMap_singleton]
  · rw [hgroups', hgroups, hr.groups, List.filterMap_append]
    rcases hg : groupOf line with _ | g <;> simp [hg]
  · rw [(td_of_parseSection hsection type).1, htd, hcontents', hcontents]
    by_cases ho : type ∈ openedBy line
    · simp [ho]
    · simp [ho, hr.mid]
  · rw [(td_of_parseSection hsection type).2, fingerprintSeen_concat, ← hr.fingerprint, ← hmt, htd]
    split_ifs <;> rfl

/-- **The whole loop.** -/
theorem Reads.parseLines {st st' : SdpParser} {rest : List ByteString} (hr : st.Reads lines)
    (h : st.parseLines env rest = (st', none)) : st'.Reads (lines ++ rest) := by
  induction rest generalizing st lines with
  | nil =>
    obtain rfl := (Prod.mk.inj h).1
    rwa [List.append_nil]
  | cons line rest ih =>
    rw [SdpParser.parseLines] at h
    rcases hl : st.parseLine env line with ⟨st₁, _ | e⟩
    · rw [hl] at h
      rw [List.append_cons]
      exact ih (hr.parseLine hl) h
    · rw [hl] at h
      cases h

/-! ## The description -/

theorem mem_contents_finish {st : SdpParser} {content : MediaContentDescription} :
    content ∈ st.finish.contents ↔
      content.type ∈ st.contents ∧ content.sendStreams = st.streams content.type := by
  have : st.finish.contents =
    st.contents.map fun type ↦ { type, sendStreams := st.streams type } := rfl
  rw [this, List.mem_map]
  constructor
  · rintro ⟨type, ht, rfl⟩
    exact ⟨ht, rfl⟩
  · rintro ⟨ht, hs⟩
    exact ⟨content.type, ht, by rw [← hs]⟩

/-- Both sections of the parser are in the finished description; the lookup finds the right one. -/
theorem getTransportInfo_finish {st : SdpParser} (hr : st.Reads lines) {type : MediaType}
    (ht : type ∈ st.contents) : st.finish.getTransportInfo type.mid = some (st.td type) := by
  have hmid : (st.td type).mid = type.mid := by rw [hr.mid, if_pos ht]
  have haudio : st.audioTd.mid =
      if MediaType.audio ∈ st.contents then MediaType.audio.mid else [] :=
    hr.mid .audio
  rw [show st.finish.getTransportInfo type.mid =
    [st.audioTd, st.videoTd].find? (·.mid == type.mid) from rfl]
  rcases type with _ | _
  · rw [List.find?_cons_of_pos (by rw [beq_iff_eq]; exact hmid)]
    rfl
  · have : ¬st.audioTd.mid = MediaType.video.mid := by
      rw [haudio]
      split_ifs <;> decide
    rw [List.find?_cons_of_neg (by simpa using this),
      List.find?_cons_of_pos (by rw [beq_iff_eq]; exact hmid)]
    rfl

end SdpParser

/-! ## The exact condition -/

open TransportController in
theorem setRemoteDescription_answer_iff (env : SdpEnv) (sdp : ByteString)
    (offer answer : SessionDescription) (h : parseRemoteSdp env sdp = .accepted answer) :
    (({} : TransportController).setLocalDescription offer).setRemoteDescription answer ≠ none ↔
      ∀ type : MediaType, type ∈ (sdpLines sdp).flatMap openedBy →
        (groupsOnly (sdpLines sdp)).ridesOnBundle type.mid = false →
        (∃ content ∈ offer.contents, content.mid = type.mid) →
        offer.ridesOnBundle type.mid = false → FingerprintSeen (sdpLines sdp) type := by
  obtain ⟨st, hst, rfl⟩ := parseRemoteSdp_eq_accepted h
  have hr : st.Reads (sdpLines sdp) := SdpParser.reads_nil.parseLines hst
  have hgroups : st.finish.contentGroups = (groupsOnly (sdpLines sdp)).contentGroups := hr.groups
  have hfp (type : MediaType) :
      ¬(st.td type).identifyFingerprint = none ↔ FingerprintSeen (sdpLines sdp) type := by
    rw [← hr.fingerprint, Option.isSome_iff_ne_none]
  rw [ne_eq, setRemoteDescription_eq_none, ← hr.contents]
  constructor
  · intro hne type ht hride hoffer hbundle
    rw [← hfp]
    intro hnull
    refine hne ⟨{ type, sendStreams := st.streams type }, ?_, ?_, ?_, ?_⟩
    · exact SdpParser.mem_contents_finish.mpr ⟨ht, rfl⟩
    · rwa [SessionDescription.ridesOnBundle_congr hgroups]
    · exact mem_setLocalDescription.mpr (.inr ⟨hoffer, hbundle⟩)
    · exact ⟨st.td type, SdpParser.getTransportInfo_finish hr ht, hnull⟩
  · rintro hall ⟨content, hmem, hride, hname, td, htd, hnull⟩
    obtain ⟨ht, -⟩ := SdpParser.mem_contents_finish.mp hmem
    rw [SessionDescription.ridesOnBundle_congr hgroups] at hride
    rcases mem_setLocalDescription.mp hname with hname | ⟨hoffer, hbundle⟩
    · cases hname
    · obtain rfl : st.td content.type = td :=
        Option.some.inj ((SdpParser.getTransportInfo_finish hr ht).symm.trans htd)
      exact (hfp content.type).mpr (hall content.type ht hride hoffer hbundle) hnull

/-- An answer with one section and its fingerprint, to an offer with one section. -/
theorem setRemoteDescription_answer_of_fingerprint :
    FingerprintSeen (sdpLines (lit "m=audio 9 x\na=fingerprint:sha-256 AB")) .audio :=
  (setRemoteDescription_answer_iff
      ⟨fun _ ↦ none, fun algorithm digest ↦ some ⟨algorithm, digest⟩⟩
      (lit "m=audio 9 x\na=fingerprint:sha-256 AB")
      (({ certificate := some ⟨some ⟨lit "sha-256", lit "CD"⟩⟩ } : PeerConnection).offerDescription
        { recvVideo := false, sendVideo := false } {})
      { sdpType := .answer
        contents := [{ type := .audio }]
        transportInfos := [
          { mid := lit "audio", identifyFingerprint := some ⟨lit "sha-256", lit "AB"⟩ }, {}] }
      (by decide)).mp
    (by decide) .audio (by decide) (by decide) ⟨{ type := .audio }, by decide, rfl⟩ (by decide)

/-- An offer to receive audio, and an answer whose audio section has no fingerprint line. -/
theorem not_setRemoteSdp_safe :
    ¬∀ (env : SdpEnv) (pc : PeerConnection) (options : RTCOfferAnswerOptions)
      (iceParam : IceParameters) (sdp : ByteString),
      ((pc.createOffer options iceParam).setRemoteSdp env sdp).2 ≠ .nullFingerprint := by
  intro h
  refine h ⟨fun _ ↦ none, fun algorithm digest ↦ some ⟨algorithm, digest⟩⟩
    { certificate := some ⟨some ⟨lit "sha-256", lit "CD"⟩⟩ }
    { recvVideo := false, sendVideo := false, sendAudio := false } {} (lit "m=audio 9 x") ?_
  decide

end XrtcServer
