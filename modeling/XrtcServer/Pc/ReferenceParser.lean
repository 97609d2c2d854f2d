import XrtcServer.Pc.SdpSafety

/-!
# Lines read by their beginning

The parser of `set_remote_sdp` looks for its keywords anywhere in a line. The parser of this file
reads a line by what stands at its start, as the format has it: at most one keyword does, except
that a group line begins like a media line. It also accepts `a=ssrc:<ssrc-id> <attribute>`, which
the comment in `parse_ssrc_info` lists and the code rejects. Group lines keep the keyword the code
has for them.

## What the two share

What is done with a line once its kind is known is the same in both: the branches of the reference
parser call the functions of the code. So a difference can only come from the choice of the branch,
and from the one kind of source line.

## The condition

The two agree on a text when each line that is reached is read by its start (`ByStart`): of the
keywords of a branch, the one that the code finds first stands at the start, and the line is not a
source line without a value. A line is only reached as far as the code looks at it: in the section
it falls in, and up to the branch that rejects it.
-/

namespace XrtcServer

open ByteString

/-- The keywords of a line. -/
inductive LineKind
  | group
  | media
  | iceUfrag
  | icePwd
  | fingerprint
  | ssrcGroup
  | ssrc
deriving DecidableEq

namespace LineKind

def keyword : LineKind → ByteString
  | group => lit "m=group:BUNDLE"
  | media => lit "m="
  | iceUfrag => lit "a=ice-ufrag"
  | icePwd => lit "a=ice-pwd"
  | fingerprint => lit "a=fingerprint"
  | ssrcGroup => lit "a=ssrc-group:"
  | ssrc => lit "a=ssrc:"

def kinds : List LineKind := [group, media, iceUfrag, icePwd, fingerprint, ssrcGroup, ssrc]

end LineKind

/-- The kind of a line, by its start. -/
def lineKind? (line : ByteString) : Option LineKind :=
  LineKind.kinds.find? fun kind ↦ kind.keyword.isPrefixOf line

/-! ## The reference parser

The kind of a line is decided once, by `lineKind?`, and every line is for one branch. In the code a
line goes through all branches of its section, and each looks for its own keywords. -/

def referenceTransport (env : SdpEnv) (td : TransportDescription) (line : ByteString) :
    Except SdpError TransportDescription :=
  match lineKind? line with
  | some .iceUfrag =>
    if getAttribute line = [] then .error .reject
    else .ok { td with iceUfrag := getAttribute line }
  | some .icePwd =>
    if getAttribute line = [] then .error .reject
    else .ok { td with icePwd := getAttribute line }
  | some .fingerprint =>
    match tokenize space line with
    | [item, content] => do
      let alg ← substrOrThrow item 14
      match env.createUniqueFromRfc4572 (alg.map toLower) content with
      | none => .error .reject
      | some fp => .ok { td with identifyFingerprint := some fp }
    | _ => .error .reject
  | _ => .ok td

/-- The source of `a=ssrc:<ssrc-id> <attribute>`. -/
def valuelessSsrc? (env : SdpEnv) (line : ByteString) : Option UInt32 :=
  match tokenizeFirst space (line.drop 2) with
  | some (field1, field2) => if colon ∈ field2 then none else env.fromString (field1.drop 5)
  | none => none

/-- An attribute without a value assigns nothing. -/
def referenceSsrc (env : SdpEnv) (infos : List SsrcInfo) (line : ByteString) :
    Except SdpError (List SsrcInfo) :=
  if lineKind? line = some .ssrc then
    match valuelessSsrc? env line with
    | some ssrcId => .ok (updateSsrc infos ssrcId id)
    | none => parseSsrcInfo env infos line
  else .ok infos

def referenceSsrcGroup (env : SdpEnv) (groups : List SsrcGroup) (line : ByteString) :
    Except SdpError (List SsrcGroup) :=
  if lineKind? line = some .ssrcGroup then parseSsrcGroupInfo env groups line else .ok groups

namespace SdpParser

/-- A line that begins with `m=` opens the section it names. -/
def referenceMedia (st : SdpParser) (line : ByteString) : Except SdpError SdpParser :=
  match split space line with
  | item :: _ :: _ :: _ =>
    if item.drop 2 = lit "audio" then
      .ok { st with mediaType := item.drop 2, contents := st.contents ++ [.audio],
                    audioTd := { st.audioTd with mid := lit "audio" } }
    else if item.drop 2 = lit "video" then
      .ok { st with mediaType := item.drop 2, contents := st.contents ++ [.video],
                    videoTd := { st.videoTd with mid := lit "video" } }
    else .ok { st with mediaType := item.drop 2 }
  | _ => .error .reject

/-- A line of the current section. -/
def referenceSection (env : SdpEnv) (st : SdpParser) (line : ByteString) :
    Except SdpError SdpParser :=
  if st.mediaType = lit "audio" then do
    let audioTd ← referenceTransport env st.audioTd line
    let audioSsrcInfo ← referenceSsrc env st.audioSsrcInfo line
    return { st with audioTd, audioSsrcInfo }
  else if st.mediaType = lit "video" then do
    let videoTd ← referenceTransport env st.videoTd line
    let videoSsrcGroups ← referenceSsrcGroup env st.videoSsrcGroups line
    let videoSsrcInfo ← referenceSsrc env st.videoSsrcInfo line
    return { st with videoTd, videoSsrcGroups, videoSsrcInfo }
  else .ok st

def referenceRead (env : SdpEnv) (st : SdpParser) (line : ByteString) : Except SdpError SdpParser :=
  match lineKind? line with
  | some .group => .ok (st.addBundle (split space line))
  | some .media => st.referenceMedia line
  | _ => st.referenceSection env line

/-- How a round ends that starts in the state `st`. -/
def roundEnd (st : SdpParser) : Except SdpError SdpParser → SdpParser × Option SdpError
  | .error e => (st, some e)
  | .ok st' => (st', none)

def referenceLines (env : SdpEnv) : SdpParser → List ByteString → SdpParser × Option SdpError
  | st, [] => (st, none)
  | st, line :: lines =>
    match st.referenceRead env line with
    | .error e => (st, some e)
    | .ok st' => st'.referenceLines env lines

end SdpParser

/-- The result of the call when this is how the loop ends. -/
def loopOutcome : SdpParser × Option SdpError → SdpOutcome
  | (st, none) => .accepted st.finish
  | (st, some .reject) => .rejected st.unfinished
  | (st, some .outOfRange) => .outOfRange st.unfinished

theorem parseRemoteSdp_eq_loopOutcome (env : SdpEnv) (sdp : ByteString) :
    parseRemoteSdp env sdp =
      if tokenize newline sdp = [] then .invalid
      else loopOutcome (SdpParser.parseLines env {} (sdpLines sdp)) := rfl

/-- The result of the call with the reference parser for its loop. -/
def referenceRemoteSdp (env : SdpEnv) (sdp : ByteString) : SdpOutcome :=
  if tokenize newline sdp = [] then .invalid
  else loopOutcome (SdpParser.referenceLines env {} (sdpLines sdp))

/-! ## The condition

The condition is put on one chain of `find`s at a time, since each chain stops at the first keyword
it finds. Which chains are looked at depends on the section and on what the earlier ones made of the
line. -/

/-- The keyword that a chain of `find`s stops at stands at the start of the line. -/
def AtStart (kinds : List LineKind) (line : ByteString) : Prop :=
  ∀ kind ∈ kinds.find? fun kind ↦ line.contains kind.keyword, kind.keyword <+: line

instance (kinds : List LineKind) (line : ByteString) : Decidable (AtStart kinds line) :=
  inferInstanceAs (Decidable (∀ _ ∈ _, _))

/-- `a=ssrc:<ssrc-id> <attribute>`. -/
def IsValueless (env : SdpEnv) (line : ByteString) : Prop :=
  lineKind? line = some .ssrc ∧ (valuelessSsrc? env line).isSome = true

instance (env : SdpEnv) (line : ByteString) : Decidable (IsValueless env line) :=
  inferInstanceAs (Decidable (_ ∧ _))

/-- What the section looks for in a line stands at its start, as far as it looks. -/
def SectionByStart (env : SdpEnv) (mediaType line : ByteString) : Prop :=
  AtStart [.iceUfrag, .icePwd, .fingerprint] line ∧
    (¬TransportRejects env line → ¬FingerprintCuts line →
      (mediaType = lit "video" → AtStart [.ssrcGroup] line) ∧
      (¬(mediaType = lit "video" ∧ GroupRejects env line) →
        AtStart [.ssrc] line ∧ ¬IsValueless env line))

/-- The line is read by its start. -/
def ByStart (env : SdpEnv) (mediaType line : ByteString) : Prop :=
  AtStart [.group, .media] line ∧
    (¬MediaRejects line → IsSection (mediaTypeAfter mediaType line) →
      SectionByStart env (mediaTypeAfter mediaType line) line)

/-- A line in which no chain of `find`s stops at another keyword than the one at its start. -/
theorem ByStart.of_atStart {env : SdpEnv} {mediaType line : ByteString}
    (hmedia : AtStart [.group, .media] line)
    (htransport : AtStart [.iceUfrag, .icePwd, .fingerprint] line)
    (hgroup : AtStart [.ssrcGroup] line) (hssrc : AtStart [.ssrc] line)
    (hvalue : ¬IsValueless env line) : ByStart env mediaType line :=
  ⟨hmedia, fun _ _ ↦ ⟨htransport, fun _ _ ↦ ⟨fun _ ↦ hgroup, fun _ ↦ ⟨hssrc, hvalue⟩⟩⟩⟩

/-- Every line that the loop reaches is read by its start. -/
def ReadByStart (env : SdpEnv) : ByteString → List ByteString → Prop
  | _, [] => True
  | mediaType, line :: lines => ByStart env mediaType line ∧
      (¬LineRejects env mediaType line → ¬LineCuts env mediaType line →
        ReadByStart env (mediaTypeAfter mediaType line) lines)

/-! ## Finding and beginning with -/

section Lines

variable {env : SdpEnv} {line : ByteString} {kind : LineKind} {kinds : List LineKind}

theorem contains_of_start {pat : ByteString} (h : pat <+: line) : line.contains pat = true :=
  decide_eq_true h.isInfix

theorem keyword_start (h : lineKind? line = some kind) : kind.keyword <+: line := by
  rw [lineKind?] at h
  have hstart := List.find?_some h
  exact List.isPrefixOf_iff_prefix.mp hstart

theorem lineKind?_eq (h : kind.keyword <+: line)
    (hmedia : kind = .media → ¬LineKind.group.keyword <+: line) : lineKind? line = some kind := by
  obtain ⟨rest, rfl⟩ := h
  cases kind with
  | media =>
    have hgroup : LineKind.group.keyword.isPrefixOf (LineKind.media.keyword ++ rest) = false := by
      rw [Bool.eq_false_iff, ne_eq, List.isPrefixOf_iff_prefix]
      exact hmedia rfl
    rw [lineKind?, LineKind.kinds, List.find?_cons_of_neg]
    · rfl
    · rw [hgroup]
      exact Bool.false_ne_true
  | group => rfl
  | iceUfrag => rfl
  | icePwd => rfl
  | fingerprint => rfl
  | ssrcGroup => rfl
  | ssrc => rfl

theorem lineKind?_ne (kind : LineKind) (h : line.contains kind.keyword = false) :
    lineKind? line ≠ some kind := by
  intro hkind
  rw [contains_of_start (keyword_start hkind)] at h
  cases h

theorem AtStart.head (h : AtStart (kind :: kinds) line)
    (hfound : line.contains kind.keyword = true) : kind.keyword <+: line :=
  h kind (List.find?_cons_of_pos hfound)

theorem AtStart.tail (h : AtStart (kind :: kinds) line)
    (hfound : line.contains kind.keyword = false) : AtStart kinds line := by
  intro other hother
  refine h other ((List.find?_cons_of_neg ?_).trans hother)
  rw [hfound]
  exact Bool.false_ne_true

/-! ## The branches of a section -/

theorem referenceTransport_skip {td : TransportDescription}
    (hufrag : lineKind? line ≠ some .iceUfrag) (hpwd : lineKind? line ≠ some .icePwd)
    (hfp : lineKind? line ≠ some .fingerprint) : referenceTransport env td line = .ok td := by
  rw [referenceTransport]
  split
  · exact absurd ‹_› hufrag
  · exact absurd ‹_› hpwd
  · exact absurd ‹_› hfp
  · rfl

theorem parseTransportInfo_eq (h : AtStart [.iceUfrag, .icePwd, .fingerprint] line)
    (td : TransportDescription) :
    parseTransportInfo env td line = referenceTransport env td line := by
  rw [parseTransportInfo]
  cases hufrag : line.contains (lit "a=ice-ufrag") with
  | true =>
    rw [referenceTransport, lineKind?_eq (h.head hufrag) (by intro hmedia; cases hmedia)]
    rfl
  | false =>
    have h := h.tail hufrag
    cases hpwd : line.contains (lit "a=ice-pwd") with
    | true =>
      rw [referenceTransport, lineKind?_eq (h.head hpwd) (by intro hmedia; cases hmedia)]
      rfl
    | false =>
      have h := h.tail hpwd
      cases hfp : line.contains (lit "a=fingerprint") with
      | true =>
        rw [referenceTransport, lineKind?_eq (h.head hfp) (by intro hmedia; cases hmedia)]
        rfl
      | false =>
        exact (referenceTransport_skip (lineKind?_ne .iceUfrag hufrag)
          (lineKind?_ne .icePwd hpwd) (lineKind?_ne .fingerprint hfp)).symm

theorem parseSsrcGroupInfo_eq (h : AtStart [.ssrcGroup] line) (groups : List SsrcGroup) :
    parseSsrcGroupInfo env groups line = referenceSsrcGroup env groups line := by
  rw [referenceSsrcGroup]
  cases hfound : line.contains (lit "a=ssrc-group:") with
  | true => rw [if_pos (lineKind?_eq (h.head hfound) (by intro hmedia; cases hmedia))]
  | false =>
    rw [if_neg (lineKind?_ne .ssrcGroup hfound), parseSsrcGroupInfo, hfound]
    rfl

theorem parseSsrcInfo_eq (h : AtStart [.ssrc] line) (hvalue : ¬IsValueless env line)
    (infos : List SsrcInfo) : parseSsrcInfo env infos line = referenceSsrc env infos line := by
  rw [referenceSsrc]
  cases hfound : line.contains (lit "a=ssrc:") with
  | true =>
    have hkind := lineKind?_eq (h.head hfound) (by intro hmedia; cases hmedia)
    rw [if_pos hkind]
    cases hnone : valuelessSsrc? env line with
    | none => rfl
    | some ssrcId => exact absurd ⟨hkind, by rw [hnone]; rfl⟩ hvalue
  | false =>
    rw [if_neg (lineKind?_ne .ssrc hfound), parseSsrcInfo, hfound]
    rfl

/-! ## A line -/

/-- The section as the code reads it. A branch is only compared when the ones before it accept the
line, so its condition is only needed then. -/
theorem parseSection_eq (st : SdpParser)
    (h : IsSection st.mediaType → SectionByStart env st.mediaType line) :
    st.parseSection env line = st.referenceSection env line := by
  rw [SdpParser.parseSection, SdpParser.referenceSection]
  by_cases haudio : st.mediaType = lit "audio"
  · obtain ⟨htransport, hrest⟩ := h (.inl haudio)
    rw [if_pos haudio, if_pos haudio, ← parseTransportInfo_eq htransport]
    cases htd : parseTransportInfo env st.audioTd line with
    | error e => rfl
    | ok td =>
      obtain ⟨hcuts, hrejects⟩ := parseTransportInfo_failsWhen.of_ok htd
      have hgroup : ¬(st.mediaType = lit "video" ∧ GroupRejects env line) := by
        rintro ⟨hvideo, -⟩
        exact absurd (haudio.symm.trans hvideo) (by decide)
      obtain ⟨hssrc, hvalue⟩ := (hrest hrejects hcuts).2 hgroup
      rw [ok_bind, ok_bind, parseSsrcInfo_eq hssrc hvalue]
  · rw [if_neg haudio, if_neg haudio]
    by_cases hvideo : st.mediaType = lit "video"
    · obtain ⟨htransport, hrest⟩ := h (.inr hvideo)
      rw [if_pos hvideo, if_pos hvideo, ← parseTransportInfo_eq htransport]
      cases htd : parseTransportInfo env st.videoTd line with
      | error e => rfl
      | ok td =>
        obtain ⟨hcuts, hrejects⟩ := parseTransportInfo_failsWhen.of_ok htd
        obtain ⟨hgroup, hrest⟩ := hrest hrejects hcuts
        rw [ok_bind, ok_bind, ← parseSsrcGroupInfo_eq (hgroup hvideo)]
        cases hgroups : parseSsrcGroupInfo env st.videoSsrcGroups line with
        | error e => rfl
        | ok groups =>
          have haccepts := (parseSsrcGroupInfo_failsWhen.of_ok hgroups).2
          obtain ⟨hssrc, hvalue⟩ := hrest fun hrejects' ↦ haccepts hrejects'.2
          rw [ok_bind, ok_bind, parseSsrcInfo_eq hssrc hvalue]
    · rw [if_neg hvideo, if_neg hvideo]

/-- A line that begins with `m=` is not for the section. -/
theorem referenceSection_skip (env : SdpEnv) (st : SdpParser) (hkind : lineKind? line = some kind)
    (h : kind = .group ∨ kind = .media) : st.referenceSection env line = .ok st := by
  have hne : ∀ other : LineKind, other ≠ .group → other ≠ .media → lineKind? line ≠ some other := by
    intro other hgroup hmedia hother
    rw [hkind] at hother
    obtain rfl := Option.some.inj hother
    rcases h with rfl | rfl
    · exact hgroup rfl
    · exact hmedia rfl
  have htransport (td : TransportDescription) : referenceTransport env td line = .ok td :=
    referenceTransport_skip (hne _ (by decide) (by decide)) (hne _ (by decide) (by decide))
      (hne _ (by decide) (by decide))
  have hssrc (infos : List SsrcInfo) : referenceSsrc env infos line = .ok infos :=
    if_neg (hne _ (by decide) (by decide))
  have hgroups (groups : List SsrcGroup) : referenceSsrcGroup env groups line = .ok groups :=
    if_neg (hne _ (by decide) (by decide))
  rw [SdpParser.referenceSection, htransport, htransport, hssrc, hssrc, hgroups]
  split
  · rfl
  · split <;> rfl

theorem referenceRead_eq {st : SdpParser} (hgroup : lineKind? line ≠ some .group)
    (hmedia : lineKind? line ≠ some .media) :
    st.referenceRead env line = st.referenceSection env line := by
  rw [SdpParser.referenceRead]
  split
  · exact absurd ‹_› hgroup
  · exact absurd ‹_› hmedia
  · rfl

theorem le_length_item {item : ByteString} {items : List ByteString}
    (h : LineKind.media.keyword <+: line) (hitems : split space line = item :: items) :
    2 ≤ item.length := by
  obtain ⟨rest, rfl⟩ := h
  obtain ⟨item', items', hrest⟩ := List.exists_cons_of_ne_nil (split_ne_nil space rest)
  have hsplit : split space (LineKind.media.keyword ++ rest) =
      (LineKind.media.keyword ++ item') :: items' := by
    rw [split] at hrest
    show List.splitOn space (109 :: 61 :: rest) = _
    rw [List.splitOn_cons_eq_if_modifyHead, List.splitOn_cons_eq_if_modifyHead, hrest]
    rfl
  rw [hitems] at hsplit
  rw [(List.cons.inj hsplit).1, List.length_append]
  exact Nat.le_add_right 2 _

theorem parseMedia_eq (st : SdpParser) (hgroup : line.contains (lit "m=group:BUNDLE") = false)
    (hmedia : LineKind.media.keyword <+: line) : st.parseMedia line = st.referenceMedia line := by
  have hfound : line.contains (lit "m=") = true := contains_of_start hmedia
  rw [SdpParser.parseMedia, hgroup, if_neg Bool.false_ne_true, if_pos hfound,
    SdpParser.referenceMedia]
  rcases hitems : split space line with _ | ⟨item, _ | ⟨a, _ | ⟨b, items⟩⟩⟩
  · rfl
  · rfl
  · rfl
  · dsimp only
    rw [substrOrThrow_of_le (le_length_item hmedia hitems), ok_bind]

theorem parseLine_eq_roundEnd {st st' : SdpParser} (h : st.parseMedia line = .ok st') :
    st.parseLine env line = st'.roundEnd (st'.parseSection env line) := by
  cases hread : st'.parseSection env line <;>
    simp only [SdpParser.parseLine, h, hread, SdpParser.roundEnd]

theorem parseLine_eq {st : SdpParser} (h : ByStart env st.mediaType line) :
    st.parseLine env line = st.roundEnd (st.referenceRead env line) := by
  obtain ⟨hmedia, hsection⟩ := h
  cases hgroup : line.contains (lit "m=group:BUNDLE") with
  | true =>
    have hkind := lineKind?_eq (hmedia.head hgroup) (by intro hkind; cases hkind)
    have hparse : st.parseMedia line = .ok (st.addBundle (split space line)) := if_pos hgroup
    have hnot : ¬IsMediaLine line := fun hline ↦ by rw [hline.1] at hgroup; cases hgroup
    have hafter : mediaTypeAfter st.mediaType line = st.mediaType := if_neg hnot
    rw [hafter] at hsection
    have hread := parseSection_eq (st.addBundle (split space line))
      (hsection fun hrejects ↦ hnot hrejects.1)
    rw [parseLine_eq_roundEnd hparse, hread, referenceSection_skip env _ hkind (.inl rfl),
      SdpParser.referenceRead, hkind]
    exact SdpParser.roundEnd.eq_2 ..
  | false =>
    have hmedia := hmedia.tail hgroup
    cases hfound : line.contains (lit "m=") with
    | true =>
      have hstart := hmedia.head hfound
      have hkind := lineKind?_eq hstart fun _ hgroupStart ↦
        Bool.false_ne_true (hgroup.symm.trans (contains_of_start hgroupStart))
      have hread : st.referenceRead env line = st.parseMedia line := by
        rw [parseMedia_eq st hgroup hstart, SdpParser.referenceRead, hkind]
      rw [hread]
      cases hparse : st.parseMedia line with
      | error e =>
        rw [SdpParser.parseLine, hparse, SdpParser.roundEnd]
      | ok st' =>
        have haccepts := (parseMedia_failsWhen.of_ok hparse).2
        have hsection := hsection haccepts
        rw [← mediaType_of_parseMedia hparse] at hsection
        rw [parseLine_eq_roundEnd hparse, parseSection_eq st' hsection,
          referenceSection_skip env st' hkind (.inr rfl)]
        exact SdpParser.roundEnd.eq_2 ..
    | false =>
      have hnot : ¬IsMediaLine line := fun hline ↦ by rw [hline.2] at hfound; cases hfound
      have hafter : mediaTypeAfter st.mediaType line = st.mediaType := if_neg hnot
      rw [hafter] at hsection
      have hparse : st.parseMedia line = .ok st := by
        rw [SdpParser.parseMedia, if_neg (by rw [hgroup]; exact Bool.false_ne_true),
          if_neg (by rw [hfound]; exact Bool.false_ne_true)]
      have hread := parseSection_eq st (hsection fun hrejects ↦ hnot hrejects.1)
      rw [parseLine_eq_roundEnd hparse, hread,
        referenceRead_eq (lineKind?_ne .group hgroup) (lineKind?_ne .media hfound)]

/-! ## A text

As long as the two have read the same lines they are in the same state. They differ at a line that
is not read by its start, or both end there. -/

theorem parseLines_eq {lines : List ByteString} {st : SdpParser}
    (h : ReadByStart env st.mediaType lines) :
    st.parseLines env lines = st.referenceLines env lines := by
  induction lines generalizing st with
  | nil => rfl
  | cons line lines ih =>
    obtain ⟨hline, hrest⟩ := h
    have hparse := parseLine_eq hline
    rw [SdpParser.parseLines, SdpParser.referenceLines]
    cases hread : st.referenceRead env line with
    | error e =>
      rw [hparse, hread]
      dsimp only [SdpParser.roundEnd]
    | ok st' =>
      rw [hread, SdpParser.roundEnd] at hparse
      have hrejects : ¬LineRejects env st.mediaType line := by
        rw [← parseLine_eq_reject, hparse]
        intro hnone
        cases hnone
      have hcuts : ¬LineCuts env st.mediaType line := by
        rw [← parseLine_eq_outOfRange, hparse]
        intro hnone
        cases hnone
      have hrest := hrest hrejects hcuts
      rw [← mediaType_of_parseLine hparse] at hrest
      rw [hparse]
      exact ih hrest

end Lines

/-- The two parsers agree on a text in which every line that is reached is read by its start. -/
theorem parseRemoteSdp_eq_referenceRemoteSdp (env : SdpEnv) (sdp : ByteString)
    (h : ReadByStart env [] (sdpLines sdp)) :
    parseRemoteSdp env sdp = referenceRemoteSdp env sdp := by
  rw [parseRemoteSdp_eq_loopOutcome, referenceRemoteSdp, parseLines_eq h]

/-- A call that can read the numbers and nothing else. -/
def numberEnv : SdpEnv := ⟨fun s ↦ if s = lit "1" then some 1 else none, fun _ _ ↦ none⟩

/-- A section with a user fragment and a source. -/
theorem parseRemoteSdp_eq_referenceRemoteSdp_section :
    parseRemoteSdp numberEnv (lit "m=audio 9 RTP\na=ice-ufrag:x\na=ssrc:1 cname:y") =
      referenceRemoteSdp numberEnv (lit "m=audio 9 RTP\na=ice-ufrag:x\na=ssrc:1 cname:y") := by
  apply parseRemoteSdp_eq_referenceRemoteSdp
  have hlines : sdpLines (lit "m=audio 9 RTP\na=ice-ufrag:x\na=ssrc:1 cname:y") =
      [lit "m=audio 9 RTP", lit "a=ice-ufrag:x", lit "a=ssrc:1 cname:y"] := by decide
  have hline : ∀ line ∈ [lit "m=audio 9 RTP", lit "a=ice-ufrag:x", lit "a=ssrc:1 cname:y"],
      ∀ mediaType, ByStart numberEnv mediaType line := by
    intro line hline mediaType
    apply ByStart.of_atStart <;> revert line <;> decide
  rw [hlines]
  exact ⟨hline _ (by decide) _, fun _ _ ↦ ⟨hline _ (by decide) _, fun _ _ ↦
    ⟨hline _ (by decide) _, fun _ _ ↦ trivial⟩⟩⟩

/-- In the first text a name ends in `m=`; in the second one an attribute has no value. -/
theorem not_parseRemoteSdp_eq_referenceRemoteSdp :
    parseRemoteSdp numberEnv (lit "m=audio 9 RTP\na=ssrc:1 cname:YWJjZGm=") ≠
        referenceRemoteSdp numberEnv (lit "m=audio 9 RTP\na=ssrc:1 cname:YWJjZGm=") ∧
      parseRemoteSdp numberEnv (lit "m=audio 9 RTP\na=ssrc:1 cname") ≠
        referenceRemoteSdp numberEnv (lit "m=audio 9 RTP\na=ssrc:1 cname") := by
  decide

end XrtcServer
