import XrtcServer.Pc.SdpParser

/-!
# Which answers make the parser throw

`set_remote_sdp` recognises a line by `find` — the keyword may stand anywhere — and then cuts it at
the offset the keyword would end at if it stood first. Five `substr` calls work this way, with
start positions 2, 14, 2, 5 and 2.

## Two safe cuts and three others

The two that cut the line itself are safe, because the keyword found in it is longer than that. The
other three cut a *token* of the line, and nothing relates the token to the keyword: an item of an
`m=` line may have one byte, the first token of a fingerprint line may be the bare keyword, and the
text before the first space of a source line may be anything.

## The condition

The predicates below say what such a line looks like, and what a line looks like that the parser
rejects, in terms of the pieces of the line alone. A line is judged in the section it falls in, so
`CutReached` walks down the lines with the running media type and stops where the loop stops. The
last theorem is then exact: the call returns if and only if no cut is reached.
-/

namespace XrtcServer

open ByteString

/-! ## The shape of a line

For each of the three cuts there is a predicate that says when it fails, and beside it one that says
when the same function rejects the line first. Both look at the tokens only. -/

/-- A line that opens a section, as the loop sees it. -/
def IsMediaLine (line : ByteString) : Prop :=
  line.contains (lit "m=group:BUNDLE") = false ∧ line.contains (lit "m=") = true

instance (line : ByteString) : Decidable (IsMediaLine line) := inferInstanceAs (Decidable (_ ∧ _))

/-- The media type a section line names: its first item from the third byte on. -/
def mediaTypeOf (line : ByteString) : ByteString := ((split space line).headD []).drop 2

/-- The running media type after a line. -/
def mediaTypeAfter (mediaType line : ByteString) : ByteString :=
  if IsMediaLine line then mediaTypeOf line else mediaType

def MediaRejects (line : ByteString) : Prop :=
  IsMediaLine line ∧ (split space line).length ≤ 2

/-- `items[0].substr(2)` on an item of fewer than two bytes. -/
def MediaCuts (line : ByteString) : Prop :=
  IsMediaLine line ∧ 2 < (split space line).length ∧ ((split space line).headD []).length < 2

/-- A line `parse_transport_info` reads a fingerprint from. -/
def IsFingerprintLine (line : ByteString) : Prop :=
  line.contains (lit "a=ice-ufrag") = false ∧ line.contains (lit "a=ice-pwd") = false ∧
    line.contains (lit "a=fingerprint") = true

/-- `items[0].substr(14)` on a token of fewer than fourteen bytes. -/
def FingerprintCuts (line : ByteString) : Prop :=
  IsFingerprintLine line ∧
    ∃ item content, tokenize space line = [item, content] ∧ item.length < 14

def TransportRejects (env : SdpEnv) (line : ByteString) : Prop :=
  ((line.contains (lit "a=ice-ufrag") = true ∨ line.contains (lit "a=ice-pwd") = true) ∧
      (tokenize colon line).length ≠ 2) ∨
    IsFingerprintLine line ∧ ((tokenize space line).length ≠ 2 ∨
      ∃ item content, tokenize space line = [item, content] ∧ 14 ≤ item.length ∧
        env.createUniqueFromRfc4572 ((item.drop 14).map toLower) content = none)

/-- `field1.substr(5)` on a first field of fewer than five bytes. -/
def SsrcCuts (line : ByteString) : Prop :=
  line.contains (lit "a=ssrc:") = true ∧
    ∃ field1 field2, tokenizeFirst space (line.drop 2) = some (field1, field2) ∧ field1.length < 5

def SsrcRejects (env : SdpEnv) (line : ByteString) : Prop :=
  line.contains (lit "a=ssrc:") = true ∧
    (tokenizeFirst space (line.drop 2) = none ∨
      ∃ field1 field2, tokenizeFirst space (line.drop 2) = some (field1, field2) ∧
        5 ≤ field1.length ∧
        (env.fromString (field1.drop 5) = none ∨ tokenizeFirst colon field2 = none ∨
          ∃ value, tokenizeFirst colon field2 = some (lit "msid", value) ∧
            2 < (split space value).length))

def GroupRejects (env : SdpEnv) (line : ByteString) : Prop :=
  line.contains (lit "a=ssrc-group:") = true ∧
    ((split space (line.drop 2)).length < 2 ∨
      (tokenize colon ((split space (line.drop 2)).headD [])).length ≠ 2 ∨
      ∃ ssrcId ∈ (split space (line.drop 2)).tail, env.fromString ssrcId = none)

/-! ## A line in its section -/

def IsSection (mediaType : ByteString) : Prop :=
  mediaType = lit "audio" ∨ mediaType = lit "video"

def SectionCuts (env : SdpEnv) (mediaType line : ByteString) : Prop :=
  IsSection mediaType ∧ (FingerprintCuts line ∨
    ¬TransportRejects env line ∧ ¬(mediaType = lit "video" ∧ GroupRejects env line) ∧
      SsrcCuts line)

def SectionRejects (env : SdpEnv) (mediaType line : ByteString) : Prop :=
  IsSection mediaType ∧ ¬FingerprintCuts line ∧
    (TransportRejects env line ∨ mediaType = lit "video" ∧ GroupRejects env line ∨
      SsrcRejects env line)

/-- A `substr` of the line starts past the end of its token. -/
def LineCuts (env : SdpEnv) (mediaType line : ByteString) : Prop :=
  ¬MediaRejects line ∧ (MediaCuts line ∨ SectionCuts env (mediaTypeAfter mediaType line) line)

/-- The line makes the call return `-1`. -/
def LineRejects (env : SdpEnv) (mediaType line : ByteString) : Prop :=
  ¬MediaCuts line ∧
    (MediaRejects line ∨ SectionRejects env (mediaTypeAfter mediaType line) line)

/-- Reading the lines from the top, a line that cuts comes before any line that is rejected. -/
def CutReached (env : SdpEnv) : ByteString → List ByteString → Prop
  | _, [] => False
  | mediaType, line :: lines => LineCuts env mediaType line ∨
      ¬LineRejects env mediaType line ∧ CutReached env (mediaTypeAfter mediaType line) lines

/-! ## Errors of a sequence of steps

A round is a chain of steps that may throw or reject, and the first one that does decides.
`FailsWhen` states both conditions of a step at once, so that those of a chain are put together
without going through the cases again. -/

theorem ok_bind {α β : Type} (a : α) (f : α → Except SdpError β) : (.ok a >>= f) = f a := rfl

theorem error_bind {α β : Type} (e : SdpError) (f : α → Except SdpError β) :
    ((.error e : Except SdpError α) >>= f) = .error e := rfl

theorem bind_eq_ok {α β : Type} {x : Except SdpError α} {f : α → Except SdpError β} {b : β} :
    (x >>= f) = .ok b ↔ ∃ a, x = .ok a ∧ f a = .ok b := by
  rcases x with e | a
  · simp [error_bind]
  · simp [ok_bind]

/-- The step throws exactly when `C` holds, and rejects exactly when `R` holds. -/
def FailsWhen {α : Type} (x : Except SdpError α) (C R : Prop) : Prop :=
  (x = .error .outOfRange ↔ C) ∧ (x = .error .reject ↔ R)

namespace FailsWhen

variable {α β : Type} {x : Except SdpError α} {C R C' R' : Prop}

theorem ok (a : α) : FailsWhen (.ok a) False False := by simp [FailsWhen]

theorem congr (h : FailsWhen x C R) (hC : C ↔ C') (hR : R ↔ R') : FailsWhen x C' R' :=
  ⟨h.1.trans hC, h.2.trans hR⟩

theorem not_both (h : FailsWhen x C R) : ¬(C ∧ R) := by
  rintro ⟨hC, hR⟩
  have := (h.1.mpr hC).symm.trans (h.2.mpr hR)
  simp at this

theorem of_ok {a : α} (h : FailsWhen x C R) (ha : x = .ok a) : ¬C ∧ ¬R := by
  rw [← h.1, ← h.2, ha]
  simp

theorem bind {f : α → Except SdpError β} (h : FailsWhen x C R)
    (hf : ∀ a, x = .ok a → FailsWhen (f a) C' R') :
    FailsWhen (x >>= f) (C ∨ ¬C ∧ ¬R ∧ C') (R ∨ ¬C ∧ ¬R ∧ R') := by
  rcases x with (_ | _) | a
  · have hR : R := h.2.mp rfl
    have hC : ¬C := fun hC ↦ h.not_both ⟨hC, hR⟩
    simp [FailsWhen, error_bind, hR, hC]
  · have hC : C := h.1.mp rfl
    have hR : ¬R := fun hR ↦ h.not_both ⟨hC, hR⟩
    simp [FailsWhen, error_bind, hR, hC]
  · obtain ⟨hC, hR⟩ := h.of_ok rfl
    rw [ok_bind]
    exact (hf a rfl).congr (by simp [hC, hR]) (by simp [hC, hR])

end FailsWhen

theorem substrOrThrow_of_lt {s : ByteString} {pos : ℕ} (h : s.length < pos) :
    substrOrThrow s pos = .error .outOfRange := by
  rw [substrOrThrow, substr_eq_none.mpr h]

theorem substrOrThrow_of_le {s : ByteString} {pos : ℕ} (h : pos ≤ s.length) :
    substrOrThrow s pos = .ok (s.drop pos) := by
  rw [substrOrThrow, substr_eq_some.mpr ⟨h, rfl⟩]

/-- The cuts of the line itself: the keyword found in it reaches past the start position. -/
theorem substrOrThrow_of_contains {line pat : ByteString} {pos : ℕ} (h : line.contains pat = true)
    (hpos : pos ≤ pat.length) : substrOrThrow line pos = .ok (line.drop pos) :=
  substrOrThrow_of_le (hpos.trans (length_le_of_contains h))

theorem getAttribute_eq_nil {line : ByteString} :
    getAttribute line = [] ↔ (tokenize colon line).length ≠ 2 := by
  have hne : ∀ t ∈ tokenize colon line, t ≠ [] := fun _ ↦ ne_nil_of_mem_tokenize
  rw [getAttribute]
  rcases h : tokenize colon line with _ | ⟨a, _ | ⟨b, _ | ⟨c, l⟩⟩⟩
  · simp
  · simp
  · simpa using hne b (by simp [h])
  · simp

/-! ## One lemma for each function of the parser

`FailsWhen` for each of the functions, with the predicate that was given for it above, and then for
the rounds. A line that throws in one function has been accepted by the ones before it, which is why
the conditions of a round are not just disjunctions. -/

section Functions

variable {env : SdpEnv} {line : ByteString}

theorem attribute_eq_error {td : TransportDescription} {e : SdpError} :
    (if getAttribute line = [] then .error .reject else .ok td : Except SdpError _) = .error e ↔
      e = .reject ∧ (tokenize colon line).length ≠ 2 := by
  rw [← getAttribute_eq_nil]
  by_cases ha : getAttribute line = []
  · rw [if_pos ha]
    simp [ha, eq_comm]
  · rw [if_neg ha]
    simp [ha]

theorem parseTransportInfo_failsWhen {td : TransportDescription} :
    FailsWhen (parseTransportInfo env td line) (FingerprintCuts line)
      (TransportRejects env line) := by
  rw [FailsWhen, parseTransportInfo, FingerprintCuts, TransportRejects, IsFingerprintLine]
  by_cases hu : line.contains (lit "a=ice-ufrag") = true
  · rw [if_pos hu, attribute_eq_error, attribute_eq_error]
    simp [hu]
  rw [if_neg hu]
  by_cases hp : line.contains (lit "a=ice-pwd") = true
  · rw [if_pos hp, attribute_eq_error, attribute_eq_error]
    simp [hp]
  rw [if_neg hp]
  by_cases hf : line.contains (lit "a=fingerprint") = true
  · rw [if_pos hf]
    rcases ht : tokenize space line with _ | ⟨item, _ | ⟨content, _ | ⟨c, l⟩⟩⟩
    · simp [hu, hp, hf]
    · simp [hu, hp, hf]
    · dsimp only
      rcases lt_or_ge item.length 14 with hlt | hge
      · rw [substrOrThrow_of_lt hlt, error_bind]
        simp [hu, hp, hf, hlt, hlt.not_ge]
      · rw [substrOrThrow_of_le hge, ok_bind]
        rcases hc : env.createUniqueFromRfc4572 ((item.drop 14).map toLower) content with _ | fp
        · rw [List.map_drop] at hc
          simp [hu, hp, hf, hge, hge.not_gt, hc]
        · rw [List.map_drop] at hc
          simp [hu, hp, hf, hge.not_gt, hc]
    · simp [hu, hp, hf]
  · simp [hu, hp, hf]

theorem parseSsrcInfo_failsWhen {infos : List SsrcInfo} :
    FailsWhen (parseSsrcInfo env infos line) (SsrcCuts line) (SsrcRejects env line) := by
  rw [FailsWhen, parseSsrcInfo, SsrcCuts, SsrcRejects]
  by_cases hs : line.contains (lit "a=ssrc:") = true
  · rw [if_pos hs, substrOrThrow_of_contains hs (by decide), ok_bind]
    rcases ht : tokenizeFirst space (line.drop 2) with _ | ⟨field1, field2⟩
    · simp [hs]
    dsimp only
    rcases lt_or_ge field1.length 5 with hlt | hge
    · rw [substrOrThrow_of_lt hlt, error_bind]
      simp [hs, hlt, hlt.not_ge]
    rw [substrOrThrow_of_le hge, ok_bind]
    rcases hf : env.fromString (field1.drop 5) with _ | ssrcId
    · simp [hs, hge, hge.not_gt, hf]
    rcases ha : tokenizeFirst colon field2 with _ | ⟨attr, value⟩
    · simp [hs, hge, hge.not_gt, ha]
    dsimp only
    by_cases hc : attr = lit "cname"
    · have : ¬lit "cname" = lit "msid" := by decide
      rw [if_pos hc]
      simp [hs, hge.not_gt, hf, ha, hc, this]
    rw [if_neg hc]
    by_cases hm : attr = lit "msid"
    · rw [if_pos hm]
      rcases hv : split space value with _ | ⟨a, _ | ⟨b, _ | ⟨c, l⟩⟩⟩
      · exact absurd hv (split_ne_nil _ _)
      · simp [hs, hge.not_gt, hf, ha, hm, hv]
      · simp [hs, hge.not_gt, hf, ha, hm, hv]
      · simp [hs, hge, hge.not_gt, ha, hm, hv]
    · rw [if_neg hm]
      simp [hs, hge.not_gt, hf, ha, hm]
  · simp [hs]

theorem parseSsrcGroupInfo_failsWhen {groups : List SsrcGroup} :
    FailsWhen (parseSsrcGroupInfo env groups line) False (GroupRejects env line) := by
  rw [FailsWhen, parseSsrcGroupInfo, GroupRejects]
  by_cases hs : line.contains (lit "a=ssrc-group:") = true
  · rw [if_pos hs, substrOrThrow_of_contains hs (by decide), ok_bind]
    rcases ht : split space (line.drop 2) with _ | ⟨field, _ | ⟨ssrcId, ssrcIds⟩⟩
    · simp [hs]
    · simp [hs]
    dsimp only
    rw [List.headD_cons, List.tail_cons, ← getAttribute_eq_nil]
    by_cases ha : getAttribute field = []
    · rw [if_pos ha]
      simp [hs, ha]
    rw [if_neg ha, ← mapM_eq_none]
    rcases hm : (ssrcId :: ssrcIds).mapM env.fromString with _ | ssrcs
    · simp [hs]
    · simp [ha]
  · simp [hs]

theorem parseMedia_failsWhen {st : SdpParser} :
    FailsWhen (st.parseMedia line) (MediaCuts line) (MediaRejects line) := by
  rw [FailsWhen, SdpParser.parseMedia, MediaCuts, MediaRejects, IsMediaLine]
  by_cases hb : line.contains (lit "m=group:BUNDLE") = true
  · simp [hb]
  rw [if_neg hb]
  by_cases hm : line.contains (lit "m=") = true
  · rw [if_pos hm]
    rcases hi : split space line with _ | ⟨item, _ | ⟨a, _ | ⟨b, items⟩⟩⟩
    · exact absurd hi (split_ne_nil _ _)
    · simp [hb, hm]
    · simp [hb, hm]
    dsimp only
    rcases lt_or_ge item.length 2 with hlt | hge
    · rw [substrOrThrow_of_lt hlt, error_bind]
      simp [hb, hm, hlt]
    · rw [substrOrThrow_of_le hge, ok_bind]
      have hgt : ¬item.length < 2 := hge.not_gt
      split_ifs <;> simp [hgt]
  · simp [hm]

@[simp] theorem mediaType_addBundle (st : SdpParser) (items : List ByteString) :
    (st.addBundle items).mediaType = st.mediaType := rfl

/-- A line the first part of the loop accepts leaves the running media type it announces. -/
theorem mediaType_of_parseMedia {st st' : SdpParser} (h : st.parseMedia line = .ok st') :
    st'.mediaType = mediaTypeAfter st.mediaType line := by
  rw [SdpParser.parseMedia] at h
  rw [mediaTypeAfter]
  by_cases hb : line.contains (lit "m=group:BUNDLE") = true
  · rw [if_pos hb] at h
    obtain rfl := Except.ok.inj h
    rw [if_neg fun hm ↦ by simp [hm.1] at hb]
    exact mediaType_addBundle st _
  rw [if_neg hb] at h
  by_cases hm : line.contains (lit "m=") = true
  · rw [if_pos hm] at h
    rw [if_pos ⟨by simpa using hb, hm⟩, mediaTypeOf]
    rcases hi : split space line with _ | ⟨item, _ | ⟨a, _ | ⟨b, items⟩⟩⟩ <;> rw [hi] at h
    · cases h
    · cases h
    · cases h
    dsimp only at h
    rcases lt_or_ge item.length 2 with hlt | hge
    · rw [substrOrThrow_of_lt hlt, error_bind] at h
      cases h
    · rw [substrOrThrow_of_le hge, ok_bind] at h
      split_ifs at h <;> exact Except.ok.inj h ▸ rfl
  · rw [if_neg hm] at h
    obtain rfl := Except.ok.inj h
    rw [if_neg fun hm' ↦ hm hm'.2]

theorem parseSection_failsWhen {st : SdpParser} :
    FailsWhen (st.parseSection env line) (SectionCuts env st.mediaType line)
      (SectionRejects env st.mediaType line) := by
  have htransport (td : TransportDescription) :
      FailsWhen (parseTransportInfo env td line) (FingerprintCuts line)
        (TransportRejects env line) :=
    parseTransportInfo_failsWhen
  have hgroup (groups : List SsrcGroup) :
      FailsWhen (parseSsrcGroupInfo env groups line) False (GroupRejects env line) :=
    parseSsrcGroupInfo_failsWhen
  have hssrc (infos : List SsrcInfo) :
      FailsWhen (parseSsrcInfo env infos line) (SsrcCuts line) (SsrcRejects env line) :=
    parseSsrcInfo_failsWhen
  rw [SdpParser.parseSection, SectionCuts, SectionRejects, IsSection]
  -- from here on the predicates are propositional atoms
  generalize FingerprintCuts line = F, TransportRejects env line = T, GroupRejects env line = G,
    SsrcCuts line = S, SsrcRejects env line = R at htransport hgroup hssrc ⊢
  have hF : ¬(F ∧ T) := (htransport {}).not_both
  by_cases ha : st.mediaType = lit "audio"
  · have hv : ¬st.mediaType = lit "video" := fun hv ↦ absurd (ha.symm.trans hv) (by decide)
    rw [if_pos ha]
    refine ((htransport _).bind fun td _ ↦ (hssrc _).bind fun infos _ ↦ .ok _).congr ?_ ?_ <;>
    · rw [eq_true ha, eq_false hv]
      clear htransport hgroup hssrc ha hv
      tauto
  rw [if_neg ha]
  by_cases hv : st.mediaType = lit "video"
  · rw [if_pos hv]
    refine ((htransport _).bind fun td _ ↦ (hgroup _).bind fun groups _ ↦
      (hssrc _).bind fun infos _ ↦ .ok _).congr ?_ ?_ <;>
    · rw [eq_true hv]
      clear htransport hgroup hssrc ha hv
      tauto
  · rw [if_neg hv]
    exact (FailsWhen.ok _).congr (by simp [ha, hv]) (by simp [ha, hv])

/-- What an accepted line can have done to the parser: only the transport description and the
sources of the section it stands in change. -/
theorem parseSection_cases {st st' : SdpParser} (h : st.parseSection env line = .ok st') :
    (st.mediaType = lit "audio" ∧ ∃ td infos, parseTransportInfo env st.audioTd line = .ok td ∧
        st' = { st with audioTd := td, audioSsrcInfo := infos }) ∨
      (st.mediaType = lit "video" ∧ ∃ td groups infos,
        parseTransportInfo env st.videoTd line = .ok td ∧
        st' = { st with videoTd := td, videoSsrcGroups := groups, videoSsrcInfo := infos }) ∨
      (¬IsSection st.mediaType ∧ st' = st) := by
  rw [SdpParser.parseSection] at h
  split_ifs at h with ha hv
  · obtain ⟨td, htd, h⟩ := bind_eq_ok.mp h
    obtain ⟨infos, -, h⟩ := bind_eq_ok.mp h
    exact .inl ⟨ha, td, infos, htd, (Except.ok.inj h).symm⟩
  · obtain ⟨td, htd, h⟩ := bind_eq_ok.mp h
    obtain ⟨groups, -, h⟩ := bind_eq_ok.mp h
    obtain ⟨infos, -, h⟩ := bind_eq_ok.mp h
    exact .inr <| .inl ⟨hv, td, groups, infos, htd, (Except.ok.inj h).symm⟩
  · exact .inr <| .inr ⟨fun hs ↦ hs.elim ha hv, (Except.ok.inj h).symm⟩

theorem mediaType_of_parseSection {st st' : SdpParser} (h : st.parseSection env line = .ok st') :
    st'.mediaType = st.mediaType := by
  rcases parseSection_cases h with
    ⟨-, td, infos, -, rfl⟩ | ⟨-, td, groups, infos, -, rfl⟩ | ⟨-, rfl⟩
  · rfl
  · rfl
  · rfl

/-! ## The loop -/

theorem parseLine_eq_outOfRange {st : SdpParser} :
    (st.parseLine env line).2 = some .outOfRange ↔ LineCuts env st.mediaType line := by
  have hmedia : FailsWhen (st.parseMedia line) _ _ := parseMedia_failsWhen
  rw [SdpParser.parseLine, LineCuts]
  rcases hm : st.parseMedia line with e | st'
  · rw [hm] at hmedia
    have hr : ¬(MediaRejects line ∧ MediaCuts line) := fun h ↦ hmedia.not_both h.symm
    rcases e with _ | _
    · have := hmedia.2.mp rfl
      simp [this]
    · have := hmedia.1.mp rfl
      simp only [this, and_true] at hr
      simp [this, hr]
  · obtain ⟨hc, hr⟩ := hmedia.of_ok hm
    have hsection : FailsWhen (st'.parseSection env line) _ _ := parseSection_failsWhen
    rw [mediaType_of_parseMedia hm] at hsection
    have : (st'.parseSection env line = .error .outOfRange) ↔ _ := hsection.1
    simp only [hc, hr, not_false_eq_true, true_and, false_or, ← this]
    rcases st'.parseSection env line with e | st'' <;> simp

theorem parseLine_eq_reject {st : SdpParser} :
    (st.parseLine env line).2 = some .reject ↔ LineRejects env st.mediaType line := by
  have hmedia : FailsWhen (st.parseMedia line) _ _ := parseMedia_failsWhen
  rw [SdpParser.parseLine, LineRejects]
  rcases hm : st.parseMedia line with e | st'
  · rw [hm] at hmedia
    have hr : ¬(MediaCuts line ∧ MediaRejects line) := hmedia.not_both
    rcases e with _ | _
    · have := hmedia.2.mp rfl
      simp only [this, and_true] at hr
      simp [this, hr]
    · have := hmedia.1.mp rfl
      simp [this]
  · obtain ⟨hc, hr⟩ := hmedia.of_ok hm
    have hsection : FailsWhen (st'.parseSection env line) _ _ := parseSection_failsWhen
    rw [mediaType_of_parseMedia hm] at hsection
    have : (st'.parseSection env line = .error .reject) ↔ _ := hsection.2
    simp only [hc, hr, not_false_eq_true, true_and, false_or, ← this]
    rcases st'.parseSection env line with e | st'' <;> simp

theorem parseLine_eq_none {st st'' : SdpParser} :
    st.parseLine env line = (st'', none) ↔
      ∃ st', st.parseMedia line = .ok st' ∧ st'.parseSection env line = .ok st'' := by
  rw [SdpParser.parseLine]
  rcases hm : st.parseMedia line with e | st'
  · simp
  dsimp only
  rcases hs : st'.parseSection env line with e | t
  · simp [hs]
  · simp [hs]

theorem mediaType_of_parseLine {st st'' : SdpParser} (h : st.parseLine env line = (st'', none)) :
    st''.mediaType = mediaTypeAfter st.mediaType line := by
  obtain ⟨st', hm, hs⟩ := parseLine_eq_none.mp h
  rw [mediaType_of_parseSection hs, mediaType_of_parseMedia hm]

/-- The loop throws exactly when it reaches a line that cuts. -/
theorem parseLines_eq_outOfRange {lines : List ByteString} {st : SdpParser} :
    (st.parseLines env lines).2 = some .outOfRange ↔ CutReached env st.mediaType lines := by
  induction lines generalizing st with
  | nil => simp [SdpParser.parseLines, CutReached]
  | cons line lines ih =>
    rw [SdpParser.parseLines, CutReached, ← parseLine_eq_outOfRange, ← parseLine_eq_reject]
    rcases hl : st.parseLine env line with ⟨st', _ | e⟩
    · have hmt := mediaType_of_parseLine hl
      simp [ih, ← hmt]
    · rcases e with _ | _ <;> simp

end Functions

/-! ## The whole call -/

/-- The return value of the parsing part; `none` when the call ends in an exception. -/
def SdpOutcome.returnCode : SdpOutcome → Option ℤ
  | .invalid => some (-1)
  | .rejected _ => some (-1)
  | .outOfRange _ => none
  | .accepted _ => some 0

theorem parseRemoteSdp_returns_iff (env : SdpEnv) (sdp : ByteString) :
    (∃ code, (parseRemoteSdp env sdp).returnCode = some code ∧ (code = 0 ∨ code = -1)) ↔
      ¬CutReached env [] (sdpLines sdp) := by
  have hloop : (SdpParser.parseLines env {} (sdpLines sdp)).2 = some .outOfRange ↔
      CutReached env [] (sdpLines sdp) := parseLines_eq_outOfRange
  rw [parseRemoteSdp, ← hloop]
  split_ifs with hnil
  · have : sdpLines sdp = [] := by
      rw [sdpLines, hnil]
      split_ifs <;> rfl
    rw [this]
    simp [SdpOutcome.returnCode, SdpParser.parseLines]
  · rcases SdpParser.parseLines env {} (sdpLines sdp) with ⟨st, _ | (_ | _)⟩ <;>
      simp [SdpOutcome.returnCode]

/-- The first item of the only line is one byte long. -/
theorem not_parseRemoteSdp_returns :
    ¬∀ (env : SdpEnv) (sdp : ByteString), ∃ code,
      (parseRemoteSdp env sdp).returnCode = some code ∧ (code = 0 ∨ code = -1) := by
  intro h
  obtain ⟨code, hcode, -⟩ := h ⟨fun _ ↦ none, fun _ _ ↦ none⟩ (lit "a m= b")
  have : (parseRemoteSdp ⟨fun _ ↦ none, fun _ _ ↦ none⟩ (lit "a m= b")).returnCode = none := by
    decide
  rw [this] at hcode
  cases hcode

end XrtcServer
