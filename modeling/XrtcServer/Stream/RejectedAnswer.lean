import XrtcServer.Pc.AnswerFingerprint
import XrtcServer.Stream.RtcStream

/-!
# What a rejected answer leaves behind

`set_remote_sdp` collects the streams and the transport parameters of an answer in local variables
and hands them on when the whole text has been read. The description they belong to is replaced
before the first line, so a text that is rejected half way takes the description of the last answer
with it: what is left has the sections and groups opened so far, no streams and no transports.

The transport controller never hears of such a text. What is lost are the sources that the streams
of later viewers are made from.
-/

namespace XrtcServer

open ByteString

/-! ## The text -/

/-- No line of these ends the loop. -/
def Accepted (env : SdpEnv) (lines : List ByteString) : Prop :=
  ∀ before line, before ++ [line] <+: lines →
    ¬LineCuts env (sectionAt before) line ∧ ¬LineRejects env (sectionAt before) line

/-- The text is rejected at `line`, which comes after the lines `before`. -/
structure RejectedAt (env : SdpEnv) (sdp : ByteString) (before : List ByteString)
    (line : ByteString) : Prop where
  isPrefix : before ++ [line] <+: sdpLines sdp
  accepted : Accepted env before
  rejects : LineRejects env (sectionAt before) line

/-- An answer with the sections and the groups that the lines open, and nothing else. -/
def openedText (lines : List ByteString) : SessionDescription :=
  { groupsOnly lines with contents := (lines.flatMap openedBy).map fun type ↦ { type } }

instance (line : ByteString) : Decidable (MediaRejects line) :=
  inferInstanceAs (Decidable (_ ∧ _))

/-- The description that the text leaves when it is rejected at `line`: the line counts unless it is
rejected as one that opens a section. -/
def leftDescription (before : List ByteString) (line : ByteString) : SessionDescription :=
  openedText (if MediaRejects line then before else before ++ [line])

/-! ## The loop

A text is rejected at one line, and the description is what the lines before it have opened, with
what the first half of the round has made of the line itself. -/

namespace SdpParser

variable {env : SdpEnv} {line : ByteString} {lines before : List ByteString} {st st' : SdpParser}

theorem accepted_iff : Accepted env lines ↔ ∃ st, parseLines env {} lines = (st, none) := by
  induction lines using List.reverseRecOn with
  | nil =>
    refine iff_of_true (fun before line h ↦ ?_) ⟨_, rfl⟩
    simp at h
  | append_singleton lines line ih =>
    have hsplit : Accepted env (lines ++ [line]) ↔ Accepted env lines ∧
        ¬LineCuts env (sectionAt lines) line ∧ ¬LineRejects env (sectionAt lines) line := by
      constructor
      · exact fun h ↦ ⟨fun before l hp ↦ h before l (hp.trans (List.prefix_append ..)),
          h lines line (List.prefix_refl _)⟩
      · rintro ⟨hlines, hline⟩ before l hp
        rcases List.prefix_concat_iff.mp hp with heq | hp
        · obtain ⟨rfl, hl⟩ := List.append_inj' heq rfl
          obtain rfl := List.singleton_inj.mp hl
          exact hline
        · exact hlines before l hp
    rw [hsplit, ih, parseLines_append]
    rcases hst : parseLines env {} lines with ⟨st, _ | e⟩
    · have hsection : st.mediaType = sectionAt lines := (reads_nil.parseLines hst).mediaType
      have hcuts : (st.parseLine env line).2 = some .outOfRange ↔ _ := parseLine_eq_outOfRange
      have hrejects : (st.parseLine env line).2 = some .reject ↔ _ := parseLine_eq_reject
      rw [← hsection, ← hcuts, ← hrejects]
      dsimp only
      rw [parseLines]
      rcases st.parseLine env line with ⟨st', _ | (_ | _)⟩ <;> simp [parseLines]
    · simp

/-- A rejected text is rejected at the first line that does not pass. -/
theorem parseLines_eq_reject (st : SdpParser) :
    st.parseLines env lines = (st', some .reject) ↔ ∃ before line st₁,
      before ++ [line] <+: lines ∧ st.parseLines env before = (st₁, none) ∧
        st₁.parseLine env line = (st', some .reject) := by
  constructor
  · intro h
    induction lines generalizing st with
    | nil => cases h
    | cons line lines ih =>
      rw [parseLines] at h
      rcases hl : st.parseLine env line with ⟨st₁, _ | e⟩ <;> rw [hl] at h <;> dsimp only at h
      · obtain ⟨before, line', st₂, hp, hbefore, hline⟩ := ih st₁ h
        refine ⟨line :: before, line', st₂, ?_, ?_, hline⟩
        · exact List.prefix_cons_inj line |>.mpr hp
        · rw [parseLines, hl]
          exact hbefore
      · rw [← h]
        exact ⟨[], line, st, ⟨lines, rfl⟩, rfl, by rw [hl]⟩
  · rintro ⟨before, line, st₁, ⟨after, rfl⟩, hbefore, hline⟩
    have hone : st₁.parseLines env [line] = (st', some .reject) := by
      rw [parseLines, hline]
    rw [parseLines_append, parseLines_append, hbefore]
    dsimp only
    rw [hone]

/-- What the loop has opened when it stops at a line. -/
theorem unfinished_of_rejects (hr : st.Reads before)
    (h : st.parseLine env line = (st', some .reject)) :
    st'.unfinished = leftDescription before line := by
  have hmedia : FailsWhen (st.parseMedia line) (MediaCuts line) (MediaRejects line) :=
    parseMedia_failsWhen
  have hopened {st : SdpParser} {lines : List ByteString}
      (hcontents : st.contents = lines.flatMap openedBy)
      (hgroups : st.contentGroups = lines.filterMap groupOf) :
      st.unfinished = openedText lines := by
    rw [unfinished, openedText, groupsOnly, hcontents, hgroups]
  rw [parseLine] at h
  rw [leftDescription]
  rcases hm : st.parseMedia line with e | st₁ <;> rw [hm] at h hmedia
  · obtain ⟨rfl, he⟩ := Prod.mk.inj h
    rw [if_pos (hmedia.2.mp (congrArg _ (Option.some.inj he)))]
    exact hopened hr.contents hr.groups
  · rw [if_neg (hmedia.of_ok rfl).2]
    obtain ⟨hcontents, hgroups, -⟩ := parseMedia_cases hm
    dsimp only at h
    rcases hs : st₁.parseSection env line with e | st₂ <;> rw [hs] at h
    · obtain ⟨rfl, -⟩ := Prod.mk.inj h
      refine hopened ?_ ?_
      · rw [hcontents, hr.contents, List.flatMap_append, List.flatMap_singleton]
      · rw [hgroups, hr.groups, List.filterMap_append]
        rcases hg : groupOf line with _ | g <;> simp [hg]
    · cases h

end SdpParser

theorem parseRemoteSdp_rejected_iff (env : SdpEnv) (sdp : ByteString) (desc : SessionDescription) :
    parseRemoteSdp env sdp = .rejected desc ↔
      ∃ before line, RejectedAt env sdp before line ∧ desc = leftDescription before line := by
  have hloop : parseRemoteSdp env sdp = .rejected desc ↔ ∃ st,
      SdpParser.parseLines env {} (sdpLines sdp) = (st, some .reject) ∧ desc = st.unfinished := by
    rw [parseRemoteSdp]
    split_ifs with hnil
    · have : sdpLines sdp = [] := by
        rw [sdpLines, hnil]
        split_ifs <;> rfl
      rw [this]
      simp [SdpParser.parseLines]
    · rcases SdpParser.parseLines env {} (sdpLines sdp) with ⟨st, _ | (_ | _)⟩ <;>
        simp [eq_comm]
  have hsection {before : List ByteString} {st : SdpParser}
      (hst : SdpParser.parseLines env {} before = (st, none)) :
      st.Reads before := SdpParser.reads_nil.parseLines hst
  rw [hloop]
  constructor
  · rintro ⟨st', hparse, rfl⟩
    obtain ⟨before, line, st, hp, hbefore, hline⟩ :=
      (SdpParser.parseLines_eq_reject {}).mp hparse
    have hrejects : (st.parseLine env line).2 = some .reject := by rw [hline]
    rw [parseLine_eq_reject, (hsection hbefore).mediaType] at hrejects
    exact ⟨before, line, ⟨hp, SdpParser.accepted_iff.mpr ⟨st, hbefore⟩, hrejects⟩,
      SdpParser.unfinished_of_rejects (hsection hbefore) hline⟩
  · rintro ⟨before, line, ⟨hp, haccepted, hrejects⟩, rfl⟩
    obtain ⟨st, hbefore⟩ := SdpParser.accepted_iff.mp haccepted
    rw [← (hsection hbefore).mediaType, ← parseLine_eq_reject] at hrejects
    have hline : st.parseLine env line = ((st.parseLine env line).1, some .reject) := by
      rw [← hrejects]
    exact ⟨_, (SdpParser.parseLines_eq_reject {}).mpr ⟨before, line, st, hp, hbefore, hline⟩,
      (SdpParser.unfinished_of_rejects (hsection hbefore) hline).symm⟩

/-! ## The stream

What `-1` leaves is compared with what was there. Apart from a text without any line, for which
nothing is replaced, the two agree only if the description was already an empty one of that
kind. -/

/-- The answer changes neither the description, nor the sources of later viewers, nor the transport
controller. -/
structure KeepsAnswer {Ctx : Type} (s s' : RtcStream Ctx) : Prop where
  remoteDesc : s'.pc.remoteDesc = s.pc.remoteDesc
  source : ∀ type, s'.getSource type = s.getSource type
  transports : s'.pc.transportController = s.pc.transportController

/-- **Rejected answers.** A text for which `set_remote_sdp` returns `-1` leaves the stream as it was
exactly if it has no line at all, or the stream had just the description that the text leaves. -/
theorem keepsAnswer_iff {Ctx : Type} (env : SdpEnv) (s : RtcStream Ctx) (sdp : ByteString)
    {calls : List RemoteCall} (h : (s.pc.setRemoteSdp env sdp).2 = .returns (-1) calls) :
    KeepsAnswer s (s.setRemoteSdp env sdp) ↔
      tokenize newline sdp = [] ∨
        ∃ before line, RejectedAt env sdp before line ∧
          s.pc.remoteDesc = some (leftDescription before line) := by
  have hkeeps (desc : SessionDescription)
      (hset : (s.pc.setRemoteSdp env sdp).1 = { s.pc with remoteDesc := some desc }) :
      KeepsAnswer s (s.setRemoteSdp env sdp) ↔ s.pc.remoteDesc = some desc := by
    constructor
    · intro hk
      have := hk.remoteDesc
      rw [RtcStream.setRemoteSdp, hset] at this
      exact this.symm
    · intro heq
      have hsame : s.setRemoteSdp env sdp = s := by
        rw [RtcStream.setRemoteSdp, hset, ← heq]
      rw [hsame]
      exact ⟨rfl, fun _ ↦ rfl, rfl⟩
  rcases hparse : parseRemoteSdp env sdp with _ | desc | desc | desc
  · -- no line at all
    have hnil : tokenize newline sdp = [] := by
      rw [parseRemoteSdp] at hparse
      split_ifs at hparse with hnil
      · exact hnil
      · rcases hl : SdpParser.parseLines env {} (sdpLines sdp) with ⟨st, _ | (_ | _)⟩ <;>
          rw [hl] at hparse <;> cases hparse
    have hsame : s.setRemoteSdp env sdp = s := by
      rw [RtcStream.setRemoteSdp, PeerConnection.setRemoteSdp, hparse]
    refine iff_of_true ?_ (.inl hnil)
    rw [hsame]
    exact ⟨rfl, fun _ ↦ rfl, rfl⟩
  · have hset : (s.pc.setRemoteSdp env sdp).1 = { s.pc with remoteDesc := some desc } := by
      rw [PeerConnection.setRemoteSdp, hparse]
    have hne : tokenize newline sdp ≠ [] := by
      intro hnil
      rw [parseRemoteSdp, if_pos hnil] at hparse
      cases hparse
    rw [hkeeps desc hset, or_iff_right hne]
    constructor
    · intro heq
      obtain ⟨before, line, hat, rfl⟩ := (parseRemoteSdp_rejected_iff env sdp desc).mp hparse
      exact ⟨before, line, hat, heq⟩
    · rintro ⟨before, line, hat, heq⟩
      have := (parseRemoteSdp_rejected_iff env sdp _).mpr ⟨before, line, hat, rfl⟩
      rw [hparse] at this
      rw [heq, SdpOutcome.rejected.inj this]
  · rw [PeerConnection.setRemoteSdp, hparse] at h
    cases h
  · rw [PeerConnection.setRemoteSdp, hparse] at h
    dsimp only at h
    rcases hc : s.pc.transportController.setRemoteDescription desc with _ | calls' <;>
      rw [hc] at h <;> cases h

/-- The conversion of one number, and fingerprints as they are written. -/
def answerEnv : SdpEnv where
  fromString s := if s = lit "1001" then some 1001 else none
  createUniqueFromRfc4572 algorithm digest := some ⟨algorithm, digest⟩

/-- A publisher whose answer has one audio source. -/
def answeredStream : RtcStream Unit :=
  ({ streamType := .push, uid := 1, streamName := lit "s", audio := true, video := false } :
    RtcStream Unit).setRemoteSdp answerEnv
      (lit "m=audio 9 x\na=fingerprint:sha-256 AB\na=ssrc:1001 msid:s t")

/-- A text without a line is rejected before anything is replaced. -/
theorem keepsAnswer_noLine : KeepsAnswer answeredStream
    (answeredStream.setRemoteSdp answerEnv (lit "\n\n")) :=
  have hrejected : (answeredStream.pc.setRemoteSdp answerEnv (lit "\n\n")).2 =
      .returns (-1) [] := by decide
  (keepsAnswer_iff answerEnv answeredStream (lit "\n\n") hrejected).mpr (.inl (by decide))

/-- A second answer breaks off after its first line, and viewers get no audio source any more. -/
theorem not_keepsAnswer :
    (answeredStream.pc.setRemoteSdp answerEnv (lit "m=audio 9 x\na=ice-ufrag")).2 =
        .returns (-1) [] ∧
      ¬KeepsAnswer answeredStream
        (answeredStream.setRemoteSdp answerEnv (lit "m=audio 9 x\na=ice-ufrag")) := by
  refine ⟨by decide, fun h ↦ ?_⟩
  have hbefore : answeredStream.getSource .audio =
      [{ id := lit "t", ssrcs := [1001], streamId := lit "s" }] := by decide
  have hafter : (answeredStream.setRemoteSdp answerEnv
      (lit "m=audio 9 x\na=ice-ufrag")).getSource .audio = [] := by decide
  have := h.source .audio
  rw [hbefore, hafter] at this
  cases this

end XrtcServer
