import XrtcServer.Pc.AnnouncedTracks
import XrtcServer.Stream.Registration

/-!
# What a viewer is offered

The sources of a publisher are read off its remote description when a viewer comes, and only an
answer to the publisher's stream replaces that description.

## The log of the answers

`answers` is the log of these answers, and what the publisher announces at any time is the log
folded, whatever else the manager has done since: `getSource_run`. The log is told by the events of
the run, and a stream takes an answer only if it is alive, has the type that is asked for, and
belongs to the user who sent it. Everything else leaves the remote descriptions as they are
(`KeepsRemote`).

## The offer

A viewer gets the tracks as text, in the offer of its own stream. `announces_run` follows them from
the answers of the publisher through the offer to the viewer that reads it, with the round trip of
`Pc/OfferRoundTrip.lean` for the last part. What a viewer may expect is `viewed`: the sections it
asked for, with exactly the tracks that are announced.
-/

namespace XrtcServer

open EventRun ByteString

variable {Ctx : Type}

namespace RtcStream

theorem getSource_setRemoteSdp (env : SdpEnv) (s : RtcStream Ctx) (sdp : ByteString)
    (type : MediaType) :
    (s.setRemoteSdp env sdp).getSource type = announcedAfter env type (s.getSource type) sdp := by
  have hdesc (desc : SessionDescription)
      (hset : (s.pc.setRemoteSdp env sdp).1.remoteDesc = some desc) :
      (s.setRemoteSdp env sdp).getSource type =
        ((desc.getContent type.mid).map (·.sendStreams)).getD [] := by
    rw [getSource, setRemoteSdp, hset]
  rw [announcedAfter]
  rcases hparse : parseRemoteSdp env sdp with _ | desc | desc | desc <;> dsimp only
  · rw [setRemoteSdp, PeerConnection.setRemoteSdp, hparse]
  · rw [hdesc desc (by rw [PeerConnection.setRemoteSdp, hparse]),
      sendStreams_of_breaks_off (.inl hparse)]
  · rw [hdesc desc (by rw [PeerConnection.setRemoteSdp, hparse]),
      sendStreams_of_breaks_off (.inr hparse)]
  · refine hdesc desc ?_
    rw [PeerConnection.setRemoteSdp, hparse]
    dsimp only
    split <;> rfl

theorem key_setRemoteSdp (env : SdpEnv) (s : RtcStream Ctx) (sdp : ByteString) :
    (s.setRemoteSdp env sdp).key = s.key := rfl

theorem getSource_congr {s s' : RtcStream Ctx} (h : s'.pc.remoteDesc = s.pc.remoteDesc)
    (type : MediaType) : s'.getSource type = s.getSource type := by
  rw [getSource, getSource, h]

theorem remoteDesc_createOffer (s : RtcStream Ctx) (iceParam : IceParameters) :
    (s.createOffer iceParam).pc.remoteDesc = s.pc.remoteDesc := by
  dsimp only [createOffer, PeerConnection.createOffer]
  split_ifs <;> rfl

theorem remoteDesc_sendOn (env : SrtpEnv Ctx) (s : RtcStream Ctx) (name : ByteString)
    (packet : MediaPacket) : (s.sendOn env name packet).1.pc.remoteDesc = s.pc.remoteDesc := by
  rw [sendOn]
  split <;> rfl

end RtcStream

namespace RtcStreamManager

variable {env : StreamEnv Ctx} {m m' : RtcStreamManager Ctx} {i : StreamId} {name : ByteString}

/-! ## Everything but an answer

A new stream is put in a place of the arena that was free, so it has to be known that a free place
has no remote description left from somebody else (`FreePlaces`). -/

/-- From `m` to `m'` no stream took an answer. -/
structure KeepsRemote (m m' : RtcStreamManager Ctx) : Prop where
  next_le : m.streams.objects.next ≤ m'.streams.objects.next
  remoteDesc : ∀ j, (m'.stream j).pc.remoteDesc = (m.stream j).pc.remoteDesc

namespace KeepsRemote

theorem refl (m : RtcStreamManager Ctx) : KeepsRemote m m := ⟨le_rfl, fun _ ↦ rfl⟩

theorem modifyStream (h : KeepsRemote m m') (i : StreamId) {f : RtcStream Ctx → RtcStream Ctx}
    (hf : ∀ s, (f s).key = s.key) (hdesc : ∀ s, (f s).pc.remoteDesc = s.pc.remoteDesc) :
    KeepsRemote m (m'.modifyStream i f hf) where
  next_le := h.next_le
  remoteDesc j := by
    have hcell : ((m'.modifyStream i f hf).stream j).pc.remoteDesc =
        (m'.stream j).pc.remoteDesc :=
      Arena.proj_cell_modify (p := fun s : RtcStream Ctx ↦ s.pc.remoteDesc) hdesc i j
    exact hcell.trans (h.remoteDesc j)

theorem eraseStream (h : KeepsRemote m m') (type : RtcStreamType) (name : ByteString) :
    KeepsRemote m (m'.eraseStream type name) where
  next_le := by
    have hnext : (m'.eraseStream type name).streams.objects.next = m'.streams.objects.next := by
      rw [RtcStreamManager.eraseStream, Registry.objects_remove]
      rcases m'.streams.table (type, name) with _ | k <;> rfl
    exact h.next_le.trans_eq hnext.symm
  remoteDesc j := by
    have hcell : (m'.eraseStream type name).stream j = m'.stream j :=
      congrFun Registry.cell_remove j
    rw [hcell]
    exact h.remoteDesc j

theorem removeStream (h : KeepsRemote m m') (type : RtcStreamType) (uid : UInt64)
    (name : ByteString) : KeepsRemote m (m'.removeStream type uid name) := by
  rcases removeStream_cases m' type uid name with ⟨i, -, -, heq⟩ | ⟨heq, -⟩
  · rw [heq]
    exact h.eraseStream type name
  · rw [heq]
    exact h

theorem removeSelf (h : KeepsRemote m m') (i : StreamId) : KeepsRemote m (m'.removeSelf i) := by
  rw [removeSelf_eq]
  exact h.removeStream _ _ _

theorem reportState (h : KeepsRemote m m') (i : StreamId) (state : PeerConnectionState) :
    KeepsRemote m (m'.reportState i state) := by
  have hmodify : KeepsRemote m (m'.modifyStream i (fun s ↦ s.setState state) fun _ ↦ rfl) :=
    h.modifyStream i _ fun _ ↦ rfl
  rw [RtcStreamManager.reportState]
  split_ifs
  · exact h
  · rw [onConnectionState]
    split_ifs
    · exact hmodify.removeSelf i
    · exact hmodify
  · exact h

theorem reportStates (h : KeepsRemote m m') (i : StreamId) (states : List PeerConnectionState) :
    KeepsRemote m (states.foldl (fun m state ↦ m.reportState i state) m') := by
  induction states generalizing m' with
  | nil => exact h
  | cons state states ih => exact ih (h.reportState i state)

theorem iceTimeoutCb (h : KeepsRemote m m') (i : StreamId) :
    KeepsRemote m (m'.iceTimeoutCb i) := by
  have hmodify : KeepsRemote m
      (m'.modifyStream i (fun s ↦ { s with iceTimeoutWatcher := false }) fun _ ↦ rfl) :=
    h.modifyStream i _ fun _ ↦ rfl
  rw [RtcStreamManager.iceTimeoutCb]
  dsimp only
  split_ifs
  · exact hmodify.removeSelf i
  · exact hmodify
  · exact h

theorem sendTo (h : KeepsRemote m m') (type : RtcStreamType) (name : ByteString)
    (packet : MediaPacket) : KeepsRemote m (m'.sendTo env type name packet) := by
  rw [RtcStreamManager.sendTo]
  split
  · exact h
  · next i hfind =>
    have hmodify : KeepsRemote m (m'.modifyStream i
        (fun s ↦ (s.sendOn env.toSrtpEnv RtcStream.sendTransportName packet).1)
        fun s ↦ key_sendOn _ s _ packet) :=
      h.modifyStream i _ fun s ↦ s.remoteDesc_sendOn _ _ packet
    rw [RtcStreamManager.send]
    split
    · exact hmodify
    · exact ⟨hmodify.next_le, hmodify.remoteDesc⟩

theorem onMediaOutput (h : KeepsRemote m m') (i : StreamId) (output : MediaOutput) :
    KeepsRemote m (m'.onMediaOutput env i output) := by
  cases output with
  | rtpPacketReceived packet ts =>
    rw [RtcStreamManager.onMediaOutput, onPacketReceived, onRtpPacketReceived]
    split
    · exact h.sendTo _ _ _
    · exact h
  | rtcpPacketReceived packet ts =>
    rw [RtcStreamManager.onMediaOutput, onPacketReceived, onRtcpPacketReceived]
    split <;> exact h.sendTo _ _ _
  | sendPacket packet => exact h

theorem onTransport (h : KeepsRemote m m') (i : StreamId) (name : ByteString) (e : MediaEvent) :
    KeepsRemote m (m'.onTransport env i name e) := by
  rw [RtcStreamManager.onTransport]
  split_ifs
  · split
    · exact h
    · next t ht =>
      have hfold (outputs : List MediaOutput) {m' : RtcStreamManager Ctx} (h : KeepsRemote m m') :
          KeepsRemote m (outputs.foldl (fun m output ↦ m.onMediaOutput env i output) m') := by
        induction outputs generalizing m' with
        | nil => exact h
        | cons output outputs ih => exact ih (h.onMediaOutput i output)
      exact hfold _ (h.modifyStream i _ fun _ ↦ rfl)
  · exact h

/-- A new stream has no remote description, and neither had the place it takes. -/
theorem startStream (h : KeepsRemote m m') {s : RtcStream Ctx} (hs : s.pc.remoteDesc = none)
    (hnext : (m'.stream m'.streams.objects.next).pc.remoteDesc = none)
    (certificate : Option RTCCertificate) (iceParam : IceParameters) :
    KeepsRemote m (m'.startStream s certificate iceParam) where
  next_le := h.next_le.trans (Nat.le_succ _)
  remoteDesc j := by
    refine Eq.trans ?_ (h.remoteDesc j)
    by_cases hj : j = m'.streams.objects.next
    · have hcell : (m'.startStream s certificate iceParam).stream m'.streams.objects.next =
          (s.start certificate).createOffer iceParam := Arena.cell_alloc_next
      rw [hj, hcell, hnext, RtcStream.remoteDesc_createOffer]
      exact hs
    · exact congrArg (fun s : RtcStream Ctx ↦ s.pc.remoteDesc) (Arena.cell_alloc_of_ne hj)

end KeepsRemote

/-! ## Answers

Which stream takes an answer is decided by the state before it, and a stream that takes one replaces
its remote description or, if the text is rejected, keeps it. So the description is the last of the
accepted answers, as a fold over the log. -/

/-- The stream that `set_answer` hands the answer to. -/
def answerTarget (m : RtcStreamManager Ctx) (uid : UInt64) (streamName streamType : ByteString) :
    Option StreamId :=
  let type : Option RtcStreamType :=
    if streamType = lit "push" then some .push
    else if streamType = lit "pull" then some .pull
    else none
  type.bind fun type ↦ (m.findStream type streamName).filter fun i ↦ uid = (m.stream i).uid

/-- The stream `i` has taken an answer. -/
def answered (env : StreamEnv Ctx) (m : RtcStreamManager Ctx) (i : StreamId)
    (answer : ByteString) : RtcStreamManager Ctx :=
  m.modifyStream i (fun s ↦ s.setRemoteSdp env.toSdpEnv answer)
    fun s ↦ s.key_setRemoteSdp env.toSdpEnv answer

theorem stream_answered_self (m : RtcStreamManager Ctx) (i : StreamId) (answer : ByteString) :
    (m.answered env i answer).stream i = (m.stream i).setRemoteSdp env.toSdpEnv answer :=
  stream_modifyStream_self m i _ _

theorem stream_answered_of_ne (m : RtcStreamManager Ctx) {j : StreamId} (h : j ≠ i)
    (answer : ByteString) : (m.answered env i answer).stream j = m.stream j :=
  stream_modifyStream_of_ne m i _ _ h

theorem answerStream_eq (m : RtcStreamManager Ctx) (type : RtcStreamType) (uid : UInt64)
    (name answer : ByteString) (states : List PeerConnectionState) :
    (m.answerStream env type uid name answer states).1 =
      ((m.findStream type name).filter fun i ↦ uid = (m.stream i).uid).elim m fun i ↦
        states.foldl (fun m state ↦ m.reportState i state) (m.answered env i answer) := by
  rw [answerStream]
  rcases m.findStream type name with _ | i
  · rfl
  · dsimp only
    by_cases huid : uid = (m.stream i).uid
    · rw [if_neg (not_not_intro huid), Option.filter_some_pos (by simpa using huid)]
      rfl
    · rw [if_pos huid, Option.filter_some_neg (by simpa using huid)]
      rfl

theorem setAnswer_eq (m : RtcStreamManager Ctx) (uid : UInt64) (name answer type : ByteString)
    (states : List PeerConnectionState) :
    (m.setAnswer env uid name answer type states).1 =
      (m.answerTarget uid name type).elim m fun i ↦
        states.foldl (fun m state ↦ m.reportState i state) (m.answered env i answer) := by
  rw [setAnswer, answerTarget]
  split_ifs
  · exact answerStream_eq m .push uid name answer states
  · exact answerStream_eq m .pull uid name answer states
  · rfl

theorem live_of_answerTarget {uid : UInt64} {type : ByteString}
    (h : m.answerTarget uid name type = some i) : m.live i = true := by
  obtain ⟨type, -, hfilter⟩ := Option.bind_eq_some_iff.mp h
  exact (m.streams.sound _ i (Option.filter_eq_some_iff.mp hfilter).1).1

/-- The answer that the event hands to the stream `i`. -/
def answerTo (i : StreamId) (m : RtcStreamManager Ctx) : ManagerEvent → Option ByteString
  | .call (.setAnswer uid name answer type _) =>
    if m.answerTarget uid name type = some i then some answer else none
  | _ => none

/-- The answers that the stream `i` took in a run, oldest first. -/
def answers (env : StreamEnv Ctx) (i : StreamId) (es : List ManagerEvent) : List ByteString :=
  trail (step env) (answerTo i) (init Ctx) es

/-- No place that is still free has a remote description. -/
def FreePlaces (m : RtcStreamManager Ctx) : Prop :=
  ∀ j, m.streams.objects.next ≤ j → (m.stream j).pc.remoteDesc = none

theorem FreePlaces.keepsRemote (hfree : m.FreePlaces) (h : KeepsRemote m m') : m'.FreePlaces :=
  fun j hj ↦ (h.remoteDesc j).trans (hfree j (h.next_le.trans hj))

theorem keepsRemote_step (hfree : m.FreePlaces) {e : ManagerEvent}
    (he : ∀ uid name answer type states, e ≠ .call (.setAnswer uid name answer type states)) :
    KeepsRemote m (m.step env e) := by
  have hrefl := KeepsRemote.refl m
  cases e with
  | call op =>
    cases op with
    | createPushStream uid name audio video certificate iceParam =>
      have herase := hrefl.eraseStream .push name
      exact herase.startStream rfl ((hfree.keepsRemote herase) _ le_rfl) certificate iceParam
    | createPullStream uid name audio video certificate iceParam =>
      rw [step, call, createPullStream]
      split
      · exact hrefl
      · have hremove := hrefl.removeStream .pull uid name
        exact hremove.startStream rfl ((hfree.keepsRemote hremove) _ le_rfl) certificate iceParam
    | setAnswer uid name answer type states => exact absurd rfl (he uid name answer type states)
    | stopPush uid name => exact hrefl.removeStream .push uid name
    | stopPull uid name => exact hrefl.removeStream .pull uid name
  | connectionState i state => exact hrefl.reportState i state
  | iceTimeout i => exact hrefl.iceTimeoutCb i
  | dtlsState i tname state initOk rtp rtcp =>
    exact hrefl.onTransport i tname (.dtlsState state initOk rtp rtcp)
  | readPacket i tname data ts => exact hrefl.onTransport i tname (.readPacket data ts)

/-- **One event.** -/
theorem remote_step (hfree : m.FreePlaces) (e : ManagerEvent) :
    (m.step env e).FreePlaces ∧ ∀ i type, ((m.step env e).stream i).getSource type =
      (m.answerTo i e).elim ((m.stream i).getSource type)
        (announcedAfter env.toSdpEnv type ((m.stream i).getSource type)) := by
  have hkeeps (h : KeepsRemote m (m.step env e)) (hno : ∀ i, m.answerTo i e = none) :
      (m.step env e).FreePlaces ∧ ∀ i type, ((m.step env e).stream i).getSource type =
        (m.answerTo i e).elim ((m.stream i).getSource type)
          (announcedAfter env.toSdpEnv type ((m.stream i).getSource type)) := by
    refine ⟨hfree.keepsRemote h, fun i type ↦ ?_⟩
    rw [hno i]
    exact RtcStream.getSource_congr (h.remoteDesc i) type
  by_cases he : ∃ uid name answer type states,
      e = .call (.setAnswer uid name answer type states)
  · obtain ⟨uid, name, answer, streamType, states, rfl⟩ := he
    have hstep : m.step env (.call (.setAnswer uid name answer streamType states)) =
        (m.answerTarget uid name streamType).elim m fun i ↦
          states.foldl (fun m state ↦ m.reportState i state) (m.answered env i answer) :=
      setAnswer_eq m uid name answer streamType states
    rcases htarget : m.answerTarget uid name streamType with _ | k
    · refine hkeeps ?_ fun i ↦ ?_
      · rw [hstep, htarget]
        exact .refl m
      · rw [answerTo, htarget, if_neg nofun]
    · rw [hstep, htarget, Option.elim_some]
      have hkeep := (KeepsRemote.refl (m.answered env k answer)).reportStates k states
      have hk : k < m.streams.objects.next :=
        m.streams.objects.live_lt k (live_of_answerTarget htarget)
      refine ⟨?_, fun i type ↦ ?_⟩
      · refine FreePlaces.keepsRemote (fun j hj ↦ ?_) hkeep
        have hne : j ≠ k := (hk.trans_le hj).ne'
        rw [stream_answered_of_ne m hne]
        exact hfree j hj
      · refine (RtcStream.getSource_congr (hkeep.remoteDesc i) type).trans ?_
        rw [answerTo, htarget]
        by_cases hi : i = k
        · rw [if_pos (congrArg some hi.symm), Option.elim_some, hi]
          rw [stream_answered_self, RtcStream.getSource_setRemoteSdp]
        · rw [if_neg fun heq ↦ hi (Option.some.inj heq).symm, Option.elim_none]
          rw [stream_answered_of_ne m hi]
  · have hne : ∀ uid name answer type states,
        e ≠ .call (.setAnswer uid name answer type states) :=
      fun uid name answer type states heq ↦ he ⟨uid, name, answer, type, states, heq⟩
    refine hkeeps (keepsRemote_step hfree hne) fun i ↦ ?_
    rw [answerTo]
    exact hne

/-- **The sources of a stream** are what its answers announce, after any run. -/
theorem getSource_run (env : StreamEnv Ctx) (es : List ManagerEvent) (i : StreamId)
    (type : MediaType) : ((run env es).stream i).getSource type =
      announced env.toSdpEnv (answers env i es) type :=
  view_exec_eq_foldl (I := FreePlaces) (fun m ↦ (m.stream i).getSource type)
    (fun _ e h ↦ (remote_step h e).1) (fun _ e h ↦ (remote_step h e).2 i type)
    (fun _ _ ↦ rfl) es

/-! ## The offer to a viewer -/

theorem createPullStream_offer (m : RtcStreamManager Ctx) {publisher : StreamId}
    (hfind : m.findPushStream name = some publisher) (uid : UInt64) (audio video : Bool)
    {certificate : Option RTCCertificate} (hcertificate : certificate.isSome = true)
    (iceParam : IceParameters) :
    let m' := (m.createPullStream uid name audio video certificate iceParam).1
    ∃ viewer, m'.findPullStream name = some viewer ∧ (m'.stream viewer).pc.localDesc =
        some (PeerConnection.offerDescription
          { certificate
            audioSource := (m.stream publisher).getSource .audio
            videoSource := (m.stream publisher).getSource .video }
          (PeerConnection.sendOptions audio video) iceParam) := by
  have hsource (type : MediaType) :
      ((m.removePullStream uid name).stream publisher).getSource type =
        (m.stream publisher).getSource type :=
    RtcStream.getSource_congr
      (((KeepsRemote.refl m).removeStream .pull uid name).remoteDesc publisher) type
  dsimp only
  rw [createPullStream, hfind]
  dsimp only
  rw [hsource, hsource]
  generalize m.removePullStream uid name = m₁
  refine ⟨m₁.streams.objects.next, Function.update_self .., ?_⟩
  have hcell (s : RtcStream Ctx) : (m₁.startStream s certificate iceParam).stream
      m₁.streams.objects.next = (s.start certificate).createOffer iceParam := Arena.cell_alloc_next
  rw [hcell]
  obtain ⟨cert, rfl⟩ := Option.isSome_iff_exists.mp hcertificate
  rfl

/-- What a viewer reads in the text of the offer when the publisher announces these tracks. -/
def viewed (type : MediaType) (wanted : Bool) (tracks : List StreamParams) :
    Option MediaContentDescription :=
  if wanted then some { type, sendStreams := tracks } else none

/-- **What is announced reaches the viewers.** The publisher of a name has answered any number of
times, in a run of any kind. If the strings of the tracks it announces now have none of the bytes of
the format, a viewer who asks for the name is offered exactly these tracks: reading the text of the
offer gives them back, of the media that the viewer wants. -/
theorem announces_run (env : StreamEnv Ctx) {textEnv : SdpTextEnv}
    {attributes : MediaType → ContentAttributes} {es : List ManagerEvent} {publisher : StreamId}
    (hfind : (run env es).findPushStream name = some publisher)
    (htokens : ∀ type, ∀ track ∈ announced env.toSdpEnv (answers env publisher es) type,
      TrackTokens track)
    (uid : UInt64) (audio video : Bool) {certificate : Option RTCCertificate}
    (hcertificate : certificate.isSome = true) {iceParam : IceParameters}
    (hempty : PeerConnection.ReadableOffer env.toSdpEnv textEnv attributes { certificate } {}
      iceParam) :
    ∃ viewer offer read,
      (run env (es ++ [.call (.createPullStream uid name audio video certificate
        iceParam)])).findPullStream name = some viewer ∧
      ((run env (es ++ [.call (.createPullStream uid name audio video certificate
        iceParam)])).stream viewer).pc.localDesc = some offer ∧
      parseRemoteSdp env.toSdpEnv (offer.text textEnv attributes) = .accepted read ∧
      read.getContent (lit "audio") =
        viewed .audio audio (announced env.toSdpEnv (answers env publisher es) .audio) ∧
      read.getContent (lit "video") =
        viewed .video video (announced env.toSdpEnv (answers env publisher es) .video) := by
  have hrun : run env (es ++ [.call (.createPullStream uid name audio video certificate
      iceParam)]) = ((run env es).createPullStream uid name audio video certificate iceParam).1 :=
    exec_append_singleton ..
  obtain ⟨viewer, hviewer, hoffer⟩ := (run env es).createPullStream_offer hfind uid audio video
    hcertificate iceParam
  rw [getSource_run, getSource_run] at hoffer
  have hreadable : PeerConnection.ReadableOffer env.toSdpEnv textEnv attributes
      { certificate
        audioSource := announced env.toSdpEnv (answers env publisher es) .audio
        videoSource := announced env.toSdpEnv (answers env publisher es) .video }
      (PeerConnection.sendOptions audio video) iceParam :=
    { hempty with
      audio := fun _ ↦ wellFormedTracks_announced (htokens .audio)
      video := fun _ ↦ wellFormedTracks_announced (htokens .video) }
  obtain ⟨read, hparse, hcontents, hothers⟩ := PeerConnection.getContent_offer hreadable
  rw [PeerConnection.contents_sendOptions] at hcontents hothers
  rw [hrun]
  refine ⟨viewer, _, read, hviewer, hoffer, hparse, ?_, ?_⟩
  · cases audio with
    | true =>
      have hread := hcontents ⟨.audio, announced env.toSdpEnv (answers env publisher es) .audio⟩
        (List.mem_append_left _ List.mem_cons_self)
      dsimp only at hread
      rwa [if_neg nofun, bare_announced_audio] at hread
    | false =>
      refine hothers .audio ?_
      cases video <;> simp
  · cases video with
    | true =>
      exact hcontents ⟨.video, announced env.toSdpEnv (answers env publisher es) .video⟩
        (List.mem_append_right _ List.mem_cons_self)
    | false =>
      refine hothers .video ?_
      cases audio <;> simp

/-! ### A publisher with a microphone and a camera -/

def exampleStreamEnv : StreamEnv ByteString where
  toSrtpEnv := sampleStreamEnv.toSrtpEnv
  toSdpEnv := PeerConnection.exampleEnv

/-- The camera has a source for retransmissions. -/
def exampleAnswer : ByteString :=
  lit "m=audio 9 x\na=ssrc:7 cname:c\na=ssrc:7 msid:s mic\n" ++
    lit "m=video 9 x\na=ssrc-group:FID 1 2\na=ssrc:1 msid:s camera\na=ssrc:2 msid:s camera\n"

/-- User 1 publishes and answers; an answer of user 2 goes nowhere. -/
def exampleRun : List ManagerEvent :=
  [.call (.createPushStream 1 (lit "live") true true none {}),
    .call (.setAnswer 1 (lit "live") exampleAnswer (lit "push") [.connected]),
    .call (.setAnswer 2 (lit "live") (lit "m=audio 9 x\n") (lit "push") [])]

theorem announced_example :
    announced exampleStreamEnv.toSdpEnv (answers exampleStreamEnv 0 exampleRun) .audio =
        [{ id := lit "mic", ssrcs := [7], cname := lit "c", streamId := lit "s" }] ∧
      announced exampleStreamEnv.toSdpEnv (answers exampleStreamEnv 0 exampleRun) .video =
        [{ id := lit "camera", ssrcs := [1, 2], ssrcGroups := [⟨lit "FID", [1, 2]⟩],
           streamId := lit "s" }] := by decide +kernel

/-- A viewer who wants the video only. -/
theorem announces_example :
    ∃ viewer offer read,
      (run exampleStreamEnv (exampleRun ++ [.call (.createPullStream 2 (lit "live") false true
        (some ⟨some PeerConnection.exampleFingerprint⟩)
        PeerConnection.exampleIceParam)])).findPullStream (lit "live") = some viewer ∧
      ((run exampleStreamEnv (exampleRun ++ [.call (.createPullStream 2 (lit "live") false true
        (some ⟨some PeerConnection.exampleFingerprint⟩)
        PeerConnection.exampleIceParam)])).stream viewer).pc.localDesc = some offer ∧
      parseRemoteSdp exampleStreamEnv.toSdpEnv (offer.text PeerConnection.exampleTextEnv
        PeerConnection.exampleAttributes) = .accepted read ∧
      read.getContent (lit "audio") = none ∧
      read.getContent (lit "video") = some {
        type := .video
        sendStreams := [{ id := lit "camera", ssrcs := [1, 2],
                          ssrcGroups := [⟨lit "FID", [1, 2]⟩], streamId := lit "s" }] } := by
  have hfind : (run exampleStreamEnv exampleRun).findPushStream (lit "live") = some 0 := by
    decide +kernel
  have htokens : ∀ type, ∀ track ∈ announced exampleStreamEnv.toSdpEnv
      (answers exampleStreamEnv 0 exampleRun) type, TrackTokens track := by
    intro type
    cases type with
    | audio =>
      rw [announced_example.1]
      intro track ht
      rw [List.mem_singleton.mp ht]
      exact ⟨by decide, by decide, by decide, by decide⟩
    | video =>
      rw [announced_example.2]
      intro track ht
      rw [List.mem_singleton.mp ht]
      exact ⟨by decide, by decide, by decide, by decide⟩
  have hempty : PeerConnection.ReadableOffer exampleStreamEnv.toSdpEnv
      PeerConnection.exampleTextEnv PeerConnection.exampleAttributes
      { certificate := some ⟨some PeerConnection.exampleFingerprint⟩ } {}
      PeerConnection.exampleIceParam :=
    { PeerConnection.readableOffer_example with
      audio := fun _ ↦ PeerConnection.wellFormedTracks_nil
      video := fun _ ↦ PeerConnection.wellFormedTracks_nil }
  obtain ⟨viewer, offer, read, hviewer, hoffer, hparse, haudio, hvideo⟩ :=
    announces_run exampleStreamEnv hfind htokens 2 false true rfl hempty
  rw [announced_example.2] at hvideo
  exact ⟨viewer, offer, read, hviewer, hoffer, hparse, haudio, hvideo⟩

end RtcStreamManager

end XrtcServer
