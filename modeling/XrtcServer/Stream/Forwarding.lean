import XrtcServer.Stream.Registration

/-!
# Forwarding media

What a push stream receives goes to the pull stream of the same name: the manager looks the pull
stream up, and its peer connection hands the packet to one of its transports.

## Two names

All sections of an offer ride on one transport, and `set_local_description` keeps it under the name
of the first section: `audio` if the stream has audio, and `video` if it has video alone. The
sending side always asks for `audio`. `keyedByOffer_stream` is the first fact, for every stream of
every run, and `forwarded_iff` is what comes of the second.

## One packet

The path is the same for all packets: the manager looks for the other stream under the name of the
one that received the packet, and the peer connection looks for the transport. Where one of the two
finds nothing the packet is dropped, and nobody is told.
-/

namespace XrtcServer

open EventRun ByteString

variable {Ctx : Type}

/-- The packet a transport emits to the stream. -/
def MediaOutput.packet : MediaOutput → Option MediaPacket
  | rtpPacketReceived packet _ => some (.rtp packet)
  | rtcpPacketReceived packet _ => some (.rtcp packet)
  | sendPacket _ => none

namespace RtcStream

variable {s : RtcStream Ctx}

/-- The first section of the stream's offer. -/
def offeredMid (s : RtcStream Ctx) : Option ByteString :=
  if s.audio then some (lit "audio") else if s.video then some (lit "video") else none

/-- Once there is an offer, the transports are the one of its first section. -/
def KeyedByOffer (s : RtcStream Ctx) : Prop :=
  ∀ mid, (s.dtlsSrtpTransportByName mid).isSome = true ↔
    s.pc.localDesc.isSome = true ∧ s.offeredMid = some mid

/-- The transport that the sections of the local description are bundled on. -/
def bundledTransport (s : RtcStream Ctx) : Option (DtlsSrtpTransport Ctx) :=
  s.pc.localDesc.bind fun desc ↦ s.dtlsSrtpTransportByName desc.getFirstBundleMid

/-- The packets the stream delivers when a datagram reaches its transport `name`. -/
def delivered (env : SrtpEnv Ctx) (s : RtcStream Ctx) (name data : ByteString) (ts : ℤ) :
    List MediaPacket :=
  match s.dtlsSrtpTransportByName name with
  | none => []
  | some t => (t.onReadPacket env data ts).2.filterMap MediaOutput.packet

/-! ## The transports of an offer -/

/-- The one transport of an offer is named after the first section. -/
theorem mem_transports_offer (pc : PeerConnection) (options : RTCOfferAnswerOptions)
    (hmux : options.useRtpMux = true) (iceParam : IceParameters) (mid : ByteString) :
    mid ∈ (({} : TransportController).setLocalDescription
        (pc.offerDescription options iceParam)).dtlsTransportByName ↔
      (if options.recvAudio || options.sendAudio then some (lit "audio")
        else if options.recvVideo || options.sendVideo then some (lit "video") else none) =
        some mid := by
  obtain ⟨hcontents, hgroups⟩ := PeerConnection.offerDescription_eq pc options hmux iceParam
  have hmem : (∃ content ∈ (pc.offerDescription options iceParam).contents, content.mid = mid) ↔
      mid ∈ (pc.offerDescription options iceParam).contents.map (·.mid) := List.mem_map.symm
  rw [TransportController.mem_setLocalDescription, hmem, hcontents,
    SessionDescription.ridesOnBundle, SessionDescription.isBundle,
    SessionDescription.getFirstBundleMid, SessionDescription.getGroupByName, hgroups]
  -- only the names of the two sections are of interest
  by_cases haudio : mid = lit "audio"
  · subst haudio
    rcases options.recvAudio || options.sendAudio with _ | _ <;>
      rcases options.recvVideo || options.sendVideo with _ | _ <;> decide
  by_cases hvideo : mid = lit "video"
  · subst hvideo
    rcases options.recvAudio || options.sendAudio with _ | _ <;>
      rcases options.recvVideo || options.sendVideo with _ | _ <;> decide
  rcases options.recvAudio || options.sendAudio with _ | _ <;>
    rcases options.recvVideo || options.sendVideo with _ | _ <;>
    simp [haudio, hvideo, Ne.symm haudio, Ne.symm hvideo]

theorem keyedByOffer_createOffer {s : RtcStream Ctx} (hctl : s.pc.transportController = {})
    (hdesc : s.pc.localDesc = none) (iceParam : IceParameters) :
    (s.createOffer iceParam).KeyedByOffer := by
  intro mid
  have hopts : (s.offerOptions.recvAudio || s.offerOptions.sendAudio) = s.audio ∧
      (s.offerOptions.recvVideo || s.offerOptions.sendVideo) = s.video ∧
      s.offerOptions.useRtpMux = true ∧ s.offerOptions.dtlsOn = true := by
    rw [offerOptions]
    rcases s.streamType with _ | _ <;> simp
  obtain ⟨haudio, hvideo, hmux, hdtls⟩ := hopts
  have hmem := mem_transports_offer s.pc s.offerOptions hmux iceParam mid
  rw [haudio, hvideo] at hmem
  dsimp only [createOffer, offeredMid, PeerConnection.createOffer]
  by_cases hcert : s.pc.certificate.isNone = true
  · simp [hdtls, hcert, hctl, hdesc]
  · simpa [hdtls, hcert, hctl] using hmem

theorem KeyedByOffer.updated {env : StreamEnv Ctx} {s' : RtcStream Ctx} (h : s.KeyedByOffer)
    (hs : s.Updated env s') : s'.KeyedByOffer := by
  intro mid
  cases hs with
  | unchanged => exact h mid
  | setState state => exact h mid
  | stopTimer => exact h mid
  | setRemoteSdp sdp =>
    have hdesc : (s.setRemoteSdp env.toSdpEnv sdp).pc.localDesc = s.pc.localDesc := by
      dsimp only [setRemoteSdp, PeerConnection.setRemoteSdp]
      repeat' split
      all_goals rfl
    rw [hdesc]
    exact h mid
  | @setTransport name hname t =>
    refine Iff.trans ?_ (h mid)
    dsimp only [setTransport]
    by_cases hmid : mid = name
    · rw [hmid, Function.update_self]
      exact iff_of_true rfl hname
    · rw [Function.update_of_ne hmid]

end RtcStream

namespace RtcStreamManager

variable {env : StreamEnv Ctx} {m : RtcStreamManager Ctx} {i j : StreamId} {name : ByteString}

/-! ## Every stream of a run

A stream gets its transports when it makes its offer, from the sections of the offer, and no other
call adds one. So the names of the transports are known from how the stream was created. -/

theorem keyedByOffer_managerInvariant (env : StreamEnv Ctx) :
    ManagerInvariant env fun m ↦ ∀ i, (m.stream i).KeyedByOffer where
  modify m i f hf h hs := by
    intro j
    by_cases hj : j = i
    · subst hj
      rw [stream_modifyStream_self]
      exact (h j).updated hs
    · rw [stream_modifyStream_of_ne m i f hf hj]
      exact h j
  remove m type uid name h := by
    rcases removeStream_cases m type uid name with ⟨i, -, -, heq⟩ | ⟨heq, -⟩
    · rw [heq]
      intro j
      have hcell : (m.eraseStream type name).stream j = m.stream j :=
        congrFun Registry.cell_remove j
      rw [hcell]
      exact h j
    · rw [heq]
      exact h
  handoff _ _ h := h

theorem keyedByOffer_startStream (h : ∀ i, (m.stream i).KeyedByOffer) {s : RtcStream Ctx}
    (hctl : s.pc.transportController = {}) (hdesc : s.pc.localDesc = none)
    (certificate : Option RTCCertificate) (iceParam : IceParameters) (i : StreamId) :
    ((m.startStream s certificate iceParam).stream i).KeyedByOffer := by
  by_cases hi : i = m.streams.objects.next
  · have hcell : (m.startStream s certificate iceParam).stream i =
        (s.start certificate).createOffer iceParam := by
      rw [hi]
      exact Arena.cell_alloc_next
    rw [hcell]
    exact @RtcStream.keyedByOffer_createOffer _ (s.start certificate) hctl hdesc iceParam
  · have hcell : (m.startStream s certificate iceParam).stream i = m.stream i :=
      Arena.cell_alloc_of_ne hi
    rw [hcell]
    exact h i

theorem keyedByOffer_step (h : ∀ i, (m.stream i).KeyedByOffer) (e : ManagerEvent) (i : StreamId) :
    ((m.step env e).stream i).KeyedByOffer := by
  have hinv := keyedByOffer_managerInvariant env
  cases e with
  | call op =>
    cases op with
    | createPushStream uid name audio video certificate iceParam =>
      have herase : ∀ j, ((m.eraseStream .push name).stream j).KeyedByOffer := by
        intro j
        have hcell : (m.eraseStream .push name).stream j = m.stream j :=
          congrFun Registry.cell_remove j
        rw [hcell]
        exact h j
      exact keyedByOffer_startStream herase rfl rfl certificate iceParam i
    | createPullStream uid name audio video certificate iceParam =>
      dsimp only [step, call, createPullStream]
      split
      · exact h i
      · exact keyedByOffer_startStream (hinv.remove m .pull uid name h) rfl rfl certificate
          iceParam i
    | setAnswer uid name answer type states => exact hinv.setAnswer h uid name answer type states i
    | stopPush uid name => exact hinv.remove m .push uid name h i
    | stopPull uid name => exact hinv.remove m .pull uid name h i
  | connectionState j state => exact hinv.reportState h j state i
  | iceTimeout j => exact hinv.iceTimeoutCb h j i
  | dtlsState j name state initOk rtp rtcp => exact hinv.onTransport h j name _ i
  | readPacket j name data ts => exact hinv.onTransport h j name _ i

/-- **The transports of a stream** are those of its own offer, in every state of every run. -/
theorem keyedByOffer_stream (env : StreamEnv Ctx) (es : List ManagerEvent) (i : StreamId) :
    ((run env es).stream i).KeyedByOffer := by
  have hinit : ∀ i, ((init Ctx).stream i).KeyedByOffer := fun _ _ ↦ by
    simp [init, stream, Registry.empty, Arena.empty]
  have hstep (m : RtcStreamManager Ctx) (e : ManagerEvent) (h : ∀ i, (m.stream i).KeyedByOffer) :
      ∀ i, ((m.step env e).stream i).KeyedByOffer := keyedByOffer_step h e
  exact exec_invariant hstep hinit es i

/-! ## One packet

With the push stream and the pull stream given, the handoff is computed: it is made to the stream
that the map has under the name, and carries the packet that was delivered. The only test that can
fail then is the one for the transport. -/

/-- Between `m` and `m'` the stream `j` was handed this packet, once and unmodified, on one of its
transports, and no stream of another name was handed any. -/
def Forwarded (m m' : RtcStreamManager Ctx) (j : StreamId) (name : ByteString)
    (packet : MediaPacket) : Prop :=
  ∃ new, m'.handoffs = m.handoffs ++ new ∧
    (∀ h ∈ new, (m.stream h.stream).streamName = name) ∧
    ∃ h, new.filter (fun h ↦ h.stream = j) = [h] ∧ h.packet = packet ∧
      ((m.stream j).dtlsSrtpTransportByName h.transportName).isSome = true

theorem handoffs_send (m : RtcStreamManager Ctx) (i : StreamId) (packet : MediaPacket) :
    (m.send env i packet).handoffs = m.handoffs ++
      (((m.stream i).sendOn env.toSrtpEnv RtcStream.sendTransportName packet).2.map fun sent ↦
        ⟨i, RtcStream.sendTransportName, packet, sent⟩).toList := by
  rw [send]
  rcases ((m.stream i).sendOn env.toSrtpEnv RtcStream.sendTransportName packet).2 with _ | sent
  · exact (List.append_nil _).symm
  · rfl

theorem onPacketReceived_of_push (htype : (m.stream i).streamType = .push)
    (hpull : m.findPullStream (m.stream i).streamName = some j) (packet : MediaPacket) :
    m.onPacketReceived env i packet = m.send env j packet := by
  rw [findPullStream] at hpull
  cases packet with
  | rtp data => rw [onPacketReceived, onRtpPacketReceived, htype, sendTo, hpull]
  | rtcp data => rw [onPacketReceived, onRtcpPacketReceived, htype, sendTo, hpull]

theorem foldl_onMediaOutput (outputs : List MediaOutput) (m : RtcStreamManager Ctx) :
    outputs.foldl (fun m output ↦ m.onMediaOutput env i output) m =
      (outputs.filterMap MediaOutput.packet).foldl (fun m packet ↦ m.onPacketReceived env i packet)
        m := by
  induction outputs generalizing m with
  | nil => rfl
  | cons output outputs ih =>
    rw [List.foldl_cons, ih]
    cases output <;> rfl

end RtcStreamManager

/-- A datagram holds at most one packet. -/
theorem RtcStream.delivered_of_mem {env : SrtpEnv Ctx} {s : RtcStream Ctx} {name data : ByteString}
    {ts : ℤ} {packet : MediaPacket} (h : packet ∈ s.delivered env name data ts) :
    ∃ t, s.dtlsSrtpTransportByName name = some t ∧
      (t.onReadPacket env data ts).2.filterMap MediaOutput.packet = [packet] := by
  rw [delivered] at h
  rcases ht : s.dtlsSrtpTransportByName name with _ | t
  · simp [ht] at h
  · rw [ht] at h
    refine ⟨t, rfl, ?_⟩
    revert h
    dsimp only [DtlsSrtpTransport.onReadPacket]
    rcases inferRtpPacketType data with _ | _ | _
    · dsimp only [DtlsSrtpTransport.onRtpPacketReceived]
      split_ifs <;> simp +contextual [MediaOutput.packet]
    · dsimp only [DtlsSrtpTransport.onRtcpPacketReceived]
      split_ifs <;> simp +contextual [MediaOutput.packet]
    · simp

namespace RtcStreamManager

variable {env : StreamEnv Ctx} {m : RtcStreamManager Ctx} {i j : StreamId}
  {name tname data : ByteString}
  {ts : ℤ} {packet : MediaPacket}

/-- A datagram with a packet makes the stream of the other side send, and its source keeps the
rest. -/
theorem handoffs_readPacket (env : StreamEnv Ctx) (hpush : m.findPushStream name = some i)
    (hpull : m.findPullStream name = some j)
    (hdeliver : packet ∈ (m.stream i).delivered env.toSrtpEnv tname data ts) :
    (m.step env (.readPacket i tname data ts)).handoffs = m.handoffs ++
      (((m.stream j).sendOn env.toSrtpEnv RtcStream.sendTransportName packet).2.map fun sent ↦
        ⟨j, RtcStream.sendTransportName, packet, sent⟩).toList := by
  have hlive : m.live i = true := (m.streams.sound _ _ hpush).1
  have hkey : (m.stream i).key = (.push, name) := (m.streams.sound _ _ hpush).2
  obtain ⟨t, ht, hpacket⟩ := RtcStream.delivered_of_mem hdeliver
  have hne : j ≠ i := by
    rintro rfl
    have hkey' := (m.streams.sound _ _ hpull).2
    cases (congrArg Prod.fst hkey).symm.trans (congrArg Prod.fst hkey')
  let m' := m.modifyStream i
    (fun s ↦ s.setTransport tname (t.handle env.toSrtpEnv (.readPacket data ts)).1) fun _ ↦ rfl
  have hkey' : (m'.stream i).key = (.push, name) := (key_modifyStream m i _ _ i).trans hkey
  have htype : (m'.stream i).streamType = .push := congrArg Prod.fst hkey'
  have hname : (m'.stream i).streamName = name := congrArg Prod.snd hkey'
  have hj : m'.stream j = m.stream j := stream_modifyStream_of_ne m i _ _ hne
  have hstep : m.step env (.readPacket i tname data ts) = m'.send env j packet := by
    calc m.step env (.readPacket i tname data ts)
        = (t.onReadPacket env.toSrtpEnv data ts).2.foldl
            (fun m output ↦ m.onMediaOutput env i output) m' := by
          rw [step, onTransport, if_pos hlive, ht]
          rfl
      _ = m'.onPacketReceived env i packet := by
          rw [foldl_onMediaOutput, hpacket]
          rfl
      _ = m'.send env j packet := onPacketReceived_of_push htype (hname ▸ hpull) packet
  rw [hstep, handoffs_send, hj]
  rfl

theorem forwarded_iff_isSome (hpush : m.findPushStream name = some i)
    (hpull : m.findPullStream name = some j)
    (hdeliver : packet ∈ (m.stream i).delivered env.toSrtpEnv tname data ts) :
    m.Forwarded (m.step env (.readPacket i tname data ts)) j name packet ↔
      ((m.stream j).dtlsSrtpTransportByName RtcStream.sendTransportName).isSome = true := by
  have hhandoffs := handoffs_readPacket env hpush hpull hdeliver
  rw [RtcStream.sendOn] at hhandoffs
  rcases ht : (m.stream j).dtlsSrtpTransportByName RtcStream.sendTransportName with _ | t
  · rw [ht] at hhandoffs
    refine iff_of_false ?_ Bool.false_ne_true
    rintro ⟨new, hnew, -, h, hfilter, -⟩
    obtain rfl := List.append_cancel_left (hnew.symm.trans hhandoffs)
    cases hfilter
  · rw [ht] at hhandoffs
    refine iff_of_true ⟨_, hhandoffs, ?_, ?_⟩ rfl
    · intro h hh
      obtain rfl := List.mem_singleton.mp hh
      exact congrArg Prod.snd (m.streams.sound _ _ hpull).2
    · refine
        ⟨⟨j, RtcStream.sendTransportName, packet, (t.send env.toSrtpEnv packet).2⟩, ?_, rfl, ?_⟩
      · simp
      · rw [ht]
        rfl

end RtcStreamManager

open RtcStreamManager

/-- **Forwarding.** In every state of every run, a packet that the push stream registered under a
name delivers while the bundled transport of the pull stream of this name is active reaches a
transport of the pull stream, once and unmodified, and no stream of another name, exactly when the
pull stream was created with audio. -/
theorem forwarded_iff (env : StreamEnv Ctx) (es : List ManagerEvent) {i j : StreamId}
    {name tname data : ByteString} {ts : ℤ} {packet : MediaPacket}
    (hpush : (run env es).findPushStream name = some i)
    (hpull : (run env es).findPullStream name = some j)
    (hactive : ((run env es).stream j).bundledTransport.any (·.isSrtpActive) = true)
    (hdeliver : packet ∈ ((run env es).stream i).delivered env.toSrtpEnv tname data ts) :
    (run env es).Forwarded ((run env es).step env (.readPacket i tname data ts)) j name packet ↔
      ((run env es).stream j).audio = true := by
  rw [forwarded_iff_isSome hpush hpull hdeliver, keyedByOffer_stream env es j]
  have hdesc : ((run env es).stream j).pc.localDesc.isSome = true := by
    rcases h : ((run env es).stream j).pc.localDesc with _ | desc
    · rw [RtcStream.bundledTransport, h] at hactive
      cases hactive
    · rfl
  rw [and_iff_right hdesc, RtcStream.offeredMid]
  rcases ((run env es).stream j).audio with _ | _
  · rcases ((run env es).stream j).video with _ | _ <;> decide
  · exact iff_of_true rfl rfl

/-- User 1 publishes `live` and user 2 plays it, with or without audio; both connect. -/
def playing (audio : Bool) (tname : ByteString) : List ManagerEvent :=
  let dtls : DtlsTransportView := ⟨true, true, some 1, fun n ↦ some (List.replicate n 7)⟩
  [.call (.createPushStream 1 (lit "live") true true (some ⟨none⟩) {}),
    .call (.createPullStream 2 (lit "live") audio true (some ⟨none⟩) {}),
    .dtlsState 0 (lit "audio") .connected true dtls none,
    .dtlsState 1 tname .connected true dtls none]

/-- An RTP packet with an empty payload, and the byte `sampleStreamEnv` authenticates it with. -/
def rtpDatagram : ByteString := [0x80, 0, 0, 0, 0, 0, 0, 0, 0, 0, 0, 0, 7]

theorem forwarded_playing_audio :
    let m := run sampleStreamEnv (playing true (lit "audio"))
    m.Forwarded (m.step sampleStreamEnv (.readPacket 0 (lit "audio") rtpDatagram 0)) 1 (lit "live")
      (.rtp rtpDatagram.dropLast) :=
  (forwarded_iff sampleStreamEnv (playing true (lit "audio")) (by decide) (by decide) (by decide)
    (by decide)).mpr (by decide)

/-- A viewer without audio gets nothing. -/
theorem not_forwarded :
    ¬∀ (Ctx : Type) (env : StreamEnv Ctx) (es : List ManagerEvent) (i j : StreamId)
      (name tname data : ByteString) (ts : ℤ) (packet : MediaPacket),
      (run env es).findPushStream name = some i → (run env es).findPullStream name = some j →
      ((run env es).stream j).bundledTransport.any (·.isSrtpActive) = true →
      packet ∈ ((run env es).stream i).delivered env.toSrtpEnv tname data ts →
      (run env es).Forwarded ((run env es).step env (.readPacket i tname data ts)) j name
        packet := by
  intro h
  have hforwarded := h ByteString sampleStreamEnv (playing false (lit "video")) 0 1 (lit "live")
    (lit "audio") rtpDatagram 0 (.rtp rtpDatagram.dropLast) (by decide) (by decide) (by decide)
    (by decide)
  have hsome := (forwarded_iff_isSome (by decide) (by decide) (by decide)).mp hforwarded
  exact absurd hsome (by decide)

end XrtcServer
