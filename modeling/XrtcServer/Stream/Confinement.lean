import XrtcServer.Stream.Forwarding

/-!
# Streams of different names

All a manager does on account of an event it does under one name: the name of the call, or the name
of the stream that reports.

## The rule

`NameInvariant` is `ManagerInvariant` with the name fixed: what is kept by assignments to streams of
this name, by removals under it and by packets, is kept by every call about it. The relation to an
earlier state is such an invariant, and `sameElsewhere_step` says what it comes to: the streams of
every other name are what they were. So they are after any number of events about other names,
`sameUnder_run`.

## Packets

The second half is about the packets. A packet crosses from one stream to another inside the manager
only, so each handoff of a run comes from a datagram that a stream of the same name and of the other
kind received; and what a viewer sends as RTP goes nowhere. There is no second way for a packet: a
stream that is not told of one hands none over, and a datagram holds one at most.
-/

namespace XrtcServer

open EventRun ByteString

variable {Ctx : Type}

/-- The name a call is about. -/
def StreamOp.streamName : StreamOp → ByteString
  | createPushStream _ name _ _ _ _ => name
  | createPullStream _ name _ _ _ _ => name
  | setAnswer _ name _ _ _ => name
  | stopPush _ name => name
  | stopPull _ name => name

namespace RtcStreamManager

variable {env : StreamEnv Ctx} {m m' m'' : RtcStreamManager Ctx} {i j : StreamId}
  {name : ByteString} {I : RtcStreamManager Ctx → Prop}

/-- The name an event is about. -/
def eventName (m : RtcStreamManager Ctx) : ManagerEvent → ByteString
  | .call op => op.streamName
  | .connectionState i _ => (m.stream i).streamName
  | .iceTimeout i => (m.stream i).streamName
  | .dtlsState i _ _ _ _ _ => (m.stream i).streamName
  | .readPacket i _ _ _ => (m.stream i).streamName

/-! ## What happens under one name

The rules are those of `ManagerInvariant` with the name fixed: an assignment has to be allowed for
the streams of this name only, and a removal under it. A packet that crosses to another stream goes
to the entry of the same name. -/

/-- Assignments to streams called `name`, removals under it and packets keep `I`. -/
structure NameInvariant (name : ByteString) (I : RtcStreamManager Ctx → Prop) : Prop where
  modify : ∀ (m : RtcStreamManager Ctx) (i : StreamId) (f : RtcStream Ctx → RtcStream Ctx)
    (hf : ∀ s, (f s).key = s.key), I m → (m.stream i).streamName = name → I (m.modifyStream i f hf)
  remove : ∀ (m : RtcStreamManager Ctx) (type : RtcStreamType) (uid : UInt64),
    I m → I (m.removeStream type uid name)
  handoff : ∀ (m : RtcStreamManager Ctx) (h : Handoff),
    I m → I { m with handoffs := m.handoffs ++ [h] }

theorem streamName_modifyStream (m : RtcStreamManager Ctx) (i j : StreamId)
    {f : RtcStream Ctx → RtcStream Ctx} {hf : ∀ s, (f s).key = s.key} :
    ((m.modifyStream i f hf).stream j).streamName = (m.stream j).streamName :=
  congrArg Prod.snd (key_modifyStream m i f hf j)

theorem streamName_removeStream (m : RtcStreamManager Ctx) (type : RtcStreamType) (uid : UInt64)
    (name : ByteString) (j : StreamId) :
    ((m.removeStream type uid name).stream j).streamName = (m.stream j).streamName := by
  rcases removeStream_cases m type uid name with ⟨i, -, -, heq⟩ | ⟨heq, -⟩
  · rw [heq]
    exact congrArg RtcStream.streamName (congrFun Registry.cell_remove j)
  · rw [heq]

theorem streamName_reportState (m : RtcStreamManager Ctx) (i j : StreamId)
    (state : PeerConnectionState) :
    ((m.reportState i state).stream j).streamName = (m.stream j).streamName := by
  rw [reportState]
  split_ifs
  · rfl
  · rw [onConnectionState]
    split_ifs
    · rw [removeSelf_eq, streamName_removeStream]
      exact streamName_modifyStream m i j
    · exact streamName_modifyStream m i j
  · rfl

theorem streamName_of_findStream {type : RtcStreamType} (h : m.findStream type name = some i) :
    (m.stream i).streamName = name := congrArg Prod.snd (m.streams.sound _ _ h).2

namespace NameInvariant

theorem removeSelf (hI : NameInvariant name I) (h : I m) (hi : (m.stream i).streamName = name) :
    I (m.removeSelf i) := by
  rw [removeSelf_eq, hi]
  exact hI.remove _ _ _ h

theorem reportState (hI : NameInvariant name I) (h : I m) (hi : (m.stream i).streamName = name)
    (state : PeerConnectionState) : I (m.reportState i state) := by
  have hmodify : I (m.modifyStream i (fun s ↦ s.setState state) fun _ ↦ rfl) :=
    hI.modify m i _ _ h hi
  rw [RtcStreamManager.reportState]
  split_ifs
  · exact h
  · rw [onConnectionState]
    split_ifs
    · exact hI.removeSelf hmodify ((streamName_modifyStream m i i).trans hi)
    · exact hmodify
  · exact h

theorem reportStates (hI : NameInvariant name I) (states : List PeerConnectionState)
    (m : RtcStreamManager Ctx) (h : I m) (hi : (m.stream i).streamName = name) :
    I (states.foldl (fun m state ↦ m.reportState i state) m) := by
  induction states generalizing m with
  | nil => exact h
  | cons state states ih =>
    refine ih _ (hI.reportState h hi state) ?_
    rw [streamName_reportState, hi]

theorem iceTimeoutCb (hI : NameInvariant name I) (h : I m) (hi : (m.stream i).streamName = name) :
    I (m.iceTimeoutCb i) := by
  have hmodify : I (m.modifyStream i (fun s ↦ { s with iceTimeoutWatcher := false }) fun _ ↦ rfl) :=
    hI.modify m i _ _ h hi
  rw [RtcStreamManager.iceTimeoutCb]
  dsimp only
  split_ifs
  · exact hI.removeSelf hmodify ((streamName_modifyStream m i i).trans hi)
  · exact hmodify
  · exact h

theorem answerStream (hI : NameInvariant name I) (h : I m) (type : RtcStreamType) (uid : UInt64)
    (answer : ByteString) (states : List PeerConnectionState) :
    I (m.answerStream env type uid name answer states).1 := by
  rw [RtcStreamManager.answerStream]
  split
  · exact h
  · next i hfind =>
    have hi := streamName_of_findStream hfind
    split_ifs
    · exact h
    · have hmodify : I (m.modifyStream i (fun s ↦ s.setRemoteSdp env.toSdpEnv answer)
          fun _ ↦ rfl) := hI.modify m i _ _ h hi
      exact hI.reportStates states _ hmodify ((streamName_modifyStream m i i).trans hi)

theorem setAnswer (hI : NameInvariant name I) (h : I m) (uid : UInt64)
    (answer type : ByteString) (states : List PeerConnectionState) :
    I (m.setAnswer env uid name answer type states).1 := by
  rw [RtcStreamManager.setAnswer]
  split_ifs
  · exact hI.answerStream h _ _ _ _
  · exact hI.answerStream h _ _ _ _
  · exact h

theorem sendTo (hI : NameInvariant name I) (h : I m) (type : RtcStreamType)
    (packet : MediaPacket) : I (m.sendTo env type name packet) := by
  rw [RtcStreamManager.sendTo]
  split
  · exact h
  · next i hfind =>
    have hmodify : I (m.modifyStream i
        (fun s ↦ (s.sendOn env.toSrtpEnv RtcStream.sendTransportName packet).1)
        fun s ↦ key_sendOn _ s _ packet) :=
      hI.modify m i _ _ h (streamName_of_findStream hfind)
    rw [RtcStreamManager.send]
    split
    · exact hmodify
    · exact hI.handoff _ _ hmodify

theorem onPacketReceived (hI : NameInvariant name I) (h : I m)
    (hi : (m.stream i).streamName = name) (packet : MediaPacket) :
    I (m.onPacketReceived env i packet) := by
  cases packet with
  | rtp data =>
    rw [RtcStreamManager.onPacketReceived, onRtpPacketReceived, hi]
    split
    · exact hI.sendTo h _ _
    · exact h
  | rtcp data =>
    rw [RtcStreamManager.onPacketReceived, onRtcpPacketReceived, hi]
    split <;> exact hI.sendTo h _ _

end NameInvariant

/-! ## The streams of other names

`SameElsewhere` compares with a fixed earlier state, so that as a predicate of the later one it is
an invariant under the name, and the rule can be applied to it. -/

/-- From `m` to `m'` nothing was done but under `name`. -/
structure SameElsewhere (name : ByteString) (m m' : RtcStreamManager Ctx) : Prop where
  next_le : m.streams.objects.next ≤ m'.streams.objects.next
  key : ∀ i < m.streams.objects.next, (m'.stream i).key = (m.stream i).key
  /-- The entries under another name are the same. -/
  findStream : ∀ type name', name' ≠ name → m'.findStream type name' = m.findStream type name'
  /-- A stream of another name lives, with the fields it had. -/
  stream : ∀ i, m.live i = true → (m.stream i).streamName ≠ name →
    m'.live i = true ∧ m'.stream i = m.stream i
  /-- The new streams are called `name`. -/
  born : ∀ i, m'.live i = true → m.live i = true ∨ (m'.stream i).streamName = name

theorem SameElsewhere.refl (name : ByteString) (m : RtcStreamManager Ctx) :
    SameElsewhere name m m where
  next_le := le_rfl
  key _ _ := rfl
  findStream _ _ _ := rfl
  stream _ h _ := ⟨h, rfl⟩
  born _ h := .inl h

theorem SameElsewhere.modifyStream (h : SameElsewhere name m m')
    (hi : (m'.stream i).streamName = name) {f : RtcStream Ctx → RtcStream Ctx}
    (hf : ∀ s, (f s).key = s.key) : SameElsewhere name m (m'.modifyStream i f hf) where
  next_le := h.next_le
  key j hj := (key_modifyStream m' i f hf j).trans (h.key j hj)
  findStream := h.findStream
  stream j hj hname := by
    obtain ⟨hlive, hstream⟩ := h.stream j hj hname
    have hne : j ≠ i := by
      rintro rfl
      exact hname (hstream ▸ hi)
    exact ⟨hlive, (stream_modifyStream_of_ne m' i f hf hne).trans hstream⟩
  born j hj := (h.born j hj).imp_right (streamName_modifyStream m' i j).trans

theorem SameElsewhere.eraseStream (h : SameElsewhere name m m') (type : RtcStreamType) :
    SameElsewhere name m (m'.eraseStream type name) where
  next_le := by
    have hnext : (m'.eraseStream type name).streams.objects.next = m'.streams.objects.next := by
      rw [RtcStreamManager.eraseStream, Registry.objects_remove]
      rcases m'.streams.table (type, name) with _ | k <;> rfl
    exact h.next_le.trans_eq hnext.symm
  key j hj := (congrArg RtcStream.key (congrFun Registry.cell_remove j)).trans (h.key j hj)
  findStream type' name' hname := by
    refine Eq.trans ?_ (h.findStream type' name' hname)
    exact Function.update_of_ne (fun hk ↦ hname (congrArg Prod.snd hk)) ..
  stream j hj hname := by
    obtain ⟨hlive, hstream⟩ := h.stream j hj hname
    have hne : m'.streams.table (type, name) ≠ some j := fun hentry ↦
      hname (hstream ▸ streamName_of_findStream hentry)
    exact ⟨Registry.live_remove_iff.mpr ⟨hne, hlive⟩,
      (congrFun Registry.cell_remove j).trans hstream⟩
  born j hj := by
    refine (h.born j (Registry.live_remove_iff.mp hj).2).imp_right fun hname ↦ ?_
    exact (congrArg RtcStream.streamName (congrFun Registry.cell_remove j)).trans hname

theorem sameElsewhere_nameInvariant (name : ByteString) (m : RtcStreamManager Ctx) :
    NameInvariant name (SameElsewhere name m) where
  modify _ _ _ hf h hi := h.modifyStream hi hf
  remove m' type uid h := by
    rcases removeStream_cases m' type uid name with ⟨i, -, -, heq⟩ | ⟨heq, -⟩
    · rw [heq]
      exact h.eraseStream type
    · rw [heq]
      exact h
  handoff _ _ h := ⟨h.next_le, h.key, h.findStream, h.stream, h.born⟩

theorem SameElsewhere.startStream {s : RtcStream Ctx} (h : SameElsewhere name m m')
    (hs : s.streamName = name) (certificate : Option RTCCertificate) (iceParam : IceParameters) :
    SameElsewhere name m (m'.startStream s certificate iceParam) where
  next_le := h.next_le.trans (Nat.le_succ _)
  key j hj := by
    refine Eq.trans ?_ (h.key j hj)
    exact congrArg RtcStream.key (Arena.cell_alloc_of_ne (Nat.ne_of_lt (hj.trans_le h.next_le)))
  findStream type name' hname := by
    refine Eq.trans ?_ (h.findStream type name' hname)
    exact Function.update_of_ne (fun hk ↦ hname ((congrArg Prod.snd hk).trans hs)) ..
  stream j hj hname := by
    obtain ⟨hlive, hstream⟩ := h.stream j hj hname
    exact ⟨Arena.live_alloc_iff.mpr (.inr hlive),
      (Arena.cell_alloc_of_ne (Arena.ne_next_of_live hlive)).trans hstream⟩
  born j hj := by
    rcases Arena.live_alloc_iff.mp hj with rfl | hj
    · have hcell : (m'.startStream s certificate iceParam).stream m'.streams.objects.next =
          (s.start certificate).createOffer iceParam := Arena.cell_alloc_next
      rw [hcell]
      exact .inr hs
    · refine (h.born j hj).imp_right fun hname ↦ ?_
      exact (congrArg RtcStream.streamName
        (Arena.cell_alloc_of_ne (Arena.ne_next_of_live hj))).trans hname

theorem sameElsewhere_call (m : RtcStreamManager Ctx) (op : StreamOp) :
    SameElsewhere op.streamName m (m.call env op).1 := by
  have hinv := sameElsewhere_nameInvariant op.streamName m
  have hrefl := SameElsewhere.refl op.streamName m
  cases op with
  | createPushStream uid name audio video certificate iceParam =>
    exact (hrefl.eraseStream .push).startStream rfl certificate iceParam
  | createPullStream uid name audio video certificate iceParam =>
    rw [call, createPullStream]
    split
    · exact hrefl
    · exact (hinv.remove m .pull uid hrefl).startStream rfl certificate iceParam
  | setAnswer uid name answer type states => exact hinv.setAnswer hrefl uid answer type states
  | stopPush uid name => exact hinv.remove m .push uid hrefl
  | stopPull uid name => exact hinv.remove m .pull uid hrefl

/-- The transport `t` of the stream `i` has taken a datagram. -/
def received (env : StreamEnv Ctx) (m : RtcStreamManager Ctx) (i : StreamId) (tname : ByteString)
    (t : DtlsSrtpTransport Ctx) (data : ByteString) (ts : ℤ) : RtcStreamManager Ctx :=
  m.modifyStream i (fun s ↦ s.setTransport tname (t.onReadPacket env.toSrtpEnv data ts).1)
    fun _ ↦ rfl

/-- What comes of a datagram: it holds one packet for the manager, or none. -/
inductive DatagramOutcome (env : StreamEnv Ctx) (m : RtcStreamManager Ctx) (i : StreamId)
    (tname data : ByteString) (ts : ℤ) : RtcStreamManager Ctx → Prop
  | ignored (h : ¬(m.live i = true ∧
      ((m.stream i).dtlsSrtpTransportByName tname).isSome = true)) :
    DatagramOutcome env m i tname data ts m
  | kept {t : DtlsSrtpTransport Ctx} (hlive : m.live i = true)
    (ht : (m.stream i).dtlsSrtpTransportByName tname = some t)
    (hnone : (m.stream i).delivered env.toSrtpEnv tname data ts = []) :
    DatagramOutcome env m i tname data ts (m.received env i tname t data ts)
  | passedOn {t : DtlsSrtpTransport Ctx} {packet : MediaPacket} (hlive : m.live i = true)
    (ht : (m.stream i).dtlsSrtpTransportByName tname = some t)
    (hone : (m.stream i).delivered env.toSrtpEnv tname data ts = [packet]) :
    DatagramOutcome env m i tname data ts
      ((m.received env i tname t data ts).onPacketReceived env i packet)

theorem datagramOutcome_step (env : StreamEnv Ctx) (m : RtcStreamManager Ctx) (i : StreamId)
    (tname data : ByteString) (ts : ℤ) :
    DatagramOutcome env m i tname data ts (m.step env (.readPacket i tname data ts)) := by
  rw [step, onTransport]
  split_ifs with hlive
  · rcases ht : (m.stream i).dtlsSrtpTransportByName tname with _ | t
    · exact .ignored (by simp [ht])
    have hdelivered : (m.stream i).delivered env.toSrtpEnv tname data ts =
        (t.onReadPacket env.toSrtpEnv data ts).2.filterMap MediaOutput.packet := by
      rw [RtcStream.delivered, ht]
    have hfold := @foldl_onMediaOutput Ctx env i
      (t.onReadPacket env.toSrtpEnv data ts).2 (m.received env i tname t data ts)
    rw [← hdelivered] at hfold
    dsimp only [DtlsSrtpTransport.handle]
    rw [← received, hfold]
    rcases hd : (m.stream i).delivered env.toSrtpEnv tname data ts with _ | ⟨packet, packets⟩
    · exact .kept hlive ht hd
    · have hmem : packet ∈ (m.stream i).delivered env.toSrtpEnv tname data ts := by simp [hd]
      obtain ⟨t', ht', hone⟩ := RtcStream.delivered_of_mem hmem
      obtain rfl := Option.some.inj (ht.symm.trans ht')
      rw [← hdelivered, hd] at hone
      obtain rfl := (List.cons.inj hone).2
      exact .passedOn hlive ht hd
  · exact .ignored fun h ↦ hlive h.1

/-- Whatever happens to a manager, in any state, happens under the name of the event: the streams of
every other name live on unchanged under their entries. -/
theorem sameElsewhere_step (env : StreamEnv Ctx) (m : RtcStreamManager Ctx) (e : ManagerEvent) :
    SameElsewhere (m.eventName e) m (m.step env e) := by
  have hinv := sameElsewhere_nameInvariant (m.eventName e) m
  have hrefl := SameElsewhere.refl (m.eventName e) m
  cases e with
  | call op => exact sameElsewhere_call m op
  | connectionState i state => exact hinv.reportState hrefl rfl state
  | iceTimeout i => exact hinv.iceTimeoutCb hrefl rfl
  | dtlsState i tname state initOk rtp rtcp =>
    dsimp only [step, onTransport]
    split_ifs
    · split
      · exact hrefl
      · exact hrefl.modifyStream rfl _
    · exact hrefl
  | readPacket i tname data ts =>
    have hreceived (t : DtlsSrtpTransport Ctx) :
        SameElsewhere (m.stream i).streamName m (m.received env i tname t data ts) :=
      hrefl.modifyStream rfl _
    have hname (t : DtlsSrtpTransport Ctx) :
        ((m.received env i tname t data ts).stream i).streamName = (m.stream i).streamName :=
      streamName_modifyStream m i i
    have houtcome := datagramOutcome_step env m i tname data ts
    generalize m.step env (.readPacket i tname data ts) = m' at houtcome ⊢
    cases houtcome with
    | ignored h => exact hrefl
    | kept hlive ht hnone => exact hreceived _
    | passedOn hlive ht hone => exact hinv.onPacketReceived (hreceived _) (hname _) _

/-! ## Where packets come from

`handoffOf` is computed from the state before the event, and the log of the manager grows by that
and nothing else. Everything that is not a datagram leaves the log alone, and these are the short
lemmas. -/

end RtcStreamManager

/-- The kind of stream that a packet goes to, by the kind of stream it came from. -/
def MediaPacket.target : MediaPacket → RtcStreamType → Option RtcStreamType
  | .rtp _, .push => some .pull
  | .rtcp _, .push => some .pull
  | .rtcp _, .pull => some .push
  | .rtp _, .pull => none

namespace RtcStreamManager

variable {env : StreamEnv Ctx} {m : RtcStreamManager Ctx}

theorem onPacketReceived_eq (m : RtcStreamManager Ctx) (i : StreamId) (packet : MediaPacket) :
    m.onPacketReceived env i packet = (packet.target (m.stream i).streamType).elim m fun type ↦
      m.sendTo env type (m.stream i).streamName packet := by
  cases packet with
  | rtp data =>
    rw [onPacketReceived, onRtpPacketReceived]
    rcases (m.stream i).streamType with _ | _ <;> rfl
  | rtcp data =>
    rw [onPacketReceived, onRtcpPacketReceived]
    rcases (m.stream i).streamType with _ | _ <;> rfl

/-- The handoff that the event makes, if it makes one. -/
def handoffOf (env : StreamEnv Ctx) (m : RtcStreamManager Ctx) (e : ManagerEvent) :
    Option Handoff := ((m.step env e).handoffs.drop m.handoffs.length).head?

/-- A live stream received the packet of `h` in a datagram, and it goes to the entry of the same
name and of the kind that such a packet is for. -/
def Sends (env : StreamEnv Ctx) (m : RtcStreamManager Ctx) (e : ManagerEvent) (h : Handoff) :
    Prop :=
  ∃ i tname data ts type, e = .readPacket i tname data ts ∧ m.live i = true ∧
    h.packet ∈ (m.stream i).delivered env.toSrtpEnv tname data ts ∧
    h.packet.target (m.stream i).streamType = some type ∧
    m.findStream type (m.stream i).streamName = some h.stream

theorem handoffs_removeStream (m : RtcStreamManager Ctx) (type : RtcStreamType) (uid : UInt64)
    (name : ByteString) : (m.removeStream type uid name).handoffs = m.handoffs := by
  rcases removeStream_cases m type uid name with ⟨i, -, -, heq⟩ | ⟨heq, -⟩ <;> rw [heq]
  rfl

theorem handoffs_removeSelf (m : RtcStreamManager Ctx) (i : StreamId) :
    (m.removeSelf i).handoffs = m.handoffs := by
  rw [removeSelf_eq, handoffs_removeStream]

theorem handoffs_reportState (m : RtcStreamManager Ctx) (i : StreamId)
    (state : PeerConnectionState) : (m.reportState i state).handoffs = m.handoffs := by
  rw [reportState]
  split_ifs
  · rfl
  · rw [onConnectionState]
    split_ifs
    · exact handoffs_removeSelf _ i
    · rfl
  · rfl

theorem handoffs_iceTimeoutCb (m : RtcStreamManager Ctx) (i : StreamId) :
    (m.iceTimeoutCb i).handoffs = m.handoffs := by
  rw [iceTimeoutCb]
  dsimp only
  split_ifs
  · exact handoffs_removeSelf _ i
  · rfl
  · rfl

theorem handoffs_answerStream (m : RtcStreamManager Ctx) (type : RtcStreamType) (uid : UInt64)
    (name answer : ByteString) (states : List PeerConnectionState) :
    (m.answerStream env type uid name answer states).1.handoffs = m.handoffs := by
  have hreports (m : RtcStreamManager Ctx) (i : StreamId) :
      (states.foldl (fun m state ↦ m.reportState i state) m).handoffs = m.handoffs := by
    induction states generalizing m with
    | nil => rfl
    | cons state states ih => exact (ih _).trans (handoffs_reportState m i state)
  rw [answerStream]
  split
  · rfl
  · split_ifs
    · rfl
    · exact hreports _ _

theorem handoffs_call (m : RtcStreamManager Ctx) (op : StreamOp) :
    (m.call env op).1.handoffs = m.handoffs := by
  cases op with
  | createPushStream uid name audio video certificate iceParam => rfl
  | createPullStream uid name audio video certificate iceParam =>
    rw [call, createPullStream]
    split
    · rfl
    · exact handoffs_removeStream m .pull uid name
  | setAnswer uid name answer type states =>
    rw [call, setAnswer]
    split_ifs
    · exact handoffs_answerStream m .push uid name answer states
    · exact handoffs_answerStream m .pull uid name answer states
    · rfl
  | stopPush uid name => exact handoffs_removeStream m .push uid name
  | stopPull uid name => exact handoffs_removeStream m .pull uid name

theorem sends_readPacket {i : StreamId} {tname data : ByteString} {ts : ℤ}
    {t : DtlsSrtpTransport Ctx} {packet : MediaPacket} (hlive : m.live i = true)
    (hdelivered : packet ∈ (m.stream i).delivered env.toSrtpEnv tname data ts) :
    ∃ o : Option Handoff,
      ((m.received env i tname t data ts).onPacketReceived env i packet).handoffs =
        m.handoffs ++ o.toList ∧ ∀ h ∈ o, m.Sends env (.readPacket i tname data ts) h := by
  have hkey : ((m.received env i tname t data ts).stream i).key = (m.stream i).key :=
    key_modifyStream m i _ _ i
  obtain ⟨htype, hname⟩ := Prod.mk.inj hkey
  rw [onPacketReceived_eq, htype, hname]
  rcases htarget : packet.target (m.stream i).streamType with _ | type
  · exact ⟨none, (List.append_nil _).symm, fun h hh ↦ by cases hh⟩
  dsimp only [Option.elim]
  rw [sendTo]
  split
  · exact ⟨none, (List.append_nil _).symm, fun h hh ↦ by cases hh⟩
  · next j hfind =>
    refine ⟨_, handoffs_send _ j packet, fun h hh ↦ ?_⟩
    obtain ⟨sent, -, rfl⟩ := Option.mem_map.mp hh
    exact ⟨i, tname, data, ts, type, rfl, hlive, hdelivered, htarget, hfind⟩

theorem handoffOf_eq {e : ManagerEvent} {o : Option Handoff}
    (ho : (m.step env e).handoffs = m.handoffs ++ o.toList) : m.handoffOf env e = o := by
  rw [handoffOf, ho, List.drop_left]
  cases o <;> rfl

/-- **One event** makes one handoff at most, of a packet that came in with it. -/
theorem handoffs_step (env : StreamEnv Ctx) (m : RtcStreamManager Ctx) (e : ManagerEvent) :
    (m.step env e).handoffs = m.handoffs ++ (m.handoffOf env e).toList ∧
      ∀ h ∈ m.handoffOf env e, m.Sends env e h := by
  suffices hone : ∃ o : Option Handoff, (m.step env e).handoffs = m.handoffs ++ o.toList ∧
      ∀ h ∈ o, m.Sends env e h by
    obtain ⟨o, ho, hsends⟩ := hone
    rw [handoffOf_eq ho]
    exact ⟨ho, hsends⟩
  have hnothing (hsame : (m.step env e).handoffs = m.handoffs) :
      ∃ o : Option Handoff, (m.step env e).handoffs = m.handoffs ++ o.toList ∧
        ∀ h ∈ o, m.Sends env e h :=
    ⟨none, hsame.trans (List.append_nil _).symm, fun h hh ↦ by cases hh⟩
  cases e with
  | call op => exact hnothing (handoffs_call m op)
  | connectionState i state => exact hnothing (handoffs_reportState m i state)
  | iceTimeout i => exact hnothing (handoffs_iceTimeoutCb m i)
  | dtlsState i tname state initOk rtp rtcp =>
    refine hnothing ?_
    dsimp only [step, onTransport]
    split_ifs
    · split <;> rfl
    · rfl
  | readPacket i tname data ts =>
    have houtcome := datagramOutcome_step env m i tname data ts
    generalize m.step env (.readPacket i tname data ts) = m' at houtcome hnothing ⊢
    cases houtcome with
    | ignored h => exact hnothing rfl
    | kept hlive ht hnone => exact hnothing rfl
    | passedOn hlive ht hone => exact sends_readPacket hlive (by simp [hone])

/-! ## A name that no event is about -/

/-- From `m` to `m'` nothing happened under `name`: its streams and entries are what they were, no
stream of that name is new, and none was sent a packet. -/
structure SameUnder (name : ByteString) (m m' : RtcStreamManager Ctx) : Prop where
  findStream : ∀ type, m'.findStream type name = m.findStream type name
  stream : ∀ i, m.live i = true → (m.stream i).streamName = name →
    m'.live i = true ∧ m'.stream i = m.stream i
  born : ∀ i, m'.live i = true → (m'.stream i).streamName = name → m.live i = true
  handoffs : ∃ new, m'.handoffs = m.handoffs ++ new ∧ ∀ h ∈ new,
    h.stream < m'.streams.objects.next ∧ (m'.stream h.stream).streamName ≠ name

theorem SameUnder.refl (name : ByteString) (m : RtcStreamManager Ctx) : SameUnder name m m where
  findStream _ := rfl
  stream _ h _ := ⟨h, rfl⟩
  born _ h _ := h
  handoffs := ⟨[], (List.append_nil _).symm, fun h hh ↦ by cases hh⟩

theorem SameUnder.step {m' : RtcStreamManager Ctx} {name : ByteString} (h : SameUnder name m m')
    {e : ManagerEvent} (he : m'.eventName e ≠ name) : SameUnder name m (m'.step env e) := by
  have hstep := sameElsewhere_step env m' e
  refine ⟨fun type ↦ ?_, fun i hi hname ↦ ?_, fun i hi hname ↦ ?_, ?_⟩
  · rw [hstep.findStream type name he.symm, h.findStream type]
  · obtain ⟨hlive, hstream⟩ := h.stream i hi hname
    obtain ⟨hlive', hstream'⟩ := hstep.stream i hlive (by rw [hstream, hname]; exact he.symm)
    exact ⟨hlive', hstream'.trans hstream⟩
  · rcases hstep.born i hi with hlive | hborn
    · have hkey := hstep.key i (m'.streams.objects.live_lt i hlive)
      exact h.born i hlive ((congrArg Prod.snd hkey).symm.trans hname)
    · exact absurd (hborn.symm.trans hname) he
  · obtain ⟨new, hnew, hothers⟩ := h.handoffs
    obtain ⟨hhandoffs, hsends⟩ := handoffs_step env m' e
    refine ⟨new ++ (m'.handoffOf env e).toList, by rw [hhandoffs, hnew, List.append_assoc], ?_⟩
    have hkept (j : StreamId) (hj : j < m'.streams.objects.next)
        (hname : (m'.stream j).streamName ≠ name) :
        j < (m'.step env e).streams.objects.next ∧
          ((m'.step env e).stream j).streamName ≠ name := by
      refine ⟨hj.trans_le hstep.next_le, fun hname' ↦ hname ?_⟩
      exact (congrArg Prod.snd (hstep.key j hj)).symm.trans hname'
    intro h hh
    rcases List.mem_append.mp hh with hh | hh
    · exact hkept h.stream (hothers h hh).1 (hothers h hh).2
    · -- the receiver stands under the name of the event
      obtain ⟨i, tname, data, ts, type, rfl, -, -, -, hfind⟩ :=
        hsends h (Option.mem_toList.mp hh)
      refine hkept h.stream (m'.streams.objects.live_lt _ (m'.streams.sound _ _ hfind).1) ?_
      rw [streamName_of_findStream hfind]
      exact he

/-- **Names do not interfere.** After any run, whatever number of events about other names leaves
the streams of a name exactly as they are. -/
theorem sameUnder_run (env : StreamEnv Ctx) (name : ByteString) (es fs : List ManagerEvent)
    (hfs : Along (step env) (fun m e ↦ m.eventName e ≠ name) (run env es) fs) :
    SameUnder name (run env es) (run env (es ++ fs)) := by
  have hrun : run env (es ++ fs) = exec (step env) (run env es) fs := exec_append ..
  rw [hrun]
  exact exec_invariant_along (I := SameUnder name (run env es)) (fun _ _ he h ↦ h.step he)
    (.refl name _) hfs

/-- Somebody publishes and stops under another name while `live` is played. -/
theorem sameUnder_playing :
    SameUnder (lit "live") (run sampleStreamEnv (playing true (lit "audio")))
      (run sampleStreamEnv (playing true (lit "audio") ++
        [.call (.createPushStream 3 (lit "other") true true none {}), .iceTimeout 2,
          .call (.stopPush 3 (lit "other"))])) :=
  sameUnder_run sampleStreamEnv (lit "live") (playing true (lit "audio")) _
    ⟨by decide, by decide, by decide, trivial⟩

/-! ## The handoffs of a run -/

/-- **Every handoff of a run** comes from a datagram of the run; they stand in the order in which
the datagrams came, one for each at most. A packet goes to the stream of the same name and of the
other kind, and no RTP goes from a viewer to anyone. -/
theorem handoffs_run (env : StreamEnv Ctx) (es : List ManagerEvent) :
    (run env es).handoffs = trail (step env) (handoffOf env) (init Ctx) es ∧
      ∀ h ∈ (run env es).handoffs,
        Once (fun fs e ↦ h ∈ (run env fs).handoffOf env e ∧ (run env fs).Sends env e h) es := by
  refine exec_induction (s := init Ctx) (J := fun es m ↦
    m.handoffs = trail (step env) (handoffOf env) (init Ctx) es ∧ ∀ h ∈ m.handoffs,
      Once (fun fs e ↦ h ∈ (run env fs).handoffOf env e ∧ (run env fs).Sends env e h) es)
    ⟨rfl, fun h hh ↦ by cases hh⟩ (fun es e ih ↦ ?_) es
  obtain ⟨htrail, honce⟩ := ih
  obtain ⟨hstep, hsends⟩ := handoffs_step env (exec (step env) (init Ctx) es) e
  refine ⟨?_, fun h hh ↦ ?_⟩
  · rw [hstep, htrail, trail_append]
    exact congrArg _ (List.append_nil _).symm
  · rw [hstep, List.mem_append] at hh
    rcases hh with hh | hh
    · exact (honce h hh).snoc e
    · have hof := Option.mem_toList.mp hh
      exact Once.last ⟨hof, hsends h hof⟩

end RtcStreamManager

end XrtcServer
