import XrtcServer.Stream.Registration

/-!
# Who may touch a stream

A stream belongs to the user who created it. `stop_push`, `stop_pull` and `set_answer` compare the
user id before they do anything, and what a stream reports while it takes an answer concerns this
stream alone. The two operations that create do not: `create_push_stream` destroys whatever is
published under the name, and `create_pull_stream` takes the map entry of whatever is played under
it.

`leavesOthers_call_iff` says that these two are all there is: a call leaves the streams of the other
users as they are unless it creates a stream under a name another user's stream of this kind has.
-/

namespace XrtcServer

open EventRun ByteString

variable {Ctx : Type}

namespace RtcStreamManager

variable {env : StreamEnv Ctx} {m m' m'' : RtcStreamManager Ctx} {i j : StreamId} {uid : UInt64}

/-- The stream is alive, all its fields are what they were, and it still has its map entry if it had
one. -/
structure Untouched (m m' : RtcStreamManager Ctx) (i : StreamId) : Prop where
  live : m'.live i = true
  stream : m'.stream i = m.stream i
  entry : m.findStream (m.stream i).streamType (m.stream i).streamName = some i →
    m'.findStream (m.stream i).streamType (m.stream i).streamName = some i

/-- The live streams of all users but `uid` are left alone. -/
def LeavesOthers (m m' : RtcStreamManager Ctx) (uid : UInt64) : Prop :=
  ∀ i, m.live i = true → (m.stream i).uid ≠ uid → m.Untouched m' i

/-- The call creates a stream where another user's stream of this kind is registered. -/
def TakesOver (m : RtcStreamManager Ctx) : StreamOp → Prop
  | .createPushStream uid name _ _ _ _ =>
    ∃ i, m.findPushStream name = some i ∧ (m.stream i).uid ≠ uid
  | .createPullStream uid name _ _ _ _ => (m.findPushStream name).isSome = true ∧
    ∃ i, m.findPullStream name = some i ∧ (m.stream i).uid ≠ uid
  | _ => False

theorem Untouched.refl (h : m.live i = true) : m.Untouched m i := ⟨h, rfl, id⟩

theorem Untouched.trans (h : m.Untouched m' i) (h' : m'.Untouched m'' i) : m.Untouched m'' i where
  live := h'.live
  stream := h'.stream.trans h.stream
  entry hentry := by
    have := h'.entry
    rw [h.stream] at this
    exact this (h.entry hentry)

/-! ## One stream changes, or goes -/

theorem untouched_modifyStream (h : m.live i = true) (hne : i ≠ j)
    {f : RtcStream Ctx → RtcStream Ctx} {hf : ∀ s, (f s).key = s.key} :
    m.Untouched (m.modifyStream j f hf) i := ⟨h, stream_modifyStream_of_ne m j f hf hne, id⟩

theorem uid_modifyStream (m : RtcStreamManager Ctx) (j i : StreamId)
    {f : RtcStream Ctx → RtcStream Ctx} {hf : ∀ s, (f s).key = s.key}
    (huid : ∀ s, (f s).uid = s.uid) : ((m.modifyStream j f hf).stream i).uid = (m.stream i).uid :=
  Arena.proj_cell_modify huid j i

theorem untouched_eraseStream (h : m.live i = true) (type : RtcStreamType) (name : ByteString)
    (hne : m.findStream type name ≠ some i) : m.Untouched (m.eraseStream type name) i where
  live := Registry.live_remove_iff.mpr ⟨hne, h⟩
  stream := congrFun Registry.cell_remove i
  entry hentry := by
    have hk : ((m.stream i).streamType, (m.stream i).streamName) ≠ (type, name) := by
      intro hk
      obtain ⟨htype, hname⟩ := Prod.mk.inj hk
      rw [htype, hname] at hentry
      exact hne hentry
    exact (Function.update_of_ne hk ..).trans hentry

theorem untouched_removeStream (h : m.live i = true) (huid : (m.stream i).uid ≠ uid)
    (type : RtcStreamType) (name : ByteString) : m.Untouched (m.removeStream type uid name) i := by
  rcases removeStream_cases m type uid name with ⟨j, hj, hown, heq⟩ | ⟨heq, -⟩
  · rw [heq]
    refine untouched_eraseStream h type name fun hi ↦ ?_
    obtain rfl := Option.some.inj (hj.symm.trans hi)
    exact huid hown
  · rw [heq]
    exact .refl h

theorem untouched_reportState (h : m.live i = true) (huid : (m.stream i).uid ≠ (m.stream j).uid)
    (state : PeerConnectionState) : m.Untouched (m.reportState j state) i := by
  have hne : i ≠ j := fun hij ↦ huid (hij ▸ rfl)
  rw [reportState]
  split_ifs
  · exact .refl h
  · have hmodify : m.Untouched (m.modifyStream j (fun s ↦ s.setState state) fun _ ↦ rfl) i :=
      untouched_modifyStream h hne
    rw [onConnectionState]
    split_ifs
    · refine hmodify.trans ?_
      rw [removeSelf_eq]
      refine untouched_removeStream hmodify.live ?_ _ _
      rw [hmodify.stream]
      refine huid.trans_eq (Eq.symm ?_)
      exact uid_modifyStream m j j fun _ ↦ rfl
    · exact hmodify
  · exact .refl h

/-- The reports of a stream leave its owner alone, too. -/
theorem uid_reportState (m : RtcStreamManager Ctx) (j : StreamId) (state : PeerConnectionState) :
    ((m.reportState j state).stream j).uid = (m.stream j).uid := by
  have huid : ((m.modifyStream j (fun s ↦ s.setState state) fun _ ↦ rfl).stream j).uid =
      (m.stream j).uid := uid_modifyStream _ _ _ fun _ ↦ rfl
  rw [reportState]
  split_ifs
  · rfl
  · rw [onConnectionState]
    split_ifs
    · rw [removeSelf_eq]
      rcases removeStream_cases (m.modifyStream j (fun s ↦ s.setState state) fun _ ↦ rfl)
        ((m.modifyStream j (fun s ↦ s.setState state) fun _ ↦ rfl).stream j).streamType
        ((m.modifyStream j (fun s ↦ s.setState state) fun _ ↦ rfl).stream j).uid
        ((m.modifyStream j (fun s ↦ s.setState state) fun _ ↦ rfl).stream j).streamName
        with ⟨k, -, -, heq⟩ | ⟨heq, -⟩
      · rw [heq]
        exact (congrArg RtcStream.uid (congrFun Registry.cell_remove j)).trans huid
      · rw [heq, huid]
    · exact huid
  · rfl

theorem untouched_reportStates (states : List PeerConnectionState) (m : RtcStreamManager Ctx)
    (h : m.live i = true) (huid : (m.stream i).uid ≠ (m.stream j).uid) :
    m.Untouched (states.foldl (fun m state ↦ m.reportState j state) m) i := by
  induction states generalizing m with
  | nil => exact .refl h
  | cons state states ih =>
    have hone := untouched_reportState h huid state
    refine hone.trans (ih _ hone.live ?_)
    rw [hone.stream, uid_reportState]
    exact huid

/-! ## The five operations

Three of the operations look at the user before they do anything, and leave the others' streams
alone in every state. For the two that create a stream there is an equivalence each: they leave
them alone unless they take the place of one. -/

theorem leavesOthers_answerStream (m : RtcStreamManager Ctx) (type : RtcStreamType) (uid : UInt64)
    (name answer : ByteString) (states : List PeerConnectionState) :
    m.LeavesOthers (m.answerStream env type uid name answer states).1 uid := by
  intro i hi huid
  rw [answerStream]
  split
  · exact .refl hi
  · next j _ =>
    split_ifs with hown
    · exact .refl hi
    · rw [not_not] at hown
      have hne : i ≠ j := fun hij ↦ huid (hij ▸ hown.symm)
      have hmodify : m.Untouched
          (m.modifyStream j (fun s ↦ s.setRemoteSdp env.toSdpEnv answer) fun _ ↦ rfl) i :=
        untouched_modifyStream hi hne
      refine hmodify.trans (untouched_reportStates states _ hmodify.live ?_)
      rw [hmodify.stream]
      refine huid.trans_eq (hown.trans (Eq.symm ?_))
      exact uid_modifyStream m j j fun _ ↦ rfl

theorem leavesOthers_setAnswer (m : RtcStreamManager Ctx) (uid : UInt64)
    (name answer type : ByteString) (states : List PeerConnectionState) :
    m.LeavesOthers (m.setAnswer env uid name answer type states).1 uid := by
  rw [setAnswer]
  split_ifs
  · exact leavesOthers_answerStream m _ _ _ _ _
  · exact leavesOthers_answerStream m _ _ _ _ _
  · exact fun i hi _ ↦ .refl hi

theorem leavesOthers_removeStream (m : RtcStreamManager Ctx) (type : RtcStreamType) (uid : UInt64)
    (name : ByteString) : m.LeavesOthers (m.removeStream type uid name) uid :=
  fun _ hi huid ↦ untouched_removeStream hi huid type name

theorem untouched_startStream (h : m.live i = true) (s : RtcStream Ctx)
    (certificate : Option RTCCertificate) (iceParam : IceParameters)
    (hne : m.findStream s.streamType s.streamName ≠ some i) :
    m.Untouched (m.startStream s certificate iceParam) i where
  live := Arena.live_alloc_iff.mpr (.inr h)
  stream := Arena.cell_alloc_of_ne (Arena.ne_next_of_live h)
  entry hentry := by
    have hk :
        ((m.stream i).streamType, (m.stream i).streamName) ≠ (s.streamType, s.streamName) := by
      intro hk
      obtain ⟨htype, hname⟩ := Prod.mk.inj hk
      rw [htype, hname] at hentry
      exact hne hentry
    exact (Function.update_of_ne hk ..).trans hentry

/-- What a new stream takes the place of has lost its entry. -/
theorem findStream_startStream (m : RtcStreamManager Ctx) (s : RtcStream Ctx)
    (certificate : Option RTCCertificate) (iceParam : IceParameters) :
    (m.startStream s certificate iceParam).findStream s.streamType s.streamName =
      some m.streams.objects.next := Function.update_self ..

theorem leavesOthers_createPushStream_iff (m : RtcStreamManager Ctx) (uid : UInt64)
    (name : ByteString) (audio video : Bool) (certificate : Option RTCCertificate)
    (iceParam : IceParameters) :
    m.LeavesOthers (m.createPushStream uid name audio video certificate iceParam).1 uid ↔
      ¬∃ i, m.findPushStream name = some i ∧ (m.stream i).uid ≠ uid := by
  constructor
  · rintro h ⟨i, hi, huid⟩
    have hlive : m.live i = true := (m.streams.sound _ _ hi).1
    -- it was destroyed before the new one was made
    have hlost := (h i hlive huid).live
    have hdead : (m.eraseStream .push name).live i ≠ true := fun hlive' ↦
      (Registry.live_remove_iff.mp hlive').1 hi
    rcases Arena.live_alloc_iff.mp hlost with hnew | hold
    · have hnext : (m.eraseStream .push name).streams.objects.next = m.streams.objects.next := by
        rw [eraseStream, Registry.objects_remove]
        rcases m.streams.table (.push, name) with _ | k <;> rfl
      exact Arena.ne_next_of_live hlive (hnew.trans hnext)
    · exact hdead hold
  · intro hno i hi huid
    have hne : m.findStream .push name ≠ some i := fun hentry ↦ hno ⟨i, hentry, huid⟩
    have herase := untouched_eraseStream hi .push name hne
    refine herase.trans (untouched_startStream herase.live _ certificate iceParam ?_)
    intro hentry
    cases (Function.update_self ..).symm.trans hentry

theorem leavesOthers_createPullStream_iff (m : RtcStreamManager Ctx) (uid : UInt64)
    (name : ByteString) (audio video : Bool) (certificate : Option RTCCertificate)
    (iceParam : IceParameters) :
    m.LeavesOthers (m.createPullStream uid name audio video certificate iceParam).1 uid ↔
      ¬((m.findPushStream name).isSome = true ∧
        ∃ i, m.findPullStream name = some i ∧ (m.stream i).uid ≠ uid) := by
  rw [createPullStream]
  rcases hpush : m.findPushStream name with _ | pushStream
  · exact iff_of_true (fun i hi _ ↦ .refl hi) fun h ↦ by cases h.1
  dsimp only
  constructor
  · rintro h ⟨-, i, hi, huid⟩
    have hlive : m.live i = true := (m.streams.sound _ _ hi).1
    have hkey : (m.stream i).key = (.pull, name) := (m.streams.sound _ _ hi).2
    have htype : (m.stream i).streamType = .pull := congrArg Prod.fst hkey
    have hname : (m.stream i).streamName = name := congrArg Prod.snd hkey
    -- the entry is not removed, so the new stream stands where `i` stood
    have hsame : m.removePullStream uid name = m := by
      rcases removeStream_cases m .pull uid name with ⟨j, hj, hown, -⟩ | ⟨heq, -⟩
      · obtain rfl := Option.some.inj (hj.symm.trans hi)
        exact absurd hown huid
      · exact heq
    have hentry := (h i hlive huid).entry
    rw [htype, hname, hsame] at hentry
    have hnew := (findStream_startStream m _ certificate iceParam).symm.trans (hentry hi)
    exact Arena.ne_next_of_live hlive (Option.some.inj hnew).symm
  · intro hno i hi huid
    have hremove := untouched_removeStream hi huid .pull name
    refine hremove.trans (untouched_startStream hremove.live _ certificate iceParam ?_)
    intro hentry
    -- an entry left by the removal was there before, and is not the caller's
    refine hno ⟨rfl, i, ?_, huid⟩
    rcases removeStream_cases m .pull uid name with ⟨j, -, -, heq⟩ | ⟨heq, -⟩
    · rw [removePullStream, heq] at hentry
      cases (Function.update_self ..).symm.trans hentry
    · rw [removePullStream, heq] at hentry
      exact hentry

end RtcStreamManager

open RtcStreamManager

/-- **One user's calls and the others' streams.** In every state of every run, a call leaves the
live streams of all other users as they are exactly when it takes none of them over. -/
theorem leavesOthers_call_iff (env : StreamEnv Ctx) (es : List ManagerEvent) (op : StreamOp) :
    (run env es).LeavesOthers ((run env es).step env (.call op)) op.uid ↔
      ¬(run env es).TakesOver op := by
  cases op with
  | createPushStream uid name audio video certificate iceParam =>
    exact leavesOthers_createPushStream_iff _ uid name audio video certificate iceParam
  | createPullStream uid name audio video certificate iceParam =>
    exact leavesOthers_createPullStream_iff _ uid name audio video certificate iceParam
  | setAnswer uid name answer type states =>
    exact iff_of_true (leavesOthers_setAnswer _ uid name answer type states) id
  | stopPush uid name => exact iff_of_true (leavesOthers_removeStream _ .push uid name) id
  | stopPull uid name => exact iff_of_true (leavesOthers_removeStream _ .pull uid name) id

/-- User 2 publishes under the name user 1 publishes under. -/
theorem not_leavesOthers :
    ¬∀ (Ctx : Type) (env : StreamEnv Ctx) (es : List ManagerEvent) (op : StreamOp),
      (run env es).LeavesOthers ((run env es).step env (.call op)) op.uid := by
  intro h
  have huntouched := h ByteString sampleStreamEnv
    [.call (.createPushStream 1 (lit "live") true true none {})]
    (.createPushStream 2 (lit "live") true true none {}) 0 (by decide) (by decide)
  exact absurd huntouched.live (by decide)

end XrtcServer
