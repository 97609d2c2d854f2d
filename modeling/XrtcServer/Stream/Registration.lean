import XrtcServer.Stream.Frame

/-!
# Which streams the manager can find

A stream is stopped, answered, and destroyed after a failure through the map entry under its name.
A live stream that is not the entry of its name is out of reach: it holds its ports and timers for
ever, and when it fails the manager looks up the name and finds another stream, or destroys it.

Every operation but one keeps all live streams registered. `create_push_stream` destroys the stream
whose place it takes; `create_pull_stream` destroys it only if it has the same user, and overwrites
the entry in any case. `Overwrites` is that case, and `streamsRegistered_run_iff` says that nothing
else makes a stream unreachable.
-/

namespace XrtcServer

open EventRun ByteString

variable {Ctx : Type}

namespace RtcStreamManager

variable {env : StreamEnv Ctx} {m m' : RtcStreamManager Ctx} {i j : StreamId}

/-- Of all streams, the step from `m` to `m'` destroyed `i` and no other. -/
def DestroysExactly (m m' : RtcStreamManager Ctx) (i : StreamId) : Prop :=
  ∀ j, m'.live j = true ↔ j ≠ i ∧ m.live j = true

/-- Every live stream is the entry of its name in the map of its kind, and its failure or timeout
destroys exactly this stream. -/
structure StreamsRegistered (m : RtcStreamManager Ctx) : Prop where
  registered : ∀ i, m.live i = true →
    m.findStream (m.stream i).streamType (m.stream i).streamName = some i
  failure : ∀ i, m.live i = true → m.DestroysExactly (m.onConnectionState i .failed) i
  exception : ∀ i, m.live i = true → m.DestroysExactly (m.onStreamException i) i

/-- A pull stream is created over the pull stream of another user. -/
def Overwrites (m : RtcStreamManager Ctx) (e : ManagerEvent) : Prop :=
  ∃ uid streamName audio video certificate iceParam,
    e = .call (.createPullStream uid streamName audio video certificate iceParam) ∧
    (m.findPushStream streamName).isSome = true ∧
    ∃ i, m.findPullStream streamName = some i ∧ (m.stream i).uid ≠ uid

/-! ## Removing a stream -/

/-- The owner of the entry removes it, and nobody else does. -/
theorem removeStream_cases (m : RtcStreamManager Ctx) (type : RtcStreamType) (uid : UInt64)
    (name : ByteString) :
    (∃ i, m.findStream type name = some i ∧ (m.stream i).uid = uid ∧
      m.removeStream type uid name = m.eraseStream type name) ∨
    (m.removeStream type uid name = m ∧
      ∀ i, m.findStream type name = some i → (m.stream i).uid ≠ uid) := by
  rw [removeStream]
  rcases m.findStream type name with _ | i
  · exact .inr ⟨rfl, fun i hi ↦ by cases hi⟩
  · dsimp only
    split_ifs with huid
    · exact .inl ⟨i, rfl, huid.symm, rfl⟩
    · refine .inr ⟨rfl, fun j hj ↦ ?_⟩
      rw [← Option.some.inj hj]
      exact Ne.symm huid

theorem complete_modifyStream (h : m.streams.Complete) (i : StreamId)
    {f : RtcStream Ctx → RtcStream Ctx} {hf : ∀ s, (f s).key = s.key} :
    (m.modifyStream i f hf).streams.Complete := h.modify i hf

theorem complete_removeStream (h : m.streams.Complete) (type : RtcStreamType) (uid : UInt64)
    (name : ByteString) : (m.removeStream type uid name).streams.Complete := by
  rcases removeStream_cases m type uid name with ⟨i, -, -, heq⟩ | ⟨heq, -⟩
  · rw [heq]
    exact h.remove _
  · rw [heq]
    exact h

theorem destroysExactly_removeSelf
    (h : m.findStream (m.stream i).streamType (m.stream i).streamName = some i) :
    m.DestroysExactly (m.removeSelf i) i := by
  intro j
  rw [removeSelf_eq, removeStream, h]
  dsimp only
  rw [if_pos rfl]
  refine (Registry.live_remove_iff).trans (and_congr_left' ?_)
  refine not_congr ?_
  rw [show m.streams.table ((m.stream i).streamType, (m.stream i).streamName) = some i from h,
    Option.some_inj, eq_comm]

theorem streamsRegistered_iff : m.StreamsRegistered ↔ m.streams.Complete := by
  constructor
  · exact fun h i hi ↦ h.registered i hi
  · exact fun h ↦ ⟨h, fun i hi ↦ destroysExactly_removeSelf (h i hi),
      fun i hi ↦ destroysExactly_removeSelf (h i hi)⟩

/-- Everything but the creation of a stream keeps all live streams registered. -/
theorem complete_managerInvariant (env : StreamEnv Ctx) :
    ManagerInvariant env fun m ↦ m.streams.Complete where
  modify _ i _ _ h _ := complete_modifyStream h i
  remove _ type uid name h := complete_removeStream h type uid name
  handoff _ _ h := h

/-! ## Creating a stream

A new stream takes the entry of its name. The stream that had the entry must be gone by then, which
is so for push streams in any case and for pull streams if the user is the same. -/

theorem complete_createPushStream (h : m.streams.Complete) (uid : UInt64) (name : ByteString)
    (audio video : Bool) (certificate : Option RTCCertificate) (iceParam : IceParameters) :
    (m.createPushStream uid name audio video certificate iceParam).1.streams.Complete := by
  refine (Registry.complete_add_iff (h.remove (.push, name))).mpr ?_
  exact Function.update_self ..

/-- A new pull stream hides no other exactly when the entry it takes is free or its own user's. -/
theorem complete_createPullStream_iff (h : m.streams.Complete) (uid : UInt64) (name : ByteString)
    (audio video : Bool) (certificate : Option RTCCertificate) (iceParam : IceParameters) :
    (m.createPullStream uid name audio video certificate iceParam).1.streams.Complete ↔
      ((m.findPushStream name).isSome = true →
        ∀ i, m.findPullStream name = some i → (m.stream i).uid = uid) := by
  rw [createPullStream]
  rcases hpush : m.findPushStream name with _ | pushStream
  · simpa using h
  dsimp only
  refine (Registry.complete_add_iff (complete_removeStream h .pull uid name)).trans ?_
  refine Iff.trans ?_ (imp_iff_right rfl).symm
  rcases removeStream_cases m .pull uid name with ⟨i, hi, huid, heq⟩ | ⟨heq, huid⟩
  · rw [heq]
    refine iff_of_true (Function.update_self ..) fun j hj ↦ ?_
    obtain rfl := Option.some.inj (hi.symm.trans hj)
    exact huid
  · rw [heq]
    constructor
    · intro hnone j hj
      cases hnone.symm.trans hj
    · intro hall
      by_contra hne
      obtain ⟨j, hj⟩ := Option.ne_none_iff_exists'.mp hne
      exact huid j hj (hall j hj)

/-- **One event** keeps all live streams registered exactly when it overwrites none. -/
theorem complete_step_iff (h : m.streams.Complete) (e : ManagerEvent) :
    (m.step env e).streams.Complete ↔ ¬m.Overwrites e := by
  have hother (hne : ∀ uid name audio video certificate iceParam,
      e ≠ .call (.createPullStream uid name audio video certificate iceParam)) :
    ¬m.Overwrites e := by
    rintro ⟨uid, name, audio, video, certificate, iceParam, he, -⟩
    exact hne _ _ _ _ _ _ he
  have hinv := complete_managerInvariant env
  cases e with
  | call op =>
    cases op with
    | createPushStream uid name audio video certificate iceParam =>
      exact iff_of_true (complete_createPushStream h uid name audio video certificate iceParam)
        (hother (by simp))
    | createPullStream uid name audio video certificate iceParam =>
      refine (complete_createPullStream_iff h uid name audio video certificate iceParam).trans ?_
      constructor
      · rintro hown ⟨_, _, _, _, _, _, heq, hpush, i, hi, huid⟩
        cases heq
        exact huid (hown hpush i hi)
      · intro hno hpush i hi
        by_contra huid
        exact hno ⟨uid, name, audio, video, certificate, iceParam, rfl, hpush, i, hi, huid⟩
    | setAnswer uid name answer type states =>
      exact iff_of_true (hinv.setAnswer h uid name answer type states) (hother (by simp))
    | stopPush uid name =>
      exact iff_of_true (complete_removeStream h .push uid name) (hother (by simp))
    | stopPull uid name =>
      exact iff_of_true (complete_removeStream h .pull uid name) (hother (by simp))
  | connectionState i state =>
    exact iff_of_true (hinv.reportState h i state) (hother (by simp))
  | iceTimeout i => exact iff_of_true (hinv.iceTimeoutCb h i) (hother (by simp))
  | dtlsState i name state initOk rtp rtcp =>
    exact iff_of_true (hinv.onTransport h i name _) (hother (by simp))
  | readPacket i name data ts =>
    exact iff_of_true (hinv.onTransport h i name _) (hother (by simp))

end RtcStreamManager

open RtcStreamManager

/-- **The streams of a run.** Every live stream is registered under its name, and its failure
destroys it alone, in every state of a run, exactly when no event of the run creates a pull stream
over that of another user. -/
theorem streamsRegistered_run_iff (env : StreamEnv Ctx) (es : List ManagerEvent) :
    (∀ fs, fs <+: es → StreamsRegistered (run env fs)) ↔
      Along (step env) (fun m e ↦ ¬m.Overwrites e) (init Ctx) es :=
  forall_prefix_iff_along (I := fun _ ↦ True) (fun _ _ _ ↦ trivial)
    (fun _ e _ h ↦ streamsRegistered_iff.trans (complete_step_iff (streamsRegistered_iff.mp h) e))
    trivial (streamsRegistered_iff.mpr (Registry.complete_empty _ _)) es

/-- A library whose contexts are the keys and whose packets end in the first byte of the key. -/
def sampleStreamEnv : StreamEnv ByteString where
  policyForRtp _ := some ⟨2, 1⟩
  policyForRtcp _ := some ⟨2, 1⟩
  create policy := some policy.key
  update _ policy := (policy.key, true)
  protect key data := ⟨key, true, data ++ key.take 1⟩
  protectRtcp key data := ⟨key, true, data ++ key.take 1⟩
  unprotect key data := ⟨key, data.getLast? == key.head?, data.dropLast⟩
  unprotectRtcp key data := ⟨key, data.getLast? == key.head?, data.dropLast⟩
  srtpKeyAndSaltLengths _ := some (1, 1)
  fromString _ := none
  createUniqueFromRfc4572 _ _ := none

/-- User 1 publishes `live`, user 2 plays it, and user 3 plays it too. -/
def twoViewers : List ManagerEvent :=
  [.call (.createPushStream 1 (lit "live") true true none {}),
    .call (.createPullStream 2 (lit "live") true true none {}),
    .call (.createPullStream 3 (lit "live") true true none {})]

/-- The second viewer hides the stream of the first. -/
theorem not_streamsRegistered :
    ¬∀ (Ctx : Type) (env : StreamEnv Ctx) (es : List ManagerEvent),
      StreamsRegistered (run env es) := by
  intro h
  have hentry := (h ByteString sampleStreamEnv twoViewers).registered 1 (by decide)
  exact absurd hentry (by decide)

example : (run sampleStreamEnv (twoViewers ++ [.iceTimeout 1])).live 1 = true := by decide

end XrtcServer
