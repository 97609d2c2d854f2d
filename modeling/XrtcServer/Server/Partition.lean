import XrtcServer.Server.CertificateOwner
import XrtcServer.Server.Dispatch
import XrtcServer.Stream.Confinement
import XrtcServer.Stream.Ownership

/-!
# Names are divided among the workers

Each worker has a stream manager of its own, and none knows of the others. A viewer finds a
publisher all the same, because the server sends every command to the worker that the stream's name
hashes to, and that depends on nothing else.

## The rule

`placed_run` is the rule: what a worker's streams keep under commands of names that hash to it and
under the events of its loop holds of the streams of every worker in every state of a run. Behind it
is the way of a command: each message is at its worker from the moment the server has forwarded it
(`RtcWorker.Placed`), whatever the threads do in between.

## Two instances

The live streams of a worker have names that hash to it (`belongs_run`), so two workers never carry
streams of one name. And a pull command is refused exactly when nobody in the whole server publishes
the name (`refuses_iff`): the worker that looks into its own map has looked for everybody.
-/

namespace XrtcServer

open EventRun Mailbox ByteString

variable {Ctx σ ι ε : Type}

/-! ## What the streams of each worker keep

The induction is over all threads, but the streams of a worker are touched by its own thread and its
own loop alone. What has to be carried through the others is that a message in its queue has a name
that hashes to it. -/

/-- The handlers keep `P`; a command comes to the worker that its name hashes to. -/
structure RtcServerEnv.Keeps (env : RtcServerEnv σ ι ε) (P : ℕ → σ → Prop) : Prop where
  processRtcMsg : ∀ certificates x w streams msg, P w streams →
    env.workerIndex msg.streamName = w →
    P w (env.handlers.processRtcMsg certificates x streams msg).1
  onEvent : ∀ certificates w streams e, P w streams →
    P w (env.handlers.onEvent certificates streams e)

/-- The messages of the worker `w`, in its queue and in its hands, are at the right place. -/
structure RtcWorker.Placed (here : ℕ → ℕ → Prop) (P : ℕ → σ → Prop) (w : ℕ)
    (worker : RtcWorker σ) : Prop where
  queue : ∀ m ∈ worker.inbox.queue, here m w
  popped : ∀ m, worker.pc = .popped m → here m w
  streams : P w worker.streams

namespace RtcSystem

variable {env : RtcServerEnv σ ι ε} {P : ℕ → σ → Prop} {s s' : RtcSystem σ} {w m : ℕ}

/-- The message exists, and its name hashes to `w`. -/
def Here (env : RtcServerEnv σ ι ε) (s : RtcSystem σ) (m w : ℕ) : Prop :=
  m < s.messages.next ∧ s.dest env m = w

/-- All workers are. -/
def Placed (env : RtcServerEnv σ ι ε) (P : ℕ → σ → Prop) (s : RtcSystem σ) : Prop :=
  ∀ w, (s.workers w).Placed (s.Here env) P w

theorem Placed.congr (h : s.Placed env P) (hworkers : s'.workers = s.workers)
    (hhere : ∀ m w, s.Here env m w → s'.Here env m w) : s'.Placed env P := by
  intro w
  rw [hworkers]
  obtain ⟨hqueue, hpopped, hstreams⟩ := h w
  exact ⟨fun m hm ↦ hhere m w (hqueue m hm), fun m hm ↦ hhere m w (hpopped m hm), hstreams⟩

theorem here_modify (f : QueuedMsg → QueuedMsg) (hf : ∀ msg, (f msg).streamName = msg.streamName)
    {m' : ℕ} (hs : s'.messages = s.messages.modify m' f) (h : s.Here env m w) :
    s'.Here env m w := by
  refine ⟨h.1.trans_eq (by rw [hs]; rfl), Eq.trans ?_ h.2⟩
  rw [dest, msg, hs]
  exact congrArg env.workerIndex
    (Arena.proj_cell_modify (p := fun msg : QueuedMsg ↦ msg.streamName) hf m' m)

theorem Placed.setWorker (h : s.Placed env P) {worker : RtcWorker σ}
    (hworker : worker.Placed (s.Here env) P w) : (s.setWorker w worker).Placed env P :=
  forall_setWorker (P := fun w worker ↦ worker.Placed (s.Here env) P w) hworker fun w' _ ↦ h w'

theorem Placed.setWorker_of_idle (h : s.Placed env P) {worker : RtcWorker σ}
    (hqueue : worker.inbox.queue = (s.workers w).inbox.queue) (hpc : ∀ m, worker.pc ≠ .popped m)
    (hstreams : worker.streams = (s.workers w).streams) : (s.setWorker w worker).Placed env P := by
  refine h.setWorker ⟨?_, fun m hm ↦ absurd hm (hpc m), ?_⟩
  · rw [hqueue]
    exact (h w).queue
  · rw [hstreams]
    exact (h w).streams

theorem Placed.stepServer (h : s.Placed env P) (hnumbered : s.Numbered) :
    (s.stepServer env).Placed env P := by
  rw [RtcSystem.stepServer]
  split
  · split <;> exact h
  · split <;> exact h
  · exact h
  · next m _ =>
    obtain ⟨certificates, certificate, generations, hcheck⟩ :=
      s.exists_generateAndCheckCertificate env
    rw [serverCertify]
    dsimp only
    rw [hcheck]
    split_ifs
    · exact h
    · exact h.congr rfl fun m' w hm' ↦
        here_modify (fun msg ↦ { msg with certificate }) (fun _ ↦ rfl) rfl hm'
  · next m hpc =>
    have hm : m < s.messages.next := by
      refine hnumbered.lt_next (List.mem_append_left _ (hnumbered.held ?_))
      rw [hpc]
      exact List.mem_singleton_self m
    rw [serverPush]
    split
    · exact h
    · next w hw =>
      have hdest : s.dest env m = w := by
        rw [RtcServerEnv.getWorker] at hw
        split_ifs at hw
        exact Option.some.inj hw
      refine Placed.setWorker (w := w) h ⟨fun m' hm' ↦ ?_, (h w).popped, (h w).streams⟩
      rcases List.mem_append.mp hm' with hm' | hm'
      · exact (h w).queue m' hm'
      · rw [List.mem_singleton.mp hm']
        exact ⟨hm, hdest⟩
  · next w _ _ => exact Placed.setWorker (w := w) h ⟨(h w).queue, (h w).popped, (h w).streams⟩

theorem Placed.stepWorker (hkeeps : env.Keeps P) (h : s.Placed env P) (w : ℕ) (x : ι) :
    (s.stepWorker env w x).Placed env P := by
  rw [RtcSystem.stepWorker]
  split
  · split
    · exact h
    · next hread => exact h.setWorker_of_idle (read_eq_some hread).2.1 (by simp) rfl
  · split
    · exact h.setWorker_of_idle rfl (by simp) rfl
    · next m inbox hpop =>
      obtain ⟨hqueue, -, -⟩ := pop_eq_some hpop
      have hmem := (h w).queue
      rw [hqueue] at hmem
      refine h.setWorker ⟨fun m' hm' ↦ hmem m' (List.mem_cons_of_mem _ hm'), ?_, (h w).streams⟩
      rintro m' ⟨⟩
      exact hmem m List.mem_cons_self
  · exact h.setWorker_of_idle rfl (by simp) rfl
  · next m hpc =>
    -- the command is carried out
    have hstreams := hkeeps.processRtcMsg s.certificates x w (s.workers w).streams (s.msg m)
      (h w).streams ((h w).popped m hpc).2
    rw [workerExecute]
    dsimp only
    split
    · exact h.setWorker ⟨(h w).queue, by simp, hstreams⟩
    · next offer ret _ =>
      have hmodify : (s.modifyMsg m fun msg ↦ msg.answer offer ret).Placed env P :=
        h.congr rfl fun m' w hm' ↦
          here_modify (fun msg ↦ msg.answer offer ret) (fun _ ↦ rfl) rfl hm'
      exact hmodify.setWorker ⟨(hmodify w).queue, by simp, hstreams⟩
  · rw [workerPush]
    dsimp only
    split
    · exact h.setWorker_of_idle rfl (by simp) rfl
    · exact h.setWorker_of_idle rfl (by simp) rfl
  · exact h.setWorker_of_idle rfl (by simp) rfl

theorem Placed.step (hkeeps : env.Keeps P) (h : s.Placed env P) (hnumbered : s.Numbered)
    (e : RtcEvent ι ε) : (s.step env e).Placed env P := by
  cases e with
  | request i msg =>
    rw [RtcSystem.step, request]
    split
    · refine h.congr rfl fun m w hm ↦ ⟨hm.1.trans (Nat.lt_succ_self _), Eq.trans ?_ hm.2⟩
      exact congrArg (fun msg : QueuedMsg ↦ env.workerIndex msg.streamName)
        (Arena.cell_alloc_of_ne (Nat.ne_of_lt hm.1))
    · exact h
  | accept i fd =>
    rw [RtcSystem.step, RtcSystem.accept]
    split <;> exact h
  | acceptor =>
    rw [RtcSystem.step, stepAcceptor]
    split <;> exact h
  | signaling i =>
    rw [RtcSystem.step, stepSignaling]
    split
    · split <;> exact h
    · exact h
    · exact h
    · split <;> exact h
    · exact h
  | server => exact h.stepServer hnumbered
  | worker w x => exact h.stepWorker hkeeps w x
  | loop w e =>
    rw [RtcSystem.step, loopEvent]
    split
    · exact h.setWorker
        ⟨(h w).queue, (h w).popped, hkeeps.onEvent s.certificates w _ e (h w).streams⟩
    · exact h
  | clock seconds => exact h

/-- **What the streams keep.** Commands reach a worker under names that hash to it alone. -/
theorem placed_run (hkeeps : env.Keeps P) {streams : σ} (hstreams : ∀ w, P w streams) (now : ℕ)
    (es : List (RtcEvent ι ε)) : (run env streams now es).Placed env P := by
  refine (exec_invariant (I := fun s : RtcSystem σ ↦ s.Numbered ∧ s.Placed env P)
    (fun s e h ↦ ⟨h.1.step env e, h.2.step hkeeps h.1 e⟩)
    ⟨numbered_init env streams now, fun w ↦ ?_⟩ es).2
  obtain ⟨certificates, certificate, generations, hcheck⟩ :=
    exists_generateAndCheckCertificate env { now, workers := fun _ ↦ { streams } : RtcSystem σ }
  rw [init, hcheck]
  exact ⟨by simp, by simp, hstreams w⟩

end RtcSystem

/-! ## The managers of the workers

A command changes the manager through one call, or through none, and the loop through an event. So
an invariant of managers with the name fixed comes over to the workers as it is. -/

namespace RtcStreamManager

variable {env : StreamEnv Ctx} {m : RtcStreamManager Ctx} {p : ByteString → Prop}

/-- The names of all live streams satisfy `p`. -/
def NamesIn (p : ByteString → Prop) (m : RtcStreamManager Ctx) : Prop :=
  ∀ i, m.live i = true → p (m.stream i).streamName

/-- Every live push stream is the entry of its name. -/
def PushesRegistered (m : RtcStreamManager Ctx) : Prop :=
  ∀ i, m.live i = true → (m.stream i).streamType = .push →
    m.findPushStream (m.stream i).streamName = some i

/-- What is no call keeps an invariant of managers. -/
theorem ManagerInvariant.step {I : RtcStreamManager Ctx → Prop} (hI : ManagerInvariant env I)
    (h : I m) {e : ManagerEvent} (he : ∀ op, e ≠ .call op) : I (m.step env e) := by
  cases e with
  | call op => exact absurd rfl (he op)
  | connectionState i state => exact hI.reportState h i state
  | iceTimeout i => exact hI.iceTimeoutCb h i
  | dtlsState i name state initOk rtp rtcp =>
    exact hI.onTransport h i name (.dtlsState state initOk rtp rtcp)
  | readPacket i name data ts => exact hI.onTransport h i name (.readPacket data ts)

theorem namesIn_managerInvariant (env : StreamEnv Ctx) (p : ByteString → Prop) :
    ManagerInvariant env (NamesIn p) where
  modify m i f hf h _ j hj := by
    rw [streamName_modifyStream]
    exact h j hj
  remove m type uid name h j hj := by
    rw [streamName_removeStream]
    refine h j ?_
    rcases removeStream_cases m type uid name with ⟨i, -, -, heq⟩ | ⟨heq, -⟩
    · rw [heq] at hj
      exact (Registry.live_remove_iff.mp hj).2
    · rwa [heq] at hj
  handoff _ _ h := h

theorem namesIn_call (h : m.NamesIn p) {op : StreamOp} (hop : p op.streamName) :
    (m.call env op).1.NamesIn p := by
  intro i hi
  have hsame := @sameElsewhere_call Ctx env m op
  rcases hsame.born i hi with hlive | hborn
  · have hkey := hsame.key i (m.streams.objects.live_lt i hlive)
    rw [show ((m.call env op).1.stream i).streamName = (m.stream i).streamName from
      congrArg Prod.snd hkey]
    exact h i hlive
  · rw [hborn]
    exact hop

theorem pushesRegistered_eraseStream (h : m.PushesRegistered) (type : RtcStreamType)
    (name : ByteString) : (m.eraseStream type name).PushesRegistered := by
  intro i hi htype
  have hcell : (m.eraseStream type name).stream i = m.stream i := congrFun Registry.cell_remove i
  obtain ⟨hne, hlive⟩ := Registry.live_remove_iff.mp hi
  rw [hcell] at htype ⊢
  have hentry := h i hlive htype
  -- its own entry is not the one that was erased
  have hk : (RtcStreamType.push, (m.stream i).streamName) ≠ (type, name) := by
    intro hk
    exact hne (hk ▸ hentry)
  exact (Function.update_of_ne hk ..).trans hentry

theorem pushesRegistered_removeStream (h : m.PushesRegistered) (type : RtcStreamType)
    (uid : UInt64) (name : ByteString) : (m.removeStream type uid name).PushesRegistered := by
  rcases removeStream_cases m type uid name with ⟨i, -, -, heq⟩ | ⟨heq, -⟩
  · rw [heq]
    exact pushesRegistered_eraseStream h type name
  · rw [heq]
    exact h

theorem pushesRegistered_managerInvariant (env : StreamEnv Ctx) :
    ManagerInvariant env PushesRegistered where
  modify m i f hf h _ j hj htype := by
    obtain ⟨htype', hname⟩ := Prod.mk.inj (key_modifyStream m i f hf j)
    rw [htype'] at htype
    rw [hname]
    exact h j hj htype
  remove _ type uid name h := pushesRegistered_removeStream h type uid name
  handoff _ _ h := h

theorem pushesRegistered_startStream (h : m.PushesRegistered) (s : RtcStream Ctx)
    (certificate : Option RTCCertificate) (iceParam : IceParameters)
    (hfree : s.streamType = .push → m.findPushStream s.streamName = none) :
    (m.startStream s certificate iceParam).PushesRegistered := by
  intro i hi htype
  rcases Arena.live_alloc_iff.mp hi with rfl | hlive
  · have hcell : (m.startStream s certificate iceParam).stream m.streams.objects.next =
        (s.start certificate).createOffer iceParam := Arena.cell_alloc_next
    rw [hcell] at htype ⊢
    have htype : s.streamType = .push := htype
    have hentry := findStream_startStream m s certificate iceParam
    rw [htype] at hentry
    exact hentry
  · have hcell : (m.startStream s certificate iceParam).stream i = m.stream i :=
      Arena.cell_alloc_of_ne (Arena.ne_next_of_live hlive)
    rw [hcell] at htype ⊢
    have hentry := h i hlive htype
    have hk : (RtcStreamType.push, (m.stream i).streamName) ≠ (s.streamType, s.streamName) := by
      intro hk
      obtain ⟨htype', hname⟩ := Prod.mk.inj hk
      rw [hname, hfree htype'.symm] at hentry
      cases hentry
    exact (Function.update_of_ne hk ..).trans hentry

theorem pushesRegistered_call (h : m.PushesRegistered) (op : StreamOp) :
    (m.call env op).1.PushesRegistered := by
  have hinv := pushesRegistered_managerInvariant env
  cases op with
  | createPushStream uid name audio video certificate iceParam =>
    exact pushesRegistered_startStream (pushesRegistered_eraseStream h .push name) _ certificate
      iceParam fun _ ↦ Function.update_self ..
  | createPullStream uid name audio video certificate iceParam =>
    rw [call, createPullStream]
    split
    · exact h
    · exact pushesRegistered_startStream (pushesRegistered_removeStream h .pull uid name) _
        certificate iceParam (by simp [RtcStream.addSource])
  | setAnswer uid name answer type states => exact hinv.setAnswer h uid name answer type states
  | stopPush uid name => exact pushesRegistered_removeStream h .push uid name
  | stopPull uid name => exact pushesRegistered_removeStream h .pull uid name

end RtcStreamManager

namespace WorkerStreams

variable (env : WorkerStreamsEnv Ctx) (certificates : Arena Certificate) (st : WorkerStreams Ctx)

theorem manager_startPeer (manager : RtcStreamManager Ctx) (certificate : Option ℕ) :
    (st.startPeer env certificates manager certificate).manager = manager := by
  rw [startPeer]
  rcases certificate with _ | c <;> rfl

theorem manager_processRtcMsg (x : StreamInput) (msg : QueuedMsg) :
    ((handlers env).processRtcMsg certificates x st msg).1.manager = st.manager ∨
      ∃ op : StreamOp, op.streamName = msg.streamName ∧
        ((handlers env).processRtcMsg certificates x st msg).1.manager =
          (st.manager.call env.stream op).1 := by
  rw [StreamHandlers.processRtcMsg]
  split_ifs
  · exact .inr ⟨.createPushStream (UInt64.ofNat msg.uid) msg.streamName (msg.audio ≠ 0)
      (msg.video ≠ 0) (certificateAt certificates msg.certificate) x.iceParam, rfl,
      manager_startPeer ..⟩
  · refine .inr ⟨.createPullStream (UInt64.ofNat msg.uid) msg.streamName (msg.audio ≠ 0)
      (msg.video ≠ 0) (certificateAt certificates msg.certificate) x.iceParam, rfl, ?_⟩
    change (st.createPullStream env certificates x msg).1.manager = _
    rw [createPullStream]
    dsimp only
    split_ifs
    · rfl
    · exact manager_startPeer ..
  · exact .inr ⟨.stopPush (UInt64.ofNat msg.uid) msg.streamName, rfl, rfl⟩
  · exact .inr ⟨.stopPull (UInt64.ofNat msg.uid) msg.streamName, rfl, rfl⟩
  · exact .inr ⟨.setAnswer (UInt64.ofNat msg.uid) msg.streamName msg.sdp msg.streamType x.states,
      rfl, rfl⟩
  · exact .inl rfl

theorem manager_onEvent (e : StreamsEvent) :
    (st.onEvent env certificates e).manager = st.manager ∨
      ∃ e', (∀ op, e' ≠ .call op) ∧
        (st.onEvent env certificates e).manager = st.manager.step env.stream e' := by
  rw [onEvent.eq_def]
  split
  · exact .inl rfl
  · next e' he => exact .inr ⟨e', fun op hop ↦ he op (by rw [hop]), rfl⟩
  · exact .inl rfl
  · next i name e' _ =>
    refine .inl ?_
    rw [onDtls]
    rcases st.peers i with _ | peer
    · rfl
    dsimp only
    rcases peer.dtlsTransportByName name with _ | t
    · rfl
    dsimp only
    rcases t.transport.localCertificate with _ | c <;> rfl
  · split_ifs <;> exact .inl rfl

/-! ## The division

For the second theorem the map of push streams must be complete: a live push stream is the entry of
its name. Then a worker that finds no entry has no stream, and the other workers cannot have one. -/

/-- The live streams of the worker `w` have names that hash to it, and its map finds every push
stream. -/
def Divided (workerIndex : ByteString → ℕ) (w : ℕ) : Prop :=
  st.manager.NamesIn (fun name ↦ workerIndex name = w) ∧ st.manager.PushesRegistered

variable {env certificates st} {config : RtcServerConfig}

theorem keeps_divided (env : WorkerStreamsEnv Ctx) (config : RtcServerConfig) :
    (env.server config).Keeps fun w st ↦ st.Divided (env.server config).workerIndex w where
  processRtcMsg certificates x w st msg h hw := by
    obtain ⟨hnames, hpushes⟩ := h
    rcases manager_processRtcMsg env certificates st x msg with heq | ⟨op, hop, heq⟩
    · exact ⟨heq ▸ hnames, heq ▸ hpushes⟩
    · refine ⟨heq ▸ RtcStreamManager.namesIn_call hnames ?_,
        heq ▸ RtcStreamManager.pushesRegistered_call hpushes op⟩
      rw [hop]
      exact hw
  onEvent certificates w st e h := by
    obtain ⟨hnames, hpushes⟩ := h
    rcases manager_onEvent env certificates st e with heq | ⟨e', he, heq⟩
    · exact ⟨heq ▸ hnames, heq ▸ hpushes⟩
    · have hnamesIn := RtcStreamManager.namesIn_managerInvariant env.stream
        fun name ↦ (env.server config).workerIndex name = w
      have hregistered := RtcStreamManager.pushesRegistered_managerInvariant env.stream
      exact ⟨heq ▸ hnamesIn.step hnames he, heq ▸ hregistered.step hpushes he⟩

/-- What a pull command answers depends on the map of push streams alone. -/
theorem ret_processRtcMsg_pull (env : WorkerStreamsEnv Ctx) (certificates : Arena Certificate)
    (st : WorkerStreams Ctx) (x : StreamInput) {msg : QueuedMsg} (hpull : msg.cmdno = cmdnoPull) :
    ∃ offer ret, ((handlers env).processRtcMsg certificates x st msg).2 = some (offer, ret) ∧
      (ret ≠ 0 ↔ st.manager.findPushStream msg.streamName = none) := by
  have hanswer : ((handlers env).processRtcMsg certificates x st msg).2 =
      some (st.createPullStream env certificates x msg).2 := by
    rw [StreamHandlers.processRtcMsg, hpull]
    rfl
  refine ⟨_, _, hanswer, ?_⟩
  rw [createPullStream, RtcStreamManager.createPullStream]
  rcases st.manager.findPushStream msg.streamName with _ | i
  · exact iff_of_true (show (-1 : ℤ) ≠ 0 by decide) rfl
  · exact iff_of_false (fun h ↦ h rfl) (by simp)

end WorkerStreams

namespace RtcSystem

variable {streams : WorkerStreamsEnv Ctx} {config : RtcServerConfig}

/-- Some worker has a live push stream of this name. -/
def Published (s : RtcSystem (WorkerStreams Ctx)) (streamName : ByteString) : Prop :=
  ∃ w i, (s.workers w).streams.manager.live i = true ∧
    ((s.workers w).streams.manager.stream i).key = (.push, streamName)

/-- The worker `w` answers the message `m` with an error. -/
def Refuses (env : RtcServerEnv (WorkerStreams Ctx) StreamInput StreamsEvent)
    (s : RtcSystem (WorkerStreams Ctx)) (w m : ℕ) (x : StreamInput) : Prop :=
  ∃ offer ret, (env.handlers.processRtcMsg s.certificates x (s.workers w).streams (s.msg m)).2 =
    some (offer, ret) ∧ ret ≠ 0

theorem placed_divided (streams : WorkerStreamsEnv Ctx) (config : RtcServerConfig) (now : ℕ)
    (es : List (RtcEvent StreamInput StreamsEvent)) :
    (run (streams.server config) {} now es).Placed (streams.server config)
      fun w st ↦ st.Divided (streams.server config).workerIndex w := by
  refine placed_run (WorkerStreams.keeps_divided streams config) (fun w ↦ ⟨?_, ?_⟩) now es
  · intro i hi
    cases hi
  · intro i hi
    cases hi

/-- **Names belong to workers.** Two workers never carry streams of one name. -/
theorem belongs_run (streams : WorkerStreamsEnv Ctx) (config : RtcServerConfig) (now : ℕ)
    (es : List (RtcEvent StreamInput StreamsEvent)) (w : ℕ) :
    ((run (streams.server config) {} now es).workers w).streams.manager.NamesIn
      fun name ↦ (streams.server config).workerIndex name = w :=
  ((placed_divided streams config now es) w).streams.1

theorem findPushStream_ne_none_iff {s : RtcSystem (WorkerStreams Ctx)}
    (h : s.Placed (streams.server config)
      fun w st ↦ st.Divided (streams.server config).workerIndex w) (name : ByteString) :
    (s.workers ((streams.server config).workerIndex name)).streams.manager.findPushStream name ≠
      none ↔ s.Published name := by
  constructor
  · intro hfind
    obtain ⟨i, hi⟩ := Option.ne_none_iff_exists'.mp hfind
    exact ⟨_, i, Registry.sound _ _ i hi⟩
  · rintro ⟨w, i, hlive, hkey⟩
    obtain ⟨htype, hname⟩ := Prod.mk.inj hkey
    have hw := (h w).streams.1 i hlive
    rw [hname] at hw
    have hentry := (h w).streams.2 i hlive htype
    rw [hname] at hentry
    rw [hw, hentry]
    exact Option.some_ne_none i

/-- **A viewer is refused exactly when nobody publishes.** The worker that looks has only its own
streams to look at. -/
theorem refuses_iff (streams : WorkerStreamsEnv Ctx) (config : RtcServerConfig) (now : ℕ)
    (es : List (RtcEvent StreamInput StreamsEvent)) {w m : ℕ} (x : StreamInput)
    (hpc : ((run (streams.server config) {} now es).workers w).pc = .popped m)
    (hpull : ((run (streams.server config) {} now es).msg m).cmdno = cmdnoPull) :
    (run (streams.server config) {} now es).Refuses (streams.server config) w m x ↔
      ¬(run (streams.server config) {} now es).Published
        ((run (streams.server config) {} now es).msg m).streamName := by
  have hplaced := placed_divided streams config now es
  generalize run (streams.server config) {} now es = s at hpc hpull hplaced ⊢
  obtain ⟨offer, ret, hanswer, hret⟩ := WorkerStreams.ret_processRtcMsg_pull streams
    s.certificates (s.workers w).streams x hpull
  -- the command is at the worker of its name
  have hw : (streams.server config).workerIndex (s.msg m).streamName = w :=
    ((hplaced w).popped m hpc).2
  have hpublished := findPushStream_ne_none_iff hplaced (s.msg m).streamName
  rw [hw] at hpublished
  rw [← hpublished, not_not, ← hret]
  constructor
  · rintro ⟨offer', ret', hanswer', hne⟩
    obtain ⟨-, rfl⟩ := Prod.mk.inj (Option.some.inj (hanswer.symm.trans hanswer'))
    exact hne
  · exact fun hne ↦ ⟨offer, ret, hanswer, hne⟩

/-- A viewer comes before the publisher. -/
def earlyViewer : List (RtcEvent StreamInput StreamsEvent) :=
  [.request 0 { cmdno := cmdnoPull, streamName := lit "live", audio := 1, video := 1 },
    .signaling 0] ++ List.replicate 5 .server ++ List.replicate 2 (.worker 0 { iceParam := {} })

theorem refuses_earlyViewer :
    (run (sampleWorkerStreamsEnv.server oneWorker) {} 0 earlyViewer).Refuses
        (sampleWorkerStreamsEnv.server oneWorker) 0 0 { iceParam := {} } ↔
      ¬(run (sampleWorkerStreamsEnv.server oneWorker) {} 0 earlyViewer).Published
        ((run (sampleWorkerStreamsEnv.server oneWorker) {} 0 earlyViewer).msg 0).streamName :=
  refuses_iff sampleWorkerStreamsEnv oneWorker 0 earlyViewer { iceParam := {} }
    (by decide +kernel) (by decide +kernel)

end RtcSystem

end XrtcServer
