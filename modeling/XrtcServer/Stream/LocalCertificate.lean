import XrtcServer.Pc.DtlsStart
import XrtcServer.Server.RtcServer
import XrtcServer.Stream.RtcStreamManager

/-!
# The certificate in the streams of a worker

A worker hands the certificate of a message to the stream it makes, as a raw pointer, and from there
it is copied: `PeerConnection::init` keeps one copy and gives one to the transport controller,
which gives one to each DTLS transport.

## Where the pointer is followed

The offer is written from the object behind the pointer, and so is every DTLS adapter, which may be
much later: `_setup_dtls` runs when a `ClientHello` comes or when an answer brings a fingerprint.
Each of these is recorded, with whether the object was there.

## The streams of a worker

`WorkerStreams` is the stream manager of one worker with these copies. A peer connection outlives
its stream by the ten milliseconds of its destroy timer. What the transports of a stream do, and
what they report to the manager, comes as events of the worker's loop, the answers to an offer
included.
-/

namespace XrtcServer

open EventRun StartWatch

variable {Ctx : Type}

/-! ## The certificate of a DTLS transport

The certificate of a transport is set by one call and read by the others. None of the handlers
touches it, which `Reported` covers where the adapter is involved. -/

namespace DtlsPair

variable {env : DtlsEnv Ctx} (s : DtlsPair Ctx)

theorem localCertificate_of_reported {s s' : DtlsPair Ctx} (h : Reported s s') :
    s'.transport.localCertificate = s.transport.localCertificate := by
  obtain ⟨-, dtlsState, receiving, writable, htransport⟩ := h
  rw [htransport]

theorem localCertificate_setDtlsState (state : DtlsTransportState) (answers : SrtpAnswers) :
    (s.setDtlsState env state answers).transport.localCertificate =
      s.transport.localCertificate := by
  rw [setDtlsState]
  split_ifs <;> rfl

theorem localCertificate_handleDtlsPacket (data : ByteString) (answers : AdapterAnswers) :
    (s.handleDtlsPacket env data answers).1.transport.localCertificate =
      s.transport.localCertificate := by
  rw [handleDtlsPacket]
  split_ifs
  · exact localCertificate_of_reported (Reported.onDtlsEvents s _)
  · rfl

theorem localCertificate_maybeStartDtls (iceWritable : Bool) (answers : AdapterAnswers) :
    (s.maybeStartDtls env iceWritable answers).transport.localCertificate =
      s.transport.localCertificate := by
  have hstart : (s.onDtlsEvents env answers.duringStart).transport.localCertificate =
      s.transport.localCertificate := localCertificate_of_reported (Reported.onDtlsEvents s _)
  rw [maybeStartDtls]
  dsimp only
  generalize s.onDtlsEvents env answers.duringStart = s₁ at hstart
  have hconnecting : (s₁.setDtlsState env .connecting {}).transport.localCertificate =
      s.transport.localCertificate := (s₁.localCertificate_setDtlsState ..).trans hstart
  generalize s₁.setDtlsState env .connecting {} = s₂ at hconnecting
  have hpacket (data : ByteString) :
      (s₂.handleDtlsPacket env data answers).1.transport.localCertificate =
        s.transport.localCertificate :=
    (s₂.localCertificate_handleDtlsPacket ..).trans hconnecting
  split_ifs
  · exact (s₁.localCertificate_setDtlsState ..).trans hstart
  · exact hpacket _
  · exact (localCertificate_setDtlsState ..).trans (hpacket _)
  · exact hconnecting
  · rfl

theorem localCertificate_createAdapter (ok : Bool) :
    (s.createAdapter ok).transport.localCertificate = s.transport.localCertificate := by
  rw [createAdapter]
  split_ifs <;> rfl

theorem localCertificate_setupDtls (iceWritable : Bool) (answers : AdapterAnswers) :
    (s.setupDtls env iceWritable answers).1.transport.localCertificate =
      s.transport.localCertificate := by
  have hcreate := s.localCertificate_createAdapter answers.create
  rw [setupDtls]
  generalize s.createAdapter answers.create = s₁ at hcreate
  split_ifs
  · exact hcreate
  · exact hcreate
  · exact hcreate
  · exact (localCertificate_maybeStartDtls ..).trans hcreate

theorem localCertificate_dropAdapter :
    (s.dropAdapter env).transport.localCertificate = s.transport.localCertificate := by
  rw [dropAdapter, localCertificate_of_reported (Reported.setWritableState ..),
    localCertificate_setDtlsState]
  rfl

theorem localCertificate_onReadPacket (data : ByteString) (ts : ℤ) (iceWritable : Bool)
    (answers : AdapterAnswers) :
    (s.onReadPacket env data ts iceWritable answers).transport.localCertificate =
      s.transport.localCertificate := by
  rw [onReadPacket]
  split
  · dsimp only
    split_ifs
    · exact localCertificate_setupDtls ..
    · rfl
    · rfl
  · split_ifs
    · exact localCertificate_handleDtlsPacket ..
    · rfl
    · rfl
    · rfl
  · split_ifs
    · exact localCertificate_handleDtlsPacket ..
    · rfl
    · rfl
    · rfl
  · rfl

theorem localCertificate_onWritableState (iceWritable : Bool) (answers : AdapterAnswers) :
    (s.onWritableState env iceWritable answers).transport.localCertificate =
      s.transport.localCertificate := by
  rw [onWritableState]
  split_ifs
  · exact localCertificate_of_reported (Reported.setWritableState ..)
  · split
    · exact localCertificate_maybeStartDtls ..
    · exact localCertificate_of_reported (Reported.setWritableState ..)
    · rfl

theorem localCertificate_setRemoteFingerprint (digestAlg digest : ByteString) (iceWritable : Bool)
    (answers : AdapterAnswers) :
    (s.setRemoteFingerprint env digestAlg digest iceWritable answers).1.transport.localCertificate =
      s.transport.localCertificate := by
  rw [setRemoteFingerprint]
  dsimp only
  generalize hs : (s.modify fun t ↦ { t with
    remoteFingerprintValue := digest, remoteFingerprintAlg := digestAlg }) = s₁
  have hcert : s₁.transport.localCertificate = s.transport.localCertificate := by rw [← hs]; rfl
  have hdigest : (s₁.onDtlsEvents env answers.duringDigest).transport.localCertificate =
      s.transport.localCertificate :=
    (localCertificate_of_reported (Reported.onDtlsEvents s₁ _)).trans hcert
  have hdrop : (s₁.dropAdapter env).transport.localCertificate = s.transport.localCertificate :=
    s₁.localCertificate_dropAdapter.trans hcert
  -- the last four cases set up DTLS anew, on an adapter that is dropped first if there is one
  split_ifs
  · rfl
  · rfl
  · rfl
  · exact (localCertificate_setDtlsState ..).trans hdigest
  · exact hdigest
  · exact (localCertificate_setupDtls ..).trans hdrop
  · exact (localCertificate_setDtlsState ..).trans ((localCertificate_setupDtls ..).trans hdrop)
  · exact (localCertificate_setupDtls ..).trans hcert
  · exact (localCertificate_setDtlsState ..).trans ((localCertificate_setupDtls ..).trans hcert)

/-- After it is set, the certificate of a transport stays. -/
theorem localCertificate_step {e : DtlsEvent} (he : ∀ cert, e ≠ .setLocalCertificate cert) :
    (s.step env e).transport.localCertificate = s.transport.localCertificate := by
  cases e with
  | readPacket data ts iceWritable answers => exact localCertificate_onReadPacket ..
  | writableState iceWritable answers => exact localCertificate_onWritableState ..
  | receivingState receiving => exact localCertificate_of_reported (Reported.setReceiving ..)
  | adapter e => exact localCertificate_of_reported (Reported.adapter s e)
  | setLocalCertificate cert => exact absurd rfl (he cert)
  | setRemoteFingerprint digestAlg digest iceWritable answers =>
    exact localCertificate_setRemoteFingerprint ..
  | sendRtp data => rfl
  | sendRtcp data => rfl

end DtlsPair

/-! ## The copies of the certificate

A peer connection has its copy from `init` on, a transport from the moment it is made, and no copy
is ever changed. They go with the peer connection, which is later than the stream. -/

theorem update_eq_some {α β : Type*} [DecidableEq α] {f : α → Option β} {i j : α} {o : Option β}
    {b : β} (h : Function.update f i o j = some b) : (j = i ∧ o = some b) ∨ f j = some b := by
  by_cases hj : j = i
  · rw [hj, Function.update_self] at h
    exact .inl ⟨hj, h⟩
  · rw [Function.update_of_ne hj] at h
    exact .inr h

/-- The pointers inside a `PeerConnection`. -/
structure PeerCertificates (Ctx : Type) where
  /-- `_certificate`. -/
  certificate : Option ℕ
  /-- `_local_certificate` of the transport controller. -/
  localCertificate : Option ℕ
  dtlsTransportByName : ByteString → Option (DtlsPair Ctx)

/-- `c` is one of the pointers. -/
def PeerCertificates.Holds (peer : PeerCertificates Ctx) (c : ℕ) : Prop :=
  peer.certificate = some c ∨ peer.localCertificate = some c ∨
    ∃ name t, peer.dtlsTransportByName name = some t ∧ t.transport.localCertificate = some c

/-- The streams of a worker and the pointers in their peer connections. -/
structure WorkerStreams (Ctx : Type) where
  manager : RtcStreamManager Ctx := .init Ctx
  /-- The peer connection of each stream, as long as it exists. -/
  peers : StreamId → Option (PeerCertificates Ctx) := fun _ ↦ none
  /-- Every read of a certificate, and whether the certificate was alive. -/
  reads : List (ℕ × Bool) := []

/-- The functions the streams rest on. -/
structure WorkerStreamsEnv (Ctx : Type) where
  stream : StreamEnv Ctx
  dtls : DtlsEnv Ctx
  /-- `GetSupportedDtlsSrtpCryptoSuites`. -/
  srtpCiphers : List ℤ
  /-- `SessionDescription::to_string`. -/
  toString : SessionDescription → ByteString

/-- What a call on the streams draws from outside: the credentials of an offer, and the states that
are reported while an answer is taken. -/
structure StreamInput where
  iceParam : IceParameters
  states : List PeerConnectionState := []

/-- The events of a worker's loop that are no messages. -/
inductive StreamsEvent
  /-- Something is reported to the manager. -/
  | manager (e : ManagerEvent)
  /-- A call on a DTLS transport, or an event of its adapter. -/
  | dtls (stream : StreamId) (name : ByteString) (e : DtlsEvent)
  /-- `destroy_timer_cb`. -/
  | destroyTimer (stream : StreamId)

namespace WorkerStreams

variable (env : WorkerStreamsEnv Ctx) (certificates : Arena Certificate) (st : WorkerStreams Ctx)

/-- The pointer is followed `n` times. -/
def readCertificate (certificate : Option ℕ) (n : ℕ) : WorkerStreams Ctx :=
  match certificate with
  | none => st
  | some c => { st with reads := st.reads ++ List.replicate n (c, certificates.live c) }

/-- `PeerConnection::init` and `create_offer` of the stream that `manager` has and `st` does not:
each section of the offer reads the certificate, each transport gets a copy of the pointer. -/
def startPeer (manager : RtcStreamManager Ctx) (certificate : Option ℕ) : WorkerStreams Ctx :=
  let i := st.manager.streams.objects.next
  let pc := (manager.stream i).pc
  let peer : PeerCertificates Ctx :=
    { certificate
      localCertificate := certificate
      dtlsTransportByName := fun name ↦
        if pc.transportController.dtlsTransportByName.contains name then
          some ((DtlsPair.init Ctx env.srtpCiphers).setLocalCertificate certificate).1
        else none }
  { st with manager, peers := Function.update st.peers i (some peer) }.readCertificate certificates
    certificate (pc.localDesc.elim 0 fun desc ↦ desc.contents.length)

/-- The object behind the pointer. -/
def certificateAt (certificate : Option ℕ) : Option RTCCertificate :=
  certificate.map fun c ↦ (certificates.cell c).toRTCCertificate

/-- The text of the offer of the newest stream. -/
def offerText (manager : RtcStreamManager Ctx) : ByteString :=
  let pc := (manager.stream st.manager.streams.objects.next).pc
  pc.localDesc.elim [] env.toString

def createPushStream (x : StreamInput) (msg : QueuedMsg) : WorkerStreams Ctx × ByteString × ℤ :=
  let (manager, ret) := st.manager.createPushStream (UInt64.ofNat msg.uid) msg.streamName
    (msg.audio ≠ 0) (msg.video ≠ 0) (certificateAt certificates msg.certificate) x.iceParam
  (st.startPeer env certificates manager msg.certificate, st.offerText env manager, ret)

def createPullStream (x : StreamInput) (msg : QueuedMsg) : WorkerStreams Ctx × ByteString × ℤ :=
  let (manager, ret) := st.manager.createPullStream (UInt64.ofNat msg.uid) msg.streamName
    (msg.audio ≠ 0) (msg.video ≠ 0) (certificateAt certificates msg.certificate) x.iceParam
  if ret ≠ 0 then ({ st with manager }, [], ret)
  else (st.startPeer env certificates manager msg.certificate, st.offerText env manager, ret)

def stopPush (msg : QueuedMsg) : WorkerStreams Ctx :=
  { st with manager := (st.manager.stopPush (UInt64.ofNat msg.uid) msg.streamName).1 }

def stopPull (msg : QueuedMsg) : WorkerStreams Ctx :=
  { st with manager := (st.manager.stopPull (UInt64.ofNat msg.uid) msg.streamName).1 }

def setAnswer (x : StreamInput) (msg : QueuedMsg) : WorkerStreams Ctx :=
  { st with
    manager := (st.manager.setAnswer env.stream (UInt64.ofNat msg.uid) msg.streamName msg.sdp
      msg.streamType x.states).1 }

/-- A call on a DTLS transport; a new adapter means that `_setup_dtls` has read the certificate. -/
def onDtls (i : StreamId) (name : ByteString) (e : DtlsEvent) : WorkerStreams Ctx :=
  match st.peers i with
  | none => st
  | some peer =>
    match peer.dtlsTransportByName name with
    | none => st
    | some t =>
      let t' := t.step env.dtls e
      let peer := { peer with
        dtlsTransportByName := Function.update peer.dtlsTransportByName name (some t') }
      { st with peers := Function.update st.peers i (some peer) }.readCertificate certificates
        t.transport.localCertificate (t'.nextAssociation - t.nextAssociation)

/-- The calls of clients come as messages, and the certificate of a transport is set once, when the
transport is made. -/
def onEvent : StreamsEvent → WorkerStreams Ctx
  | .manager (.call _) => st
  | .manager e => { st with manager := st.manager.step env.stream e }
  | .dtls _ _ (.setLocalCertificate _) => st
  | .dtls i name e => st.onDtls env certificates i name e
  | .destroyTimer i =>
    if st.manager.live i then st else { st with peers := Function.update st.peers i none }

/-- The calls of a worker. -/
def handlers : StreamHandlers (WorkerStreams Ctx) StreamInput StreamsEvent where
  createPushStream certificates x st msg := st.createPushStream env certificates x msg
  createPullStream certificates x st msg := st.createPullStream env certificates x msg
  stopPush st msg := st.stopPush msg
  stopPull st msg := st.stopPull msg
  setAnswer x st msg := st.setAnswer env x msg
  onEvent certificates st e := st.onEvent env certificates e

/-- Some peer connection holds the pointer `c`. -/
def Holds (c : ℕ) : Prop := ∃ i peer, st.peers i = some peer ∧ peer.Holds c

/-! ## Where the copies come from

A copy of the pointer is made from another copy, or from the message that makes the stream. That is
all that has to be known here; whose object it is is a question for the server. -/

/-- The pointers of `st'` are pointers of `st` or satisfy `given`, and it was those that were
followed. -/
structure CopiesFrom (given : ℕ → Prop) (st' : WorkerStreams Ctx) : Prop where
  holds : ∀ c, st'.Holds c → st.Holds c ∨ given c
  reads : ∀ r ∈ st'.reads, r ∈ st.reads ∨
    ∃ c, (st.Holds c ∨ given c) ∧ r = (c, certificates.live c)

variable {env certificates st} {given : ℕ → Prop} {st' : WorkerStreams Ctx}

theorem CopiesFrom.of_eq (hpeers : st'.peers = st.peers) (hreads : st'.reads = st.reads) :
    st.CopiesFrom certificates given st' where
  holds c := by
    rw [Holds, hpeers]
    exact .inl
  reads r hr := by
    rw [hreads] at hr
    exact .inl hr

theorem CopiesFrom.mono (h : st.CopiesFrom certificates given st') {given' : ℕ → Prop}
    (hgiven : ∀ c, given c → given' c) : st.CopiesFrom certificates given' st' where
  holds c hc := (h.holds c hc).imp_right (hgiven c)
  reads r hr := by
    rcases h.reads r hr with hr | ⟨c, hc, hr⟩
    · exact .inl hr
    · exact .inr ⟨c, hc.imp_right (hgiven c), hr⟩

theorem CopiesFrom.readCertificate (h : st.CopiesFrom certificates given st')
    {certificate : Option ℕ} (hcert : ∀ c, certificate = some c → st.Holds c ∨ given c) (n : ℕ) :
    st.CopiesFrom certificates given (st'.readCertificate certificates certificate n) := by
  rcases certificate with _ | c
  · exact h
  · refine ⟨h.holds, fun r hr ↦ ?_⟩
    rcases List.mem_append.mp hr with hr | hr
    · exact h.reads r hr
    · exact .inr ⟨c, hcert c rfl, List.eq_of_mem_replicate hr⟩

theorem copiesFrom_update {i : StreamId} {peer : PeerCertificates Ctx}
    (hpeer : ∀ c, peer.Holds c → st.Holds c ∨ given c) (manager : RtcStreamManager Ctx) :
    st.CopiesFrom certificates given
      { st with manager, peers := Function.update st.peers i (some peer) } where
  holds c := by
    rintro ⟨j, peer', hj, hc⟩
    rcases update_eq_some hj with ⟨-, hj⟩ | hj
    · obtain rfl := Option.some.inj hj
      exact hpeer c hc
    · exact .inl ⟨j, peer', hj, hc⟩
  reads _ hr := .inl hr

theorem copiesFrom_startPeer (manager : RtcStreamManager Ctx) (certificate : Option ℕ) :
    st.CopiesFrom certificates (fun c ↦ certificate = some c)
      (st.startPeer env certificates manager certificate) := by
  refine (copiesFrom_update (fun c hc ↦ .inr ?_) manager).readCertificate (fun c ↦ .inr) _
  rcases hc with hc | hc | ⟨name, t, ht, hc⟩
  · exact hc
  · exact hc
  · dsimp only at ht
    split_ifs at ht
    obtain rfl := Option.some.inj ht
    rcases certificate with _ | c'
    · cases hc
    · exact hc

theorem copiesFrom_onDtls (i : StreamId) (name : ByteString) {e : DtlsEvent}
    (he : ∀ cert, e ≠ .setLocalCertificate cert) :
    st.CopiesFrom certificates given (st.onDtls env certificates i name e) := by
  rw [onDtls]
  rcases hpeer : st.peers i with _ | peer
  · exact .of_eq rfl rfl
  dsimp only
  rcases ht : peer.dtlsTransportByName name with _ | t
  · exact .of_eq rfl rfl
  have hold {c : ℕ} (hc : t.transport.localCertificate = some c) : st.Holds c :=
    ⟨i, peer, hpeer, .inr (.inr ⟨name, t, ht, hc⟩)⟩
  refine (copiesFrom_update (fun c hc ↦ .inl ?_) st.manager).readCertificate
    (fun c hc ↦ .inl (hold hc)) _
  rcases hc with hc | hc | ⟨name', t', ht', hc⟩
  · exact ⟨i, peer, hpeer, .inl hc⟩
  · exact ⟨i, peer, hpeer, .inr (.inl hc)⟩
  · rcases update_eq_some ht' with ⟨-, ht'⟩ | ht'
    · obtain rfl := Option.some.inj ht'
      rw [t.localCertificate_step he] at hc
      exact hold hc
    · exact ⟨i, peer, hpeer, .inr (.inr ⟨name', t', ht', hc⟩)⟩

/-- **A message gives its pointer to the streams**, and no other. -/
theorem copiesFrom_processRtcMsg (x : StreamInput) (msg : QueuedMsg) :
    st.CopiesFrom certificates (fun c ↦ msg.certificate = some c)
      ((handlers env).processRtcMsg certificates x st msg).1 := by
  rw [StreamHandlers.processRtcMsg]
  split_ifs
  · exact copiesFrom_startPeer ..
  · change st.CopiesFrom certificates _ (st.createPullStream env certificates x msg).1
    rw [createPullStream]
    dsimp only
    split_ifs
    · exact .of_eq rfl rfl
    · exact copiesFrom_startPeer ..
  · exact .of_eq rfl rfl
  · exact .of_eq rfl rfl
  · exact .of_eq rfl rfl
  · exact .of_eq rfl rfl

theorem copiesFrom_onEvent (e : StreamsEvent) :
    st.CopiesFrom certificates given (st.onEvent env certificates e) := by
  rw [onEvent.eq_def]
  split
  · exact .of_eq rfl rfl
  · exact .of_eq rfl rfl
  · exact .of_eq rfl rfl
  · next he => exact copiesFrom_onDtls _ _ he
  · next i =>
    split_ifs
    · exact .of_eq rfl rfl
    · refine ⟨fun c hc ↦ .inl ?_, fun r hr ↦ .inl hr⟩
      obtain ⟨j, peer, hj, hc⟩ := hc
      rcases update_eq_some hj with ⟨-, hj⟩ | hj
      · cases hj
      · exact ⟨j, peer, hj, hc⟩

end WorkerStreams

end XrtcServer
