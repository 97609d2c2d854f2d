import XrtcServer.Pc.DtlsTransport

/-!
# The keys of the SRTP sessions

The sessions are made and dropped by signals of the DTLS state only, while the adapter can be
replaced by a new one when the fingerprint changes, and the setter of the state does not signal what
is already so. Nevertheless the sessions, while there are any, belong to the association that the
transport holds: `active_keyed`.

## Keyed sessions

A session counts as keyed if libsrtp made its context from the key and has only been given packets
since. This is a property of the context and of nothing that is kept beside it, so that a session
which was re-keyed with the key of another association would be found out.

## Why a stale key cannot stay

An adapter is only replaced together with the state: `k_connected` ends before the next association
begins, and the end of it is signalled. So the invariant ties the sessions to the state, and the
state to the adapter.
-/

namespace XrtcServer

open EventRun

variable {Ctx : Type}

/-! ## Sessions and their keys -/

/-- The context was made from the key, and has handled some packets since. -/
inductive KeyedWith (lib : Libsrtp Ctx) (key : ByteString) : Ctx → Prop
  | create {policy : SrtpPolicy} {ctx : Ctx} (h : lib.create policy = some ctx)
      (hkey : policy.key = key) : KeyedWith lib key ctx
  | protect {ctx : Ctx} (h : KeyedWith lib key ctx) (data : ByteString) :
      KeyedWith lib key (lib.protect ctx data).ctx
  | protectRtcp {ctx : Ctx} (h : KeyedWith lib key ctx) (data : ByteString) :
      KeyedWith lib key (lib.protectRtcp ctx data).ctx
  | unprotect {ctx : Ctx} (h : KeyedWith lib key ctx) (data : ByteString) :
      KeyedWith lib key (lib.unprotect ctx data).ctx
  | unprotectRtcp {ctx : Ctx} (h : KeyedWith lib key ctx) (data : ByteString) :
      KeyedWith lib key (lib.unprotectRtcp ctx data).ctx

def SrtpSession.KeyedWith (lib : Libsrtp Ctx) (key : ByteString) (session : SrtpSession Ctx) :
    Prop :=
  ∃ ctx, session.session = some ctx ∧ XrtcServer.KeyedWith lib key ctx

/-- The key and the salt the client writes with, of the exported material. -/
def clientWriteKey (material : ByteString) (keyLen saltLen : ℕ) : ByteString :=
  material.take keyLen ++ (material.drop (2 * keyLen)).take saltLen

/-- The key and the salt the server writes with. -/
def serverWriteKey (material : ByteString) (keyLen saltLen : ℕ) : ByteString :=
  (material.drop keyLen).take keyLen ++ (material.drop (2 * keyLen + saltLen)).take saltLen

/-- Both sessions have their keys from the association `a`: the send session the key of the server,
the receive session that of the client. -/
def SrtpTransport.KeyedFrom (env : DtlsEnv Ctx) (a : ℕ) (t : SrtpTransport Ctx) : Prop :=
  ∃ suite keyLen saltLen send recv, env.srtpKeyAndSaltLengths suite = some (keyLen, saltLen) ∧
    t.sessions = some (send, recv) ∧
    send.KeyedWith env.toLibsrtp
      (serverWriteKey (env.keyingMaterial a (keyLen * 2 + saltLen * 2)) keyLen saltLen) ∧
    recv.KeyedWith env.toLibsrtp
      (clientWriteKey (env.keyingMaterial a (keyLen * 2 + saltLen * 2)) keyLen saltLen)

/-! ## New sessions -/

variable {env : DtlsEnv Ctx} {lib : Libsrtp Ctx} {t t' : DtlsSrtpTransport Ctx} {s : DtlsPair Ctx}

theorem SrtpSession.keyedWith_setKey {initOk : Bool} {type : SrtpSsrcType} {cs : ℤ}
    {key : ByteString} (h : (SrtpSession.setKey lib {} initOk type cs key).2 = true) :
    (SrtpSession.setKey lib {} initOk type cs key).1.KeyedWith lib key := by
  revert h
  rw [setKey, doSetKey]
  dsimp only
  rcases initOk with _ | _
  · simp
  rcases lib.policyForRtp cs with _ | rtp
  · simp
  rcases lib.policyForRtcp cs with _ | rtcp
  · simp
  by_cases hk : key.length ≠ rtp.cipherKeyLen
  · simp [hk]
  · rcases hc : lib.create { ssrcType := type, rtp, rtcp, key } with _ | ctx
    · simp [hk, hc]
    · simp only [hk, hc, if_false, Option.isSome_none, Bool.false_eq_true, if_true, forall_const]
      exact ⟨ctx, rfl, .create hc rfl⟩

theorem SrtpTransport.keyedWith_setRtpParams {t : SrtpTransport Ctx} (hnone : t.sessions = none)
    {initOk : Bool} {cs : ℤ} {sendKey recvKey : ByteString}
    (h : (t.setRtpParams lib initOk cs sendKey recvKey).1.isSrtpActive = true) :
    ∃ send recv, (t.setRtpParams lib initOk cs sendKey recvKey).1.sessions = some (send, recv) ∧
      send.KeyedWith lib sendKey ∧ recv.KeyedWith lib recvKey := by
  revert h
  rw [setRtpParams, hnone]
  simp only [Option.isNone_none, Option.getD_none, if_true]
  split_ifs with hsend hrecv
  · exact fun _ ↦
      ⟨_, _, rfl, SrtpSession.keyedWith_setKey hsend, SrtpSession.keyedWith_setKey hrecv⟩
  · exact fun h ↦ by cases h
  · exact fun h ↦ by cases h

/-- What is extracted are the keys of the association that the transport holds. -/
theorem extractParams_view {answers : SrtpAnswers} {suite : ℤ} {sendKey recvKey : ByteString}
    (h : DtlsSrtpTransport.extractParams env.toSrtpEnv (s.view env answers) =
      some (suite, sendKey, recvKey)) :
    ∃ a keyLen saltLen, s.transport.dtls = some a ∧
      env.srtpKeyAndSaltLengths suite = some (keyLen, saltLen) ∧
      sendKey = serverWriteKey (env.keyingMaterial a (keyLen * 2 + saltLen * 2)) keyLen saltLen ∧
      recvKey =
        clientWriteKey (env.keyingMaterial a (keyLen * 2 + saltLen * 2)) keyLen saltLen := by
  rw [DtlsSrtpTransport.extractParams] at h
  obtain ⟨-, -, h⟩ := Option.bind_eq_some_iff.mp h
  obtain ⟨suite', -, h⟩ := Option.bind_eq_some_iff.mp h
  obtain ⟨⟨keyLen, saltLen⟩, hlengths, h⟩ := Option.bind_eq_some_iff.mp h
  obtain ⟨buffer, hbuffer, h⟩ := Option.bind_eq_some_iff.mp h
  cases h
  obtain ⟨a, ha, hexport⟩ := Option.bind_eq_some_iff.mp hbuffer
  split_ifs at hexport
  cases hexport
  exact ⟨a, keyLen, saltLen, ha, hlengths, rfl, rfl⟩

theorem keyedFrom_onDtlsState (hinactive : ¬s.srtp.isSrtpActive = true) {answers : SrtpAnswers}
    (h : (s.srtp.onDtlsState env.toSrtpEnv .connected answers.initOk (s.view env answers)
      none).isSrtpActive = true) :
    ∃ a, s.transport.dtls = some a ∧ (s.srtp.onDtlsState env.toSrtpEnv .connected answers.initOk
      (s.view env answers) none).toSrtpTransport.KeyedFrom env a := by
  rw [DtlsSrtpTransport.onDtlsState, if_pos rfl, DtlsSrtpTransport.maybeSetupDtlsSrtp] at h ⊢
  split_ifs at h ⊢
  · exact absurd h hinactive
  · rw [DtlsSrtpTransport.setupDtlsSrtp] at h ⊢
    rcases hparams : DtlsSrtpTransport.extractParams env.toSrtpEnv (s.view env answers) with
      _ | ⟨suite, sendKey, recvKey⟩
    · rw [hparams] at h
      exact absurd h hinactive
    · rw [hparams] at h
      obtain ⟨a, keyLen, saltLen, ha, hlengths, rfl, rfl⟩ := extractParams_view hparams
      have hnone : s.srtp.sessions = none := by
        rwa [SrtpTransport.isSrtpActive, Option.not_isSome_iff_eq_none] at hinactive
      obtain ⟨send, recv, hsessions, hsend, hrecv⟩ := SrtpTransport.keyedWith_setRtpParams hnone h
      exact ⟨a, ha, suite, keyLen, saltLen, send, recv, hlengths, hsessions, hsend, hrecv⟩

/-! ## Packets

libsrtp changes a context with each packet, and none of its functions gives it another key. So a
session stays keyed, in each direction. -/

/-- The sessions of `t'` are those of `t`, with the same keys. -/
structure SameKeys (env : DtlsEnv Ctx) (t t' : DtlsSrtpTransport Ctx) : Prop where
  active : t'.isSrtpActive = true → t.isSrtpActive = true
  keyedFrom : ∀ a, t.toSrtpTransport.KeyedFrom env a → t'.toSrtpTransport.KeyedFrom env a

theorem SameKeys.refl (t : DtlsSrtpTransport Ctx) : SameKeys env t t := ⟨fun h ↦ h, fun _ h ↦ h⟩

theorem SrtpSession.KeyedWith.onContext {key : ByteString} {session : SrtpSession Ctx}
    (h : session.KeyedWith lib key) {call : Ctx → ByteString → SrtpResult Ctx}
    (hcall : ∀ ctx data, XrtcServer.KeyedWith lib key ctx →
      XrtcServer.KeyedWith lib key (call ctx data).ctx) (data : ByteString) :
    (session.onContext call data).1.KeyedWith lib key := by
  obtain ⟨ctx, hctx, hkeyed⟩ := h
  rw [SrtpSession.onContext, hctx]
  exact ⟨_, rfl, hcall ctx data hkeyed⟩

theorem sameKeys_onRecvSession {f : SrtpSession Ctx → SrtpSession Ctx × Bool × ByteString}
    (hf : ∀ key session, session.KeyedWith env.toLibsrtp key →
      (f session).1.KeyedWith env.toLibsrtp key) (data : ByteString) :
    SameKeys env t { t with toSrtpTransport := (t.toSrtpTransport.onRecvSession f data).1 } := by
  rw [SrtpTransport.onRecvSession]
  rcases hs : t.sessions with _ | ⟨send, recv⟩
  · exact .refl t
  · refine ⟨fun _ ↦ by rw [SrtpTransport.isSrtpActive, hs]; rfl, ?_⟩
    rintro a ⟨suite, keyLen, saltLen, send', recv', hlengths, hsessions, hsend, hrecv⟩
    rw [hs] at hsessions
    cases hsessions
    exact ⟨suite, keyLen, saltLen, send, _, hlengths, rfl, hsend, hf _ _ hrecv⟩

theorem sameKeys_onSendSession {f : SrtpSession Ctx → SrtpSession Ctx × Bool × ByteString}
    (hf : ∀ key session, session.KeyedWith env.toLibsrtp key →
      (f session).1.KeyedWith env.toLibsrtp key) (data : ByteString) :
    SameKeys env t { t with toSrtpTransport := (t.toSrtpTransport.onSendSession f data).1 } := by
  rw [SrtpTransport.onSendSession]
  rcases hs : t.sessions with _ | ⟨send, recv⟩
  · exact .refl t
  · refine ⟨fun _ ↦ by rw [SrtpTransport.isSrtpActive, hs]; rfl, ?_⟩
    rintro a ⟨suite, keyLen, saltLen, send', recv', hlengths, hsessions, hsend, hrecv⟩
    rw [hs] at hsessions
    cases hsessions
    exact ⟨suite, keyLen, saltLen, _, recv, hlengths, rfl, hf _ _ hsend, hrecv⟩

theorem sameKeys_onReadPacket (t : DtlsSrtpTransport Ctx) (data : ByteString) (ts : ℤ) :
    SameKeys env t (t.onReadPacket env.toSrtpEnv data ts).1 := by
  have hrtp : SameKeys env t
      { t with toSrtpTransport := (t.toSrtpTransport.unprotectRtp env.toLibsrtp data).1 } :=
    sameKeys_onRecvSession (fun _ _ h ↦ h.onContext (fun _ _ hk ↦ hk.unprotect _) data) data
  have hrtcp : SameKeys env t
      { t with toSrtpTransport := (t.toSrtpTransport.unprotectRtcp env.toLibsrtp data).1 } :=
    sameKeys_onRecvSession (fun _ _ h ↦ h.onContext (fun _ _ hk ↦ hk.unprotectRtcp _) data) data
  rw [DtlsSrtpTransport.onReadPacket]
  rcases inferRtpPacketType data with _ | _ | _
  · dsimp only [DtlsSrtpTransport.onRtpPacketReceived]
    split_ifs
    · exact hrtp
    · exact ⟨hrtp.active, hrtp.keyedFrom⟩
    · exact .refl t
  · dsimp only [DtlsSrtpTransport.onRtcpPacketReceived]
    split_ifs
    · exact hrtcp
    · exact hrtcp
    · exact .refl t
  · exact .refl t

theorem sameKeys_sendRtp (t : DtlsSrtpTransport Ctx) (data : ByteString) :
    SameKeys env t (t.sendRtp env.toSrtpEnv data).1 := by
  have hprotect (maxLen : ℕ) : SameKeys env t { t with
      toSrtpTransport := (t.toSrtpTransport.protectRtp env.toLibsrtp data maxLen).1 } := by
    refine sameKeys_onSendSession (fun key session h ↦ ?_) data
    rw [SrtpSession.protectRtp]
    split_ifs
    · exact h
    · exact h.onContext (fun _ _ hk ↦ hk.protect _) data
  dsimp only [DtlsSrtpTransport.sendRtp]
  split_ifs
  · exact ⟨(hprotect _).active, (hprotect _).keyedFrom⟩
  · exact hprotect _
  · exact .refl t

theorem sameKeys_sendRtcp (t : DtlsSrtpTransport Ctx) (data : ByteString) :
    SameKeys env t (t.sendRtcp env.toSrtpEnv data).1 := by
  have hprotect (maxLen : ℕ) : SameKeys env t { t with
      toSrtpTransport := (t.toSrtpTransport.protectRtcp env.toLibsrtp data maxLen).1 } := by
    refine sameKeys_onSendSession (fun key session h ↦ ?_) data
    rw [SrtpSession.protectRtcp]
    split_ifs
    · exact h
    · exact h.onContext (fun _ _ hk ↦ hk.protectRtcp _) data
  dsimp only [DtlsSrtpTransport.sendRtcp]
  split_ifs
  · exact hprotect _
  · exact hprotect _
  · exact .refl t

/-! ## The invariant

`ActiveKeyed` says more than what was asked: sessions exist only while the transport is connected.
This is what makes it inductive, as an adapter is only replaced in another state. -/

/-- The sessions exist only while the transport is connected, and then have the keys of the
association that it holds. -/
def ActiveKeyed (env : DtlsEnv Ctx) (s : DtlsPair Ctx) : Prop :=
  s.srtp.isSrtpActive = true → s.transport.dtlsState = .connected ∧
    ∃ a, s.transport.dtls = some a ∧ s.srtp.toSrtpTransport.KeyedFrom env a

theorem isSrtpActive_onDtlsState {state : DtlsTransportState} (h : state ≠ .connected)
    (initOk : Bool) (rtp : DtlsTransportView) (rtcp : Option DtlsTransportView) :
    (t.onDtlsState env.toSrtpEnv state initOk rtp rtcp).isSrtpActive = false := by
  rw [DtlsSrtpTransport.onDtlsState, if_neg h]
  rfl

theorem activeKeyed_setDtlsState (h : ActiveKeyed env s) (state : DtlsTransportState)
    (answers : SrtpAnswers) : ActiveKeyed env (s.setDtlsState env state answers) := by
  rw [DtlsPair.setDtlsState]
  split_ifs with heq
  · exact h
  · intro hactive
    by_cases hstate : state = .connected
    · subst hstate
      -- the sessions were dropped when the transport left the state
      have hinactive : ¬s.srtp.isSrtpActive = true := fun hold ↦ heq (h hold).1
      exact ⟨rfl, keyedFrom_onDtlsState (s := (s.modify fun t ↦
        { t with dtlsState := .connected }).signal (.dtlsState .connected)) hinactive hactive⟩
    · dsimp only at hactive
      rw [isSrtpActive_onDtlsState hstate] at hactive
      cases hactive

/-- No session outlives its adapter. -/
theorem isSrtpActive_dropAdapter (h : ActiveKeyed env s) :
    ¬(s.dropAdapter env).srtp.isSrtpActive = true := by
  have hsame (s : DtlsPair Ctx) (writable : Bool) :
      (s.setWritableState writable).srtp = s.srtp := by
    rw [DtlsPair.setWritableState]
    split_ifs <;> rfl
  rw [DtlsPair.dropAdapter, hsame, DtlsPair.setDtlsState]
  split_ifs with heq
  · -- a transport that is new has no sessions
    intro hactive
    cases heq.symm.trans (h hactive).1
  · dsimp only
    rw [isSrtpActive_onDtlsState (by decide)]
    exact Bool.false_ne_true

theorem activeKeyed_withSrtp (h : ActiveKeyed env s)
    {r : DtlsSrtpTransport Ctx × List MediaOutput} (hr : SameKeys env s.srtp r.1) :
    ActiveKeyed env (s.withSrtp r) := by
  intro hactive
  obtain ⟨hstate, a, ha, hkeyed⟩ := h (hr.active hactive)
  exact ⟨hstate, a, ha, hr.keyedFrom a hkeyed⟩

theorem pairInvariant_activeKeyed (env : DtlsEnv Ctx) :
    DtlsPair.PairInvariant env (ActiveKeyed env) where
  assign s f hf h := by
    intro hactive
    obtain ⟨hstate, a, ha, hkeyed⟩ := h hactive
    exact ⟨(hf _).1.trans hstate, a, (hf _).2.trans ha, hkeyed⟩
  signal s x h := h
  setDtlsState s state answers h := activeKeyed_setDtlsState h state answers
  createAdapter s ok hadapter h := by
    -- there are no sessions when an adapter is made
    have hinactive : ¬s.srtp.isSrtpActive = true := by
      intro hactive
      obtain ⟨hstate, a, ha, -⟩ := h hactive
      rcases hadapter with hne | hnone
      · exact hne hstate
      · cases hnone.symm.trans ha
    rw [DtlsPair.createAdapter]
    split_ifs
    · exact fun hactive ↦ absurd hactive hinactive
    · exact fun hactive ↦ absurd hactive hinactive
  dropAdapter s h hactive := absurd hactive (isSrtpActive_dropAdapter h)
  readPacket s data ts h := activeKeyed_withSrtp h (sameKeys_onReadPacket s.srtp data ts)
  sendRtp s data h := activeKeyed_withSrtp h (sameKeys_sendRtp s.srtp data)
  sendRtcp s data h := activeKeyed_withSrtp h (sameKeys_sendRtcp s.srtp data)

/-- **The keys of the sessions.** In every state of a run, SRTP is only active while the transport
is connected, with the keys of the association it holds. -/
theorem active_keyed (env : DtlsEnv Ctx) (srtpCiphers : List ℤ) (es : List DtlsEvent)
    (h : (DtlsPair.run env srtpCiphers es).srtp.isSrtpActive = true) :
    (DtlsPair.run env srtpCiphers es).transport.dtlsState = .connected ∧
      ∃ a, (DtlsPair.run env srtpCiphers es).transport.dtls = some a ∧
        (DtlsPair.run env srtpCiphers es).srtp.toSrtpTransport.KeyedFrom env a := by
  have hinit : ActiveKeyed env (DtlsPair.init Ctx srtpCiphers) :=
    fun hactive ↦ absurd hactive Bool.false_ne_true
  have hinv : ActiveKeyed env (DtlsPair.run env srtpCiphers es) :=
    exec_invariant (I := ActiveKeyed env)
      (fun _ e hs ↦ (pairInvariant_activeKeyed env).step hs e) hinit es
  exact hinv h

/-- A library that keeps the key as its context, and an adapter that numbers its keys. -/
def sampleDtlsEnv : DtlsEnv ByteString where
  policyForRtp _ := some ⟨2, 1⟩
  policyForRtcp _ := some ⟨2, 1⟩
  create policy := some policy.key
  update _ policy := (policy.key, true)
  protect ctx data := ⟨ctx, true, data⟩
  protectRtcp ctx data := ⟨ctx, true, data⟩
  unprotect ctx data := ⟨ctx, true, data⟩
  unprotectRtcp ctx data := ⟨ctx, true, data⟩
  srtpKeyAndSaltLengths _ := some (1, 1)
  keyingMaterial a n := (List.range n).map fun i ↦ UInt8.ofNat (10 * a + i)

/-- The answer, two handshakes, and a new fingerprint between them. -/
def rekeyedRun : List DtlsEvent :=
  [.setLocalCertificate (some 0), .setRemoteFingerprint (lit "sha-256") [1] true {},
    .adapter { seOpen := true, srtp := ⟨some 1, true, true⟩ },
    .setRemoteFingerprint (lit "sha-256") [2] true {},
    .adapter { seOpen := true, srtp := ⟨some 1, true, true⟩ }]

/-- The sessions of the second association are not those of the first. -/
theorem active_keyed_rekeyedRun :
    (DtlsPair.run sampleDtlsEnv [1] rekeyedRun).transport.dtlsState = .connected ∧
      ∃ a, (DtlsPair.run sampleDtlsEnv [1] rekeyedRun).transport.dtls = some a ∧
        (DtlsPair.run sampleDtlsEnv [1] rekeyedRun).srtp.toSrtpTransport.KeyedFrom
          sampleDtlsEnv a :=
  active_keyed sampleDtlsEnv [1] rekeyedRun (by decide +kernel)

example : (DtlsPair.run sampleDtlsEnv [1] rekeyedRun).srtp.recvContext = some [10, 12] := by
  decide +kernel

end XrtcServer
