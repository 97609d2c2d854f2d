import Mathlib.Data.List.Nodup
import XrtcServer.Pc.SrtpKeys

/-!
# Starting DTLS

Three things start the handshake of a transport that has a certificate: a `ClientHello`, a remote
fingerprint, and the ICE channel becoming writable. They come in any order and more than once, and
which of them creates the adapter and which one calls `StartSSL` depends on the order.

## The watch

`StartWatch` is the pair of transports of `Pc/DtlsTransport.lean` with a record of what concerns the
start: the calls of `StartSSL`, the adapters that were made, and the datagrams that were kept for
the adapter and given to it, by their numbers. Its functions are those of `DtlsPair` with the record
kept; that they still compute the same is said first (`pair_step`), so that what is proved of the
watch is proved of the transports.

## The two phases

As long as the state is `k_new`, nothing has been started or given to the adapter, and if there is
an adapter the channel is not writable (`Waiting`). From the call of `StartSSL` on the state is
never `k_new` again, and every place that could start the handshake looks at the state or at the
adapter (`Running`). A handler keeps the phase, or it is the one that brings the last of the three
and leads from the first phase to the second; so at most one call is recorded in any order of
events, and one is recorded as soon as all three have come.
-/

namespace XrtcServer

open ByteString EventRun

/-- A call of `StartSSL`: the adapter, and `_ice_channel->writable()` at that time. -/
structure SslStart where
  dtls : Option ℕ
  iceWritable : Bool

structure StartWatch (Ctx : Type) where
  pair : DtlsPair Ctx
  /-- `_ice_channel->writable()`. -/
  iceWritable : Bool
  /-- How many datagrams have arrived; the next one has this number. -/
  datagrams : ℕ := 0
  /-- How many adapters were made. -/
  created : ℕ := 0
  started : List SslStart := []
  /-- The datagram last written to `_cached_client_hello`. -/
  lastCached : Option ℕ := none
  /-- The datagrams given to the adapter. -/
  passed : List (Option ℕ) := []

namespace StartWatch

variable {Ctx : Type} (env : DtlsEnv Ctx) (w : StartWatch Ctx)

def onPair (f : DtlsPair Ctx → DtlsPair Ctx) : StartWatch Ctx := { w with pair := f w.pair }

/-- `_handle_dtls_packet` of the datagram `n`. -/
def handleDtlsPacket (n : Option ℕ) (data : ByteString) (answers : AdapterAnswers) :
    StartWatch Ctx × Bool :=
  if dtlsRecords data then
    ({ w with
      pair := w.pair.onDtlsEvents env answers.duringPacket
      passed := w.passed ++ [n] }, true)
  else (w, false)

/-- The end of `_maybe_start_dtls`: the cached packet is given to the adapter. -/
def handleCachedPacket (answers : AdapterAnswers) : StartWatch Ctx :=
  if w.pair.transport.cachedClientHello ≠ [] then
    let (w, ok) := w.handleDtlsPacket env w.lastCached w.pair.transport.cachedClientHello answers
    let w := if ok then w else w.onPair (·.setDtlsState env .failed {})
    w.onPair (·.modify fun t ↦ { t with cachedClientHello := [] })
  else w

def maybeStartDtls (iceWritable : Bool) (answers : AdapterAnswers) : StartWatch Ctx :=
  if w.pair.transport.dtls.isSome && iceWritable then
    let w := { w with
      pair := w.pair.onDtlsEvents env answers.duringStart
      started := w.started ++ [SslStart.mk w.pair.transport.dtls iceWritable] }
    if answers.startSsl ≠ 0 then w.onPair (·.setDtlsState env .failed {})
    else (w.onPair (·.setDtlsState env .connecting {})).handleCachedPacket env answers
  else w

def createAdapter (ok : Bool) : StartWatch Ctx :=
  { w with
    pair := w.pair.createAdapter ok
    created := if ok then w.created + 1 else w.created }

def setupDtls (iceWritable : Bool) (answers : AdapterAnswers) : StartWatch Ctx × Bool :=
  let w := w.createAdapter answers.create
  if !answers.create then (w, false)
  else if w.pair.transport.remoteFingerprintValue.length % 2 = 1 ∧
      !answers.setPeerCertificateDigest then (w, false)
  else if w.pair.transport.srtpCiphers ≠ [] ∧ !answers.setDtlsSrtpCryptoSuites then (w, false)
  else (w.maybeStartDtls env iceWritable answers, true)

/-- `_on_read_packet` of the datagram `n`. -/
def onReadPacket (n : ℕ) (data : ByteString) (ts : ℤ) (iceWritable : Bool)
    (answers : AdapterAnswers) : StartWatch Ctx :=
  match w.pair.transport.dtlsState with
  | .new =>
    if isDtlsClientHelloPacket data then
      let w := { w with
        pair := w.pair.modify fun t ↦ { t with cachedClientHello := data }
        lastCached := some n }
      if w.pair.transport.dtls.isNone && w.pair.transport.localCertificate.isSome then
        (w.setupDtls env iceWritable answers).1
      else w
    else w
  | .connecting | .connected =>
    if isDtlsPacket data then (w.handleDtlsPacket env (some n) data answers).1
    else if w.pair.transport.dtlsState ≠ .connected then w
    else if !DtlsTransport.isRtpPacket data then w
    else w.onPair fun s ↦
      (s.signal (.readPacket data ts)).withSrtp (s.srtp.onReadPacket env.toSrtpEnv data ts)
  | _ => w

def onWritableState (iceWritable : Bool) (answers : AdapterAnswers) : StartWatch Ctx :=
  if !w.pair.transport.dtlsActive then w.onPair (·.setWritableState iceWritable)
  else
    match w.pair.transport.dtlsState with
    | .new => w.maybeStartDtls env iceWritable answers
    | .connected => w.onPair (·.setWritableState iceWritable)
    | _ => w

def storeFingerprint (digestAlg digest : ByteString) : StartWatch Ctx :=
  w.onPair (·.modify fun t ↦
    { t with remoteFingerprintValue := digest, remoteFingerprintAlg := digestAlg })

def setRemoteFingerprint (digestAlg digest : ByteString) (iceWritable : Bool)
    (answers : AdapterAnswers) : StartWatch Ctx × Bool :=
  if w.pair.transport.dtlsActive ∧ w.pair.transport.remoteFingerprintValue = digest ∧
      digestAlg ≠ [] then
    (w, true)
  else if digestAlg = [] then (w.onPair (·.modify fun t ↦ { t with dtlsActive := false }), false)
  else if !w.pair.transport.dtlsActive then (w, false)
  else
    let fingerprintChange := w.pair.transport.remoteFingerprintValue.length > 0
    let w := w.storeFingerprint digestAlg digest
    if w.pair.transport.dtls.isSome ∧ ¬fingerprintChange then
      let w := w.onPair (·.onDtlsEvents env answers.duringDigest)
      if !answers.setPeerCertificateDigest then
        (w.onPair (·.setDtlsState env .failed {}), answers.verificationFailed)
      else (w, true)
    else
      let w := if w.pair.transport.dtls.isSome then w.onPair (·.dropAdapter env) else w
      let (w, ok) := w.setupDtls env iceWritable answers
      if ok then (w, true) else (w.onPair (·.setDtlsState env .failed {}), false)

/-- The handler of one event. Only the two handlers of the channel's signals change more than the
pair: one has counted a datagram, and one is called because the channel has changed. -/
def step : DtlsEvent → StartWatch Ctx
  | .readPacket data ts iceWritable answers =>
    { w with datagrams := w.datagrams + 1 }.onReadPacket env w.datagrams data ts iceWritable answers
  | .writableState iceWritable answers =>
    { w with iceWritable }.onWritableState env iceWritable answers
  | .setRemoteFingerprint digestAlg digest iceWritable answers =>
    (w.setRemoteFingerprint env digestAlg digest iceWritable answers).1
  | .receivingState receiving => w.onPair (·.setReceiving receiving)
  | .adapter e => w.onPair (·.step env (.adapter e))
  | .setLocalCertificate cert => w.onPair fun s ↦ (s.setLocalCertificate cert).1
  | .sendRtp data => w.onPair (·.step env (.sendRtp data))
  | .sendRtcp data => w.onPair (·.step env (.sendRtcp data))

/-- The event brings a `ClientHello`, and nothing has been started. -/
def bringsHello : DtlsEvent → Bool
  | .readPacket data _ _ _ => w.pair.transport.dtlsState = .new && isDtlsClientHelloPacket data
  | _ => false

/-- The transports with a local certificate. -/
def init (Ctx : Type) (srtpCiphers : List ℤ) (cert : ℕ) (iceWritable : Bool) : StartWatch Ctx where
  pair := ((DtlsPair.init Ctx srtpCiphers).setLocalCertificate (some cert)).1
  iceWritable

/-! ## They compute the same

A function of the watch branches on the transports and never on its record. So both sides of each
equation split into the same cases, and in every case the record is what is forgotten. -/

variable {env w}

theorem pair_ite {c : Prop} [Decidable c] {a b : StartWatch Ctx} {a' b' : DtlsPair Ctx}
    (ha : a.pair = a') (hb : b.pair = b') :
    (if c then a else b).pair = if c then a' else b' := by
  split_ifs
  · exact ha
  · exact hb

theorem map_ite {c : Prop} [Decidable c] {a b : StartWatch Ctx × Bool} {a' b' : DtlsPair Ctx × Bool}
    (ha : Prod.map pair id a = a') (hb : Prod.map pair id b = b') :
    Prod.map pair id (if c then a else b) = if c then a' else b' := by
  split_ifs
  · exact ha
  · exact hb

theorem map_handleDtlsPacket (n : Option ℕ) (data : ByteString) (answers : AdapterAnswers) :
    Prod.map pair id (w.handleDtlsPacket env n data answers) =
      w.pair.handleDtlsPacket env data answers := by
  rw [handleDtlsPacket, DtlsPair.handleDtlsPacket]
  exact map_ite rfl rfl

theorem pair_maybeStartDtls (iceWritable : Bool) (answers : AdapterAnswers) :
    (w.maybeStartDtls env iceWritable answers).pair =
      w.pair.maybeStartDtls env iceWritable answers := by
  rw [maybeStartDtls, DtlsPair.maybeStartDtls]
  refine pair_ite (pair_ite rfl (pair_ite ?_ rfl)) rfl
  refine (congrArg (DtlsPair.modify · fun t ↦ { t with cachedClientHello := [] })
    (pair_ite rfl rfl)).trans ?_
  exact congrArg (fun r : DtlsPair Ctx × Bool ↦
    (if r.2 then r.1 else r.1.setDtlsState env .failed {}).modify
      fun t ↦ { t with cachedClientHello := [] }) (map_handleDtlsPacket ..)

theorem map_setupDtls (iceWritable : Bool) (answers : AdapterAnswers) :
    Prod.map pair id (w.setupDtls env iceWritable answers) =
      w.pair.setupDtls env iceWritable answers := by
  rw [setupDtls, DtlsPair.setupDtls]
  refine map_ite rfl (map_ite rfl (map_ite rfl ?_))
  exact congrArg (·, true) (pair_maybeStartDtls ..)

theorem pair_onReadPacket (n : ℕ) (data : ByteString) (ts : ℤ) (iceWritable : Bool)
    (answers : AdapterAnswers) : (w.onReadPacket env n data ts iceWritable answers).pair =
      w.pair.onReadPacket env data ts iceWritable answers := by
  rw [onReadPacket, DtlsPair.onReadPacket]
  cases w.pair.transport.dtlsState with
  | new => exact pair_ite (pair_ite (congrArg Prod.fst (map_setupDtls ..)) rfl) rfl
  | connecting => exact pair_ite (congrArg Prod.fst (map_handleDtlsPacket ..)) rfl
  | connected =>
    exact pair_ite (congrArg Prod.fst (map_handleDtlsPacket ..)) (pair_ite rfl (pair_ite rfl rfl))
  | closed => rfl
  | failed => rfl

theorem pair_onWritableState (iceWritable : Bool) (answers : AdapterAnswers) :
    (w.onWritableState env iceWritable answers).pair =
      w.pair.onWritableState env iceWritable answers := by
  rw [onWritableState, DtlsPair.onWritableState]
  refine pair_ite rfl ?_
  cases w.pair.transport.dtlsState with
  | new => exact pair_maybeStartDtls ..
  | _ => rfl

theorem map_setRemoteFingerprint (digestAlg digest : ByteString) (iceWritable : Bool)
    (answers : AdapterAnswers) :
    Prod.map pair id (w.setRemoteFingerprint env digestAlg digest iceWritable answers) =
      w.pair.setRemoteFingerprint env digestAlg digest iceWritable answers := by
  rw [setRemoteFingerprint, DtlsPair.setRemoteFingerprint]
  refine map_ite rfl (map_ite rfl (map_ite rfl (map_ite (map_ite rfl rfl) ?_)))
  refine (map_ite rfl rfl).trans ?_
  refine (congrArg (fun r : DtlsPair Ctx × Bool ↦
    if r.2 then (r.1, true) else (r.1.setDtlsState env .failed {}, false))
    (map_setupDtls ..)).trans ?_
  exact congrArg (fun s ↦
    let r := DtlsPair.setupDtls env s iceWritable answers
    if r.2 then (r.1, true) else (r.1.setDtlsState env .failed {}, false)) (pair_ite rfl rfl)

/-- The watch does not disturb what it watches. -/
theorem pair_step (w : StartWatch Ctx) (e : DtlsEvent) :
    (w.step env e).pair = w.pair.step env e := by
  cases e with
  | readPacket data ts iceWritable answers => exact pair_onReadPacket ..
  | writableState iceWritable answers => exact pair_onWritableState ..
  | setRemoteFingerprint digestAlg digest iceWritable answers =>
    exact congrArg Prod.fst (map_setRemoteFingerprint ..)
  | _ => rfl

/-! ## The packet that is kept

`_cached_client_hello` is set in one place, where a `ClientHello` comes in `k_new`, and emptied in
one, when it has been given to the adapter. A `ClientHello` that is sent again replaces the first
one. `lastCached` is the number of the last one and is not reset, so that it can still be asked
after the start whether that datagram was given to the adapter. -/

theorem lastCached_ite {c : Prop} [Decidable c] {a b : StartWatch Ctx} {x : Option ℕ}
    (ha : a.lastCached = x) (hb : b.lastCached = x) : (if c then a else b).lastCached = x := by
  split_ifs
  · exact ha
  · exact hb

theorem lastCached_handleDtlsPacket (n : Option ℕ) (data : ByteString) (answers : AdapterAnswers) :
    (w.handleDtlsPacket env n data answers).1.lastCached = w.lastCached := by
  rw [handleDtlsPacket]
  split_ifs <;> rfl

theorem lastCached_maybeStartDtls (iceWritable : Bool) (answers : AdapterAnswers) :
    (w.maybeStartDtls env iceWritable answers).lastCached = w.lastCached := by
  have hcached (w : StartWatch Ctx) :
      (w.handleCachedPacket env answers).lastCached = w.lastCached := by
    rw [handleCachedPacket]
    split_ifs
    · have hpacket : (w.handleDtlsPacket env w.lastCached w.pair.transport.cachedClientHello
          answers).1.lastCached = w.lastCached := lastCached_handleDtlsPacket ..
      dsimp only [onPair]
      exact lastCached_ite hpacket hpacket
    · rfl
  rw [maybeStartDtls]
  exact lastCached_ite (lastCached_ite rfl (hcached _)) rfl

theorem lastCached_setupDtls (iceWritable : Bool) (answers : AdapterAnswers) :
    (w.setupDtls env iceWritable answers).1.lastCached = w.lastCached := by
  rw [setupDtls]
  split_ifs
  · rfl
  · rfl
  · rfl
  · exact lastCached_maybeStartDtls ..

theorem lastCached_setRemoteFingerprint (digestAlg digest : ByteString) (iceWritable : Bool)
    (answers : AdapterAnswers) :
    (w.setRemoteFingerprint env digestAlg digest iceWritable answers).1.lastCached =
      w.lastCached := by
  rw [setRemoteFingerprint]
  dsimp only
  split_ifs
  any_goals rfl
  all_goals exact lastCached_setupDtls ..

/-- Nothing but a `ClientHello` that comes before the start is kept. -/
theorem lastCached_step (w : StartWatch Ctx) (e : DtlsEvent) :
    (w.step env e).lastCached = if w.bringsHello e then some w.datagrams else w.lastCached := by
  cases e with
  | readPacket data ts iceWritable answers =>
    rw [step, onReadPacket, bringsHello]
    dsimp only
    cases hstate : w.pair.transport.dtlsState with
    | new =>
      dsimp only
      by_cases hhello : isDtlsClientHelloPacket data = true
      · rw [if_pos hhello, hhello]
        exact lastCached_ite (lastCached_setupDtls ..) rfl
      · rw [if_neg hhello, (Bool.not_eq_true _).mp hhello]
        rfl
    | connecting =>
      exact lastCached_ite (lastCached_handleDtlsPacket ..)
        (lastCached_ite rfl (lastCached_ite rfl rfl))
    | connected =>
      exact lastCached_ite (lastCached_handleDtlsPacket ..)
        (lastCached_ite rfl (lastCached_ite rfl rfl))
    | closed => rfl
    | failed => rfl
  | writableState iceWritable answers =>
    rw [step, onWritableState]
    refine lastCached_ite rfl ?_
    split
    · exact lastCached_maybeStartDtls ..
    · rfl
    · rfl
  | setRemoteFingerprint digestAlg digest iceWritable answers =>
    exact lastCached_setRemoteFingerprint ..
  | _ => rfl

theorem isSome_lastCached_exec (h : w.lastCached.isSome = true) (es : List DtlsEvent) :
    (exec (step env) w es).lastCached.isSome = true := by
  refine exec_invariant (I := fun w : StartWatch Ctx ↦ w.lastCached.isSome = true)
    (fun w e h ↦ ?_) h es
  rw [lastCached_step]
  split_ifs
  · rfl
  · exact h

/-! ## What the adapter reports

The adapter signals from inside the calls that are made to it, and a signal may change the state,
the flags and the SRTP sessions. For the start only one thing of this matters: `k_new` never comes
back. `Reported` forgets the rest, and as it is reflexive and transitive, the signals of one call
and of several calls in a row are treated alike. -/

/-- The fields that the start of the handshake does not look at have changed, and `k_new` has not
been set. -/
def Reported (s s' : DtlsPair Ctx) : Prop :=
  (s.transport.dtlsState ≠ .new → s'.transport.dtlsState ≠ .new) ∧
    ∃ dtlsState receiving writable,
      s'.transport = { s.transport with dtlsState, receiving, writable }

namespace Reported

variable {s s' s'' : DtlsPair Ctx}

theorem refl (s : DtlsPair Ctx) : Reported s s := ⟨id, _, _, _, rfl⟩

theorem trans (h : Reported s s') (h' : Reported s' s'') : Reported s s'' := by
  obtain ⟨hnew, st, r, wr, heq⟩ := h
  obtain ⟨hnew', st', r', wr', heq'⟩ := h'
  refine ⟨hnew' ∘ hnew, st', r', wr', ?_⟩
  rw [heq', heq]

theorem setWritableState (s : DtlsPair Ctx) (writable : Bool) :
    Reported s (s.setWritableState writable) := by
  rw [DtlsPair.setWritableState]
  split_ifs
  · exact refl s
  · exact ⟨id, _, _, _, rfl⟩

theorem setReceiving (s : DtlsPair Ctx) (receiving : Bool) :
    Reported s (s.setReceiving receiving) := by
  rw [DtlsPair.setReceiving]
  split_ifs
  · exact refl s
  · exact ⟨id, _, _, _, rfl⟩

theorem setDtlsState (s : DtlsPair Ctx) {state : DtlsTransportState} (hstate : state ≠ .new)
    (answers : SrtpAnswers) : Reported s (s.setDtlsState env state answers) := by
  rw [DtlsPair.setDtlsState]
  split_ifs
  · exact refl s
  · exact ⟨fun _ ↦ hstate, _, _, _, rfl⟩

theorem readLoop (results : List StreamResult) (s : DtlsPair Ctx) :
    Reported s (DtlsPair.readLoop env results s) := by
  induction results with
  | nil => exact refl s
  | cons result results ih =>
    cases result with
    | success => exact ih
    | eos => exact (setWritableState s false).trans (setDtlsState _ (by decide) {})
    | error => exact (setWritableState s false).trans (setDtlsState _ (by decide) {})
    | block => exact refl s

theorem onDtlsEvent (s : DtlsPair Ctx) (e : AdapterEvent) : Reported s (s.onDtlsEvent env e) := by
  have hopen : Reported s (if e.seOpen then
      (s.setWritableState true).setDtlsState env .connected e.srtp else s) := by
    split_ifs
    · exact (setWritableState s true).trans (setDtlsState _ (by decide) _)
    · exact refl s
  rw [DtlsPair.onDtlsEvent]
  generalize (if e.seOpen then
    (s.setWritableState true).setDtlsState env .connected e.srtp else s) = s₁ at hopen
  have hread : Reported s (if e.seRead then DtlsPair.readLoop env e.reads s₁ else s₁) := by
    split_ifs
    · exact hopen.trans (readLoop e.reads s₁)
    · exact hopen
  generalize (if e.seRead then DtlsPair.readLoop env e.reads s₁ else s₁) = s₂ at hread
  refine hread.trans ?_
  split_ifs
  · exact (setWritableState s₂ false).trans (setDtlsState _ (by decide) {})
  · exact (setWritableState s₂ false).trans (setDtlsState _ (by decide) {})
  · exact refl s₂

theorem onDtlsEvents (s : DtlsPair Ctx) (es : List AdapterEvent) :
    Reported s (s.onDtlsEvents env es) := by
  rw [DtlsPair.onDtlsEvents]
  induction es generalizing s with
  | nil => exact refl s
  | cons e es ih => exact (onDtlsEvent s e).trans (ih _)

theorem adapter (s : DtlsPair Ctx) (e : AdapterEvent) : Reported s (s.step env (.adapter e)) := by
  rw [DtlsPair.step.eq_def]
  dsimp only
  split_ifs
  · exact onDtlsEvent s e
  · exact refl s

end Reported

theorem dtlsState_setReceiving (s : DtlsPair Ctx) (receiving : Bool) :
    (s.setReceiving receiving).transport.dtlsState = s.transport.dtlsState := by
  rw [DtlsPair.setReceiving]
  split_ifs <;> rfl

/-! ## Before the start and after it

`Settled` holds at any time, and `Waiting` and `Running` are the two phases. `unset` and `early`
stand for what may still be missing: with `False` in their place the same step lemma says that a
fingerprint stays known and that a handshake that was started stays started, and no second
induction is needed for that. -/

/-- What holds of a transport at any time; as long as `unset`, it may have no fingerprint. -/
structure Settled (digestAlg digest : ByteString) (unset : Prop) (w : StartWatch Ctx) : Prop where
  active : digestAlg ≠ [] → w.pair.transport.dtlsActive
  certificate : w.pair.transport.localCertificate.isSome
  fingerprint : unset ∧ w.pair.transport.remoteFingerprintValue = [] ∨
    w.pair.transport.remoteFingerprintValue = digest ∧ digest ≠ [] ∧ digestAlg ≠ []
  records : dtlsRecords w.pair.transport.cachedClientHello
  lastCached : ∀ n, w.lastCached = some n → n < w.datagrams
  passed : w.passed.Nodup
  arrived : ∀ x ∈ w.passed, ∃ n < w.datagrams, x = some n

/-- Nothing has been started. -/
structure Unstarted (w : StartWatch Ctx) : Prop where
  state : w.pair.transport.dtlsState = .new
  started : w.started = []
  passed : w.passed = []
  created : w.created = w.pair.transport.dtls.toList.length
  cached : w.pair.transport.cachedClientHello ≠ [] ↔ w.lastCached.isSome

/-- The next of the three triggers that is missing starts the handshake. -/
structure Waiting (digestAlg : ByteString) (w : StartWatch Ctx) : Prop extends Unstarted w where
  adapter : w.pair.transport.dtls = none →
    w.lastCached = none ∧ w.pair.transport.remoteFingerprintValue = []
  quiet : digestAlg ≠ [] → w.pair.transport.dtls.isSome → w.iceWritable = false

/-- The handshake has been started. -/
structure Running (w : StartWatch Ctx) : Prop where
  state : w.pair.transport.dtlsState ≠ .new
  dtls : w.pair.transport.dtls.isSome
  created : w.created = 1
  started : ∃ a, w.started = [⟨some a, true⟩]
  cached : w.pair.transport.cachedClientHello = []
  lastCached : ∀ n, w.lastCached = some n → some n ∈ w.passed

/-- **The invariant** of the start; as long as `early`, the handshake may not have been started. -/
structure StartInv (digestAlg digest : ByteString) (unset early : Prop) (w : StartWatch Ctx) :
    Prop where
  settled : Settled digestAlg digest unset w
  phase : early ∧ Waiting digestAlg w ∨ Running w

/-- What is assumed of an adapter: it is created and started, and takes the crypto suites. -/
structure Succeeds (answers : AdapterAnswers) : Prop where
  create : answers.create = true
  setDtlsSrtpCryptoSuites : answers.setDtlsSrtpCryptoSuites = true
  startSsl : answers.startSsl = 0

variable {digestAlg digest : ByteString} {unset early : Prop} {answers : AdapterAnswers}

theorem Settled.reported (h : Settled digestAlg digest unset w) {s : DtlsPair Ctx}
    (hs : Reported w.pair s) : Settled digestAlg digest unset { w with pair := s } := by
  obtain ⟨-, _, _, _, heq⟩ := hs
  exact {
    active := by
      rw [heq]
      exact h.active
    certificate := by
      rw [heq]
      exact h.certificate
    fingerprint := by
      rw [heq]
      exact h.fingerprint
    records := by
      rw [heq]
      exact h.records
    lastCached := h.lastCached
    passed := h.passed
    arrived := h.arrived }

theorem Running.reported (h : Running w) {s : DtlsPair Ctx} (hs : Reported w.pair s) :
    Running { w with pair := s } := by
  obtain ⟨hnew, _, _, _, heq⟩ := hs
  exact {
    state := hnew h.state
    dtls := by
      rw [heq]
      exact h.dtls
    created := h.created
    started := h.started
    cached := by
      rw [heq]
      exact h.cached
    lastCached := h.lastCached }

theorem dtlsRecords_nil : dtlsRecords [] = true := by decide

theorem handleDtlsPacket_eq (n : Option ℕ) {data : ByteString} (hdata : dtlsRecords data) :
    w.handleDtlsPacket env n data answers =
      ({ w with
        pair := w.pair.onDtlsEvents env answers.duringPacket
        passed := w.passed ++ [n] }, true) := by
  rw [handleDtlsPacket, if_pos hdata]

/-- The start: `StartSSL` is called, and the cached packet is given to the adapter. -/
theorem exists_maybeStartDtls (hdtls : w.pair.transport.dtls.isSome) (h : Succeeds answers)
    (hrecords : dtlsRecords w.pair.transport.cachedClientHello) :
    ∃ s : DtlsPair Ctx, s.transport.dtlsState ≠ .new ∧
      (∃ dtlsState receiving writable, s.transport =
        { w.pair.transport with dtlsState, receiving, writable, cachedClientHello := [] }) ∧
      w.maybeStartDtls env true answers = { w with
        pair := s
        started := w.started ++ [⟨w.pair.transport.dtls, true⟩]
        passed := w.passed ++
          if w.pair.transport.cachedClientHello = [] then [] else [w.lastCached] } := by
  have hready : (w.pair.transport.dtls.isSome && true) = true := by rw [hdtls, Bool.and_self]
  have hevents : Reported w.pair (w.pair.onDtlsEvents env answers.duringStart) :=
    Reported.onDtlsEvents ..
  have hconnecting : ((w.pair.onDtlsEvents env answers.duringStart).setDtlsState env .connecting
      {}).transport.dtlsState = .connecting := DtlsPair.dtlsState_setDtlsState ..
  have hstarted : Reported w.pair
      ((w.pair.onDtlsEvents env answers.duringStart).setDtlsState env .connecting {}) :=
    hevents.trans (Reported.setDtlsState _ (by decide) {})
  rw [maybeStartDtls, if_pos hready]
  dsimp only [onPair]
  rw [if_neg (not_not.mpr h.startSsl), handleCachedPacket]
  generalize (w.pair.onDtlsEvents env answers.duringStart).setDtlsState env .connecting {} = s₁
    at hconnecting hstarted ⊢
  have hnew : s₁.transport.dtlsState ≠ .new := by
    rw [hconnecting]
    decide
  obtain ⟨-, st, r, wr, heq⟩ := hstarted
  have hcache : s₁.transport.cachedClientHello = w.pair.transport.cachedClientHello := by rw [heq]
  dsimp only
  rw [hcache]
  by_cases hcached : w.pair.transport.cachedClientHello = []
  · refine ⟨s₁, hnew, ⟨st, r, wr, ?_⟩, ?_⟩
    · rw [heq]
      dsimp only
      rw [hcached]
    · rw [if_neg (not_not.mpr hcached), if_pos hcached, List.append_nil]
  · have hpacket : Reported s₁ (s₁.onDtlsEvents env answers.duringPacket) :=
      Reported.onDtlsEvents ..
    obtain ⟨hkeeps, st', r', wr', heq'⟩ := hpacket
    refine ⟨(s₁.onDtlsEvents env answers.duringPacket).modify fun t ↦
      { t with cachedClientHello := [] }, hkeeps hnew, ⟨st', r', wr', ?_⟩, ?_⟩
    · dsimp only [DtlsPair.modify]
      rw [heq', heq]
    · rw [if_pos hcached, if_neg hcached, handleDtlsPacket_eq _ hrecords]
      rfl

theorem startInv_maybeStartDtls (hset : Settled digestAlg digest unset w) (hearly : early)
    (hw : Unstarted w) (hdtls : w.pair.transport.dtls.isSome) (h : Succeeds answers) :
    StartInv digestAlg digest unset early (w.maybeStartDtls env w.iceWritable answers) := by
  cases hwritable : w.iceWritable with
  | false =>
    have hnot : ¬(w.pair.transport.dtls.isSome && false) = true := by
      rw [Bool.and_false]
      exact Bool.false_ne_true
    rw [maybeStartDtls, if_neg hnot]
    refine ⟨hset, .inl ⟨hearly, {
      hw with adapter := fun hnone ↦ ?_, quiet := fun _ _ ↦ hwritable }⟩⟩
    rw [hnone] at hdtls
    cases hdtls
  | true =>
    obtain ⟨s, hnew, ⟨st, r, wr, heq⟩, hstart⟩ :=
      exists_maybeStartDtls hdtls h hset.records
    rw [hstart, hw.started, hw.passed, List.nil_append, List.nil_append]
    have hpassed : ∀ x ∈ (if w.pair.transport.cachedClientHello = [] then [] else [w.lastCached]),
        ∃ n < w.datagrams, x = some n := by
      intro x hx
      split_ifs at hx with hcached
      · cases hx
      · obtain ⟨n, hn⟩ := Option.isSome_iff_exists.mp (hw.cached.mp hcached)
        rw [List.mem_singleton.mp hx, hn]
        exact ⟨n, hset.lastCached n hn, rfl⟩
    refine ⟨{
      active := ?_
      certificate := ?_
      fingerprint := ?_
      records := ?_
      lastCached := hset.lastCached
      passed := ?_
      arrived := hpassed }, .inr {
      state := hnew
      dtls := ?_
      created := ?_
      started := ?_
      cached := ?_
      lastCached := ?_ }⟩
    · rw [heq]
      exact hset.active
    · rw [heq]
      exact hset.certificate
    · rw [heq]
      exact hset.fingerprint
    · rw [heq]
      exact dtlsRecords_nil
    · dsimp only
      split_ifs
      · exact List.nodup_nil
      · exact List.pairwise_singleton _ _
    · rw [heq]
      exact hdtls
    · obtain ⟨a, ha⟩ := Option.isSome_iff_exists.mp hdtls
      exact hw.created.trans (by rw [ha]; rfl)
    · obtain ⟨a, ha⟩ := Option.isSome_iff_exists.mp hdtls
      exact ⟨a, by rw [ha]⟩
    · rw [heq]
    · intro n hn
      have hcached : w.pair.transport.cachedClientHello ≠ [] := by
        rw [hw.cached, hn]
        rfl
      dsimp only
      rw [if_neg hcached, hn]
      exact List.mem_singleton_self _

theorem startInv_setupDtls (hset : Settled digestAlg digest unset w) (hearly : early)
    (hw : Unstarted w) (hdtls : w.pair.transport.dtls = none) (h : Succeeds answers)
    (hdigest : w.pair.transport.remoteFingerprintValue ≠ [] →
      answers.setPeerCertificateDigest = true) :
    StartInv digestAlg digest unset early (w.setupDtls env w.iceWritable answers).1 ∧
      (w.setupDtls env w.iceWritable answers).2 = true := by
  -- the adapter, before anything else is done with it
  have hmade : w.createAdapter true = { w with
      pair := { w.pair with
        transport := { w.pair.transport with dtls := some w.pair.nextAssociation }
        nextAssociation := w.pair.nextAssociation + 1 }
      created := w.created + 1 } := rfl
  have hset' : Settled digestAlg digest unset (w.createAdapter true) := by
    rw [hmade]
    exact ⟨hset.active, hset.certificate, hset.fingerprint, hset.records, hset.lastCached,
      hset.passed, hset.arrived⟩
  have hw' : Unstarted (w.createAdapter true) := by
    rw [hmade]
    refine ⟨hw.state, hw.started, hw.passed, ?_, hw.cached⟩
    rw [hw.created, hdtls]
    rfl
  have hstart : StartInv digestAlg digest unset early
      ((w.createAdapter true).maybeStartDtls env (w.createAdapter true).iceWritable answers) :=
    startInv_maybeStartDtls hset' hearly hw' rfl h
  have hdigest' : ¬((w.createAdapter true).pair.transport.remoteFingerprintValue.length % 2 = 1 ∧
      (!answers.setPeerCertificateDigest) = true) := by
    rintro ⟨hodd, hrejected⟩
    rw [hdigest, Bool.not_true] at hrejected
    · cases hrejected
    · intro hnil
      rw [hmade] at hodd
      dsimp only at hodd
      rw [hnil] at hodd
      cases hodd
  have hsuites : ¬((w.createAdapter true).pair.transport.srtpCiphers ≠ [] ∧
      (!answers.setDtlsSrtpCryptoSuites) = true) := by
    rw [h.setDtlsSrtpCryptoSuites]
    exact fun hrejected ↦ Bool.false_ne_true hrejected.2
  rw [setupDtls, h.create, if_neg (by decide), if_neg hdigest', if_neg hsuites]
  exact ⟨hstart, rfl⟩

/-! ## The handlers

A handler that only passes on what the adapter reports is `reported`; one that cannot start anything
is `running` or `waiting`. What remains are the places from which `_maybe_start_dtls` is reached, a
`ClientHello`, a writable channel and a fingerprint, and there `startInv_maybeStartDtls` leads from
the first phase to the second. -/

/-- What is assumed of an event: it sees the channel as it is, a `ClientHello` is made of complete
records, there is one fingerprint, and the adapter succeeds and reports nothing before it is
started. -/
def Assumed (digestAlg digest : ByteString) (w : StartWatch Ctx) : DtlsEvent → Prop
  | .readPacket data _ iceWritable answers =>
    iceWritable = w.iceWritable ∧ (isDtlsClientHelloPacket data → dtlsRecords data) ∧
      Succeeds answers
  | .writableState _ answers => Succeeds answers
  | .setRemoteFingerprint alg value iceWritable answers =>
    alg = digestAlg ∧ value = digest ∧ iceWritable = w.iceWritable ∧ Succeeds answers ∧
      (digest ≠ [] → answers.setPeerCertificateDigest) ∧
      (w.pair.transport.dtlsState = .new → answers.duringDigest = [])
  | .adapter _ => w.pair.transport.dtlsState ≠ .new
  | _ => True

theorem StartInv.reported (h : StartInv digestAlg digest unset early w) {s : DtlsPair Ctx}
    (hs : Reported w.pair s)
    (hnew : w.pair.transport.dtlsState = .new → s.transport.dtlsState = .new) :
    StartInv digestAlg digest unset early { w with pair := s } := by
  refine ⟨h.settled.reported hs, ?_⟩
  rcases h.phase with ⟨hearly, hw⟩ | hr
  · obtain ⟨-, _, _, _, heq⟩ := hs
    exact .inl ⟨hearly, {
      state := hnew hw.state
      started := hw.started
      passed := hw.passed
      created := by
        rw [heq]
        exact hw.created
      cached := by
        rw [heq]
        exact hw.cached
      adapter := by
        rw [heq]
        exact hw.adapter
      quiet := by
        rw [heq]
        exact hw.quiet }⟩
  · exact .inr (hr.reported hs)

theorem StartInv.running (h : StartInv digestAlg digest unset early w)
    (hstate : w.pair.transport.dtlsState ≠ .new) : Running w :=
  h.phase.resolve_left fun hw ↦ hstate hw.2.state

theorem StartInv.waiting (h : StartInv digestAlg digest unset early w)
    (hstate : w.pair.transport.dtlsState = .new) : early ∧ Waiting digestAlg w :=
  h.phase.resolve_right fun hr ↦ hr.state hstate

theorem startInv_datagram (h : StartInv digestAlg digest unset early w) :
    StartInv digestAlg digest unset early { w with datagrams := w.datagrams + 1 } := by
  refine ⟨⟨h.settled.active, h.settled.certificate, h.settled.fingerprint, h.settled.records,
    fun n hn ↦ (h.settled.lastCached n hn).trans (Nat.lt_succ_self _), h.settled.passed,
    fun x hx ↦ ?_⟩, ?_⟩
  · obtain ⟨n, hn, rfl⟩ := h.settled.arrived x hx
    exact ⟨n, hn.trans (Nat.lt_succ_self _), rfl⟩
  · rcases h.phase with ⟨hearly, hw⟩ | hr
    · exact .inl ⟨hearly, ⟨hw.state, hw.started, hw.passed, hw.created, hw.cached⟩, hw.adapter,
      hw.quiet⟩
    · exact .inr ⟨hr.state, hr.dtls, hr.created, hr.started, hr.cached, hr.lastCached⟩

theorem startInv_handleDtlsPacket (h : StartInv digestAlg digest unset early w)
    (hstate : w.pair.transport.dtlsState ≠ .new) (data : ByteString) :
    StartInv digestAlg digest unset early ({ w with
      datagrams := w.datagrams + 1 }.handleDtlsPacket env (some w.datagrams) data answers).1 := by
  have hcounted := startInv_datagram h
  rw [handleDtlsPacket]
  split_ifs
  · have hevents : Reported w.pair (w.pair.onDtlsEvents env answers.duringPacket) :=
      Reported.onDtlsEvents ..
    have hset := hcounted.settled.reported hevents
    have hr := (hcounted.running hstate).reported hevents
    refine ⟨⟨hset.active, hset.certificate, hset.fingerprint, hset.records, hset.lastCached,
      ?_, ?_⟩, .inr ⟨hr.state, hr.dtls, hr.created, hr.started, hr.cached, fun n hn ↦ ?_⟩⟩
    · -- the number of this datagram is new
      refine List.nodup_append.mpr ⟨h.settled.passed, List.pairwise_singleton _ _, ?_⟩
      rintro x hx y hy rfl
      obtain ⟨n, hn, heq⟩ := h.settled.arrived x hx
      rw [List.mem_singleton.mp hy] at heq
      cases heq
      exact lt_irrefl _ hn
    · intro x hx
      rcases List.mem_append.mp hx with hx | hx
      · exact hset.arrived x hx
      · exact ⟨w.datagrams, Nat.lt_succ_self _, List.mem_singleton.mp hx⟩
    · exact List.mem_append_left _ (hr.lastCached n hn)
  · exact hcounted

theorem ne_nil_of_isDtlsClientHelloPacket {data : ByteString}
    (hdata : isDtlsClientHelloPacket data = true) : data ≠ [] := by
  rintro rfl
  cases hdata

theorem startInv_clientHello (h : StartInv digestAlg digest unset early w)
    (hstate : w.pair.transport.dtlsState = .new) {data : ByteString} (hne : data ≠ [])
    (hdata : dtlsRecords data) (hanswers : Succeeds answers) :
    let w' := { w with
      datagrams := w.datagrams + 1
      pair := w.pair.modify fun t ↦ { t with cachedClientHello := data }
      lastCached := some w.datagrams }
    StartInv digestAlg digest unset early
      (if w'.pair.transport.dtls.isNone && w'.pair.transport.localCertificate.isSome then
        (w'.setupDtls env w'.iceWritable answers).1
      else w') := by
  intro w'
  obtain ⟨hearly, hw⟩ := h.waiting hstate
  have hset : Settled digestAlg digest unset w' := by
    refine ⟨h.settled.active, h.settled.certificate, h.settled.fingerprint, hdata,
      fun n hn ↦ ?_, h.settled.passed, (startInv_datagram h).settled.arrived⟩
    cases hn
    exact Nat.lt_succ_self _
  have hun : Unstarted w' :=
    ⟨hw.state, hw.started, hw.passed, hw.created, ⟨fun _ ↦ rfl, fun _ ↦ hne⟩⟩
  split_ifs with hcreate
  · have hnone : w.pair.transport.dtls = none := by
      rw [Bool.and_eq_true] at hcreate
      exact Option.isNone_iff_eq_none.mp hcreate.1
    exact (startInv_setupDtls hset hearly hun hnone hanswers
      fun hvalue ↦ absurd (hw.adapter hnone).2 hvalue).1
  · refine ⟨hset, .inl ⟨hearly, {
      hun with adapter := fun hnone ↦ ?_, quiet := hw.quiet }⟩⟩
    refine absurd ?_ hcreate
    rw [hnone, Bool.and_eq_true]
    exact ⟨rfl, h.settled.certificate⟩

theorem startInv_onReadPacket (h : StartInv digestAlg digest unset early w) {data : ByteString}
    (ts : ℤ) (hdata : isDtlsClientHelloPacket data → dtlsRecords data)
    (hanswers : Succeeds answers) :
    StartInv digestAlg digest unset early ({ w with
      datagrams := w.datagrams + 1 }.onReadPacket env w.datagrams data ts w.iceWritable
        answers) := by
  have hcounted := startInv_datagram h
  have hdirect (hstate : w.pair.transport.dtlsState ≠ .new) : StartInv digestAlg digest unset early
      ({ w with datagrams := w.datagrams + 1 }.handleDtlsPacket env (some w.datagrams) data
        answers).1 := startInv_handleDtlsPacket h hstate data
  rw [onReadPacket]
  rcases hstate : w.pair.transport.dtlsState with _ | _ | _ | _ | _
  · by_cases hhello : isDtlsClientHelloPacket data = true
    · dsimp only
      rw [if_pos hhello]
      exact startInv_clientHello h hstate (ne_nil_of_isDtlsClientHelloPacket hhello)
        (hdata hhello) hanswers
    · dsimp only
      rw [if_neg hhello]
      exact hcounted
  · have hne : w.pair.transport.dtlsState ≠ .new := fun hnew ↦ by cases hstate.symm.trans hnew
    dsimp only
    split_ifs
    · exact hdirect hne
    · exact hcounted
    · exact hcounted
    · exact hcounted.reported (Reported.refl _) id
  · have hne : w.pair.transport.dtlsState ≠ .new := fun hnew ↦ by cases hstate.symm.trans hnew
    dsimp only
    split_ifs
    · exact hdirect hne
    · exact hcounted
    · exact hcounted
    · exact hcounted.reported (Reported.refl _) id
  · exact hcounted
  · exact hcounted

theorem startInv_onWritableState (h : StartInv digestAlg digest unset early w) (iceWritable : Bool)
    (hanswers : Succeeds answers) :
    StartInv digestAlg digest unset early
      ({ w with iceWritable }.onWritableState env iceWritable answers) := by
  have hset : Settled digestAlg digest unset { w with iceWritable } :=
    ⟨h.settled.active, h.settled.certificate, h.settled.fingerprint, h.settled.records,
      h.settled.lastCached, h.settled.passed, h.settled.arrived⟩
  have hrunning (hstate : w.pair.transport.dtlsState ≠ .new) :
      StartInv digestAlg digest unset early { w with iceWritable } := by
    have hr := h.running hstate
    exact ⟨hset, .inr ⟨hr.state, hr.dtls, hr.created, hr.started, hr.cached, hr.lastCached⟩⟩
  -- as long as nothing has been started, the new flag must not break `quiet`
  have hwaiting (hstate : w.pair.transport.dtlsState = .new)
      (hquiet : digestAlg ≠ [] → w.pair.transport.dtls.isSome → iceWritable = false) :
      StartInv digestAlg digest unset early { w with iceWritable } := by
    obtain ⟨hearly, hw⟩ := h.waiting hstate
    exact ⟨hset, .inl ⟨hearly, ⟨hw.state, hw.started, hw.passed, hw.created, hw.cached⟩,
      hw.adapter, hquiet⟩⟩
  rw [onWritableState]
  dsimp only
  by_cases hactive : w.pair.transport.dtlsActive = true
  · rw [hactive, Bool.not_true, if_neg Bool.false_ne_true]
    rcases hstate : w.pair.transport.dtlsState with _ | _ | _ | _ | _
    · rcases hdtls : w.pair.transport.dtls with _ | a
      · have hnot : ¬(w.pair.transport.dtls.isSome && iceWritable) = true := by
          rw [hdtls]
          exact Bool.false_ne_true
        dsimp only
        rw [maybeStartDtls, if_neg hnot]
        refine hwaiting hstate fun _ hsome ↦ ?_
        rw [hdtls] at hsome
        cases hsome
      · obtain ⟨hearly, hw⟩ := h.waiting hstate
        exact startInv_maybeStartDtls hset hearly
          ⟨hw.state, hw.started, hw.passed, hw.created, hw.cached⟩ (by rw [hdtls]; rfl) hanswers
    · exact hrunning (by rw [hstate]; decide)
    · refine (hrunning (by rw [hstate]; decide)).reported (Reported.setWritableState ..)
        fun hnew ↦ ?_
      rw [DtlsPair.dtlsState_setWritableState]
      exact hnew
    · exact hrunning (by rw [hstate]; decide)
    · exact hrunning (by rw [hstate]; decide)
  · rw [Bool.not_eq_true] at hactive
    rw [hactive, Bool.not_false, if_pos rfl]
    have halg : digestAlg = [] := by
      by_contra hne
      cases hactive.symm.trans (h.settled.active hne)
    have hflag : StartInv digestAlg digest unset early { w with iceWritable } := by
      by_cases hstate : w.pair.transport.dtlsState = .new
      · exact hwaiting hstate fun hne ↦ absurd halg hne
      · exact hrunning hstate
    refine hflag.reported (Reported.setWritableState ..) fun hnew ↦ ?_
    rw [DtlsPair.dtlsState_setWritableState]
    exact hnew

theorem startInv_setRemoteFingerprint (h : StartInv digestAlg digest unset early w)
    (hanswers : Succeeds answers) (hdigest : digest ≠ [] → answers.setPeerCertificateDigest)
    (hquiet : w.pair.transport.dtlsState = .new → answers.duringDigest = []) :
    StartInv digestAlg digest unset early
      (w.setRemoteFingerprint env digestAlg digest w.iceWritable answers).1 := by
  rw [setRemoteFingerprint]
  by_cases hsame : w.pair.transport.dtlsActive ∧
      w.pair.transport.remoteFingerprintValue = digest ∧ digestAlg ≠ []
  · rw [if_pos hsame]
    exact h
  rw [if_neg hsame]
  by_cases halg : digestAlg = []
  · rw [if_pos halg]
    refine ⟨⟨fun hne ↦ absurd halg hne, h.settled.certificate, h.settled.fingerprint,
      h.settled.records, h.settled.lastCached, h.settled.passed, h.settled.arrived⟩, ?_⟩
    rcases h.phase with ⟨hearly, hw⟩ | hr
    · exact .inl ⟨hearly, ⟨hw.state, hw.started, hw.passed, hw.created, hw.cached⟩, hw.adapter,
      hw.quiet⟩
    · exact .inr ⟨hr.state, hr.dtls, hr.created, hr.started, hr.cached, hr.lastCached⟩
  have hactive := h.settled.active halg
  -- the fingerprint is the first one
  have hvalue : w.pair.transport.remoteFingerprintValue = [] :=
    (h.settled.fingerprint.resolve_right fun heq ↦ hsame ⟨hactive, heq.1, halg⟩).2
  have hne : digest ≠ [] := fun hnil ↦ hsame ⟨hactive, hvalue.trans hnil.symm, halg⟩
  have haccepted := hdigest hne
  have hset : Settled digestAlg digest unset (w.storeFingerprint digestAlg digest) :=
    ⟨h.settled.active, h.settled.certificate, .inr ⟨rfl, hne, halg⟩, h.settled.records,
      h.settled.lastCached, h.settled.passed, h.settled.arrived⟩
  rw [if_neg halg, hactive, Bool.not_true, if_neg Bool.false_ne_true, hvalue]
  dsimp only
  by_cases hdtls : w.pair.transport.dtls.isSome = true
  · have hstored : StartInv digestAlg digest unset early (w.storeFingerprint digestAlg digest) := by
      refine ⟨hset, ?_⟩
      rcases h.phase with ⟨hearly, hw⟩ | hr
      · refine .inl ⟨hearly, ⟨hw.state, hw.started, hw.passed, hw.created, hw.cached⟩,
          fun hnone ↦ ?_, hw.quiet⟩
        rw [show w.pair.transport.dtls = none from hnone] at hdtls
        cases hdtls
      · exact .inr ⟨hr.state, hr.dtls, hr.created, hr.started, hr.cached, hr.lastCached⟩
    rw [if_pos ⟨hdtls, by simp⟩, haccepted, Bool.not_true, if_neg Bool.false_ne_true]
    refine hstored.reported (Reported.onDtlsEvents ..) fun hnew ↦ ?_
    rw [hquiet hnew]
    exact hnew
  · obtain ⟨hearly, hw⟩ := h.phase.resolve_right fun hr ↦ hdtls hr.dtls
    have hsetup : StartInv digestAlg digest unset early
        ((w.storeFingerprint digestAlg digest).setupDtls env w.iceWritable answers).1 ∧
        ((w.storeFingerprint digestAlg digest).setupDtls env w.iceWritable answers).2 = true :=
      startInv_setupDtls hset hearly ⟨hw.state, hw.started, hw.passed, hw.created, hw.cached⟩
        (Option.not_isSome_iff_eq_none.mp hdtls) hanswers fun _ ↦ haccepted
    have hdtls' : ¬(w.storeFingerprint digestAlg digest).pair.transport.dtls.isSome = true := hdtls
    rw [if_neg fun hboth ↦ hdtls' hboth.1, if_neg hdtls', if_pos hsetup.2]
    exact hsetup.1

theorem startInv_setLocalCertificate (h : StartInv digestAlg digest unset early w)
    (cert : Option ℕ) :
    StartInv digestAlg digest unset early (w.onPair fun s ↦ (s.setLocalCertificate cert).1) := by
  dsimp only [onPair]
  by_cases hactive : w.pair.transport.dtlsActive = true
  · rw [DtlsPair.setLocalCertificate.eq_def, if_pos hactive]
    exact h
  · rw [DtlsPair.setLocalCertificate.eq_def, if_neg hactive]
    rcases cert with _ | c
    · exact h
    · refine ⟨⟨fun _ ↦ rfl, rfl, h.settled.fingerprint, h.settled.records, h.settled.lastCached,
        h.settled.passed, h.settled.arrived⟩, ?_⟩
      rcases h.phase with ⟨hearly, hw⟩ | hr
      · exact .inl ⟨hearly, ⟨hw.state, hw.started, hw.passed, hw.created, hw.cached⟩, hw.adapter,
      hw.quiet⟩
      · exact .inr ⟨hr.state, hr.dtls, hr.created, hr.started, hr.cached, hr.lastCached⟩

/-- **Every handler keeps the invariant.** -/
theorem startInv_step (h : StartInv digestAlg digest unset early w) {e : DtlsEvent}
    (he : Assumed digestAlg digest w e) : StartInv digestAlg digest unset early (w.step env e) := by
  cases e with
  | readPacket data ts iceWritable answers =>
    obtain ⟨rfl, hdata, hanswers⟩ := he
    exact startInv_onReadPacket h ts hdata hanswers
  | writableState iceWritable answers => exact startInv_onWritableState h iceWritable he
  | setRemoteFingerprint alg value iceWritable answers =>
    obtain ⟨rfl, rfl, rfl, hanswers, hdigest, hquiet⟩ := he
    exact startInv_setRemoteFingerprint h hanswers hdigest hquiet
  | receivingState receiving =>
    refine h.reported (Reported.setReceiving ..) fun hnew ↦ ?_
    rw [dtlsState_setReceiving]
    exact hnew
  | adapter e => exact h.reported (Reported.adapter ..) (absurd · he)
  | setLocalCertificate cert => exact startInv_setLocalCertificate h cert
  | sendRtp data => exact h.reported (Reported.refl _) id
  | sendRtcp data => exact h.reported (Reported.refl _) id

theorem startInv_init (srtpCiphers : List ℤ) (cert : ℕ) (iceWritable : Bool) :
    StartInv digestAlg digest True True (init Ctx srtpCiphers cert iceWritable) where
  settled := {
    active := fun _ ↦ rfl
    certificate := rfl
    fingerprint := .inl ⟨trivial, rfl⟩
    records := dtlsRecords_nil
    lastCached := fun _ hn ↦ nomatch hn
    passed := List.nodup_nil
    arrived := fun _ hx ↦ nomatch hx }
  phase := .inl ⟨trivial, {
    state := rfl
    started := rfl
    passed := rfl
    created := rfl
    cached := ⟨fun hne ↦ absurd rfl hne, fun hsome ↦ nomatch hsome⟩
    adapter := fun _ ↦ ⟨rfl, rfl⟩
    quiet := fun _ hsome ↦ nomatch hsome }⟩

/-! ## Runs

What is asked of a run is read off the invariant at its end. For the start itself the run is cut in
two, behind the call that brings the fingerprint and behind the one that makes the channel
writable. -/

/-- `StartSSL` is called at most once, and there is at most one adapter; at the call the adapter is
there and the channel is writable. -/
structure StartsOnce (w : StartWatch Ctx) : Prop where
  created : w.created ≤ 1
  started : w.started.length ≤ 1
  ready : ∀ x ∈ w.started, x.dtls.isSome ∧ x.iceWritable = true

/-- DTLS has left `k_new`, and the packet that was kept last was given to the adapter exactly
once. -/
structure Delivered (w : StartWatch Ctx) : Prop where
  state : w.pair.transport.dtlsState ≠ .new
  passed : ∀ n, w.lastCached = some n → w.passed.count (some n) = 1

/-- The fingerprint is set after `fs`, and then the channel is writable or becomes so among `gs`. -/
structure Triggered (env : DtlsEnv Ctx) (w : StartWatch Ctx) (fs gs : List DtlsEvent) : Prop where
  fingerprint : (exec (step env) w fs).pair.transport.remoteFingerprintValue ≠ []
  writable : ∃ ks, ks <+: gs ∧ (exec (step env) w (fs ++ ks)).iceWritable = true

/-- A `ClientHello` that comes before the start is the packet that is kept, until another one
comes. -/
def KeepsHello (env : DtlsEnv Ctx) (w : StartWatch Ctx) (es : List DtlsEvent) : Prop :=
  ∀ fs e gs, es = fs ++ e :: gs → (exec (step env) w fs).bringsHello e = true →
    (exec (step env) w (fs ++ [e])).lastCached = some (exec (step env) w fs).datagrams ∧
      (exec (step env) w es).lastCached.isSome = true

theorem StartInv.startsOnce (h : StartInv digestAlg digest unset early w) : StartsOnce w := by
  rcases h.phase with ⟨-, hw⟩ | hr
  · refine ⟨?_, ?_, ?_⟩
    · rw [hw.created]
      cases w.pair.transport.dtls with
      | none => exact Nat.zero_le 1
      | some a => exact le_rfl
    · rw [hw.started]
      exact Nat.zero_le 1
    · rw [hw.started]
      exact fun x hx ↦ by cases hx
  · obtain ⟨a, hstarted⟩ := hr.started
    refine ⟨hr.created.le, ?_, ?_⟩
    · rw [hstarted]
      exact le_rfl
    · rw [hstarted]
      intro x hx
      rw [List.mem_singleton.mp hx]
      exact ⟨rfl, rfl⟩

theorem StartInv.delivered (h : StartInv digestAlg digest unset False w) : Delivered w := by
  have hr : Running w := h.phase.resolve_left fun hw ↦ hw.1
  refine ⟨hr.state, fun n hn ↦ ?_⟩
  exact List.count_eq_one_of_mem h.settled.passed (hr.lastCached n hn)

/-- A fingerprint stays known, and a transport that is not waiting stays so. -/
theorem StartInv.settle (h : StartInv digestAlg digest unset early w)
    (hset : w.pair.transport.remoteFingerprintValue ≠ []) :
    StartInv digestAlg digest False early w where
  settled := { h.settled with
    fingerprint := .inr (h.settled.fingerprint.resolve_left fun hnone ↦ hset hnone.2) }
  phase := h.phase

theorem StartInv.start (h : StartInv digestAlg digest False early w)
    (hwritable : w.iceWritable = true) : StartInv digestAlg digest False False w := by
  refine ⟨h.settled, .inr ?_⟩
  obtain ⟨hvalue, hne, halg⟩ := h.settled.fingerprint.resolve_left fun hnone ↦ hnone.1
  refine h.phase.resolve_left fun ⟨_, hw⟩ ↦ ?_
  rcases hdtls : w.pair.transport.dtls with _ | a
  · exact hne (hvalue.symm.trans (hw.adapter hdtls).2)
  · have hquiet := hw.quiet halg (by rw [hdtls]; rfl)
    cases hquiet.symm.trans hwritable

theorem StartInv.run (h : StartInv digestAlg digest unset early w) {es : List DtlsEvent}
    (hes : Along (step env) (Assumed digestAlg digest) w es) :
    StartInv digestAlg digest unset early (exec (step env) w es) :=
  exec_invariant_along (I := StartInv digestAlg digest unset early)
    (fun _ _ he hw ↦ startInv_step hw he) h hes

theorem keepsHello_exec (env : DtlsEnv Ctx) (w : StartWatch Ctx) (es : List DtlsEvent) :
    KeepsHello env w es := by
  rintro fs e gs rfl hhello
  have hkept : (exec (step env) w (fs ++ [e])).lastCached =
      some (exec (step env) w fs).datagrams := by
    rw [exec_append_singleton, lastCached_step, if_pos hhello]
  refine ⟨hkept, ?_⟩
  rw [List.append_cons, exec_append]
  exact isSome_lastCached_exec (by rw [hkept]; rfl) gs

/-- **The start of DTLS.** In whatever order the packets, the fingerprint and the changes of the
channel come, `StartSSL` is called at most once, on the one adapter and with the channel writable;
and when the fingerprint has come and the channel has been writable after it, the call has been
made, and the packet that was kept last was given to the adapter exactly once. What is kept is the
last `ClientHello` that came before the start. -/
theorem startsOnce_run (env : DtlsEnv Ctx) (srtpCiphers : List ℤ) (cert : ℕ) (iceWritable : Bool)
    (digestAlg digest : ByteString) (es : List DtlsEvent)
    (h : Along (step env) (Assumed digestAlg digest) (init Ctx srtpCiphers cert iceWritable) es) :
    StartsOnce (exec (step env) (init Ctx srtpCiphers cert iceWritable) es) ∧
      (∀ fs gs, es = fs ++ gs → Triggered env (init Ctx srtpCiphers cert iceWritable) fs gs →
        Delivered (exec (step env) (init Ctx srtpCiphers cert iceWritable) es)) ∧
      KeepsHello env (init Ctx srtpCiphers cert iceWritable) es := by
  have hinit : StartInv digestAlg digest True True (init Ctx srtpCiphers cert iceWritable) :=
    startInv_init srtpCiphers cert iceWritable
  refine ⟨(hinit.run h).startsOnce, ?_, keepsHello_exec env _ es⟩
  rintro fs _ rfl ⟨hset, _, ⟨ks', rfl⟩, hwritable⟩
  rw [exec_append] at hwritable
  obtain ⟨hfs, hgs⟩ := along_append.mp h
  obtain ⟨hks, hks'⟩ := along_append.mp hgs
  rw [exec_append, exec_append]
  have hknown := (hinit.run hfs).settle hset
  have hstarted := (hknown.run hks).start hwritable
  exact (hstarted.run hks').delivered

/-- A `ClientHello` in one record of five bytes. -/
def sampleClientHello : ByteString := [22, 254, 253, 0, 0, 0, 0, 0, 0, 0, 0, 0, 5, 1, 0, 0, 0, 0]

/-- A `ClientHello` that is sent twice before the channel is writable, and the answer. -/
def retransmittedRun : List DtlsEvent :=
  [.readPacket sampleClientHello 0 false {}, .readPacket sampleClientHello 1 false {},
    .setRemoteFingerprint (lit "sha-256") [1] false {}, .writableState true {},
    .readPacket sampleClientHello 2 true {}]

theorem startsOnce_retransmittedRun :
    StartsOnce (exec (step sampleDtlsEnv) (init ByteString [1] 0 false) retransmittedRun) ∧
      Delivered (exec (step sampleDtlsEnv) (init ByteString [1] 0 false) retransmittedRun) ∧
      (exec (step sampleDtlsEnv) (init ByteString [1] 0 false) retransmittedRun).lastCached =
        some 1 := by
  have hok : Succeeds {} := ⟨rfl, rfl, rfl⟩
  obtain ⟨honce, hdelivered, -⟩ := startsOnce_run sampleDtlsEnv [1] 0 false (lit "sha-256") [1]
    retransmittedRun ⟨⟨rfl, fun _ ↦ by decide, hok⟩, ⟨rfl, fun _ ↦ by decide, hok⟩,
      ⟨rfl, rfl, rfl, hok, fun _ ↦ rfl, fun _ ↦ rfl⟩, hok, ⟨rfl, fun _ ↦ by decide, hok⟩, trivial⟩
  refine ⟨honce, hdelivered (retransmittedRun.take 3) (retransmittedRun.drop 3) rfl {
    fingerprint := by decide +kernel
    writable := ⟨[.writableState true {}], ⟨_, rfl⟩, by decide +kernel⟩ }, by decide +kernel⟩

/-- The second of the three was kept last, and the third was given to the adapter at once. -/
example : (exec (step sampleDtlsEnv) (init ByteString [1] 0 false) retransmittedRun).passed =
    [some 1, some 2] := by
  decide +kernel

end StartWatch

end XrtcServer
