import XrtcServer.Lib.WhileLoop
import XrtcServer.Pc.DtlsSrtpTransport

/-!
# DTLS transports

`DtlsTransport` (`pc/dtls_transport.cpp`) with the `DtlsSrtpTransport` that listens to it. Below it
is the ICE channel, whose signals arrive as events and whose writability comes with the events that
look at it; above it is the transport controller, which only looks on.

## The adapter

The SSL adapter is not part of the repository: what it answers, and the events it reports while it
is being called, come with the event that calls it, in any combination. Only one thing is assumed of
it, that it exports the keys of its own association. Associations are numbered, one for each adapter
that is created.

## Signals and invariants

`signal_dtls_state` is handled inside the setter: `setDtlsState` logs the signal together with the
transport as its handlers find it, and then has the SRTP sessions set up or dropped. The rules for
invariants at the end follow the calls, so that an invariant is proved for the few places where the
state is written.
-/

namespace XrtcServer

open WhileLoop ByteString

/-! ## Telling DTLS from the rest -/

def kDtlsRecordHeaderLen : ℕ := 13

def isDtlsPacket (buf : ByteString) : Bool :=
  kDtlsRecordHeaderLen ≤ buf.length && (buf.getD 0 0 > 19 && buf.getD 0 0 < 64)

def isDtlsClientHelloPacket (buf : ByteString) : Bool :=
  isDtlsPacket buf && (buf.length > 17 && (buf.getD 0 0 == 22 && buf.getD 13 0 == 1))

/-- `is_rtp_packet` of this file. -/
def DtlsTransport.isRtpPacket (buf : ByteString) : Bool :=
  kMinRtpPacketLen ≤ buf.length && buf.getD 0 0 &&& 0xC0 == 0x80

/-- The loop of `_handle_dtls_packet`: whether the rest of a packet is a sequence of whole
records. -/
def dtlsRecordsBody (data : ByteString) : Bool ⊕ ByteString :=
  if data = [] then .inl true
  else if data.length < kDtlsRecordHeaderLen then .inl false
  else
    let recordLen := data.be16 11
    if recordLen + kDtlsRecordHeaderLen > data.length then .inl false
    else .inr (data.drop (kDtlsRecordHeaderLen + recordLen))

def dtlsRecords (data : ByteString) : Bool :=
  (rounds dtlsRecordsBody (data.length + 1) data).getD false

theorem exits_dtlsRecords (data : ByteString) : Exits dtlsRecordsBody data (dtlsRecords data) := by
  have hstep : ∀ s s', dtlsRecordsBody s = .inr s' → s'.length < s.length := by
    intro s s' h
    rw [dtlsRecordsBody] at h
    dsimp only at h
    split_ifs at h with hnil hshort hlong
    cases h
    rw [kDtlsRecordHeaderLen] at hshort ⊢
    rw [List.length_drop]
    omega
  obtain ⟨r, hr⟩ := exists_rounds_eq_some dtlsRecordsBody List.length hstep
    (Nat.lt_succ_self data.length)
  rw [dtlsRecords, hr]
  exact exits_of_rounds hr

/-! ## The adapter -/

inductive StreamResult
  | success
  | eos
  | error
  | block
deriving DecidableEq

/-- The answers on which new SRTP sessions depend. -/
structure SrtpAnswers where
  /-- `GetDtlsSrtpCryptoSuite`. -/
  srtpCryptoSuite : Option ℤ := none
  /-- Whether `ExportKeyingMaterial` succeeds. -/
  exports : Bool := false
  /-- Whether libsrtp can be initialised. -/
  initOk : Bool := false
deriving DecidableEq

/-- An event of the adapter: the bits of `sig`, the error, and what the calls of `Read` return. -/
structure AdapterEvent where
  seOpen : Bool := false
  seRead : Bool := false
  seClose : Bool := false
  error : ℤ := 0
  reads : List StreamResult := []
  srtp : SrtpAnswers := {}
deriving DecidableEq

/-- What the adapter answers to the calls of one event, and what it reports during them. -/
structure AdapterAnswers where
  create : Bool := true
  setPeerCertificateDigest : Bool := true
  /-- The error of `SetPeerCertificateDigest` is `VERIFICATION_FAILED`. -/
  verificationFailed : Bool := false
  setDtlsSrtpCryptoSuites : Bool := true
  startSsl : ℤ := 0
  duringDigest : List AdapterEvent := []
  duringStart : List AdapterEvent := []
  duringPacket : List AdapterEvent := []
deriving DecidableEq

/-- The environment, with the keying material of each association, by its length. -/
structure DtlsEnv (Ctx : Type) extends SrtpEnv Ctx where
  keyingMaterial : ℕ → ℕ → ByteString

/-! ## The transport -/

structure DtlsTransport where
  dtlsState : DtlsTransportState := .new
  receiving : Bool := false
  writable : Bool := false
  /-- `_dtls`, by its association. -/
  dtls : Option ℕ := none
  cachedClientHello : ByteString := []
  /-- A pointer. -/
  localCertificate : Option ℕ := none
  remoteFingerprintValue : ByteString := []
  remoteFingerprintAlg : ByteString := []
  dtlsActive : Bool := false
  srtpCiphers : List ℤ
deriving DecidableEq

inductive DtlsSignal
  | dtlsState (state : DtlsTransportState)
  | writableState
  | receivingState
  | readPacket (data : ByteString) (ts : ℤ)
  | closed
deriving DecidableEq

/-- A signal, with the transport as its handlers find it. -/
structure SentDtlsSignal where
  signal : DtlsSignal
  transport : DtlsTransport

/-- A `DtlsTransport` and the `DtlsSrtpTransport` on it. -/
structure DtlsPair (Ctx : Type) where
  transport : DtlsTransport
  srtp : DtlsSrtpTransport Ctx
  nextAssociation : ℕ := 0
  signals : List SentDtlsSignal := []
  outputs : List MediaOutput := []

namespace DtlsPair

variable {Ctx : Type} (env : DtlsEnv Ctx) (s : DtlsPair Ctx)

/-- Assignments to fields of the transport. -/
def modify (f : DtlsTransport → DtlsTransport) : DtlsPair Ctx :=
  { s with transport := f s.transport }

def signal (x : DtlsSignal) : DtlsPair Ctx :=
  { s with signals := s.signals ++ [⟨x, s.transport⟩] }

/-- What the transport answers the `DtlsSrtpTransport`: `writable`, `is_dtls_active`,
`get_srtp_crypto_suite` and `export_keying_material`. -/
def view (answers : SrtpAnswers) : DtlsTransportView where
  writable := s.transport.writable
  isDtlsActive := s.transport.dtlsActive
  srtpCryptoSuite :=
    if s.transport.dtlsState ≠ .connected then none
    else s.transport.dtls.bind fun _ ↦ answers.srtpCryptoSuite
  exportKeyingMaterial n :=
    s.transport.dtls.bind fun a ↦ if answers.exports then some (env.keyingMaterial a n) else none

/-- What the `DtlsSrtpTransport` makes of a packet. -/
def withSrtp (r : DtlsSrtpTransport Ctx × List MediaOutput) : DtlsPair Ctx :=
  { s with srtp := r.1, outputs := s.outputs ++ r.2 }

/-- `_set_dtls_state`, with `DtlsSrtpTransport::_on_dtls_state`. -/
def setDtlsState (state : DtlsTransportState) (answers : SrtpAnswers) : DtlsPair Ctx :=
  if s.transport.dtlsState = state then s
  else
    let s := (s.modify fun t ↦ { t with dtlsState := state }).signal (.dtlsState state)
    { s with
      srtp := s.srtp.onDtlsState env.toSrtpEnv state answers.initOk (s.view env answers) none }

def setWritableState (writable : Bool) : DtlsPair Ctx :=
  if s.transport.writable = writable then s
  else (s.modify fun t ↦ { t with writable }).signal .writableState

def setReceiving (receiving : Bool) : DtlsPair Ctx :=
  if s.transport.receiving = receiving then s
  else (s.modify fun t ↦ { t with receiving }).signal .receivingState

/-! ## Events of the adapter -/

/-- The loop around `_dtls->Read`, which ends with the first result that is no success. -/
def readLoop : List StreamResult → DtlsPair Ctx → DtlsPair Ctx
  | [], s => s
  | .success :: results, s => readLoop results s
  | .eos :: _, s => ((s.setWritableState false).setDtlsState env .closed {}).signal .closed
  | .error :: _, s => ((s.setWritableState false).setDtlsState env .failed {}).signal .closed
  | .block :: _, s => s

/-- `_on_dtls_event`. -/
def onDtlsEvent (e : AdapterEvent) : DtlsPair Ctx :=
  let s := if e.seOpen then (s.setWritableState true).setDtlsState env .connected e.srtp else s
  let s := if e.seRead then readLoop env e.reads s else s
  if e.seClose then
    (s.setWritableState false).setDtlsState env (if e.error = 0 then .closed else .failed) {}
  else s

/-- The events that the adapter reports during a call. -/
def onDtlsEvents (es : List AdapterEvent) : DtlsPair Ctx := es.foldl (onDtlsEvent env) s

/-- `_handle_dtls_packet`; `on_received_packet` always returns `true`. -/
def handleDtlsPacket (data : ByteString) (answers : AdapterAnswers) : DtlsPair Ctx × Bool :=
  if dtlsRecords data then (s.onDtlsEvents env answers.duringPacket, true) else (s, false)

/-- `_maybe_start_dtls`; the result of `StartSSL` is zero when it succeeds. -/
def maybeStartDtls (iceWritable : Bool) (answers : AdapterAnswers) : DtlsPair Ctx :=
  if s.transport.dtls.isSome && iceWritable then
    let s := s.onDtlsEvents env answers.duringStart
    if answers.startSsl ≠ 0 then s.setDtlsState env .failed {}
    else
      let s := s.setDtlsState env .connecting {}
      if s.transport.cachedClientHello ≠ [] then
        let (s, ok) := s.handleDtlsPacket env s.transport.cachedClientHello answers
        let s := if ok then s else s.setDtlsState env .failed {}
        s.modify fun t ↦ { t with cachedClientHello := [] }
      else s
  else s

/-- `_dtls = rtc::SSLStreamAdapter::Create(..)`. -/
def createAdapter (ok : Bool) : DtlsPair Ctx :=
  if ok then
    { s.modify fun t ↦ { t with dtls := some s.nextAssociation } with
      nextAssociation := s.nextAssociation + 1 }
  else s.modify fun t ↦ { t with dtls := none }

/-- `_setup_dtls`. The operator between the size of the fingerprint and the failure of
`SetPeerCertificateDigest` is `&`, so only the last bit of the size counts. -/
def setupDtls (iceWritable : Bool) (answers : AdapterAnswers) : DtlsPair Ctx × Bool :=
  let s := s.createAdapter answers.create
  if !answers.create then (s, false)
  else if s.transport.remoteFingerprintValue.length % 2 = 1 ∧ !answers.setPeerCertificateDigest then
    (s, false)
  else if s.transport.srtpCiphers ≠ [] ∧ !answers.setDtlsSrtpCryptoSuites then (s, false)
  else (s.maybeStartDtls env iceWritable answers, true)

/-! ## Calls from below and from above -/

/-- `_on_read_packet`; an RTP or RTCP packet is handled by the `DtlsSrtpTransport`. -/
def onReadPacket (data : ByteString) (ts : ℤ) (iceWritable : Bool) (answers : AdapterAnswers) :
    DtlsPair Ctx :=
  match s.transport.dtlsState with
  | .new =>
    if isDtlsClientHelloPacket data then
      let s := s.modify fun t ↦ { t with cachedClientHello := data }
      if s.transport.dtls.isNone && s.transport.localCertificate.isSome then
        (s.setupDtls env iceWritable answers).1
      else s
    else s
  | .connecting | .connected =>
    if isDtlsPacket data then (s.handleDtlsPacket env data answers).1
    else if s.transport.dtlsState ≠ .connected then s
    else if !DtlsTransport.isRtpPacket data then s
    else
      (s.signal (.readPacket data ts)).withSrtp (s.srtp.onReadPacket env.toSrtpEnv data ts)
  | _ => s

/-- `_on_writable_state`. -/
def onWritableState (iceWritable : Bool) (answers : AdapterAnswers) : DtlsPair Ctx :=
  if !s.transport.dtlsActive then s.setWritableState iceWritable
  else
    match s.transport.dtlsState with
    | .new => s.maybeStartDtls env iceWritable answers
    | .connected => s.setWritableState iceWritable
    | _ => s

/-- `set_local_certificate`. -/
def setLocalCertificate (cert : Option ℕ) : DtlsPair Ctx × Bool :=
  if s.transport.dtlsActive then (s, cert = s.transport.localCertificate)
  else
    match cert with
    | some c => (s.modify fun t ↦ { t with localCertificate := some c, dtlsActive := true }, true)
    | none => (s, true)

/-- `_dtls.reset(nullptr)` and the two setters after it. -/
def dropAdapter : DtlsPair Ctx :=
  ((s.modify fun t ↦ { t with dtls := none }).setDtlsState env .new {}).setWritableState false

/-- `set_remote_fingerprint`. -/
def setRemoteFingerprint (digestAlg digest : ByteString) (iceWritable : Bool)
    (answers : AdapterAnswers) : DtlsPair Ctx × Bool :=
  if s.transport.dtlsActive ∧ s.transport.remoteFingerprintValue = digest ∧ digestAlg ≠ [] then
    (s, true)
  else if digestAlg = [] then (s.modify fun t ↦ { t with dtlsActive := false }, false)
  else if !s.transport.dtlsActive then (s, false)
  else
    let fingerprintChange := s.transport.remoteFingerprintValue.length > 0
    let s := s.modify fun t ↦
      { t with remoteFingerprintValue := digest, remoteFingerprintAlg := digestAlg }
    if s.transport.dtls.isSome ∧ ¬fingerprintChange then
      let s := s.onDtlsEvents env answers.duringDigest
      if !answers.setPeerCertificateDigest then
        (s.setDtlsState env .failed {}, answers.verificationFailed)
      else (s, true)
    else
      let s := if s.transport.dtls.isSome then s.dropAdapter env else s
      let (s, ok) := s.setupDtls env iceWritable answers
      if ok then (s, true) else (s.setDtlsState env .failed {}, false)

end DtlsPair

/-! ## Runs -/

/-- The calls the two transports receive. -/
inductive DtlsEvent
  /-- `signal_read_packet` of the channel. -/
  | readPacket (data : ByteString) (ts : ℤ) (iceWritable : Bool) (answers : AdapterAnswers)
  /-- `signal_writable_state` of the channel. -/
  | writableState (iceWritable : Bool) (answers : AdapterAnswers)
  /-- `signal_receiving_state` of the channel. -/
  | receivingState (receiving : Bool)
  /-- An event of the adapter, if there is one. -/
  | adapter (e : AdapterEvent)
  | setLocalCertificate (cert : Option ℕ)
  | setRemoteFingerprint (digestAlg digest : ByteString) (iceWritable : Bool)
      (answers : AdapterAnswers)
  | sendRtp (data : ByteString)
  | sendRtcp (data : ByteString)

namespace DtlsPair

variable {Ctx : Type} {env : DtlsEnv Ctx} {s : DtlsPair Ctx}

/-- The handler of one event. -/
def step (env : DtlsEnv Ctx) (s : DtlsPair Ctx) : DtlsEvent → DtlsPair Ctx
  | .readPacket data ts iceWritable answers => s.onReadPacket env data ts iceWritable answers
  | .writableState iceWritable answers => s.onWritableState env iceWritable answers
  | .receivingState receiving => s.setReceiving receiving
  | .adapter e => if s.transport.dtls.isSome then s.onDtlsEvent env e else s
  | .setLocalCertificate cert => (s.setLocalCertificate cert).1
  | .setRemoteFingerprint digestAlg digest iceWritable answers =>
    (s.setRemoteFingerprint env digestAlg digest iceWritable answers).1
  | .sendRtp data => s.withSrtp (s.srtp.sendRtp env.toSrtpEnv data)
  | .sendRtcp data => s.withSrtp (s.srtp.sendRtcp env.toSrtpEnv data)

/-- The two transports as `set_local_description` makes them, RTP and RTCP on one. -/
def init (Ctx : Type) (srtpCiphers : List ℤ) : DtlsPair Ctx where
  transport := { srtpCiphers }
  srtp := .init Ctx true

/-- The state after a run. -/
def run (env : DtlsEnv Ctx) (srtpCiphers : List ℤ) (es : List DtlsEvent) : DtlsPair Ctx :=
  EventRun.exec (step env) (init Ctx srtpCiphers) es

/-! ## Invariants

An invariant of the pair is kept by every call if it is kept by `setDtlsState`, by the assignments
that touch neither the state nor the adapter, by signals and packets, and by the places where an
adapter comes or goes. There is one rule for each function; who proves an invariant needs the last
of them alone. -/

/-- What has to be shown of an invariant: the state of the transport and its adapter are only
changed in three places, and an adapter is only made for a transport that is not connected, or has
none. -/
structure PairInvariant (env : DtlsEnv Ctx) (I : DtlsPair Ctx → Prop) : Prop where
  assign : ∀ s f, (∀ t, (f t).dtlsState = t.dtlsState ∧ (f t).dtls = t.dtls) → I s → I (s.modify f)
  signal : ∀ s x, I s → I (s.signal x)
  setDtlsState : ∀ s state answers, I s → I (s.setDtlsState env state answers)
  createAdapter : ∀ s ok, s.transport.dtlsState ≠ .connected ∨ s.transport.dtls = none → I s →
    I (s.createAdapter ok)
  dropAdapter : ∀ s, I s → I (s.dropAdapter env)
  readPacket : ∀ s data ts, I s → I (s.withSrtp (s.srtp.onReadPacket env.toSrtpEnv data ts))
  sendRtp : ∀ s data, I s → I (s.withSrtp (s.srtp.sendRtp env.toSrtpEnv data))
  sendRtcp : ∀ s data, I s → I (s.withSrtp (s.srtp.sendRtcp env.toSrtpEnv data))

theorem dtlsState_setDtlsState (s : DtlsPair Ctx) (state : DtlsTransportState)
    (answers : SrtpAnswers) : (s.setDtlsState env state answers).transport.dtlsState = state := by
  rw [setDtlsState]
  split_ifs with h
  · exact h
  · rfl

theorem dtlsState_setWritableState (s : DtlsPair Ctx) (writable : Bool) :
    (s.setWritableState writable).transport.dtlsState = s.transport.dtlsState := by
  rw [setWritableState]
  split_ifs <;> rfl

theorem dtlsState_dropAdapter (s : DtlsPair Ctx) :
    (s.dropAdapter env).transport.dtlsState = .new := by
  rw [dropAdapter, dtlsState_setWritableState, dtlsState_setDtlsState]

namespace PairInvariant

variable {I : DtlsPair Ctx → Prop}

theorem setWritableState (h : PairInvariant env I) (hs : I s) (writable : Bool) :
    I (s.setWritableState writable) := by
  rw [DtlsPair.setWritableState]
  split_ifs
  · exact hs
  · exact h.signal _ _ (h.assign s _ (fun _ ↦ ⟨rfl, rfl⟩) hs)

theorem setReceiving (h : PairInvariant env I) (hs : I s) (receiving : Bool) :
    I (s.setReceiving receiving) := by
  rw [DtlsPair.setReceiving]
  split_ifs
  · exact hs
  · exact h.signal _ _ (h.assign s _ (fun _ ↦ ⟨rfl, rfl⟩) hs)

theorem readLoop (h : PairInvariant env I) (results : List StreamResult) (hs : I s) :
    I (DtlsPair.readLoop env results s) := by
  induction results with
  | nil => exact hs
  | cons result results ih =>
    cases result with
    | success => exact ih
    | eos => exact h.signal _ _ (h.setDtlsState _ _ _ (h.setWritableState hs false))
    | error => exact h.signal _ _ (h.setDtlsState _ _ _ (h.setWritableState hs false))
    | block => exact hs

theorem onDtlsEvent (h : PairInvariant env I) (hs : I s) (e : AdapterEvent) :
    I (s.onDtlsEvent env e) := by
  have hopen : I (if e.seOpen then
      (s.setWritableState true).setDtlsState env .connected e.srtp else s) := by
    split_ifs
    · exact h.setDtlsState _ _ _ (h.setWritableState hs true)
    · exact hs
  rw [DtlsPair.onDtlsEvent]
  generalize (if e.seOpen then
    (s.setWritableState true).setDtlsState env .connected e.srtp else s) = s₁ at hopen
  have hread : I (if e.seRead then DtlsPair.readLoop env e.reads s₁ else s₁) := by
    split_ifs
    · exact h.readLoop e.reads hopen
    · exact hopen
  generalize (if e.seRead then DtlsPair.readLoop env e.reads s₁ else s₁) = s₂ at hread
  split_ifs
  · exact h.setDtlsState _ _ _ (h.setWritableState hread false)
  · exact h.setDtlsState _ _ _ (h.setWritableState hread false)
  · exact hread

theorem onDtlsEvents (h : PairInvariant env I) (hs : I s) (es : List AdapterEvent) :
    I (s.onDtlsEvents env es) := by
  rw [DtlsPair.onDtlsEvents]
  induction es generalizing s with
  | nil => exact hs
  | cons e es ih => exact ih (h.onDtlsEvent hs e)

theorem handleDtlsPacket (h : PairInvariant env I) (hs : I s) (data : ByteString)
    (answers : AdapterAnswers) : I (s.handleDtlsPacket env data answers).1 := by
  rw [DtlsPair.handleDtlsPacket]
  split_ifs
  · exact h.onDtlsEvents hs _
  · exact hs

theorem maybeStartDtls (h : PairInvariant env I) (hs : I s) (iceWritable : Bool)
    (answers : AdapterAnswers) : I (s.maybeStartDtls env iceWritable answers) := by
  have hstart := h.onDtlsEvents hs answers.duringStart
  rw [DtlsPair.maybeStartDtls]
  generalize s.onDtlsEvents env answers.duringStart = s₁ at hstart
  by_cases hready : (s.transport.dtls.isSome && iceWritable) = true
  · rw [if_pos hready]
    dsimp only
    have hconnecting := h.setDtlsState _ .connecting {} hstart
    generalize s₁.setDtlsState env .connecting {} = s₂ at hconnecting
    have hpacket := h.handleDtlsPacket hconnecting s₂.transport.cachedClientHello answers
    generalize s₂.handleDtlsPacket env s₂.transport.cachedClientHello answers = r at hpacket
    split_ifs
    · exact h.setDtlsState _ _ _ hstart
    · exact h.assign _ _ (fun _ ↦ ⟨rfl, rfl⟩) hpacket
    · exact h.assign _ _ (fun _ ↦ ⟨rfl, rfl⟩) (h.setDtlsState _ _ _ hpacket)
    · exact hconnecting
  · rw [if_neg hready]
    exact hs

theorem setupDtls (h : PairInvariant env I) (hs : I s)
    (hadapter : s.transport.dtlsState ≠ .connected ∨ s.transport.dtls = none) (iceWritable : Bool)
    (answers : AdapterAnswers) : I (s.setupDtls env iceWritable answers).1 := by
  have hcreate := h.createAdapter s answers.create hadapter hs
  rw [DtlsPair.setupDtls]
  split_ifs
  · exact hcreate
  · exact hcreate
  · exact hcreate
  · exact h.maybeStartDtls hcreate iceWritable answers

theorem onReadPacket (h : PairInvariant env I) (hs : I s) (data : ByteString) (ts : ℤ)
    (iceWritable : Bool) (answers : AdapterAnswers) :
    I (s.onReadPacket env data ts iceWritable answers) := by
  have hrecords : I (if isDtlsPacket data then (s.handleDtlsPacket env data answers).1
      else if s.transport.dtlsState ≠ .connected then s
      else if !DtlsTransport.isRtpPacket data then s
      else (s.signal (.readPacket data ts)).withSrtp
        (s.srtp.onReadPacket env.toSrtpEnv data ts)) := by
    split_ifs
    · exact h.handleDtlsPacket hs data answers
    · exact hs
    · exact hs
    · exact h.readPacket _ data ts (h.signal s _ hs)
  rw [DtlsPair.onReadPacket]
  rcases hstate : s.transport.dtlsState with _ | _ | _ | _ | _
  · have hcached := h.assign s (fun t ↦ { t with cachedClientHello := data })
      (fun _ ↦ ⟨rfl, rfl⟩) hs
    dsimp only
    split_ifs
    · refine h.setupDtls hcached (.inl fun hconnected ↦ ?_) iceWritable answers
      cases hstate.symm.trans hconnected
    · exact hcached
    · exact hs
  · rw [hstate] at hrecords
    exact hrecords
  · rw [hstate] at hrecords
    exact hrecords
  · exact hs
  · exact hs

theorem onWritableState (h : PairInvariant env I) (hs : I s) (iceWritable : Bool)
    (answers : AdapterAnswers) : I (s.onWritableState env iceWritable answers) := by
  rw [DtlsPair.onWritableState]
  split_ifs
  · exact h.setWritableState hs iceWritable
  · split
    · exact h.maybeStartDtls hs iceWritable answers
    · exact h.setWritableState hs iceWritable
    · exact hs

theorem setLocalCertificate (h : PairInvariant env I) (hs : I s) (cert : Option ℕ) :
    I (s.setLocalCertificate cert).1 := by
  by_cases hactive : s.transport.dtlsActive = true
  · rw [DtlsPair.setLocalCertificate.eq_def, if_pos hactive]
    exact hs
  · rw [DtlsPair.setLocalCertificate.eq_def, if_neg hactive]
    rcases cert with _ | c
    · exact hs
    · exact h.assign s (fun t ↦ { t with localCertificate := some c, dtlsActive := true })
        (fun _ ↦ ⟨rfl, rfl⟩) hs

theorem setRemoteFingerprint (h : PairInvariant env I) (hs : I s) (digestAlg digest : ByteString)
    (iceWritable : Bool) (answers : AdapterAnswers) :
    I (s.setRemoteFingerprint env digestAlg digest iceWritable answers).1 := by
  have hstored := h.assign s (fun t ↦
    { t with remoteFingerprintValue := digest, remoteFingerprintAlg := digestAlg })
    (fun _ ↦ ⟨rfl, rfl⟩) hs
  rw [DtlsPair.setRemoteFingerprint]
  generalize s.modify (fun t ↦
    { t with remoteFingerprintValue := digest, remoteFingerprintAlg := digestAlg }) = s₁ at hstored
  have hdigest := h.onDtlsEvents hstored answers.duringDigest
  -- an old adapter is gone before the new one is made
  have hsetup : I ((if s₁.transport.dtls.isSome = true then s₁.dropAdapter env else s₁).setupDtls
      env iceWritable answers).1 := by
    split_ifs with hsome
    · refine h.setupDtls (h.dropAdapter s₁ hstored) (.inl ?_) iceWritable answers
      rw [dtlsState_dropAdapter]
      decide
    · exact h.setupDtls hstored (.inr (by simpa using hsome)) iceWritable answers
  dsimp only
  generalize s₁.onDtlsEvents env answers.duringDigest = s₂ at hdigest
  generalize (if s₁.transport.dtls.isSome = true then s₁.dropAdapter env else s₁).setupDtls
    env iceWritable answers = r at hsetup
  split_ifs
  · exact hs
  · exact h.assign s (fun t ↦ { t with dtlsActive := false }) (fun _ ↦ ⟨rfl, rfl⟩) hs
  · exact hs
  · exact h.setDtlsState _ _ _ hdigest
  · exact hdigest
  · exact hsetup
  · exact h.setDtlsState _ _ _ hsetup

/-- **The rule for invariants** of the two transports. -/
theorem step (h : PairInvariant env I) (hs : I s) (e : DtlsEvent) : I (s.step env e) := by
  cases e with
  | readPacket data ts iceWritable answers => exact h.onReadPacket hs data ts iceWritable answers
  | writableState iceWritable answers => exact h.onWritableState hs iceWritable answers
  | receivingState receiving => exact h.setReceiving hs receiving
  | adapter e =>
    rw [DtlsPair.step]
    split_ifs
    · exact h.onDtlsEvent hs e
    · exact hs
  | setLocalCertificate cert => exact h.setLocalCertificate hs cert
  | setRemoteFingerprint digestAlg digest iceWritable answers =>
    exact h.setRemoteFingerprint hs digestAlg digest iceWritable answers
  | sendRtp data => exact h.sendRtp s data hs
  | sendRtcp data => exact h.sendRtcp s data hs

end PairInvariant

end DtlsPair

end XrtcServer
