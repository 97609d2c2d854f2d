import XrtcServer.Lib.EventRun
import XrtcServer.Pc.SrtpTransport

/-!
# The media path of a DTLS-SRTP transport

`DtlsSrtpTransport` (`pc/dtls_srtp_transport.cpp`) installs keys when the DTLS transport reports
that it is connected, drops them on any other report, and hands decrypted packets on. The packets
come from the network, so the interesting question is which of them get through.

## Two receive paths

The two receive paths are written side by side in the source. Both drop a packet while the
sessions are missing; the RTCP path also drops one that `unprotect_rtcp` refuses, while the RTP path
counts the failure and goes on. `onRtcpPacketReceived` and `onRtpPacketReceived` keep that
difference, and the last section says exactly which runs it spoils.

## The other classes

The DTLS transport is seen through what it answers (`DtlsTransportView`), and libsrtp through an
environment. So the runs here are those of this class alone, under whatever the others do.
-/

namespace XrtcServer

open EventRun

/-! ## Telling RTP from RTCP -/

inductive RtpPacketType
  | rtp
  | rtcp
  | unknown
deriving DecidableEq

def kRtpVersion : UInt8 := 2
def kMinRtpPacketLen : ℕ := 12
def kMinRtcpPacketLen : ℕ := 4

def hasCorrectRtpVersion (packet : ByteString) : Bool := packet.getD 0 0 >>> 6 == kRtpVersion

def payloadTypeIsReservedForRtcp (payloadType : UInt8) : Bool :=
  64 ≤ payloadType && payloadType < 96

def isRtpPacket (packet : ByteString) : Bool :=
  kMinRtpPacketLen ≤ packet.length && hasCorrectRtpVersion packet &&
    !payloadTypeIsReservedForRtcp (packet.getD 1 0 &&& 0x7F)

def isRtcpPacket (packet : ByteString) : Bool :=
  kMinRtcpPacketLen ≤ packet.length && hasCorrectRtpVersion packet &&
    payloadTypeIsReservedForRtcp (packet.getD 1 0 &&& 0x7F)

def inferRtpPacketType (packet : ByteString) : RtpPacketType :=
  if isRtpPacket packet then .rtp else if isRtcpPacket packet then .rtcp else .unknown

def parseRtpSequenceNumber (packet : ByteString) : ℕ := packet.be16 2

/-! ## The transport -/

inductive DtlsTransportState
  | new
  | connecting
  | connected
  | closed
  | failed
deriving DecidableEq

/-- What a `DtlsTransport` answers when it is asked. -/
structure DtlsTransportView where
  writable : Bool
  isDtlsActive : Bool
  /-- `get_srtp_crypto_suite`. -/
  srtpCryptoSuite : Option ℤ
  /-- `export_keying_material`, as many bytes as asked for. -/
  exportKeyingMaterial : ℕ → Option ByteString

structure DtlsSrtpTransport (Ctx : Type) extends SrtpTransport Ctx where
  unprotectFailCount : ℕ := 0
  lastSendSeqNum : ℕ := 0

/-- What the transport does to the rest of the program. -/
inductive MediaOutput
  /-- `signal_rtp_packet_received`. -/
  | rtpPacketReceived (packet : ByteString) (ts : ℤ)
  /-- `signal_rtcp_packet_received`. -/
  | rtcpPacketReceived (packet : ByteString) (ts : ℤ)
  /-- `_rtp_dtls_transport->send_packet`. -/
  | sendPacket (packet : ByteString)
deriving DecidableEq

/-- libsrtp, and `rtc::GetSrtpKeyAndSaltLengths`, which is not part of the repository. -/
structure SrtpEnv (Ctx : Type) extends Libsrtp Ctx where
  srtpKeyAndSaltLengths : ℤ → Option (ℕ × ℕ)

namespace DtlsSrtpTransport

variable {Ctx : Type} (env : SrtpEnv Ctx) (t : DtlsSrtpTransport Ctx)

def isDtlsWritable (rtp : DtlsTransportView) (rtcp : Option DtlsTransportView) : Bool :=
  rtp.writable && (if t.rtcpMuxEnabled then none else rtcp).all (·.writable)

/-- `_extract_params`: the crypto suite, the send key and the receive key. The exported material is
the client key, the server key, the client salt and the server salt, in this order. -/
def extractParams (dtls : DtlsTransportView) : Option (ℤ × ByteString × ByteString) := do
  guard dtls.isDtlsActive
  let suite ← dtls.srtpCryptoSuite
  let (keyLen, saltLen) ← env.srtpKeyAndSaltLengths suite
  let buffer ← dtls.exportKeyingMaterial (keyLen * 2 + saltLen * 2)
  let slice (offset len : ℕ) : ByteString := (buffer.drop offset).take len
  let clientWriteKey := slice 0 keyLen ++ slice (2 * keyLen) saltLen
  let serverWriteKey := slice keyLen keyLen ++ slice (2 * keyLen + saltLen) saltLen
  return (suite, serverWriteKey, clientWriteKey)

def setupDtlsSrtp (initOk : Bool) (rtp : DtlsTransportView) : DtlsSrtpTransport Ctx :=
  match extractParams env rtp with
  | none => t
  | some (suite, sendKey, recvKey) =>
    { t with
      toSrtpTransport :=
        (t.toSrtpTransport.setRtpParams env.toLibsrtp initOk suite sendKey recvKey).1 }

def maybeSetupDtlsSrtp (initOk : Bool) (rtp : DtlsTransportView) (rtcp : Option DtlsTransportView) :
    DtlsSrtpTransport Ctx :=
  if t.isSrtpActive || !t.isDtlsWritable rtp rtcp then t else t.setupDtlsSrtp env initOk rtp

def onDtlsState (state : DtlsTransportState) (initOk : Bool) (rtp : DtlsTransportView)
    (rtcp : Option DtlsTransportView) : DtlsSrtpTransport Ctx :=
  if state = .connected then t.maybeSetupDtlsSrtp env initOk rtp rtcp
  else { t with toSrtpTransport := t.toSrtpTransport.resetParams }

def onRtcpPacketReceived (data : ByteString) (ts : ℤ) :
    DtlsSrtpTransport Ctx × List MediaOutput :=
  if t.isSrtpActive then
    let (srtp, ok, packet) := t.toSrtpTransport.unprotectRtcp env.toLibsrtp data
    let t := { t with toSrtpTransport := srtp }
    if ok then (t, [.rtcpPacketReceived packet ts]) else (t, [])
  else (t, [])

/-- The branch that logs a failure has no `return`. -/
def onRtpPacketReceived (data : ByteString) (ts : ℤ) :
    DtlsSrtpTransport Ctx × List MediaOutput :=
  if t.isSrtpActive then
    let (srtp, ok, packet) := t.toSrtpTransport.unprotectRtp env.toLibsrtp data
    let t := { t with toSrtpTransport := srtp }
    let t := if ok then t else { t with unprotectFailCount := t.unprotectFailCount + 1 }
    (t, [.rtpPacketReceived packet ts])
  else (t, [])

def onReadPacket (data : ByteString) (ts : ℤ) : DtlsSrtpTransport Ctx × List MediaOutput :=
  match inferRtpPacketType data with
  | .unknown => (t, [])
  | .rtcp => t.onRtcpPacketReceived env data ts
  | .rtp => t.onRtpPacketReceived env data ts

def sendRtp (data : ByteString) : DtlsSrtpTransport Ctx × List MediaOutput :=
  if t.isSrtpActive then
    let maxLen := data.length + t.sendAuthTagLen.1
    let (srtp, ok, packet) := t.toSrtpTransport.protectRtp env.toLibsrtp data maxLen
    let t := { t with toSrtpTransport := srtp }
    if ok then
      ({ t with lastSendSeqNum := parseRtpSequenceNumber data }, [.sendPacket packet])
    else (t, [])
  else (t, [])

def sendRtcp (data : ByteString) : DtlsSrtpTransport Ctx × List MediaOutput :=
  if t.isSrtpActive then
    let maxLen := data.length + t.sendAuthTagLen.2 + 4
    let (srtp, ok, packet) := t.toSrtpTransport.protectRtcp env.toLibsrtp data maxLen
    let t := { t with toSrtpTransport := srtp }
    if ok then (t, [.sendPacket packet]) else (t, [])
  else (t, [])

end DtlsSrtpTransport

/-! ## Runs -/

/-- The calls a transport receives. -/
inductive MediaEvent
  /-- `_on_dtls_state`, with what the DTLS transports answer meanwhile. -/
  | dtlsState (state : DtlsTransportState) (initOk : Bool) (rtp : DtlsTransportView)
      (rtcp : Option DtlsTransportView)
  /-- `_on_read_packet`. -/
  | readPacket (data : ByteString) (ts : ℤ)
  | sendRtp (data : ByteString)
  | sendRtcp (data : ByteString)

variable {Ctx : Type}

namespace DtlsSrtpTransport

/-- One call: the state it leaves and what it emits. -/
def handle (env : SrtpEnv Ctx) (t : DtlsSrtpTransport Ctx) :
    MediaEvent → DtlsSrtpTransport Ctx × List MediaOutput
  | .dtlsState state initOk rtp rtcp => (t.onDtlsState env state initOk rtp rtcp, [])
  | .readPacket data ts => t.onReadPacket env data ts
  | .sendRtp data => t.sendRtp env data
  | .sendRtcp data => t.sendRtcp env data

def step (env : SrtpEnv Ctx) (t : DtlsSrtpTransport Ctx) (e : MediaEvent) : DtlsSrtpTransport Ctx :=
  (t.handle env e).1

/-- A transport as its constructor leaves it. -/
def init (Ctx : Type) (rtcpMuxEnabled : Bool) : DtlsSrtpTransport Ctx where
  rtcpMuxEnabled := rtcpMuxEnabled

/-- The libsrtp context the transport decrypts with. -/
def recvContext (t : DtlsSrtpTransport Ctx) : Option Ctx :=
  t.sessions.bind fun sessions ↦ sessions.2.session

end DtlsSrtpTransport

/-! ## Authentic output

Whatever is handed on must have come out of libsrtp with success. For RTCP this is so in every
state; for RTP it is the condition itself, and an induction over the run gives the equivalence. -/

/-- The output is the plaintext of a datagram that arrives with `e` and that libsrtp accepts. -/
def MediaOutput.Authentic (env : SrtpEnv Ctx) (t : DtlsSrtpTransport Ctx) (e : MediaEvent) :
    MediaOutput → Prop
  | .rtpPacketReceived packet ts => ∃ data ctx, e = .readPacket data ts ∧
      t.recvContext = some ctx ∧ (env.unprotect ctx data).ok = true ∧
      packet = (env.unprotect ctx data).data
  | .rtcpPacketReceived packet ts => ∃ data ctx, e = .readPacket data ts ∧
      t.recvContext = some ctx ∧ (env.unprotectRtcp ctx data).ok = true ∧
      packet = (env.unprotectRtcp ctx data).data
  | .sendPacket _ => True

/-- Everything the call emits is authentic. -/
def EmitsAuthentic (env : SrtpEnv Ctx) (t : DtlsSrtpTransport Ctx) (e : MediaEvent) : Prop :=
  ∀ output ∈ (t.handle env e).2, output.Authentic env t e

/-- The event is not an RTP datagram that libsrtp refuses. -/
def NoRefusedRtp (env : SrtpEnv Ctx) (t : DtlsSrtpTransport Ctx) (e : MediaEvent) : Prop :=
  ∀ data ts ctx, e = .readPacket data ts → isRtpPacket data = true →
    t.recvContext = some ctx → (env.unprotect ctx data).ok = true

variable {env : SrtpEnv Ctx} {t : DtlsSrtpTransport Ctx} {e : MediaEvent} {data : ByteString}
  {ts : ℤ}

theorem keyed_init (rtcpMuxEnabled : Bool) :
    (DtlsSrtpTransport.init Ctx rtcpMuxEnabled).toSrtpTransport.Keyed := by
  rintro send recv h
  cases h

theorem keyed_onDtlsState (h : t.toSrtpTransport.Keyed) (state : DtlsTransportState) (initOk : Bool)
    (rtp : DtlsTransportView) (rtcp : Option DtlsTransportView) :
    (t.onDtlsState env state initOk rtp rtcp).toSrtpTransport.Keyed := by
  rw [DtlsSrtpTransport.onDtlsState]
  split_ifs
  · rw [DtlsSrtpTransport.maybeSetupDtlsSrtp]
    split_ifs
    · exact h
    · rw [DtlsSrtpTransport.setupDtlsSrtp]
      rcases DtlsSrtpTransport.extractParams env rtp with _ | ⟨suite, sendKey, recvKey⟩
      · exact h
      · exact SrtpTransport.keyed_setRtpParams t.toSrtpTransport initOk suite sendKey recvKey
  · exact SrtpTransport.keyed_resetParams _

theorem keyed_onReadPacket (h : t.toSrtpTransport.Keyed) (data : ByteString) (ts : ℤ) :
    (t.onReadPacket env data ts).1.toSrtpTransport.Keyed := by
  rw [DtlsSrtpTransport.onReadPacket]
  rcases inferRtpPacketType data with _ | _ | _
  · have hu := h.unprotectRtp env.toLibsrtp data
    dsimp only [DtlsSrtpTransport.onRtpPacketReceived]
    split_ifs
    · exact hu
    · exact hu
    · exact h
  · have hu := h.unprotectRtcp env.toLibsrtp data
    dsimp only [DtlsSrtpTransport.onRtcpPacketReceived]
    split_ifs
    · exact hu
    · exact hu
    · exact h
  · exact h

theorem keyed_step (h : t.toSrtpTransport.Keyed) (e : MediaEvent) :
    (t.step env e).toSrtpTransport.Keyed := by
  rcases e with ⟨state, initOk, rtp, rtcp⟩ | ⟨data, ts⟩ | data | data
  · exact keyed_onDtlsState h state initOk rtp rtcp
  · exact keyed_onReadPacket h data ts
  · have hp := h.protectRtp env.toLibsrtp data (data.length + t.sendAuthTagLen.1)
    dsimp only [DtlsSrtpTransport.step, DtlsSrtpTransport.handle, DtlsSrtpTransport.sendRtp]
    split_ifs
    · exact hp
    · exact hp
    · exact h
  · have hp := h.protectRtcp env.toLibsrtp data (data.length + t.sendAuthTagLen.2 + 4)
    dsimp only [DtlsSrtpTransport.step, DtlsSrtpTransport.handle, DtlsSrtpTransport.sendRtcp]
    split_ifs
    · exact hp
    · exact hp
    · exact h

/-! ## One datagram

While there are no sessions both paths drop everything. With sessions, the RTCP path asks libsrtp
and the RTP path does not care, and that is all that separates the condition from the property. -/

theorem unprotect_of_active (env : SrtpEnv Ctx) (h : t.toSrtpTransport.Keyed)
    (ha : t.isSrtpActive = true) (data : ByteString) : ∃ ctx, t.recvContext = some ctx ∧
      (t.toSrtpTransport.unprotectRtp env.toLibsrtp data).2 =
        ((env.unprotect ctx data).ok, (env.unprotect ctx data).data) ∧
      (t.toSrtpTransport.unprotectRtcp env.toLibsrtp data).2 =
        ((env.unprotectRtcp ctx data).ok, (env.unprotectRtcp ctx data).data) := by
  rcases hs : t.sessions with _ | ⟨send, recv⟩
  · simp [SrtpTransport.isSrtpActive, hs] at ha
  obtain ⟨ctx, hctx⟩ := Option.isSome_iff_exists.mp (h send recv hs).2
  refine ⟨ctx, ?_, ?_, ?_⟩
  · simp [DtlsSrtpTransport.recvContext, hs, hctx]
  · simp [SrtpTransport.unprotectRtp, SrtpTransport.onRecvSession, hs, SrtpSession.unprotectRtp,
      SrtpSession.onContext, hctx]
  · simp [SrtpTransport.unprotectRtcp, SrtpTransport.onRecvSession, hs, SrtpSession.unprotectRtcp,
      SrtpSession.onContext, hctx]

theorem recvContext_of_inactive (ha : ¬t.isSrtpActive = true) : t.recvContext = none := by
  rw [SrtpTransport.isSrtpActive, Option.not_isSome_iff_eq_none] at ha
  rw [DtlsSrtpTransport.recvContext, ha]
  rfl

/-- The RTCP path never needs a condition: it drops what libsrtp refuses. -/
theorem onRtcpPacketReceived_authentic (h : t.toSrtpTransport.Keyed) :
    ∀ output ∈ (t.onRtcpPacketReceived env data ts).2,
      output.Authentic env t (.readPacket data ts) := by
  rw [DtlsSrtpTransport.onRtcpPacketReceived]
  split_ifs with ha
  · obtain ⟨ctx, hctx, -, hu⟩ := unprotect_of_active env h ha data
    rcases hr : t.toSrtpTransport.unprotectRtcp env.toLibsrtp data with ⟨srtp, ok, packet⟩
    obtain ⟨hok, hpacket⟩ := Prod.mk.inj (hr ▸ hu)
    dsimp only
    split_ifs with hk
    · intro output ho
      obtain rfl := List.mem_singleton.mp ho
      exact ⟨data, ctx, rfl, hctx, by rw [← hok, hk], hpacket⟩
    · simp
  · simp

/-- The RTP path passes on every datagram it sees while the sessions exist. -/
theorem onRtpPacketReceived_authentic_iff (h : t.toSrtpTransport.Keyed) :
    (∀ output ∈ (t.onRtpPacketReceived env data ts).2,
        output.Authentic env t (.readPacket data ts)) ↔
      ∀ ctx, t.recvContext = some ctx → (env.unprotect ctx data).ok = true := by
  rw [DtlsSrtpTransport.onRtpPacketReceived]
  split_ifs with ha
  · obtain ⟨ctx, hctx, hu, -⟩ := unprotect_of_active env h ha data
    rcases hr : t.toSrtpTransport.unprotectRtp env.toLibsrtp data with ⟨srtp, ok, packet⟩
    obtain ⟨hok, hpacket⟩ := Prod.mk.inj (hr ▸ hu)
    dsimp only
    constructor
    · intro hall ctx' hctx'
      obtain ⟨data', ctx'', hdata, hctx'', hauth, -⟩ := hall _ (List.mem_singleton_self _)
      obtain ⟨rfl, -⟩ := MediaEvent.readPacket.inj hdata
      rw [hctx'] at hctx''
      rwa [Option.some.inj hctx'']
    · intro hall output ho
      obtain rfl := List.mem_singleton.mp ho
      exact ⟨data, ctx, rfl, hctx, hall ctx hctx, hpacket⟩
  · simp [recvContext_of_inactive ha]

/-- **One call.** What it emits is authentic exactly when it is not a refused RTP datagram. -/
theorem emitsAuthentic_iff (h : t.toSrtpTransport.Keyed) :
    EmitsAuthentic env t e ↔ NoRefusedRtp env t e := by
  rcases e with ⟨state, initOk, rtp, rtcp⟩ | ⟨data, ts⟩ | data | data
  · refine iff_of_true (fun output ho ↦ ?_) (fun _ _ _ he ↦ ?_)
    · cases ho
    · cases he
  · have hguard : NoRefusedRtp env t (.readPacket data ts) ↔
        (isRtpPacket data = true → ∀ ctx, t.recvContext = some ctx →
          (env.unprotect ctx data).ok = true) := by
      constructor
      · exact fun hn hp ctx ↦ hn data ts ctx rfl hp
      · rintro hn _ _ ctx ⟨⟩ hp
        exact hn hp ctx
    have hemits : EmitsAuthentic env t (.readPacket data ts) ↔
        ∀ output ∈ (t.onReadPacket env data ts).2, output.Authentic env t (.readPacket data ts) :=
      Iff.rfl
    rw [hemits, hguard, DtlsSrtpTransport.onReadPacket, inferRtpPacketType]
    by_cases hp : isRtpPacket data = true
    · rw [if_pos hp]
      dsimp only
      rw [onRtpPacketReceived_authentic_iff h]
      simp [hp]
    · rw [if_neg hp]
      refine iff_of_true ?_ fun hp' ↦ absurd hp' hp
      split_ifs
      · exact onRtcpPacketReceived_authentic h
      · exact fun output ho ↦ by cases ho
  · refine iff_of_true (fun output ho ↦ ?_) (fun _ _ _ he ↦ ?_)
    · dsimp only [DtlsSrtpTransport.handle, DtlsSrtpTransport.sendRtp] at ho
      split_ifs at ho
      · obtain rfl := List.mem_singleton.mp ho
        trivial
      · cases ho
      · cases ho
    · cases he
  · refine iff_of_true (fun output ho ↦ ?_) (fun _ _ _ he ↦ ?_)
    · dsimp only [DtlsSrtpTransport.handle, DtlsSrtpTransport.sendRtcp] at ho
      split_ifs at ho
      · obtain rfl := List.mem_singleton.mp ho
        trivial
      · cases ho
      · cases ho
    · cases he

/-- **All runs.** -/
theorem along_emitsAuthentic_iff (env : SrtpEnv Ctx) (rtcpMuxEnabled : Bool)
    (es : List MediaEvent) :
    Along (DtlsSrtpTransport.step env) (EmitsAuthentic env) (.init Ctx rtcpMuxEnabled) es ↔
      Along (DtlsSrtpTransport.step env) (NoRefusedRtp env) (.init Ctx rtcpMuxEnabled) es :=
  along_congr (I := fun t ↦ t.toSrtpTransport.Keyed) (fun _ e h ↦ keyed_step h e)
    (fun _ _ h ↦ emitsAuthentic_iff h) (keyed_init rtcpMuxEnabled) es

/-- The transport connects, and a stranger sends twelve bytes that look like RTP. -/
theorem not_along_emitsAuthentic :
    ¬∀ (Ctx : Type) (env : SrtpEnv Ctx) (rtcpMuxEnabled : Bool) (es : List MediaEvent),
      Along (DtlsSrtpTransport.step env) (EmitsAuthentic env) (.init Ctx rtcpMuxEnabled) es := by
  intro h
  -- a library that accepts the packets whose last byte is the first byte of the receive key
  let unprotect (key data : ByteString) : SrtpResult ByteString :=
    ⟨key, data.getLast? == key.head?, data.dropLast⟩
  let protect (key data : ByteString) : SrtpResult ByteString :=
    ⟨key, true, data ++ key.take 1⟩
  let env : SrtpEnv ByteString :=
    { policyForRtp := fun _ ↦ some ⟨2, 1⟩
      policyForRtcp := fun _ ↦ some ⟨2, 1⟩
      create := fun policy ↦ some policy.key
      update := fun _ policy ↦ (policy.key, true)
      protect, protectRtcp := protect, unprotect, unprotectRtcp := unprotect
      srtpKeyAndSaltLengths := fun _ ↦ some (1, 1) }
  let dtls : DtlsTransportView := ⟨true, true, some 1, fun n ↦ some (List.replicate n 7)⟩
  let forged : ByteString := [0x80, 0, 0, 0, 0, 0, 0, 0, 0, 0, 0, 0]
  have hrun := h ByteString env true [.dtlsState .connected true dtls none, .readPacket forged 0]
  obtain ⟨-, hpacket, -⟩ := hrun
  have hrefused := (emitsAuthentic_iff (keyed_step (keyed_init true) _)).mp hpacket forged 0
    (List.replicate 2 7) rfl (by decide) rfl
  exact absurd hrefused (by decide)

end XrtcServer
