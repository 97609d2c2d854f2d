import XrtcServer.Ice.Destruction
import XrtcServer.Ice.StunGrammar
import XrtcServer.Pc.DtlsTransport

/-!
# STUN, DTLS or media

Every datagram of a channel arrives at one socket, and three tests tell what it is.
`get_stun_message` takes what is a STUN message with a right fingerprint; of the rest,
`is_dtls_packet` takes the first bytes from 20 to 63, and `is_rtp_packet` those whose two top bits
are 10.

The last two exclude each other by the first byte, and `StunMessage::read` means to exclude media by
it as well. But the mask `0x0800` it applies to the type is a bit of the first byte that media may
have or not. So half of the media is told apart by that bit, and the other half only by not being a
STUN message.
-/

namespace XrtcServer

open ByteString

/-- The two top bits of the first byte are 10: RTP or RTCP. -/
def IsVersion2 (data : ByteString) : Prop := data.getD 0 0 &&& 0xC0 = 0x80

instance (data : ByteString) : Decidable (IsVersion2 data) := inferInstanceAs (Decidable (_ = _))

/-- The datagram is passed up by the connection it comes on, and no part of it is taken for STUN. -/
structure HandledAsMedia (env : IceEnv) (w : World) (data : ByteString) : Prop where
  notStun : ∀ p, w.stunVerdict env p data = .notStun
  /-- From a known address. -/
  passedUp : ∀ p addr c ts now, w.getConnection p addr = some c → w.conns.live c = true →
    w.onReadPacket env p addr data ts now = w.signal (.readPacket data ts)
  /-- From an unknown address. -/
  ignored : ∀ p addr ts now, w.getConnection p addr = none →
    w.onReadPacket env p addr data ts now = w
  /-- The transport that it is passed to takes it for RTP, unless it is too short for that. -/
  media : isDtlsPacket data = false ∧
    DtlsTransport.isRtpPacket data = decide (kMinRtpPacketLen ≤ data.length)

/-- `read` accepts the datagram and its fingerprint is right: a header in order, with the bit
`0x0800` of the type clear, and attributes that tile the rest. -/
def ReadsAsStun (env : IceEnv) (data : ByteString) : Prop :=
  validateFingerprint env data = true ∧ HeaderOk data ∧
    ∃ ws, data.drop kStunHeaderSize = ws.flatMap WireAttribute.bytes ∧ Tiled ws

variable {env : IceEnv} {w : World} {data : ByteString}

/-! ## The first byte -/

theorem IsVersion2.le_toNat_getD (h : IsVersion2 data) : 128 ≤ (data.getD 0 0).toNat := by
  have hand := congrArg UInt8.toNat h
  rw [UInt8.toNat_and] at hand
  exact hand.ge.trans Nat.and_le_left

theorem IsVersion2.isDtlsPacket (h : IsVersion2 data) : isDtlsPacket data = false := by
  have hlt : ¬data.getD 0 0 < 64 := by
    rw [UInt8.lt_iff_toNat_lt]
    exact not_lt.mpr (le_trans (by decide) h.le_toNat_getD)
  rw [XrtcServer.isDtlsPacket, decide_eq_false hlt, Bool.and_false, Bool.and_false]

theorem IsVersion2.isRtpPacket (h : IsVersion2 data) :
    DtlsTransport.isRtpPacket data = decide (kMinRtpPacketLen ≤ data.length) := by
  rw [DtlsTransport.isRtpPacket, show (data.getD 0 0 &&& 0xC0) = 0x80 from h]
  simp

/-! ## The type of a message -/

theorem type_of_read {msg : StunMessage} {rest : ByteString}
    (h : StunMessage.read data = some (msg, rest)) : msg.type = data.be16 0 := by
  rw [StunMessage.read] at h
  obtain ⟨⟨type, buf₁⟩, h₁, h⟩ := Option.bind_eq_some_iff.mp h
  obtain ⟨⟨bytes, buf⟩, hbytes, htype⟩ := Option.map_eq_some_iff.mp h₁
  dsimp only at h
  split_ifs at h
  obtain ⟨⟨length, buf₂⟩, -, h⟩ := Option.bind_eq_some_iff.mp h
  obtain ⟨⟨cookie, buf₃⟩, -, h⟩ := Option.bind_eq_some_iff.mp h
  obtain ⟨⟨id, buf₄⟩, -, h⟩ := Option.bind_eq_some_iff.mp h
  dsimp only at h
  split at h
  · cases h
  · obtain ⟨⟨attrs, buf₅⟩, -, h⟩ := Option.bind_eq_some_iff.mp h
    cases h
    cases htype
    rw [readBytes] at hbytes
    split_ifs at hbytes
    cases hbytes
    exact be16_take (Nat.le_refl 2)

/-- The type of a version 2 datagram is not that of a binding request. -/
theorem IsVersion2.be16_ne (h : IsVersion2 data) : data.be16 0 ≠ stunBindingRequest := by
  have hle := h.le_toNat_getD
  rw [be16, stunBindingRequest]
  omega

/-! ## The verdict of a port -/

theorem exists_read_of_readsAsStun (h : ReadsAsStun env data) :
    ∃ msg, StunMessage.read data = some (msg, []) := by
  obtain ⟨⟨msg, rest⟩, hread⟩ := (exists_read_iff_tiled data).mpr h.2
  rw [rest_of_readAttributes (attrs_of_read hread).2.2] at hread
  exact ⟨msg, hread⟩

/-- A version 2 datagram that reads as STUN is accepted, and no password is asked for. -/
theorem stunVerdict_of_readsAsStun (hversion : IsVersion2 data) (h : ReadsAsStun env data)
    (p : PortId) : ∃ msg, w.stunVerdict env p data = .accepted msg [] := by
  obtain ⟨msg, hread⟩ := exists_read_of_readsAsStun h
  refine ⟨msg, ?_⟩
  rw [World.stunVerdict, UDPPort.getStunMessage, h.1, hread]
  have htype : msg.type ≠ stunBindingRequest := by
    rw [type_of_read hread]
    exact hversion.be16_ne
  dsimp only
  rw [if_neg (by decide), if_neg (not_not.mpr rfl), if_neg htype]

theorem stunVerdict_of_not_readsAsStun (h : ¬ReadsAsStun env data) (p : PortId) :
    w.stunVerdict env p data = .notStun := by
  rw [World.stunVerdict, UDPPort.getStunMessage]
  by_cases hfingerprint : validateFingerprint env data = true
  · rw [hfingerprint]
    rcases hread : StunMessage.read data with _ | r
    · rfl
    · exact absurd ⟨hfingerprint, (exists_read_iff_tiled data).mp ⟨r, hread⟩⟩ h
  · rw [if_pos (by rw [Bool.not_eq_true] at hfingerprint; rw [hfingerprint]; rfl)]

/-- **Media that is no STUN message is handled as media**, and that is all that is. -/
theorem handledAsMedia_iff (env : IceEnv) (w : World) (data : ByteString) :
    (IsVersion2 data → HandledAsMedia env w data) ↔ ¬(IsVersion2 data ∧ ReadsAsStun env data) := by
  constructor
  · rintro h ⟨hversion, hreads⟩
    obtain ⟨msg, hverdict⟩ := stunVerdict_of_readsAsStun (w := w) hversion hreads 0
    rw [(h hversion).notStun 0] at hverdict
    cases hverdict
  · intro h hversion
    have hverdict : ∀ p, w.stunVerdict env p data = .notStun :=
      stunVerdict_of_not_readsAsStun fun hreads ↦ h ⟨hversion, hreads⟩
    refine ⟨hverdict, fun p addr c ts now hconn hlive ↦ ?_, fun p addr ts now hconn ↦ ?_,
      hversion.isDtlsPacket, hversion.isRtpPacket⟩
    · rw [World.onReadPacket, hconn]
      dsimp only
      rw [World.onConnReadPacket, if_pos hlive, hverdict]
    · rw [World.onReadPacket, hconn]
      dsimp only
      rw [hverdict]

/-- A version 2 datagram with nothing but a fingerprint. -/
def mediaWithFingerprint : ByteString :=
  words [0x80010008, 0x2112A442, 0x61626364, 0x65666768, 0x696A6B6C, 0x80280004, 0x54F66491]

theorem not_handledAsMedia :
    ¬∀ (env : IceEnv) (w : World) (data : ByteString),
      IsVersion2 data → HandledAsMedia env w data := by
  intro h
  have hmedia := h sampleEnv (World.init .rtp fun _ ↦ samplePort) mediaWithFingerprint (by decide)
  exact absurd (hmedia.notStun 0) (by decide +kernel)

end XrtcServer
