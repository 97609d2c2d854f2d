import XrtcServer.Base.ByteString

/-!
# SRTP sessions

`SrtpSession` (`pc/srtp_session.cpp`) wraps one libsrtp context, and `SrtpTransport`
(`pc/srtp_transport.cpp`) holds the pair of sessions a transport encrypts and decrypts with.

libsrtp is a parameter: what its entry points return, and the context they leave behind, is the
business of the library. A call that works on a packet gets a copy of the bytes and a length it may
shorten or lengthen; `data` in `SrtpResult` is the packet cut to the length that came back.
-/

namespace XrtcServer

/-- The fields of `srtp_crypto_policy_t` the server reads. -/
structure SrtpCryptoPolicy where
  cipherKeyLen : ℕ
  authTagLen : ℕ
deriving DecidableEq

inductive SrtpSsrcType
  | anyInbound
  | anyOutbound
deriving DecidableEq

/-- The `srtp_policy_t` handed to libsrtp. -/
structure SrtpPolicy where
  ssrcType : SrtpSsrcType
  rtp : SrtpCryptoPolicy
  rtcp : SrtpCryptoPolicy
  key : ByteString
  windowSize : ℕ := 1024
  allowRepeatTx : Bool := true
deriving DecidableEq

structure SrtpResult (Ctx : Type) where
  ctx : Ctx
  /-- The status is `srtp_err_status_ok`. -/
  ok : Bool
  data : ByteString

/-- The entry points of libsrtp, on contexts `Ctx`. -/
structure Libsrtp (Ctx : Type) where
  /-- `srtp_crypto_policy_set_from_profile_for_rtp`. -/
  policyForRtp : ℤ → Option SrtpCryptoPolicy
  /-- `srtp_crypto_policy_set_from_profile_for_rtcp`. -/
  policyForRtcp : ℤ → Option SrtpCryptoPolicy
  /-- `srtp_create`. -/
  create : SrtpPolicy → Option Ctx
  /-- `srtp_update`. -/
  update : Ctx → SrtpPolicy → Ctx × Bool
  /-- `srtp_protect`. -/
  protect : Ctx → ByteString → SrtpResult Ctx
  /-- `srtp_protect_rtcp`. -/
  protectRtcp : Ctx → ByteString → SrtpResult Ctx
  /-- `srtp_unprotect`. -/
  unprotect : Ctx → ByteString → SrtpResult Ctx
  /-- `srtp_unprotect_rtcp`. -/
  unprotectRtcp : Ctx → ByteString → SrtpResult Ctx

variable {Ctx : Type} (lib : Libsrtp Ctx)

/-! ## Sessions -/

structure SrtpSession (Ctx : Type) where
  /-- `_session`; `none` is the null pointer. -/
  session : Option Ctx := none
  inited : Bool := false
  rtpAuthTagLen : ℕ := 0
  rtcpAuthTagLen : ℕ := 0

namespace SrtpSession

def doSetKey (s : SrtpSession Ctx) (type : SrtpSsrcType) (cs : ℤ) (key : ByteString) :
    SrtpSession Ctx × Bool :=
  match lib.policyForRtp cs, lib.policyForRtcp cs with
  | some rtp, some rtcp =>
    if key.length ≠ rtp.cipherKeyLen then (s, false)
    else
      let policy : SrtpPolicy := { ssrcType := type, rtp, rtcp, key }
      let done (s : SrtpSession Ctx) : SrtpSession Ctx :=
        { s with rtpAuthTagLen := rtp.authTagLen, rtcpAuthTagLen := rtcp.authTagLen }
      match s.session with
      | none =>
        match lib.create policy with
        | none => (s, false)
        | some ctx => (done { s with session := some ctx }, true)
      | some ctx =>
        let (ctx, ok) := lib.update ctx policy
        let s := { s with session := some ctx }
        if ok then (done s, true) else (s, false)
  | _, _ => (s, false)

/-- `_set_key`; `initOk` is the result of initialising libsrtp for the process. -/
def setKey (s : SrtpSession Ctx) (initOk : Bool) (type : SrtpSsrcType) (cs : ℤ) (key : ByteString) :
    SrtpSession Ctx × Bool :=
  if s.session.isSome then (s, false)
  else if initOk then doSetKey lib { s with inited := true } type cs key
  else (s, false)

def updateKey (s : SrtpSession Ctx) (type : SrtpSsrcType) (cs : ℤ) (key : ByteString) :
    SrtpSession Ctx × Bool :=
  if s.session.isSome then doSetKey lib s type cs key else (s, false)

def setSend (s : SrtpSession Ctx) (initOk : Bool) (cs : ℤ) (key : ByteString) :
    SrtpSession Ctx × Bool :=
  setKey lib s initOk .anyOutbound cs key

/-- The source passes the type of `set_send`. -/
def setRecv (s : SrtpSession Ctx) (initOk : Bool) (cs : ℤ) (key : ByteString) :
    SrtpSession Ctx × Bool :=
  setKey lib s initOk .anyOutbound cs key

/-- The source passes the type of `update_recv`. -/
def updateSend (s : SrtpSession Ctx) (cs : ℤ) (key : ByteString) : SrtpSession Ctx × Bool :=
  updateKey lib s .anyInbound cs key

def updateRecv (s : SrtpSession Ctx) (cs : ℤ) (key : ByteString) : SrtpSession Ctx × Bool :=
  updateKey lib s .anyInbound cs key

/-- A libsrtp call on the context of the session; without one nothing happens to the packet. -/
def onContext (s : SrtpSession Ctx) (call : Ctx → ByteString → SrtpResult Ctx) (data : ByteString) :
    SrtpSession Ctx × Bool × ByteString :=
  match s.session with
  | none => (s, false, data)
  | some ctx =>
    let r := call ctx data
    ({ s with session := some r.ctx }, r.ok, r.data)

def unprotectRtp (s : SrtpSession Ctx) (data : ByteString) : SrtpSession Ctx × Bool × ByteString :=
  s.onContext lib.unprotect data

def unprotectRtcp (s : SrtpSession Ctx) (data : ByteString) : SrtpSession Ctx × Bool × ByteString :=
  s.onContext lib.unprotectRtcp data

def protectRtp (s : SrtpSession Ctx) (data : ByteString) (maxLen : ℕ) :
    SrtpSession Ctx × Bool × ByteString :=
  if s.session.isSome && maxLen < data.length + s.rtpAuthTagLen then (s, false, data)
  else s.onContext lib.protect data

def protectRtcp (s : SrtpSession Ctx) (data : ByteString) (maxLen : ℕ) :
    SrtpSession Ctx × Bool × ByteString :=
  if s.session.isSome && maxLen < data.length + s.rtcpAuthTagLen + 4 then (s, false, data)
  else s.onContext lib.protectRtcp data

end SrtpSession

/-! ## Transports -/

/-- The pointers `_send_session` and `_recv_session` are always set and cleared together, so the
pair is optional and not each of them. -/
structure SrtpTransport (Ctx : Type) where
  rtcpMuxEnabled : Bool
  sessions : Option (SrtpSession Ctx × SrtpSession Ctx) := none

namespace SrtpTransport

def isSrtpActive (t : SrtpTransport Ctx) : Bool := t.sessions.isSome

def resetParams (t : SrtpTransport Ctx) : SrtpTransport Ctx := { t with sessions := none }

/-- `set_rtp_params`; new sessions get their keys from `set_send` and `set_recv`, old ones from
`update_send` and `update_recv`. -/
def setRtpParams (t : SrtpTransport Ctx) (initOk : Bool) (cs : ℤ) (sendKey recvKey : ByteString) :
    SrtpTransport Ctx × Bool :=
  let newSession := t.sessions.isNone
  let (send, recv) := t.sessions.getD ({}, {})
  let (send, sendOk) :=
    if newSession then send.setSend lib initOk cs sendKey else send.updateSend lib cs sendKey
  if sendOk then
    let (recv, recvOk) :=
      if newSession then recv.setRecv lib initOk cs recvKey else recv.updateRecv lib cs recvKey
    if recvOk then ({ t with sessions := some (send, recv) }, true)
    else (t.resetParams, false)
  else (t.resetParams, false)

/-- `unprotect_rtp` and `unprotect_rtcp` forward to the receive session. -/
def onRecvSession (t : SrtpTransport Ctx)
    (f : SrtpSession Ctx → SrtpSession Ctx × Bool × ByteString) (data : ByteString) :
    SrtpTransport Ctx × Bool × ByteString :=
  match t.sessions with
  | none => (t, false, data)
  | some (send, recv) =>
    let (recv, result) := f recv
    ({ t with sessions := some (send, recv) }, result)

/-- `protect_rtp` and `protect_rtcp` forward to the send session. -/
def onSendSession (t : SrtpTransport Ctx)
    (f : SrtpSession Ctx → SrtpSession Ctx × Bool × ByteString) (data : ByteString) :
    SrtpTransport Ctx × Bool × ByteString :=
  match t.sessions with
  | none => (t, false, data)
  | some (send, recv) =>
    let (send, result) := f send
    ({ t with sessions := some (send, recv) }, result)

def unprotectRtp (t : SrtpTransport Ctx) (data : ByteString) :
    SrtpTransport Ctx × Bool × ByteString :=
  t.onRecvSession (·.unprotectRtp lib data) data

def unprotectRtcp (t : SrtpTransport Ctx) (data : ByteString) :
    SrtpTransport Ctx × Bool × ByteString :=
  t.onRecvSession (·.unprotectRtcp lib data) data

def protectRtp (t : SrtpTransport Ctx) (data : ByteString) (maxLen : ℕ) :
    SrtpTransport Ctx × Bool × ByteString :=
  t.onSendSession (·.protectRtp lib data maxLen) data

def protectRtcp (t : SrtpTransport Ctx) (data : ByteString) (maxLen : ℕ) :
    SrtpTransport Ctx × Bool × ByteString :=
  t.onSendSession (·.protectRtcp lib data maxLen) data

/-- `get_send_auth_tag_len`: the lengths for RTP and RTCP, left at zero by a session without a
context. -/
def sendAuthTagLen (t : SrtpTransport Ctx) : ℕ × ℕ :=
  match t.sessions with
  | none => (0, 0)
  | some (send, _) =>
    if send.session.isSome then (send.rtpAuthTagLen, send.rtcpAuthTagLen) else (0, 0)

end SrtpTransport

/-! ## A session in use has a context

A pair of sessions survives `set_rtp_params` only when both keys went in, and nothing else takes a
context away. -/

/-- Both sessions, if there are any, have a libsrtp context. -/
def SrtpTransport.Keyed (t : SrtpTransport Ctx) : Prop :=
  ∀ send recv, t.sessions = some (send, recv) →
    send.session.isSome = true ∧ recv.session.isSome = true

variable {lib}

theorem SrtpSession.isSome_doSetKey {s : SrtpSession Ctx} {type : SrtpSsrcType} {cs : ℤ}
    {key : ByteString} (h : (s.doSetKey lib type cs key).2 = true) :
    (s.doSetKey lib type cs key).1.session.isSome = true := by
  revert h
  rw [doSetKey]
  rcases lib.policyForRtp cs with _ | rtp
  · simp
  rcases lib.policyForRtcp cs with _ | rtcp
  · simp
  by_cases hk : key.length ≠ rtp.cipherKeyLen
  · simp [hk]
  rcases hs : s.session with _ | ctx
  · rcases hc : lib.create { ssrcType := type, rtp, rtcp, key } with _ | ctx
    · simp [hk, hc]
    · simp [hk, hc]
  · rcases hu : lib.update ctx { ssrcType := type, rtp, rtcp, key } with ⟨ctx', _ | _⟩
    · simp [hk, hu]
    · simp [hk, hu]

theorem SrtpSession.isSome_setKey {s : SrtpSession Ctx} {initOk : Bool} {type : SrtpSsrcType}
    {cs : ℤ} {key : ByteString} (h : (s.setKey lib initOk type cs key).2 = true) :
    (s.setKey lib initOk type cs key).1.session.isSome = true := by
  rw [setKey] at h ⊢
  split_ifs at h ⊢
  exact isSome_doSetKey h

theorem SrtpSession.isSome_updateKey {s : SrtpSession Ctx} {type : SrtpSsrcType} {cs : ℤ}
    {key : ByteString} (h : (s.updateKey lib type cs key).2 = true) :
    (s.updateKey lib type cs key).1.session.isSome = true := by
  rw [updateKey] at h ⊢
  split_ifs at h ⊢
  exact isSome_doSetKey h

theorem SrtpSession.isSome_onContext {s : SrtpSession Ctx}
    {call : Ctx → ByteString → SrtpResult Ctx} {data : ByteString} (h : s.session.isSome = true) :
    (s.onContext call data).1.session.isSome = true := by
  rw [onContext]
  rcases hs : s.session with _ | ctx
  · simp [hs] at h
  · rfl

namespace SrtpTransport

variable {t : SrtpTransport Ctx}

theorem keyed_resetParams (t : SrtpTransport Ctx) : t.resetParams.Keyed := by
  rintro send recv h
  cases h

theorem keyed_setRtpParams (t : SrtpTransport Ctx) (initOk : Bool) (cs : ℤ)
    (sendKey recvKey : ByteString) : (t.setRtpParams lib initOk cs sendKey recvKey).1.Keyed := by
  rw [setRtpParams]
  dsimp only
  split_ifs with hnew hsend hrecv hsend hrecv
  · rintro _ _ ⟨⟩
    exact ⟨SrtpSession.isSome_setKey hsend, SrtpSession.isSome_setKey hrecv⟩
  · exact keyed_resetParams t
  · exact keyed_resetParams t
  · rintro _ _ ⟨⟩
    exact ⟨SrtpSession.isSome_updateKey hsend, SrtpSession.isSome_updateKey hrecv⟩
  · exact keyed_resetParams t
  · exact keyed_resetParams t

theorem Keyed.onRecvSession (h : t.Keyed)
    {f : SrtpSession Ctx → SrtpSession Ctx × Bool × ByteString}
    (hf : ∀ s : SrtpSession Ctx, s.session.isSome = true → (f s).1.session.isSome = true)
    (data : ByteString) : (t.onRecvSession f data).1.Keyed := by
  rw [SrtpTransport.onRecvSession]
  rcases hs : t.sessions with _ | ⟨send, recv⟩
  · exact h
  · obtain ⟨hsend, hrecv⟩ := h send recv hs
    rintro _ _ ⟨⟩
    exact ⟨hsend, hf recv hrecv⟩

theorem Keyed.onSendSession (h : t.Keyed)
    {f : SrtpSession Ctx → SrtpSession Ctx × Bool × ByteString}
    (hf : ∀ s : SrtpSession Ctx, s.session.isSome = true → (f s).1.session.isSome = true)
    (data : ByteString) : (t.onSendSession f data).1.Keyed := by
  rw [SrtpTransport.onSendSession]
  rcases hs : t.sessions with _ | ⟨send, recv⟩
  · exact h
  · obtain ⟨hsend, hrecv⟩ := h send recv hs
    rintro _ _ ⟨⟩
    exact ⟨hf send hsend, hrecv⟩

theorem Keyed.unprotectRtp (h : t.Keyed) (lib : Libsrtp Ctx) (data : ByteString) :
    (t.unprotectRtp lib data).1.Keyed :=
  h.onRecvSession (fun _ ↦ SrtpSession.isSome_onContext) data

theorem Keyed.unprotectRtcp (h : t.Keyed) (lib : Libsrtp Ctx) (data : ByteString) :
    (t.unprotectRtcp lib data).1.Keyed :=
  h.onRecvSession (fun _ ↦ SrtpSession.isSome_onContext) data

theorem Keyed.protectRtp (h : t.Keyed) (lib : Libsrtp Ctx) (data : ByteString) (maxLen : ℕ) :
    (t.protectRtp lib data maxLen).1.Keyed := by
  refine h.onSendSession (fun s hs ↦ ?_) data
  rw [SrtpSession.protectRtp]
  split_ifs
  · exact hs
  · exact SrtpSession.isSome_onContext hs

theorem Keyed.protectRtcp (h : t.Keyed) (lib : Libsrtp Ctx) (data : ByteString) (maxLen : ℕ) :
    (t.protectRtcp lib data maxLen).1.Keyed := by
  refine h.onSendSession (fun s hs ↦ ?_) data
  rw [SrtpSession.protectRtcp]
  split_ifs
  · exact hs
  · exact SrtpSession.isSome_onContext hs

end SrtpTransport

end XrtcServer
