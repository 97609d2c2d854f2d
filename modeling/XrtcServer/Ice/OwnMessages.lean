import XrtcServer.Ice.Destruction
import XrtcServer.Ice.StunSeal

/-!
# The server reads its own messages

The server writes three kinds of STUN messages: the pings of `ConnectionRequest::prepare`, the
success responses of `send_stun_binding_response` and the error responses of
`send_binding_error_response`. All of them pass the checks of the receiving side, if their
attributes fit the length field (`read_sent`).

What comes back is less than what was sent. The table of attribute types has no row for the error
code, so `read` skips it, and every error response counts as `STUN_ERROR_GLOBAL_FAIL`:
`errorCodeArrives_iff` says for which codes this makes no difference.
-/

namespace XrtcServer

open ByteString WhileLoop StunMessage

/-- A message the server sends, and the password of its message integrity if it has one. -/
inductive Sent (env : IceEnv) : StunMessage → Option ByteString → Prop
  | ping (w : World) (c : ConnId) (id : ByteString) :
    Sent env (w.prepare env c id) (some (w.conn c).remoteCandidate.password)
  | bindingResponse (icePwd : ByteString) (msg : StunMessage) (addr port : ℕ) :
    Sent env (IceConnection.bindingResponse env icePwd msg ⟨.inet addr, port⟩) (some icePwd)
  | bindingErrorResponse (icePwd : ByteString) (msg : StunMessage) (errCode : ℤ)
    (reason : ByteString) :
    Sent env (UDPPort.bindingErrorResponse env icePwd msg errCode reason)
      (if errCode ≠ stunErrorBadRequest ∧ errCode ≠ stunErrorUnauthorized then some icePwd
        else none)

/-! ## The messages before they are sealed -/

theorem wellBuilt_new (type : ℕ) (transactionId : ByteString) :
    ({ type, transactionId } : StunMessage).WellBuilt where
  attrs _ h := by cases h
  length _ := rfl

theorem wellFormed_of_unknown {attr : StunAttribute} (htype : attr.type < 65536)
    (hwrites : attr.write.isSome = true) (hkind : getAttributeValueType attr.type = .unknown) :
    attr.WellFormed := by
  refine ⟨htype, hwrites, ?_⟩
  rw [StunAttribute.KindOk, hkind]
  trivial

theorem wellFormed_username (username : ByteString) :
    (StunAttribute.byteString stunAttrUsername username).WellFormed where
  type_lt := (by decide : stunAttrUsername < 65536)
  writes := rfl
  kind := ⟨username, rfl⟩

theorem wellFormed_priority {bits : ℕ} (h : bits < 2 ^ 32) :
    (StunAttribute.uint32 stunAttrPriority bits).WellFormed where
  type_lt := (by decide : stunAttrPriority < 65536)
  writes := rfl
  kind := ⟨bits, h, rfl⟩

theorem wellFormed_errorCode (errCode : ℤ) (reason : ByteString) :
    (StunAttribute.createErrorCode errCode reason).WellFormed :=
  wellFormed_of_unknown (by decide : stunAttrErrorCode < 65536) rfl rfl

theorem wellFormed_xorMappedAddress (addr port : ℕ) :
    (StunAttribute.xorAddress stunAttrXorMappedAddress ⟨.inet addr, port⟩).WellFormed :=
  wellFormed_of_unknown (by decide : stunAttrXorMappedAddress < 65536) rfl rfl

theorem wellFormed_iceControlling (bits : ℕ) :
    (StunAttribute.uint64 stunAttrIceControlling bits).WellFormed :=
  wellFormed_of_unknown (by decide : stunAttrIceControlling < 65536) rfl rfl

theorem wellFormed_useCandidate :
    (StunAttribute.byteString stunAttrUseCandidate []).WellFormed :=
  wellFormed_of_unknown (by decide) rfl rfl

/-! ## Round trips

The kinds of messages differ in their attributes and in whether a digest is added. The proofs do
not: each kind is well built, and one lemma about messages with both seals and one about messages
with the fingerprint alone say the rest. -/

/-- The bytes of the message are accepted, and read as a message of the same type and
transaction. -/
def ReadBack (env : IceEnv) (msg : StunMessage) (password : Option ByteString) : Prop :=
  ∃ data received, msg.write = some data ∧ validateFingerprint env data = true ∧
    StunMessage.read data = some (received, []) ∧ received.type = msg.type ∧
    received.transactionId = msg.transactionId ∧
    ∀ key, password = some key →
      (received.validateMessageIntegrity env key).integrity = .integrityOk

section

variable {env : IceEnv} (hcrc : ∀ data, env.computeCrc32 data < 2 ^ 32)
  (hhmac : ∀ key text, (env.computeHmac key text).length = kStunMessageIntegritySize)
  {msg : StunMessage} (h : msg.WellBuilt) (htype : msg.type < 65536)
  (htypeBit : msg.type &&& 0x0800 = 0)

include hcrc h htype htypeBit in
theorem readBack_addFingerprint (htid : msg.transactionId.length = kStunTransactionIdLength)
    (hsize : msg.size + 8 < 65536) : ReadBack env (msg.addFingerprint env) none := by
  obtain ⟨data, value, hwrite, -, hfingerprint, hread⟩ :=
    read_addFingerprint env hcrc h htype htypeBit htid hsize
  exact ⟨data, _, hwrite, hfingerprint, hread, (type_addFingerprint env msg).symm,
    (transactionId_addFingerprint env msg).symm, fun key hkey ↦ by cases hkey⟩

include hcrc hhmac h htype htypeBit in
theorem readBack_sealed (hne : ∀ attr ∈ msg.attrs, attr.type ≠ stunAttrMessageIntegrity)
    (htid : msg.transactionId.length = kStunTransactionIdLength) (hsize : msg.size + 32 < 65536)
    (key : ByteString) :
    ReadBack env ((msg.addMessageIntegrity env key).addFingerprint env) (some key) := by
  obtain ⟨data, received, hwrite, hfingerprint, hread, htype', htid', hok⟩ :=
    read_sealed env hcrc hhmac h hne htype htypeBit htid hsize key
  refine ⟨data, received, hwrite, hfingerprint, hread, ?_, ?_, ?_⟩
  · rw [type_addFingerprint, type_addMessageIntegrity, htype']
  · rw [transactionId_addFingerprint, transactionId_addMessageIntegrity, htid']
  · intro key' hkey
    rw [← Option.some.inj hkey]
    exact hok

end

/-- **The server reads its own messages.** -/
theorem read_sent (env : IceEnv) (hcrc : ∀ data, env.computeCrc32 data < 2 ^ 32)
    (hhmac : ∀ key text, (env.computeHmac key text).length = kStunMessageIntegritySize)
    {msg : StunMessage} {password : Option ByteString} (hsent : Sent env msg password)
    (htid : msg.transactionId.length = kStunTransactionIdLength) (hsize : msg.size < 65536) :
    ReadBack env msg password := by
  cases hsent with
  | ping w c id =>
    rw [World.prepare] at htid hsize ⊢
    simp only [transactionId_addFingerprint, transactionId_addMessageIntegrity, size_addFingerprint,
      size_addMessageIntegrity env hhmac] at htid hsize
    refine readBack_sealed hcrc hhmac ?_ ?_ ?_ ?_ htid hsize _
    · exact ((((wellBuilt_new _ _).addAttribute (wellFormed_username _)).addAttribute
        (wellFormed_iceControlling 0)).addAttribute wellFormed_useCandidate).addAttribute
        (wellFormed_priority (UInt32.toNat_lt _))
    · exact (by decide : stunBindingRequest < 65536)
    · exact (by decide : stunBindingRequest &&& 0x0800 = 0)
    · simp [StunMessage.addAttribute, StunAttribute.type]
      decide
  | bindingResponse icePwd request addr port =>
    rw [IceConnection.bindingResponse] at htid hsize ⊢
    simp only [transactionId_addFingerprint, transactionId_addMessageIntegrity, size_addFingerprint,
      size_addMessageIntegrity env hhmac] at htid hsize
    refine readBack_sealed hcrc hhmac ?_ ?_ ?_ ?_ htid hsize _
    · exact (wellBuilt_new _ _).addAttribute (wellFormed_xorMappedAddress addr port)
    · exact (by decide : stunBindingResponse < 65536)
    · exact (by decide : stunBindingResponse &&& 0x0800 = 0)
    · simp [StunMessage.addAttribute, StunAttribute.type]
      decide
  | bindingErrorResponse icePwd request errCode reason =>
    let response : StunMessage :=
      ({ type := stunBindingErrorResponse, transactionId := request.transactionId } :
        StunMessage).addAttribute (.createErrorCode errCode reason)
    have hbuilt : response.WellBuilt :=
      (wellBuilt_new _ _).addAttribute (wellFormed_errorCode errCode reason)
    have htype : response.type < 65536 := (by decide : stunBindingErrorResponse < 65536)
    have htypeBit : response.type &&& 0x0800 = 0 :=
      (by decide : stunBindingErrorResponse &&& 0x0800 = 0)
    have hne : ∀ attr ∈ response.attrs, attr.type ≠ stunAttrMessageIntegrity := by
      simp [response, StunMessage.addAttribute, StunAttribute.createErrorCode, StunAttribute.type]
      decide
    have heq : UDPPort.bindingErrorResponse env icePwd request errCode reason =
        (if errCode ≠ stunErrorBadRequest ∧ errCode ≠ stunErrorUnauthorized then
          response.addMessageIntegrity env icePwd else response).addFingerprint env := rfl
    rw [heq] at htid hsize ⊢
    split_ifs at htid hsize ⊢
    · simp only [transactionId_addFingerprint, transactionId_addMessageIntegrity,
        size_addFingerprint, size_addMessageIntegrity env hhmac] at htid hsize
      exact readBack_sealed hcrc hhmac hbuilt htype htypeBit hne htid hsize _
    · rw [transactionId_addFingerprint] at htid
      rw [size_addFingerprint] at hsize
      exact readBack_addFingerprint hcrc hbuilt htype htypeBit htid hsize

theorem crc32_lt (data : ByteString) : crc32 data < 2 ^ 32 := by
  have hround (l : List ℕ) (crc : ℕ) (h : crc < 2 ^ 32) : l.foldl (fun crc _ ↦
      if crc % 2 = 1 then crc / 2 ^^^ 0xEDB88320 else crc / 2) crc < 2 ^ 32 := by
    induction l generalizing crc with
    | nil => exact h
    | cons n l ih =>
      refine ih _ ?_
      dsimp only
      split_ifs
      · exact Nat.xor_lt_two_pow (by omega) (by decide)
      · omega
  have hbytes (data : ByteString) (crc : ℕ) (h : crc < 2 ^ 32) : data.foldl (fun crc b ↦
      (List.range 8).foldl (fun crc _ ↦
        if crc % 2 = 1 then crc / 2 ^^^ 0xEDB88320 else crc / 2) (crc ^^^ b.toNat)) crc <
          2 ^ 32 := by
    induction data generalizing crc with
    | nil => exact h
    | cons b data ih =>
      have hb : b.toNat < 2 ^ 32 := Nat.lt_trans b.toNat_lt (by decide)
      exact ih _ (hround _ _ (Nat.xor_lt_two_pow h hb))
  exact Nat.xor_lt_two_pow (hbytes data _ (by decide)) (by decide)

/-- The digest of the response below. -/
def responseDigest : ByteString :=
  words [0xEFD5B086, 0x4B0072F4, 0x1D58DCA3, 0xA5CA8799, 0x844C9F98]

/-- The response to a ping of the first peer. -/
theorem read_sent_bindingResponse :
    ReadBack { sampleEnv with computeHmac := fun _ _ ↦ responseDigest }
      (IceConnection.bindingResponse { sampleEnv with computeHmac := fun _ _ ↦ responseDigest }
        samplePort.1.icePwd { transactionId := lit "pingnumber01" } ⟨.inet 0xC0A80002, 6000⟩)
      (some samplePort.1.icePwd) :=
  read_sent _ crc32_lt (fun _ _ ↦ rfl) (.bindingResponse _ _ _ _) (by decide +kernel)
    (by decide +kernel)

/-! ## The error code -/

theorem transactionId_bindingErrorResponse (env : IceEnv) (icePwd : ByteString)
    (request : StunMessage) (errCode : ℤ) (reason : ByteString) :
    (UDPPort.bindingErrorResponse env icePwd request errCode reason).transactionId =
      request.transactionId := by
  rw [UDPPort.bindingErrorResponse, transactionId_addFingerprint]
  split_ifs
  · rw [transactionId_addMessageIntegrity]
    rfl
  · rfl

theorem live_failAndDestroy (w : World) (c : ConnId) (now : ℤ) :
    (w.failAndDestroy c now).conns.live c = false := Arena.live_free_self

/-- The code of an error response comes through: the receiver reads it, and gives the connection up
unless it is one of the three after which a ping is tried again. -/
def ErrorCodeArrives (env : IceEnv) (icePwd : ByteString) (request : StunMessage) (errCode : ℕ)
    (reason : ByteString) : Prop :=
  ∃ data received,
    (UDPPort.bindingErrorResponse env icePwd request errCode reason).write = some data ∧
    StunMessage.read data = some (received, []) ∧ received.getErrorCodeValue = errCode ∧
    ∀ (w : World) (c : ConnId) (now : ℤ), w.conns.live c = true →
      ((w.onConnectionRequestErrorResponse c received now).conns.live c = true ↔
        errCode = 401 ∨ errCode = 420 ∨ errCode = 500)

/-- **The error code** comes through exactly if it is the one that stands for a missing one. -/
theorem errorCodeArrives_iff (env : IceEnv) (hcrc : ∀ data, env.computeCrc32 data < 2 ^ 32)
    (hhmac : ∀ key text, (env.computeHmac key text).length = kStunMessageIntegritySize)
    (icePwd : ByteString) {request : StunMessage} {errCode : ℕ} {reason : ByteString}
    (hcode : 300 ≤ errCode ∧ errCode ≤ 699)
    (htid : request.transactionId.length = kStunTransactionIdLength)
    (hsize : (UDPPort.bindingErrorResponse env icePwd request errCode reason).size < 65536) :
    ErrorCodeArrives env icePwd request errCode reason ↔ errCode = 600 := by
  constructor
  · rintro ⟨data, received, -, hread, hvalue, -⟩
    exact hvalue.symm.trans (getErrorCodeValue_read hread)
  · rintro rfl
    have htid' := transactionId_bindingErrorResponse env icePwd request (600 : ℕ) reason
    obtain ⟨data, received, hwrite, -, hread, -⟩ := read_sent env hcrc hhmac
      (.bindingErrorResponse icePwd request (600 : ℕ) reason) (htid' ▸ htid) hsize
    have hvalue : received.getErrorCodeValue = 600 := getErrorCodeValue_read hread
    refine ⟨data, received, hwrite, hread, hvalue, fun w c now _ ↦ ?_⟩
    have hfatal : ¬World.mayRecover received.getErrorCodeValue = true := by
      rw [hvalue]
      decide
    rw [World.onConnectionRequestErrorResponse, if_neg hfatal, live_failAndDestroy]
    decide

/-- The digest of the response below. -/
def globalFailDigest : ByteString :=
  words [0x34110A24, 0x118C5991, 0x161C5605, 0x7C180F84, 0x76AF5BD9]

/-- The one code that comes through, in an error response with a message integrity. -/
theorem errorCodeArrives_globalFail :
    ErrorCodeArrives { sampleEnv with computeHmac := fun _ _ ↦ globalFailDigest }
      samplePort.1.icePwd { transactionId := lit "pingnumber01" } 600 (lit "Global failure") :=
  (errorCodeArrives_iff _ crc32_lt (fun _ _ ↦ rfl) _ (by decide) (by decide +kernel)
    (by decide +kernel)).mpr rfl

/-- The code 401 does not come through. -/
theorem not_errorCodeArrives :
    ¬∀ (env : IceEnv) (icePwd : ByteString) (request : StunMessage) (errCode : ℕ)
      (reason : ByteString), (∀ data, env.computeCrc32 data < 2 ^ 32) →
      (∀ key text, (env.computeHmac key text).length = kStunMessageIntegritySize) →
      300 ≤ errCode ∧ errCode ≤ 699 → request.transactionId.length = kStunTransactionIdLength →
      (UDPPort.bindingErrorResponse env icePwd request errCode reason).size < 65536 →
      ErrorCodeArrives env icePwd request errCode reason := by
  intro h
  obtain ⟨data, received, -, hread, hvalue, -⟩ := h
    { sampleEnv with computeHmac := fun _ _ ↦ globalFailDigest } samplePort.1.icePwd
    { transactionId := lit "pingnumber01" } 401 stunErrorReasonUnauthorized crc32_lt (fun _ _ ↦ rfl)
    (by decide) (by decide +kernel) (by decide +kernel)
  exact absurd (hvalue.symm.trans (getErrorCodeValue_read hread)) (by decide)

end XrtcServer
