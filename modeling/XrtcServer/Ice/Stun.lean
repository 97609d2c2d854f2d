import XrtcServer.Ice.Candidate
import XrtcServer.Lib.WhileLoop

/-!
# STUN messages

`ice/stun.cpp`: reading, checking and writing STUN messages, byte by byte. CRC32 and HMAC-SHA1 come
from `rtc_base` and are parameters, as is the memory behind a message, because
`_validate_message_integrity_of_type` compares twenty bytes wherever the attribute was found,
without looking at the end of the buffer.

`read` knows three attributes, `USERNAME`, `MESSAGE-INTEGRITY` and `PRIORITY`. All others, the error
code among them, are skipped, and `get_error_code_value` then answers `STUN_ERROR_GLOBAL_FAIL`.
-/

namespace XrtcServer

open ByteString WhileLoop

/-- What the ICE code uses and does not define. -/
structure IceEnv where
  /-- `rtc::ComputeCrc32`. -/
  computeCrc32 : ByteString → ℕ
  /-- `rtc::ComputeHmac` with `DIGEST_SHA_1`, on a key and a text: the bytes it wrote. -/
  computeHmac : ByteString → ByteString → ByteString
  /-- The memory behind the terminating zero of `_buffer`. -/
  heap : ℕ → UInt8
  /-- `rtc::GetNextMovingAverage` on the old average, the new value and the ratio. -/
  getNextMovingAverage : ℤ → ℤ → ℕ → ℤ
  /-- The address of each `IceConnection`, by order of creation. -/
  addrOf : ℕ → ℕ

/-! ## Constants -/

def kStunHeaderSize : ℕ := 20
def kStunAttributeHeaderSize : ℕ := 4
def kStunTransactionIdOffset : ℕ := 8
def kStunTransactionIdLength : ℕ := 12
def kStunMagicCookie : ℕ := 0x2112A442
def kStunMagicCookieLength : ℕ := 4
def kStunMessageIntegritySize : ℕ := 20
def kStunTypeMask : ℕ := 0x0110
def stunFingerprintXorValue : ℕ := 0x5354554e

def stunBindingRequest : ℕ := 0x0001
def stunBindingResponse : ℕ := 0x0101
def stunBindingErrorResponse : ℕ := 0x0111

def stunAttrUsername : ℕ := 0x0006
def stunAttrMessageIntegrity : ℕ := 0x0008
def stunAttrErrorCode : ℕ := 0x0009
def stunAttrXorMappedAddress : ℕ := 0x0020
def stunAttrPriority : ℕ := 0x0024
def stunAttrUseCandidate : ℕ := 0x0025
def stunAttrFingerprint : ℕ := 0x8028
def stunAttrIceControlling : ℕ := 0x802A

def stunErrorBadRequest : ℕ := 400
def stunErrorUnauthorized : ℕ := 401
def stunErrorUnknownAttribute : ℕ := 420
def stunErrorServerError : ℕ := 500
def stunErrorGlobalFail : ℕ := 600

def stunErrorReasonBadRequest : ByteString := lit "Bad request"
def stunErrorReasonUnauthorized : ByteString := lit "Unathorized"

/-! ## Attributes -/

inductive StunAttribute
  | byteString (type : ℕ) (bytes : ByteString)
  | uint32 (type bits : ℕ)
  | uint64 (type bits : ℕ)
  | xorAddress (type : ℕ) (address : SocketAddress)
  | errorCode (type cls number : ℕ) (reason : ByteString)
deriving DecidableEq

inductive StunAttributeValueType
  | unknown
  | uint32
  | byteString
deriving DecidableEq

def getAttributeValueType (type : ℕ) : StunAttributeValueType :=
  if type = stunAttrUsername then .byteString
  else if type = stunAttrMessageIntegrity then .byteString
  else if type = stunAttrPriority then .uint32
  else .unknown

/-- The bytes that fill a value of this length up to a multiple of four. -/
def paddingOf (length : ℕ) : ℕ := if length % 4 = 0 then 0 else 4 - length % 4

namespace StunAttribute

def type : StunAttribute → ℕ
  | byteString type _ => type
  | uint32 type _ => type
  | uint64 type _ => type
  | xorAddress type _ => type
  | errorCode type _ _ _ => type

/-- `length()`, a `uint16_t`. -/
def length : StunAttribute → ℕ
  | byteString _ bytes => bytes.length % 65536
  | uint32 _ _ => 4
  | uint64 _ _ => 8
  | xorAddress _ address =>
    match address.ip with
    | .inet _ => 8
    | .inet6 _ => 20
    | .unspec => 0
  | errorCode _ _ _ reason => (4 + reason.length) % 65536

/-- `create_error_code`, `set_code` and `set_reason`; class and number are bytes, and an `int` is
divided towards zero. -/
def createErrorCode (code : ℤ) (reason : ByteString) : StunAttribute :=
  .errorCode stunAttrErrorCode (code.tdiv 100 % 256).toNat (code.tmod 100 % 256).toNat reason

/-- `StunAttribute::write`; `none` is a failure. `_get_xored_ip` has no case for IPv6. -/
def write : StunAttribute → Option ByteString
  | byteString type bytes =>
    let length := (byteString type bytes).length
    some (bytes.take length ++ List.replicate (paddingOf length) 0)
  | uint32 _ bits => some (putBE32 bits)
  | uint64 _ bits => some (putBE32 (bits / 2 ^ 32) ++ putBE32 bits)
  | xorAddress _ address =>
    match address.ip with
    | .inet addr =>
      some (([0, 1] : ByteString) ++ putBE16 (address.port ^^^ kStunMagicCookie >>> 16)
        ++ putBE32 (addr ^^^ kStunMagicCookie))
    | _ => none
  | errorCode type cls number reason =>
    some (putBE32 (cls <<< 8 ||| number) ++ reason
      ++ List.replicate (paddingOf (errorCode type cls number reason).length) 0)

end StunAttribute

/-! ## Messages -/

inductive IntegrityStatus
  | notSet
  | noIntegrity
  | integrityOk
  | integrityBad
deriving DecidableEq

structure StunMessage where
  type : ℕ := 0
  length : ℕ := 0
  transactionId : ByteString := lit "000000000000"
  attrs : List StunAttribute := []
  integrity : IntegrityStatus := .notSet
  password : ByteString := []
  buffer : ByteString := []
deriving DecidableEq

/-! ### Reading -/

/-- `ReadBytes`, `ReadString` and `Consume`: the next bytes and what follows them. -/
def readBytes (n : ℕ) (buf : ByteString) : Option (ByteString × ByteString) :=
  if n ≤ buf.length then some (buf.take n, buf.drop n) else none

def readUInt16 (buf : ByteString) : Option (ℕ × ByteString) :=
  (readBytes 2 buf).map fun r ↦ (r.1.be16 0, r.2)

def readUInt32 (buf : ByteString) : Option (ℕ × ByteString) :=
  (readBytes 4 buf).map fun r ↦ (r.1.be32 0, r.2)

/-- `consume_padding`, whose result nobody looks at. -/
def consumePadding (length : ℕ) (buf : ByteString) : ByteString :=
  match readBytes (paddingOf length) buf with
  | some (_, rest) => rest
  | none => buf

/-- One round of the attribute loop of `read`: the attribute, if it is one to keep, and the rest.
The length of an unknown attribute is rounded up in sixteen bits. -/
def readAttribute (buf : ByteString) : Option (Option StunAttribute × ByteString) := do
  let (attrType, buf) ← readUInt16 buf
  let (attrLength, buf) ← readUInt16 buf
  match getAttributeValueType attrType with
  | .unknown =>
    let (_, buf) ← readBytes ((attrLength + paddingOf attrLength) % 65536) buf
    some (none, buf)
  | .byteString =>
    let (bytes, buf) ← readBytes attrLength buf
    some (some (.byteString attrType bytes), consumePadding attrLength buf)
  | .uint32 =>
    -- the attribute is made with its own length, so the declared one is not looked at
    let (bits, buf) ← readUInt32 buf
    some (some (.uint32 attrType bits), buf)

/-- `while (buf->Length() > 0)`, with the attributes read so far. -/
def readAttributesBody (s : ByteString × List StunAttribute) :
    Option (List StunAttribute × ByteString) ⊕ (ByteString × List StunAttribute) :=
  if s.1 = [] then .inl (some (s.2, s.1))
  else
    match readAttribute s.1 with
    | none => .inl none
    | some (attr, buf) => .inr (buf, s.2 ++ attr.toList)

def readAttributes (buf : ByteString) : Option (List StunAttribute × ByteString) :=
  (rounds readAttributesBody (buf.length + 1) (buf, [])).join

/-- `StunMessage::read`; `none` is `false`, and what is left in the buffer is the second part. -/
def StunMessage.read (data : ByteString) : Option (StunMessage × ByteString) := do
  let (type, buf) ← readUInt16 data
  -- the comment says "rtp/rtcp 10(2)"
  if type &&& 0x0800 ≠ 0 then none
  else
    let (length, buf) ← readUInt16 buf
    let (magicCookie, buf) ← readBytes kStunMagicCookieLength buf
    let (transactionId, buf) ← readBytes kStunTransactionIdLength buf
    let transactionId :=
      if magicCookie.be32 0 ≠ kStunMagicCookie then magicCookie ++ transactionId
      else transactionId
    if buf.length ≠ length then none
    else
      let (attrs, buf) ← readAttributes buf
      some ({ type, length, transactionId, attrs, buffer := data }, buf)

/-! ### Looking at a message -/

namespace StunMessage

variable (env : IceEnv) (msg : StunMessage)

def getAttribute (type : ℕ) : Option StunAttribute := msg.attrs.find? fun attr ↦ attr.type = type

def getUInt32 (type : ℕ) : Option ℕ :=
  match msg.getAttribute type with
  | some (.uint32 _ bits) => some bits
  | _ => none

/-- `get_byte_string` and `get_string`. -/
def getByteString (type : ℕ) : Option ByteString :=
  match msg.getAttribute type with
  | some (.byteString _ bytes) => some bytes
  | _ => none

def getErrorCodeValue : ℕ :=
  match msg.getAttribute stunAttrErrorCode with
  | some (.errorCode _ cls number _) => cls * 100 + number
  | _ => stunErrorGlobalFail

end StunMessage

/-- `validate_fingerprint`. -/
def validateFingerprint (env : IceEnv) (data : ByteString) : Bool :=
  let fingerprintAttrSize := kStunAttributeHeaderSize + 4
  if data.length % 4 ≠ 0 ∨ data.length < kStunHeaderSize + fingerprintAttrSize then false
  else if data.be32 (kStunTransactionIdOffset - kStunMagicCookieLength) ≠ kStunMagicCookie then
    false
  else
    let pos := data.length - fingerprintAttrSize
    if data.be16 pos ≠ stunAttrFingerprint ∨ data.be16 (pos + 2) ≠ 4 then false
    else
      data.be32 (pos + kStunAttributeHeaderSize) ^^^ stunFingerprintXorValue
        == env.computeCrc32 (data.take pos)

/-! ### Message integrity -/

/-- One round of the loop that looks for an attribute by its type. -/
def locateAttributeBody (attrType : ℕ) (data : ByteString) (pos : ℕ) : Option ℕ ⊕ ℕ :=
  if pos + kStunAttributeHeaderSize ≤ data.length then
    if data.be16 pos = attrType then .inl (some pos)
    else
      let attrLength := data.be16 (pos + 2)
      .inr (pos + (kStunAttributeHeaderSize + attrLength) + paddingOf attrLength)
  else .inl none

def locateAttribute (attrType : ℕ) (data : ByteString) : Option ℕ :=
  (rounds (locateAttributeBody attrType data) (data.length + 1) kStunHeaderSize).join

/-- `n` bytes of memory from `pos` on, where `data` lies at 0. -/
def memoryAt (env : IceEnv) (data : ByteString) (pos n : ℕ) : ByteString :=
  (List.range n).map fun i ↦
    if pos + i < data.length then data.getD (pos + i) 0
    else if pos + i = data.length then 0
    else env.heap (pos + i - data.length - 1)

/-- `rtc::SetBE16`. -/
def setBE16 (data : ByteString) (pos n : ℕ) : ByteString :=
  data.take pos ++ putBE16 n ++ data.drop (pos + 2)

def validateMessageIntegrityOfType (env : IceEnv) (miAttrType miAttrSize : ℕ) (data : ByteString)
    (password : ByteString) : Bool :=
  if data.length % 4 ≠ 0 ∨ data.length < kStunHeaderSize then false
  else if data.be16 2 + kStunHeaderSize ≠ data.length then false
  else
    match locateAttribute miAttrType data with
    | none => false
    | some miPos =>
      let tempData := data.take miPos
      let extraPos := miPos + kStunAttributeHeaderSize + miAttrSize
      let tempData :=
        if data.length > extraPos then
          setBE16 tempData 2 (data.length - (data.length - extraPos) - kStunHeaderSize)
        else tempData
      let hmac := env.computeHmac password tempData
      if hmac.length ≠ kStunMessageIntegritySize then false
      else memoryAt env data (miPos + kStunAttributeHeaderSize) miAttrSize == hmac

namespace StunMessage

/-- `validate_message_integrity`: the message with its verdict. -/
def validateMessageIntegrity (env : IceEnv) (msg : StunMessage) (password : ByteString) :
    StunMessage :=
  { msg with
    password
    integrity :=
      match msg.getByteString stunAttrMessageIntegrity with
      | none => .notSet
      | some _ =>
        if validateMessageIntegrityOfType env stunAttrMessageIntegrity kStunMessageIntegritySize
            msg.buffer password then .integrityOk
        else .integrityBad }

/-! ### Writing -/

/-- `add_attribute`; the length field is a `uint16_t`. -/
def addAttribute (msg : StunMessage) (attr : StunAttribute) : StunMessage :=
  { msg with
    length :=
      (msg.length + (attr.length + paddingOf attr.length) + kStunAttributeHeaderSize) % 65536
    attrs := msg.attrs ++ [attr] }

def write (msg : StunMessage) : Option ByteString := do
  let attrs ← msg.attrs.mapM fun attr ↦ do
    let value ← attr.write
    some (putBE16 attr.type ++ putBE16 attr.length ++ value)
  some (putBE16 msg.type ++ putBE16 msg.length ++ putBE32 kStunMagicCookie ++ msg.transactionId
    ++ attrs.flatten)

/-- The last attribute gets its value after the message with a placeholder was written. -/
def setLast (msg : StunMessage) (attr : StunAttribute) : StunMessage :=
  { msg with attrs := msg.attrs.dropLast ++ [attr] }

/-- `add_fingerprint`; a failed `write` leaves the placeholder. -/
def addFingerprint (env : IceEnv) (msg : StunMessage) : StunMessage :=
  let msg := msg.addAttribute (.uint32 stunAttrFingerprint 0)
  match msg.write with
  | none => msg
  | some buf =>
    let c := env.computeCrc32 (buf.take (buf.length - kStunAttributeHeaderSize - 4))
    msg.setLast (.uint32 stunAttrFingerprint (c ^^^ stunFingerprintXorValue))

/-- `add_message_integrity`; a failed `write` or digest leaves the placeholder. -/
def addMessageIntegrity (env : IceEnv) (msg : StunMessage) (password : ByteString) : StunMessage :=
  let msg := msg.addAttribute (.byteString stunAttrMessageIntegrity
    (List.replicate kStunMessageIntegritySize 48))
  match msg.write with
  | none => msg
  | some buf =>
    let hmac := env.computeHmac password
      (buf.take (buf.length - kStunAttributeHeaderSize - kStunMessageIntegritySize))
    if hmac.length ≠ kStunMessageIntegritySize then msg
    else
      { msg.setLast (.byteString stunAttrMessageIntegrity hmac) with
        password, integrity := .integrityOk }

end StunMessage

/-! ### Message types -/

def isStunRequestType (reqType : ℕ) : Bool := reqType &&& kStunTypeMask == 0

/-- `get_stun_success_response`; `-1` when there is none. -/
def getStunSuccessResponse (reqType : ℕ) : ℤ :=
  if isStunRequestType reqType then (reqType ||| 0x100 : ℕ) else -1

/-- `get_stun_error_response`; `-1` when there is none. -/
def getStunErrorResponse (reqType : ℕ) : ℤ :=
  if isStunRequestType reqType then (reqType ||| 0x110 : ℕ) else -1

example : getStunErrorResponse stunBindingRequest = stunBindingErrorResponse := by decide

/-! ## The two loops run to their end -/

theorem readBytes_eq_some {n : ℕ} {buf bytes rest : ByteString}
    (h : readBytes n buf = some (bytes, rest)) : n + rest.length = buf.length := by
  rw [readBytes] at h
  split_ifs at h with hn
  cases h
  rw [List.length_drop]
  omega

theorem readUInt16_length {n : ℕ} {buf rest : ByteString} (h : readUInt16 buf = some (n, rest)) :
    2 + rest.length = buf.length := by
  rw [readUInt16] at h
  obtain ⟨⟨bytes, rest'⟩, hr, he⟩ := Option.map_eq_some_iff.mp h
  cases he
  exact readBytes_eq_some hr

theorem readUInt32_length {n : ℕ} {buf rest : ByteString} (h : readUInt32 buf = some (n, rest)) :
    4 + rest.length = buf.length := by
  rw [readUInt32] at h
  obtain ⟨⟨bytes, rest'⟩, hr, he⟩ := Option.map_eq_some_iff.mp h
  cases he
  exact readBytes_eq_some hr

theorem length_consumePadding_le (n : ℕ) (buf : ByteString) :
    (consumePadding n buf).length ≤ buf.length := by
  rw [consumePadding]
  rcases hr : readBytes (paddingOf n) buf with _ | ⟨bytes, rest⟩
  · exact le_rfl
  · have := readBytes_eq_some hr
    dsimp only
    omega

theorem readAttribute_length {buf rest : ByteString} {attr : Option StunAttribute}
    (h : readAttribute buf = some (attr, rest)) : rest.length + 4 ≤ buf.length := by
  rw [readAttribute] at h
  obtain ⟨⟨attrType, buf₁⟩, h₁, h⟩ := Option.bind_eq_some_iff.mp h
  obtain ⟨⟨attrLength, buf₂⟩, h₂, h⟩ := Option.bind_eq_some_iff.mp h
  have hl₁ := readUInt16_length h₁
  have hl₂ := readUInt16_length h₂
  dsimp only at h
  rcases hv : getAttributeValueType attrType with _ | _ | _ <;> rw [hv] at h <;>
    obtain ⟨⟨value, buf₃⟩, h₃, h⟩ := Option.bind_eq_some_iff.mp h <;> cases h <;> dsimp only
  · have := readBytes_eq_some h₃
    omega
  · have := readUInt32_length h₃
    omega
  · have := readBytes_eq_some h₃
    have := length_consumePadding_le attrLength buf₃
    omega

theorem exits_readAttributes (buf : ByteString) :
    Exits readAttributesBody (buf, []) (readAttributes buf) := by
  have hstep : ∀ s s', readAttributesBody s = .inr s' → s'.1.length < s.1.length := by
    intro s s' h
    rw [readAttributesBody] at h
    split_ifs at h
    rcases ha : readAttribute s.1 with _ | ⟨attr, rest⟩ <;> rw [ha] at h <;> cases h
    have := readAttribute_length ha
    dsimp only
    omega
  obtain ⟨r, hr⟩ := exists_rounds_eq_some readAttributesBody (fun s ↦ s.1.length) hstep
    (s := (buf, [])) (n := buf.length + 1) (Nat.lt_succ_self _)
  rw [readAttributes, hr]
  exact exits_of_rounds hr

theorem exits_locateAttribute (attrType : ℕ) (data : ByteString) :
    Exits (locateAttributeBody attrType data) kStunHeaderSize (locateAttribute attrType data) := by
  have hstep : ∀ pos pos', locateAttributeBody attrType data pos = .inr pos' →
      data.length - pos' < data.length - pos := by
    intro pos pos' h
    rw [locateAttributeBody] at h
    split_ifs at h with hpos
    cases h
    simp only [kStunAttributeHeaderSize] at hpos ⊢
    omega
  obtain ⟨r, hr⟩ := exists_rounds_eq_some (locateAttributeBody attrType data) _ hstep
    (s := kStunHeaderSize) (n := data.length + 1) (by omega)
  rw [locateAttribute, hr]
  exact exits_of_rounds hr

end XrtcServer
