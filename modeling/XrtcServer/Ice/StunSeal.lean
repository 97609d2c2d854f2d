import XrtcServer.Ice.StunCodec

/-!
# Sealed messages

Two attributes of a STUN message are computed from the message itself: the message integrity from
what stands before it, and the fingerprint from all that stands before it. Each is added with a
placeholder first, so that the length field counts it, and gets its value when the rest is written.

## Two lengths

When the fingerprint is added, the length field changes once more. `validate_message_integrity` has
to come to the bytes that were signed from the other side: it cuts the message where it finds the
attribute and puts the old length back. The fingerprint comes last and is computed from the final
length, so its check needs no such detour.

## The seal

`read_sealed` says that the two meet: a message that was built from well-formed attributes, sealed
and written, passes both checks, and `read` gives its type and its transaction id. Nothing is
assumed of the digest but that it has twenty bytes, and of the checksum that it has 32 bits.
-/

namespace XrtcServer

open ByteString WhileLoop

namespace StunMessage

variable {msg : StunMessage} {attrs : List StunAttribute}

/-! ## The fingerprint

The fingerprint is the last attribute, so what it is computed from is the message without its last
eight bytes, on both sides. -/

theorem length_header {type length : ℕ} {transactionId : ByteString}
    (htid : transactionId.length = kStunTransactionIdLength) :
    (header type length transactionId).length = kStunHeaderSize := by
  rw [header, List.length_append, htid]
  rfl

theorem be16_header {type length : ℕ} (hlength : length < 65536)
    (transactionId rest : ByteString) :
    (header type length transactionId ++ rest).be16 2 = length := by
  have hright := be16_append_right (putBE16 type)
    (putBE16 length ++ (putBE32 kStunMagicCookie ++ (transactionId ++ rest))) 0
  rw [be16_putBE16, Nat.mod_eq_of_lt hlength] at hright
  rw [header, List.append_assoc, List.append_assoc, List.append_assoc]
  exact hright

theorem be32_header (type length : ℕ) (transactionId rest : ByteString) :
    (header type length transactionId ++ rest).be32
      (kStunTransactionIdOffset - kStunMagicCookieLength) = kStunMagicCookie := by
  have hright := be32_append_right (putBE16 type ++ putBE16 length)
    (putBE32 kStunMagicCookie ++ (transactionId ++ rest)) 0
  rw [be32_putBE32] at hright
  rw [header, List.append_assoc, List.append_assoc]
  exact hright

theorem write_addAttribute (h : msg.WellBuilt) {attr : StunAttribute} (ha : attr.WellFormed)
    (hsize : msg.size + attr.size < 65536) :
    (msg.addAttribute attr).write = some (header msg.type (msg.size + attr.size) msg.transactionId
      ++ body msg.attrs ++ attr.bytes) := by
  have hbuilt := h.addAttribute ha
  have hsum : (msg.addAttribute attr).size = msg.size + attr.size := by
    simp [StunMessage.addAttribute, size]
  have hbody : body (msg.attrs ++ [attr]) = body msg.attrs ++ attr.bytes := by
    simp [body]
  rw [write_eq hbuilt.attrs, hbuilt.length (by omega), hsum, List.append_assoc, ← hbody]
  rfl

/-- The part of a written message that an attribute at its end is computed from. -/
theorem take_append_bytes {attr : StunAttribute} (ha : attr.WellFormed) (hsize : attr.size < 65536)
    (s : ByteString) :
    (s ++ attr.bytes).take ((s ++ attr.bytes).length - attr.size) = s := by
  rw [List.length_append, StunAttribute.length_bytes ha hsize, Nat.add_sub_cancel, List.take_left]

/-- The fingerprint attribute with this value. -/
def fingerprintAttr (value : ℕ) : StunAttribute := .uint32 stunAttrFingerprint value

theorem wellFormed_fingerprintAttr (value : ℕ) : (fingerprintAttr value).WellFormed where
  type_lt := (by decide : stunAttrFingerprint < 65536)
  writes := rfl
  kind := by
    have hunknown : getAttributeValueType (fingerprintAttr value).type = .unknown := rfl
    rw [StunAttribute.KindOk, hunknown]
    trivial

@[simp] theorem size_fingerprintAttr (value : ℕ) : (fingerprintAttr value).size = 8 := by
  simp [fingerprintAttr, StunAttribute.size, StunAttribute.valueSize, StunAttribute.length,
    paddingOf, kStunAttributeHeaderSize]

theorem length_bytes_fingerprintAttr (value : ℕ) : (fingerprintAttr value).bytes.length = 8 := rfl

theorem be32_bytes_fingerprintAttr {value : ℕ} (hvalue : value < 2 ^ 32) (pre : ByteString) :
    (pre ++ (fingerprintAttr value).bytes).be32 (pre.length + kStunAttributeHeaderSize) =
      value := by
  have hright := be32_append_right
    (putBE16 stunAttrFingerprint ++ putBE16 (fingerprintAttr value).length) (putBE32 value ++ []) 0
  rw [be32_putBE32, Nat.mod_eq_of_lt hvalue, List.append_nil] at hright
  rw [be32_append_right]
  exact hright

/-- The fingerprint is the checksum of the message with the length it has in the end. -/
theorem addFingerprint_eq (env : IceEnv) (h : msg.WellBuilt) (hsize : msg.size + 8 < 65536) :
    msg.addFingerprint env =
      { msg with
        length := msg.size + 8
        attrs := msg.attrs ++ [fingerprintAttr (env.computeCrc32
          (header msg.type (msg.size + 8) msg.transactionId ++ body msg.attrs)
            ^^^ stunFingerprintXorValue)] } := by
  have hwf := wellFormed_fingerprintAttr 0
  have hattr : (fingerprintAttr 0).size = 8 := size_fingerprintAttr 0
  have hlength : (msg.addAttribute (fingerprintAttr 0)).length = msg.size + 8 := by
    have hsum : (msg.addAttribute (fingerprintAttr 0)).size = msg.size + 8 := by
      simp [StunMessage.addAttribute, size, hattr]
    rw [(h.addAttribute hwf).length (by omega), hsum]
  have htake := take_append_bytes hwf (by decide)
    (header msg.type (msg.size + 8) msg.transactionId ++ body msg.attrs)
  rw [hattr] at htake
  rw [addFingerprint, ← fingerprintAttr, write_addAttribute h hwf (by omega), hattr]
  dsimp only
  rw [Nat.sub_sub, kStunAttributeHeaderSize, htake, setLast, hlength]
  simp [StunMessage.addAttribute, fingerprintAttr]

theorem validateFingerprint_of_crc (env : IceEnv) (hcrc : ∀ data, env.computeCrc32 data < 2 ^ 32)
    {type length : ℕ} {transactionId : ByteString}
    (htid : transactionId.length = kStunTransactionIdLength)
    (h : ∀ attr ∈ attrs, attr.WellFormed) (hsize : (attrs.map StunAttribute.size).sum < 65536) :
    let signed := header type length transactionId ++ body attrs
    validateFingerprint env (signed ++
      (fingerprintAttr (env.computeCrc32 signed ^^^ stunFingerprintXorValue)).bytes) = true := by
  intro signed
  have hwf := wellFormed_fingerprintAttr (env.computeCrc32 signed ^^^ stunFingerprintXorValue)
  set attr := fingerprintAttr (env.computeCrc32 signed ^^^ stunFingerprintXorValue) with hattr
  have hsigned : signed.length = kStunHeaderSize + (attrs.map StunAttribute.size).sum := by
    rw [List.length_append, length_header htid, length_body h hsize]
  have hdvd := dvd_sum_size attrs
  have hlength : (signed ++ attr.bytes).length = signed.length + 8 := List.length_append
  have hcookie : (signed ++ attr.bytes).be32
      (kStunTransactionIdOffset - kStunMagicCookieLength) = kStunMagicCookie := by
    rw [List.append_assoc]
    exact be32_header type length transactionId (body attrs ++ attr.bytes)
  have htypePos := be16_bytes hwf signed []
  rw [List.append_nil] at htypePos
  have hattrSize : attr.size = 8 := size_fingerprintAttr _
  have hsizePos := be16_bytes_length attr (by omega) signed []
  rw [List.append_nil] at hsizePos
  have hvalue : (signed ++ attr.bytes).be32 (signed.length + kStunAttributeHeaderSize) =
      env.computeCrc32 signed ^^^ stunFingerprintXorValue :=
    be32_bytes_fingerprintAttr (Nat.xor_lt_two_pow (hcrc signed) (by decide)) signed
  have hheader : ¬(attr.type ≠ stunAttrFingerprint ∨ attr.valueSize ≠ 4) := by
    rintro (hne | hne) <;> exact hne rfl
  rw [validateFingerprint]
  dsimp only
  rw [hlength, if_neg, hcookie, if_neg (not_not.mpr rfl)]
  · have hpos : signed.length + 8 - (kStunAttributeHeaderSize + 4) = signed.length := by
      rw [kStunAttributeHeaderSize, Nat.add_sub_cancel]
    rw [hpos, htypePos, hsizePos, if_neg hheader, hvalue, List.take_left,
      Nat.xor_assoc, Nat.xor_self, Nat.xor_zero]
    exact beq_self_eq_true _
  · rw [hsigned, kStunHeaderSize, kStunAttributeHeaderSize]
    omega

/-! ## The message integrity

When the digest is computed the length field counts the message integrity and nothing behind it. The
verifier has the final length, and replaces it by the distance from the header to the end of the
attribute it has found, which is the same number. -/

/-- The message integrity attribute with this digest. -/
def integrityAttr (digest : ByteString) : StunAttribute :=
  .byteString stunAttrMessageIntegrity digest

theorem wellFormed_integrityAttr (digest : ByteString) : (integrityAttr digest).WellFormed where
  type_lt := (by decide : stunAttrMessageIntegrity < 65536)
  writes := rfl
  kind := by
    have hkind : getAttributeValueType (integrityAttr digest).type = .byteString := rfl
    rw [StunAttribute.KindOk, hkind]
    exact ⟨digest, rfl⟩

theorem size_integrityAttr {digest : ByteString} (h : digest.length = kStunMessageIntegritySize) :
    (integrityAttr digest).size = 24 := by
  simp [integrityAttr, StunAttribute.size, StunAttribute.valueSize, h, paddingOf,
    kStunAttributeHeaderSize, kStunMessageIntegritySize]

theorem bytes_integrityAttr {digest : ByteString} (h : digest.length = kStunMessageIntegritySize) :
    (integrityAttr digest).bytes =
      putBE16 stunAttrMessageIntegrity ++ putBE16 kStunMessageIntegritySize ++ digest := by
  have hlength : (integrityAttr digest).length = kStunMessageIntegritySize := by
    rw [integrityAttr, StunAttribute.length, h]
    rfl
  have hvalue : (integrityAttr digest).value = digest := by
    rw [StunAttribute.value, integrityAttr, StunAttribute.write, ← integrityAttr, hlength,
      Option.getD_some, ← h, List.take_length, h]
    simp [paddingOf, kStunMessageIntegritySize]
  rw [StunAttribute.bytes, hlength, hvalue]
  rfl

theorem length_bytes_integrityAttr {digest : ByteString}
    (h : digest.length = kStunMessageIntegritySize) : (integrityAttr digest).bytes.length = 24 := by
  rw [bytes_integrityAttr h, List.length_append, h]
  rfl

/-- The digest is that of the message with the length it has before the fingerprint. -/
theorem addMessageIntegrity_eq (env : IceEnv)
    (hhmac : ∀ key text, (env.computeHmac key text).length = kStunMessageIntegritySize)
    (h : msg.WellBuilt) (hsize : msg.size + 24 < 65536) (password : ByteString) :
    msg.addMessageIntegrity env password =
      { msg with
        length := msg.size + 24
        attrs := msg.attrs ++ [integrityAttr (env.computeHmac password
          (header msg.type (msg.size + 24) msg.transactionId ++ body msg.attrs))]
        password, integrity := .integrityOk } := by
  let placeholder := integrityAttr (List.replicate kStunMessageIntegritySize 48)
  have hwf : placeholder.WellFormed := wellFormed_integrityAttr _
  have hattr : placeholder.size = 24 := size_integrityAttr (List.length_replicate ..)
  have hlength : (msg.addAttribute placeholder).length = msg.size + 24 := by
    have hsum : (msg.addAttribute placeholder).size = msg.size + 24 := by
      simp [StunMessage.addAttribute, size, hattr]
    rw [(h.addAttribute hwf).length (by omega), hsum]
  let signed := header msg.type (msg.size + 24) msg.transactionId ++ body msg.attrs
  have hwrite : (msg.addAttribute placeholder).write = some (signed ++ placeholder.bytes) := by
    rw [write_addAttribute h hwf (by omega), hattr]
  have htake : (signed ++ placeholder.bytes).take ((signed ++ placeholder.bytes).length -
      kStunAttributeHeaderSize - kStunMessageIntegritySize) = signed := by
    have htake := take_append_bytes hwf (by omega) signed
    rwa [hattr] at htake
  have hdigest : ¬(env.computeHmac password signed).length ≠ kStunMessageIntegritySize :=
    not_not.mpr (hhmac password signed)
  calc msg.addMessageIntegrity env password
      = { (msg.addAttribute placeholder).setLast
            (integrityAttr (env.computeHmac password signed)) with
          password, integrity := .integrityOk } := by
        rw [addMessageIntegrity, ← integrityAttr]
        dsimp only
        rw [hwrite]
        dsimp only
        rw [htake, if_neg hdigest]
        rfl
    _ = _ := by
        rw [setLast, hlength]
        simp [StunMessage.addAttribute, signed]

theorem memoryAt_append (env : IceEnv) (pre bytes rest : ByteString) :
    memoryAt env (pre ++ (bytes ++ rest)) pre.length bytes.length = bytes := by
  refine List.ext_getElem (by simp [memoryAt]) fun i hi hi' ↦ ?_
  have hlt : pre.length + i < (pre ++ (bytes ++ rest)).length := by
    rw [List.length_append, List.length_append]
    omega
  simp only [memoryAt, List.getElem_map, List.getElem_range, if_pos hlt]
  rw [List.getD_eq_getElem?_getD, List.getElem?_append_right (Nat.le_add_right ..),
    Nat.add_sub_cancel_left, List.getElem?_append_left hi', List.getElem?_eq_getElem hi']
  rfl

theorem memoryAt_integrityAttr (env : IceEnv) {digest : ByteString}
    (h : digest.length = kStunMessageIntegritySize) (pre rest : ByteString) :
    memoryAt env (pre ++ ((integrityAttr digest).bytes ++ rest))
      (pre.length + kStunAttributeHeaderSize) kStunMessageIntegritySize = digest := by
  have hmem := memoryAt_append env (pre ++ (putBE16 stunAttrMessageIntegrity ++
    putBE16 kStunMessageIntegritySize)) digest rest
  have hsplit : pre ++ ((integrityAttr digest).bytes ++ rest) = pre ++
      (putBE16 stunAttrMessageIntegrity ++ putBE16 kStunMessageIntegritySize) ++
        (digest ++ rest) := by
    simp [bytes_integrityAttr h]
  have hpos : (pre ++ (putBE16 stunAttrMessageIntegrity ++
      putBE16 kStunMessageIntegritySize)).length = pre.length + kStunAttributeHeaderSize :=
    List.length_append
  rw [h, ← hsplit, hpos] at hmem
  exact hmem

/-- What a verified message is, once its integrity attribute is found at `miPos`. -/
theorem validateMessageIntegrityOfType_of_located (env : IceEnv) {data key text : ByteString}
    {miPos : ℕ} (hdvd : 4 ∣ data.length) (hhead : kStunHeaderSize ≤ data.length)
    (hfield : data.be16 2 + kStunHeaderSize = data.length)
    (hlocate : locateAttribute stunAttrMessageIntegrity data = some miPos)
    (hlong : miPos + kStunAttributeHeaderSize + kStunMessageIntegritySize < data.length)
    (htext : setBE16 (data.take miPos) 2
      (miPos + kStunAttributeHeaderSize + kStunMessageIntegritySize - kStunHeaderSize) = text)
    (hdigest : (env.computeHmac key text).length = kStunMessageIntegritySize)
    (hmemory : memoryAt env data (miPos + kStunAttributeHeaderSize) kStunMessageIntegritySize =
      env.computeHmac key text) :
    validateMessageIntegrityOfType env stunAttrMessageIntegrity kStunMessageIntegritySize data key =
      true := by
  have hmod : ¬(data.length % 4 ≠ 0 ∨ data.length < kStunHeaderSize) := by omega
  have hsub : data.length - (data.length -
      (miPos + kStunAttributeHeaderSize + kStunMessageIntegritySize)) - kStunHeaderSize =
      miPos + kStunAttributeHeaderSize + kStunMessageIntegritySize - kStunHeaderSize := by omega
  rw [validateMessageIntegrityOfType, if_neg hmod, if_neg (not_not.mpr hfield), hlocate]
  dsimp only
  rw [if_pos hlong, hsub, htext, if_neg (not_not.mpr hdigest), hmemory]
  exact beq_self_eq_true _

/-- The verifier comes to the bytes that were signed, although the length field has changed
since. -/
theorem validateMessageIntegrityOfType_body (env : IceEnv)
    (hhmac : ∀ key text, (env.computeHmac key text).length = kStunMessageIntegritySize)
    (type : ℕ) {transactionId : ByteString}
    (htid : transactionId.length = kStunTransactionIdLength)
    (h : ∀ attr ∈ attrs, attr.WellFormed)
    (hne : ∀ attr ∈ attrs, attr.type ≠ stunAttrMessageIntegrity)
    {n : ℕ} (hn : n = (attrs.map StunAttribute.size).sum) (hsize : n + 32 < 65536)
    (key : ByteString) (value : ℕ) :
    validateMessageIntegrityOfType env stunAttrMessageIntegrity kStunMessageIntegritySize
      (header type (n + 32) transactionId ++ body attrs ++ ((integrityAttr (env.computeHmac key
        (header type (n + 24) transactionId ++ body attrs))).bytes ++
          (fingerprintAttr value).bytes))
      key = true := by
  let text := header type (n + 24) transactionId ++ body attrs
  let digest := env.computeHmac key text
  let pre := header type (n + 32) transactionId ++ body attrs
  let mi := (integrityAttr digest).bytes
  let fp := (fingerprintAttr value).bytes
  have hdigest : digest.length = kStunMessageIntegritySize := hhmac key text
  have hdvd : 4 ∣ n := hn ▸ dvd_sum_size attrs
  have hheader : (header type (n + 32) transactionId).length = kStunHeaderSize := length_header htid
  have hpre : pre.length = kStunHeaderSize + n := by
    rw [List.length_append, hheader, length_body h (by omega), hn]
  have hmi : mi.length = 24 := length_bytes_integrityAttr hdigest
  have hfp : fp.length = 8 := length_bytes_fingerprintAttr value
  have hlength : (pre ++ (mi ++ fp)).length = kStunHeaderSize + n + 32 := by
    calc (pre ++ (mi ++ fp)).length = pre.length + (mi ++ fp).length := List.length_append
      _ = pre.length + (mi.length + fp.length) := congrArg _ List.length_append
      _ = kStunHeaderSize + n + 32 := by rw [hpre, hmi, hfp]
  have hheadSize : kStunHeaderSize = 20 := rfl
  have hsizes : kStunAttributeHeaderSize + kStunMessageIntegritySize = 24 := rfl
  have hfield : (pre ++ (mi ++ fp)).be16 2 = n + 32 := by
    rw [List.append_assoc]
    exact be16_header hsize transactionId (body attrs ++ (mi ++ fp))
  have hlocate :
      locateAttribute stunAttrMessageIntegrity (pre ++ (mi ++ fp)) = some pre.length := by
    have hexits := exits_locateAttribute_body h (by omega) hne (wellFormed_integrityAttr digest) rfl
      (header type (n + 32) transactionId) fp
    rw [← List.append_assoc, hheader, ← hn, ← hpre] at hexits
    exact (exits_locateAttribute stunAttrMessageIntegrity _).unique hexits
  have htext : setBE16 ((pre ++ (mi ++ fp)).take pre.length) 2
      (pre.length + kStunAttributeHeaderSize + kStunMessageIntegritySize - kStunHeaderSize) =
      text := by
    have hnew : pre.length + kStunAttributeHeaderSize + kStunMessageIntegritySize -
        kStunHeaderSize = n + 24 := by omega
    rw [List.take_left, hnew]
    rfl
  have hmemory : memoryAt env (pre ++ (mi ++ fp)) (pre.length + kStunAttributeHeaderSize)
      kStunMessageIntegritySize = digest := memoryAt_integrityAttr env hdigest pre fp
  have hdvd' : 4 ∣ (pre ++ (mi ++ fp)).length := by omega
  have hhead : kStunHeaderSize ≤ (pre ++ (mi ++ fp)).length := by omega
  have hfield' : (pre ++ (mi ++ fp)).be16 2 + kStunHeaderSize = (pre ++ (mi ++ fp)).length := by
    omega
  have hlong : pre.length + kStunAttributeHeaderSize + kStunMessageIntegritySize <
      (pre ++ (mi ++ fp)).length := by omega
  exact validateMessageIntegrityOfType_of_located env hdvd' hhead hfield' hlocate hlong htext
    hdigest hmemory

/-! ## Messages as they leave -/

@[simp] theorem size_addAttribute (msg : StunMessage) (attr : StunAttribute) :
    (msg.addAttribute attr).size = msg.size + attr.size := by
  simp [StunMessage.addAttribute, size]

theorem size_addFingerprint (env : IceEnv) (msg : StunMessage) :
    (msg.addFingerprint env).size = msg.size + 8 := by
  have hattr (value : ℕ) : (StunAttribute.uint32 stunAttrFingerprint value).size = 8 :=
    size_fingerprintAttr value
  rw [addFingerprint]
  split
  · rw [size_addAttribute, hattr]
  · simp [setLast, size, StunMessage.addAttribute, hattr]

theorem size_addMessageIntegrity (env : IceEnv)
    (hhmac : ∀ key text, (env.computeHmac key text).length = kStunMessageIntegritySize)
    (msg : StunMessage) (key : ByteString) :
    (msg.addMessageIntegrity env key).size = msg.size + 24 := by
  have hattr {digest : ByteString} (h : digest.length = kStunMessageIntegritySize) :
      (StunAttribute.byteString stunAttrMessageIntegrity digest).size = 24 := size_integrityAttr h
  have hplaceholder : (StunAttribute.byteString stunAttrMessageIntegrity
      (List.replicate kStunMessageIntegritySize 48)).size = 24 := hattr (List.length_replicate ..)
  rw [addMessageIntegrity]
  split
  · rw [size_addAttribute, hplaceholder]
  · simp [setLast, size, StunMessage.addAttribute, hattr (hhmac _ _), hhmac]

@[simp] theorem type_addFingerprint (env : IceEnv) (msg : StunMessage) :
    (msg.addFingerprint env).type = msg.type := by
  rw [addFingerprint]
  split <;> rfl

@[simp] theorem transactionId_addFingerprint (env : IceEnv) (msg : StunMessage) :
    (msg.addFingerprint env).transactionId = msg.transactionId := by
  rw [addFingerprint]
  split <;> rfl

@[simp] theorem type_addMessageIntegrity (env : IceEnv) (msg : StunMessage) (key : ByteString) :
    (msg.addMessageIntegrity env key).type = msg.type := by
  rw [addMessageIntegrity]
  split
  · rfl
  · dsimp only
    split_ifs <;> rfl

@[simp] theorem transactionId_addMessageIntegrity (env : IceEnv) (msg : StunMessage)
    (key : ByteString) : (msg.addMessageIntegrity env key).transactionId = msg.transactionId := by
  rw [addMessageIntegrity]
  split
  · rfl
  · dsimp only
    split_ifs <;> rfl

/-- A message with a fingerprint passes the check, and `read` gives its type, its transaction id and
the attributes it knows. -/
theorem read_addFingerprint (env : IceEnv) (hcrc : ∀ data, env.computeCrc32 data < 2 ^ 32)
    (h : msg.WellBuilt) (htype : msg.type < 65536) (htypeBit : msg.type &&& 0x0800 = 0)
    (htid : msg.transactionId.length = kStunTransactionIdLength) (hsize : msg.size + 8 < 65536) :
    ∃ data value, (msg.addFingerprint env).write = some data ∧
      data = header msg.type (msg.size + 8) msg.transactionId ++ body msg.attrs
        ++ (fingerprintAttr value).bytes ∧
      validateFingerprint env data = true ∧
      StunMessage.read data = some ({ type := msg.type, length := msg.size + 8
                                      transactionId := msg.transactionId
                                      attrs := msg.attrs.filterMap StunAttribute.received
                                      buffer := data }, []) := by
  let signed := header msg.type (msg.size + 8) msg.transactionId ++ body msg.attrs
  let attr := fingerprintAttr (env.computeCrc32 signed ^^^ stunFingerprintXorValue)
  have hall : ∀ a ∈ msg.attrs ++ [attr], a.WellFormed := by
    intro a ha
    rcases List.mem_append.mp ha with ha | ha
    · exact h.attrs a ha
    · obtain rfl := List.mem_singleton.mp ha
      exact wellFormed_fingerprintAttr _
  have hbody : header msg.type (msg.size + 8) msg.transactionId ++ body (msg.attrs ++ [attr]) =
      signed ++ attr.bytes := by
    simp [signed, body]
  have hsum : ((msg.attrs ++ [attr]).map StunAttribute.size).sum = msg.size + 8 := by
    simp [attr, size]
  have hknown : (msg.attrs ++ [attr]).filterMap StunAttribute.received =
      msg.attrs.filterMap StunAttribute.received := by
    simp [attr, StunAttribute.received, fingerprintAttr, StunAttribute.type, getAttributeValueType,
      stunAttrFingerprint, stunAttrUsername, stunAttrMessageIntegrity, stunAttrPriority]
  refine ⟨signed ++ attr.bytes, _, ?_, rfl, ?_, ?_⟩
  · rw [addFingerprint_eq env h hsize, write_eq hall]
    exact congrArg some hbody
  · exact validateFingerprint_of_crc env hcrc htid h.attrs
      (Nat.lt_of_le_of_lt (Nat.le_add_right ..) hsize)
  · have hread := read_header_body htype htypeBit htid hall hsum.symm hsize
    rw [hbody, hknown] at hread
    exact hread

/-- The digest is the only attribute of its type, so it is the one that is looked up. -/
theorem find_integrityAttr (hne : ∀ attr ∈ attrs, attr.type ≠ stunAttrMessageIntegrity)
    (digest : ByteString) :
    ((attrs ++ [integrityAttr digest]).filterMap StunAttribute.received).find?
      (fun attr ↦ attr.type = stunAttrMessageIntegrity) = some (integrityAttr digest) := by
  have hnone : (attrs.filterMap StunAttribute.received).find?
      (fun attr ↦ attr.type = stunAttrMessageIntegrity) = none := by
    rw [List.find?_eq_none]
    intro attr ha
    obtain ⟨a, hmem, hreceived⟩ := List.mem_filterMap.mp ha
    rw [StunAttribute.received] at hreceived
    split_ifs at hreceived
    obtain rfl := Option.some.inj hreceived
    simpa using hne a hmem
  have hreceived : (integrityAttr digest).received = some (integrityAttr digest) := rfl
  rw [List.filterMap_append, List.find?_append, hnone, Option.none_or,
    List.filterMap_cons_some hreceived]
  exact List.find?_cons_of_pos (decide_eq_true rfl)

/-- A message sealed with both attributes passes both checks. -/
theorem read_sealed (env : IceEnv) (hcrc : ∀ data, env.computeCrc32 data < 2 ^ 32)
    (hhmac : ∀ key text, (env.computeHmac key text).length = kStunMessageIntegritySize)
    (h : msg.WellBuilt) (hne : ∀ attr ∈ msg.attrs, attr.type ≠ stunAttrMessageIntegrity)
    (htype : msg.type < 65536) (htypeBit : msg.type &&& 0x0800 = 0)
    (htid : msg.transactionId.length = kStunTransactionIdLength) (hsize : msg.size + 32 < 65536)
    (key : ByteString) :
    ∃ data received, ((msg.addMessageIntegrity env key).addFingerprint env).write = some data ∧
      validateFingerprint env data = true ∧ StunMessage.read data = some (received, []) ∧
      received.type = msg.type ∧ received.transactionId = msg.transactionId ∧
      (received.validateMessageIntegrity env key).integrity = .integrityOk := by
  let digest := env.computeHmac key
    (header msg.type (msg.size + 24) msg.transactionId ++ body msg.attrs)
  have heq := addMessageIntegrity_eq env hhmac h (by omega) key
  have hsum := size_addMessageIntegrity env hhmac msg key
  have hbuilt : (msg.addMessageIntegrity env key).WellBuilt := by
    refine ⟨fun a ha ↦ ?_, fun _ ↦ ?_⟩
    · rw [heq] at ha
      rcases List.mem_append.mp ha with ha | ha
      · exact h.attrs a ha
      · obtain rfl := List.mem_singleton.mp ha
        exact wellFormed_integrityAttr digest
    · rw [hsum, heq]
  have htype' : (msg.addMessageIntegrity env key).type = msg.type := by rw [heq]
  have htid' : (msg.addMessageIntegrity env key).transactionId = msg.transactionId := by rw [heq]
  have hattrs : (msg.addMessageIntegrity env key).attrs = msg.attrs ++ [integrityAttr digest] := by
    rw [heq]
  obtain ⟨data, value, hwrite, hdata, hfingerprint, hread⟩ := read_addFingerprint env hcrc hbuilt
    (htype' ▸ htype) (htype' ▸ htypeBit) (htid' ▸ htid) (by omega)
  rw [htype', htid', hsum, hattrs] at hread hdata
  refine ⟨data, _, hwrite, hfingerprint, hread, rfl, rfl, ?_⟩
  have hfind := find_integrityAttr hne digest
  have hvalid := validateMessageIntegrityOfType_body env hhmac msg.type htid h.attrs hne
    (rfl : msg.size = _) hsize key value
  have hsplit : header msg.type (msg.size + 32) msg.transactionId ++ body msg.attrs ++
      ((integrityAttr digest).bytes ++ (fingerprintAttr value).bytes) = data := by
    simp [hdata, body]
  rw [hsplit] at hvalid
  dsimp only [validateMessageIntegrity, getByteString, getAttribute]
  rw [hfind]
  dsimp only [integrityAttr]
  rw [hvalid]
  rfl

end StunMessage

end XrtcServer
