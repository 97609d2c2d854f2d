import Mathlib.Algebra.BigOperators.Ring.List
import XrtcServer.Ice.UDPPort

/-!
# What is written is read

`StunMessage::write` puts a header and the attributes one after the other, each padded to a multiple
of four. `read` takes such bytes apart again: it comes back with the type, the transaction id and
those attributes it knows, and the loop of `_validate_message_integrity_of_type` walks over the same
boundaries.

## Attributes

An attribute is `WellFormed` if it can be written and is of the kind that `read` makes of its type;
then `read` takes its bytes off the front, and keeps it if it knows the type (`received`). The kinds
differ in the writer only: to the reader an attribute is a header and as many bytes as it says.

## Messages

`attrs_of_read` and the lemmas about the two loops lift this to a list of attributes. Nothing here
is about the two attributes that are computed from the message itself; they are the subject of
`Ice/StunSeal.lean`.
-/

namespace XrtcServer

open ByteString WhileLoop

/-! ## Attributes on the wire

The writer computes the padding from the length of the value and the reader from the declared one.
They are the same for an attribute that is `WellFormed`. -/

theorem dvd_add_paddingOf (n : ℕ) : 4 ∣ n + paddingOf n := by
  rw [paddingOf]
  split_ifs <;> omega

namespace StunAttribute

/-- The length of the value, before `length()` cuts it down to sixteen bits. -/
def valueSize : StunAttribute → ℕ
  | byteString _ bytes => bytes.length
  | errorCode _ _ _ reason => 4 + reason.length
  | attr => attr.length

/-- The bytes the attribute takes in a message. -/
def size (attr : StunAttribute) : ℕ :=
  kStunAttributeHeaderSize + (attr.valueSize + paddingOf attr.valueSize)

/-- The value as `write` leaves it, with its padding. -/
def value (attr : StunAttribute) : ByteString := attr.write.getD []

/-- The attribute as `StunMessage::write` puts it. -/
def bytes (attr : StunAttribute) : ByteString :=
  putBE16 attr.type ++ putBE16 attr.length ++ attr.value

/-- `read` makes the attribute of this type as what it is. -/
def KindOk (attr : StunAttribute) : Prop :=
  match getAttributeValueType attr.type with
  | .unknown => True
  | .byteString => ∃ bytes, attr = .byteString attr.type bytes
  | .uint32 => ∃ bits, bits < 2 ^ 32 ∧ attr = .uint32 attr.type bits

/-- An attribute that can be written and read. -/
structure WellFormed (attr : StunAttribute) : Prop where
  type_lt : attr.type < 65536
  writes : attr.write.isSome = true
  kind : attr.KindOk

/-- What `read` keeps of the attribute. -/
def received (attr : StunAttribute) : Option StunAttribute :=
  if getAttributeValueType attr.type = .unknown then none else some attr

variable {attr : StunAttribute}

theorem length_eq_valueSize (h : attr.size < 65536) : attr.length = attr.valueSize := by
  rw [size, kStunAttributeHeaderSize] at h
  cases attr with
  | byteString type bytes => exact Nat.mod_eq_of_lt (by simp only [valueSize] at h; omega)
  | errorCode type cls number reason =>
    exact Nat.mod_eq_of_lt (by simp only [valueSize] at h; omega)
  | uint32 type bits => rfl
  | uint64 type bits => rfl
  | xorAddress type address => rfl

theorem write_eq_value (h : attr.WellFormed) : attr.write = some attr.value := by
  obtain ⟨v, hv⟩ := Option.isSome_iff_exists.mp h.writes
  rw [value, hv]
  rfl

theorem length_value (h : attr.WellFormed) (hsize : attr.size < 65536) :
    attr.value.length = attr.valueSize + paddingOf attr.valueSize := by
  have hlength := length_eq_valueSize hsize
  cases attr with
  | byteString type bytes =>
    rw [value, write, hlength]
    simp [valueSize]
  | errorCode type cls number reason =>
    rw [value, write, hlength]
    simp [valueSize, Nat.add_assoc]
  | uint32 type bits => simp [value, write, valueSize, length, paddingOf]
  | uint64 type bits => simp [value, write, valueSize, length, paddingOf]
  | xorAddress type address =>
    obtain ⟨ip | addr | addr, port⟩ := address
    · exact absurd h.writes (by simp [write])
    · simp [value, write, valueSize, length, paddingOf]
    · exact absurd h.writes (by simp [write])

theorem length_bytes (h : attr.WellFormed) (hsize : attr.size < 65536) :
    attr.bytes.length = attr.size := by
  rw [bytes, List.length_append, length_value h hsize, size]
  rfl

theorem dvd_size (attr : StunAttribute) : 4 ∣ attr.size :=
  (Nat.dvd_add_right (by decide)).mpr (dvd_add_paddingOf _)

end StunAttribute

/-! ## Reading one attribute -/

theorem readBytes_append {n : ℕ} {s : ByteString} (h : s.length = n) (t : ByteString) :
    readBytes n (s ++ t) = some (s, t) := by
  rw [readBytes, if_pos (by simp [h]), List.take_left' h, List.drop_left' h]

theorem readUInt16_putBE16 (n : ℕ) (s : ByteString) :
    readUInt16 (putBE16 n ++ s) = some (n % 65536, s) := by
  have hread := readBytes_append (length_putBE16 n) s
  have hvalue := be16_putBE16 n []
  rw [List.append_nil] at hvalue
  rw [readUInt16, hread, Option.map_some, hvalue]

theorem readUInt32_putBE32 (n : ℕ) (s : ByteString) :
    readUInt32 (putBE32 n ++ s) = some (n % 2 ^ 32, s) := by
  have hread := readBytes_append (length_putBE32 n) s
  have hvalue := be32_putBE32 n []
  rw [List.append_nil] at hvalue
  rw [readUInt32, hread, Option.map_some, hvalue]

/-- `read` takes one attribute off the front, and keeps it if it knows the type. -/
theorem readAttribute_bytes {attr : StunAttribute} (h : attr.WellFormed) (hsize : attr.size < 65536)
    (rest : ByteString) : readAttribute (attr.bytes ++ rest) = some (attr.received, rest) := by
  have hlength := StunAttribute.length_eq_valueSize hsize
  have hvalue := StunAttribute.length_value h hsize
  have hlt : attr.valueSize + paddingOf attr.valueSize < 65536 := by
    rw [StunAttribute.size, kStunAttributeHeaderSize] at hsize
    omega
  have hkind := h.kind
  rw [readAttribute, StunAttribute.bytes, List.append_assoc, List.append_assoc, readUInt16_putBE16,
    Option.bind_eq_bind, Option.bind_some, Nat.mod_eq_of_lt h.type_lt]
  dsimp only
  rw [readUInt16_putBE16, Option.bind_eq_bind, Option.bind_some, hlength,
    Nat.mod_eq_of_lt (Nat.lt_of_le_of_lt (Nat.le_add_right ..) hlt)]
  dsimp only
  rw [StunAttribute.received]
  rw [StunAttribute.KindOk] at hkind
  cases hv : getAttributeValueType attr.type with
  | unknown =>
    -- the value is skipped, with its padding
    dsimp only
    rw [Nat.mod_eq_of_lt hlt, readBytes_append hvalue rest]
    rfl
  | uint32 =>
    rw [hv] at hkind
    obtain ⟨bits, hbits, hattr⟩ := hkind
    have hv' : attr.value = putBE32 bits := by rw [hattr]; rfl
    dsimp only
    rw [hv', readUInt32_putBE32, Nat.mod_eq_of_lt hbits]
    simp [← hattr]
  | byteString =>
    rw [hv] at hkind
    obtain ⟨bytes, hattr⟩ := hkind
    have hn : attr.valueSize = bytes.length := by rw [hattr]; rfl
    have hv' : attr.value = bytes ++ List.replicate (paddingOf bytes.length) 0 := by
      rw [StunAttribute.value, hattr, StunAttribute.write, ← hattr, hlength, hn, List.take_length]
      rfl
    dsimp only
    rw [hv', List.append_assoc, hn, readBytes_append rfl]
    have hpad : consumePadding bytes.length
        (List.replicate (paddingOf bytes.length) 0 ++ rest) = rest := by
      rw [consumePadding, readBytes_append (List.length_replicate ..)]
    simp [hpad, ← hattr]

/-! ## Whole messages -/

theorem rest_of_readBytes {n : ℕ} {buf bytes rest : ByteString}
    (h : readBytes n buf = some (bytes, rest)) : n ≤ buf.length ∧ rest = buf.drop n := by
  rw [readBytes] at h
  split_ifs at h with hn
  cases h
  exact ⟨hn, rfl⟩

theorem rest_of_readUInt16 {n : ℕ} {buf rest : ByteString} (h : readUInt16 buf = some (n, rest)) :
    2 ≤ buf.length ∧ rest = buf.drop 2 := by
  obtain ⟨⟨bytes, rest'⟩, hread, heq⟩ := Option.map_eq_some_iff.mp h
  cases heq
  exact rest_of_readBytes hread

theorem rest_of_readAttributes {buf rest : ByteString} {attrs : List StunAttribute}
    (h : readAttributes buf = some (attrs, rest)) : rest = [] := by
  have hexits := exits_readAttributes buf
  rw [h] at hexits
  obtain ⟨s, -, hleave⟩ := hexits.induct_inv (I := fun _ ↦ True) trivial fun _ _ _ _ ↦ trivial
  rw [readAttributesBody] at hleave
  split_ifs at hleave with hnil
  · cases hleave
    exact hnil
  · rcases ha : readAttribute s.1 with _ | ⟨attr, rest'⟩ <;> rw [ha] at hleave <;> cases hleave

/-- The message keeps the datagram, and its attributes are those after the header. -/
theorem attrs_of_read {data rest : ByteString} {msg : StunMessage}
    (h : StunMessage.read data = some (msg, rest)) :
    kStunHeaderSize ≤ data.length ∧ msg.buffer = data ∧
      readAttributes (data.drop kStunHeaderSize) = some (msg.attrs, rest) := by
  rw [StunMessage.read] at h
  obtain ⟨⟨type, buf₁⟩, h₁, h⟩ := Option.bind_eq_some_iff.mp h
  dsimp only at h
  split_ifs at h
  obtain ⟨⟨length, buf₂⟩, h₂, h⟩ := Option.bind_eq_some_iff.mp h
  obtain ⟨⟨magicCookie, buf₃⟩, h₃, h⟩ := Option.bind_eq_some_iff.mp h
  obtain ⟨⟨transactionId, buf₄⟩, h₄, h⟩ := Option.bind_eq_some_iff.mp h
  dsimp only at h
  obtain ⟨hn₁, rfl⟩ := rest_of_readUInt16 h₁
  obtain ⟨hn₂, rfl⟩ := rest_of_readUInt16 h₂
  obtain ⟨hn₃, rfl⟩ := rest_of_readBytes h₃
  obtain ⟨hn₄, rfl⟩ := rest_of_readBytes h₄
  simp only [List.drop_drop, List.length_drop] at h hn₂ hn₃ hn₄
  have hsizes : 2 + 2 + kStunMagicCookieLength + kStunTransactionIdLength = kStunHeaderSize := rfl
  split at h
  · cases h
  · obtain ⟨⟨attrs, rest'⟩, hattrs, h⟩ := Option.bind_eq_some_iff.mp h
    cases h
    refine ⟨by omega, rfl, ?_⟩
    rw [← hsizes]
    exact hattrs

/-! ## What is kept

An error code is written and is not kept, whatever was sent. The same holds for all types but the
three that `read` has a row for. -/

/-- An attribute as `read` keeps it: of a type it knows, and of the kind of this type. -/
def StunAttribute.Kept (attr : StunAttribute) : Prop :=
  match getAttributeValueType attr.type with
  | .unknown => False
  | .byteString => ∃ bytes, attr = .byteString attr.type bytes
  | .uint32 => ∃ bits, attr = .uint32 attr.type bits

theorem kept_of_mem_readAttribute {buf rest : ByteString} {attr : StunAttribute}
    (h : readAttribute buf = some (some attr, rest)) : attr.Kept := by
  rw [readAttribute] at h
  obtain ⟨⟨attrType, buf₁⟩, -, h⟩ := Option.bind_eq_some_iff.mp h
  obtain ⟨⟨attrLength, buf₂⟩, -, h⟩ := Option.bind_eq_some_iff.mp h
  dsimp only at h
  rcases hv : getAttributeValueType attrType with _ | _ | _ <;> rw [hv] at h <;>
    obtain ⟨⟨value, buf₃⟩, -, h⟩ := Option.bind_eq_some_iff.mp h <;> cases h
  · rw [StunAttribute.Kept, StunAttribute.type, hv]
    exact ⟨_, rfl⟩
  · rw [StunAttribute.Kept, StunAttribute.type, hv]
    exact ⟨_, rfl⟩

theorem kept_of_mem_readAttributes {buf rest : ByteString} {attrs : List StunAttribute}
    (h : readAttributes buf = some (attrs, rest)) : ∀ attr ∈ attrs, attr.Kept := by
  have hround (s s' : ByteString × List StunAttribute) (hkept : ∀ attr ∈ s.2, attr.Kept)
      (hstep : readAttributesBody s = .inr s') : ∀ attr ∈ s'.2, attr.Kept := by
    rw [readAttributesBody] at hstep
    split_ifs at hstep
    rcases ha : readAttribute s.1 with _ | ⟨attr, rest'⟩ <;> rw [ha] at hstep <;> cases hstep
    intro a hmem
    rcases List.mem_append.mp hmem with hmem | hmem
    · exact hkept a hmem
    · obtain rfl := Option.mem_toList.mp hmem
      exact kept_of_mem_readAttribute ha
  have hexits := exits_readAttributes buf
  rw [h] at hexits
  obtain ⟨s, hkept, hleave⟩ := hexits.induct_inv (fun attr hmem ↦ by cases hmem) hround
  rw [readAttributesBody] at hleave
  split_ifs at hleave
  · cases hleave
    exact hkept
  · rcases ha : readAttribute s.1 with _ | ⟨attr, rest'⟩ <;> rw [ha] at hleave <;> cases hleave

/-- `read` never comes back with an error code. -/
theorem getErrorCodeValue_read {data rest : ByteString} {msg : StunMessage}
    (h : StunMessage.read data = some (msg, rest)) :
    msg.getErrorCodeValue = stunErrorGlobalFail := by
  obtain ⟨-, -, hattrs⟩ := attrs_of_read h
  have hnone : msg.getAttribute stunAttrErrorCode = none := by
    rw [StunMessage.getAttribute, List.find?_eq_none]
    intro attr hmem htype
    have hkept := kept_of_mem_readAttributes hattrs attr hmem
    rw [StunAttribute.Kept, of_decide_eq_true htype] at hkept
    exact hkept
  rw [StunMessage.getErrorCodeValue, hnone]

/-- What `get_stun_message` accepts without being a request was not changed by it. -/
theorem read_of_accepted {env : IceEnv} {data : ByteString} {iceParams : IceParameters}
    {msg : StunMessage} {ufrag : ByteString}
    (h : UDPPort.getStunMessage env iceParams data = .accepted msg ufrag)
    (htype : msg.type ≠ stunBindingRequest) :
    validateFingerprint env data = true ∧ StunMessage.read data = some (msg, []) := by
  rw [UDPPort.getStunMessage] at h
  split_ifs at h with hfingerprint
  rcases hread : StunMessage.read data with _ | ⟨msg₀, rest⟩ <;> rw [hread] at h
  · cases h
  dsimp only at h
  split_ifs at h with hrest htype₀
  · rw [UDPPort.checkRequest] at h
    split_ifs at h
    rcases hparse : UDPPort.parseStunUsername msg₀ with _ | ⟨localUfrag, remoteUfrag⟩ <;>
      rw [hparse] at h <;> dsimp only at h
    · cases h
    · split_ifs at h
      cases h
      exact absurd htype₀ htype
  · cases h
    exact ⟨by simpa using hfingerprint, by rw [not_not.mp hrest]⟩

namespace StunMessage

/-- The bytes of the attributes, padding included. -/
def size (msg : StunMessage) : ℕ := (msg.attrs.map StunAttribute.size).sum

/-- The twenty bytes in front of the attributes. -/
def header (type length : ℕ) (transactionId : ByteString) : ByteString :=
  putBE16 type ++ putBE16 length ++ putBE32 kStunMagicCookie ++ transactionId

/-- The attributes as `write` puts them. -/
def body (attrs : List StunAttribute) : ByteString := attrs.flatMap StunAttribute.bytes

/-- A message built by `add_attribute` from attributes that can be written. -/
structure WellBuilt (msg : StunMessage) : Prop where
  attrs : ∀ attr ∈ msg.attrs, attr.WellFormed
  length : msg.size < 65536 → msg.length = msg.size

variable {msg : StunMessage} {attrs : List StunAttribute}

theorem length_body (h : ∀ attr ∈ attrs, attr.WellFormed)
    (hsize : (attrs.map StunAttribute.size).sum < 65536) :
    (body attrs).length = (attrs.map StunAttribute.size).sum := by
  induction attrs with
  | nil => rfl
  | cons attr attrs ih =>
    rw [List.map_cons, List.sum_cons] at hsize ⊢
    have hattr := StunAttribute.length_bytes (h attr List.mem_cons_self) (by omega)
    have hrest := ih (fun a ha ↦ h a (List.mem_cons_of_mem _ ha)) (by omega)
    rw [body, List.flatMap_cons, List.length_append, hattr]
    exact congrArg _ hrest

theorem dvd_sum_size (attrs : List StunAttribute) : 4 ∣ (attrs.map StunAttribute.size).sum := by
  refine List.dvd_sum fun n hn ↦ ?_
  obtain ⟨attr, -, rfl⟩ := List.mem_map.mp hn
  exact StunAttribute.dvd_size attr

theorem write_eq (h : ∀ attr ∈ msg.attrs, attr.WellFormed) :
    msg.write = some (header msg.type msg.length msg.transactionId ++ body msg.attrs) := by
  have hmap : msg.attrs.mapM (fun attr ↦ do
      let value ← attr.write
      some (putBE16 attr.type ++ putBE16 attr.length ++ value)) =
      some (msg.attrs.map StunAttribute.bytes) := by
    refine mapM_eq_some fun attr ha ↦ ?_
    rw [StunAttribute.write_eq_value (h attr ha)]
    rfl
  rw [write, hmap]
  rfl

theorem WellBuilt.addAttribute (h : msg.WellBuilt) {attr : StunAttribute} (ha : attr.WellFormed) :
    (msg.addAttribute attr).WellBuilt where
  attrs a hmem := by
    rcases List.mem_append.mp hmem with hmem | hmem
    · exact h.attrs a hmem
    · obtain rfl := List.mem_singleton.mp hmem
      exact ha
  length hsize := by
    have hsum : (msg.addAttribute attr).size = msg.size + attr.size := by
      simp [StunMessage.addAttribute, size]
    have hattr : attr.size =
        kStunAttributeHeaderSize + (attr.valueSize + paddingOf attr.valueSize) := rfl
    have hlength : (msg.addAttribute attr).length = (msg.size +
        (attr.valueSize + paddingOf attr.valueSize) + kStunAttributeHeaderSize) % 65536 := by
      dsimp only [StunMessage.addAttribute]
      rw [h.length (by omega), StunAttribute.length_eq_valueSize (by omega)]
    omega

/-- `read` undoes `write`, up to the attributes it does not know. -/
theorem exits_readAttributes_body (h : ∀ attr ∈ attrs, attr.WellFormed)
    (hsize : (attrs.map StunAttribute.size).sum < 65536) (acc : List StunAttribute) :
    Exits readAttributesBody (body attrs, acc)
      (some (acc ++ attrs.filterMap StunAttribute.received, [])) := by
  induction attrs generalizing acc with
  | nil => exact .leave (by simp [readAttributesBody, body])
  | cons attr attrs ih =>
    rw [List.map_cons, List.sum_cons] at hsize
    have hattr := h attr List.mem_cons_self
    have hrest := ih (fun a ha ↦ h a (List.mem_cons_of_mem _ ha)) (by omega)
      (acc ++ attr.received.toList)
    have hbody : body (attr :: attrs) = attr.bytes ++ body attrs := List.flatMap_cons ..
    have hne : attr.bytes ++ body attrs ≠ [] := by simp [StunAttribute.bytes, putBE16]
    have hstep : readAttributesBody (body (attr :: attrs), acc) =
        .inr (body attrs, acc ++ attr.received.toList) := by
      rw [readAttributesBody, hbody, if_neg hne, readAttribute_bytes hattr (by omega)]
    refine .again hstep ?_
    rw [List.filterMap_cons]
    rcases ha : attr.received with _ | a <;> rw [ha] at hrest
    · simpa using hrest
    · simpa using hrest

theorem read_header_body {type length : ℕ} {transactionId : ByteString} (htype : type < 65536)
    (htypeBit : type &&& 0x0800 = 0) (htid : transactionId.length = kStunTransactionIdLength)
    (h : ∀ attr ∈ attrs, attr.WellFormed) (hlength : length = (attrs.map StunAttribute.size).sum)
    (hsize : length < 65536) :
    StunMessage.read (header type length transactionId ++ body attrs) =
      some ({ type, length, transactionId, attrs := attrs.filterMap StunAttribute.received
              buffer := header type length transactionId ++ body attrs }, []) := by
  have hbody := length_body h (by omega)
  have hattrs : readAttributes (body attrs) = some (attrs.filterMap StunAttribute.received, []) :=
    (exits_readAttributes (body attrs)).unique (exits_readAttributes_body h (by omega) [])
  have htypeRead : readUInt16 (header type length transactionId ++ body attrs) = some (type,
      putBE16 length ++ (putBE32 kStunMagicCookie ++ (transactionId ++ body attrs))) := by
    rw [header, List.append_assoc, List.append_assoc, List.append_assoc, readUInt16_putBE16,
      Nat.mod_eq_of_lt htype]
  have hcookieLength : (putBE32 kStunMagicCookie).length = kStunMagicCookieLength := rfl
  have hcookie : (putBE32 kStunMagicCookie).be32 0 = kStunMagicCookie := by decide
  rw [StunMessage.read, htypeRead, Option.bind_eq_bind, Option.bind_some]
  dsimp only
  rw [if_neg (not_not.mpr htypeBit), readUInt16_putBE16, Option.bind_eq_bind, Option.bind_some,
    Nat.mod_eq_of_lt hsize]
  dsimp only
  rw [readBytes_append hcookieLength, Option.bind_eq_bind, Option.bind_some]
  dsimp only
  rw [readBytes_append htid, Option.bind_some]
  dsimp only
  rw [if_neg (not_not.mpr hcookie), if_neg (not_not.mpr (hbody.trans hlength.symm)), hattrs]
  rfl

/-! ## Looking for an attribute

The loop that looks for an attribute steps over the declared lengths, and in a written message these
are the true ones. So it stops at the first attribute of the type and nowhere inside a value. -/

theorem be16_bytes {attr : StunAttribute} (h : attr.WellFormed) (pre rest : ByteString) :
    (pre ++ (attr.bytes ++ rest)).be16 pre.length = attr.type := by
  have hright := be16_append_right pre (attr.bytes ++ rest) 0
  rw [Nat.add_zero] at hright
  rw [hright, StunAttribute.bytes, List.append_assoc, List.append_assoc, be16_putBE16,
    Nat.mod_eq_of_lt h.type_lt]

theorem be16_bytes_length (attr : StunAttribute) (hsize : attr.size < 65536)
    (pre rest : ByteString) :
    (pre ++ (attr.bytes ++ rest)).be16 (pre.length + 2) = attr.valueSize := by
  have hlength := StunAttribute.length_eq_valueSize hsize
  have hsize' : attr.size =
      kStunAttributeHeaderSize + (attr.valueSize + paddingOf attr.valueSize) := rfl
  have hright := be16_append_right (putBE16 attr.type)
    (putBE16 attr.length ++ (attr.value ++ rest)) 0
  rw [length_putBE16, Nat.add_zero] at hright
  rw [be16_append_right, StunAttribute.bytes, List.append_assoc, List.append_assoc, hright,
    be16_putBE16, hlength, Nat.mod_eq_of_lt (by omega)]

theorem header_le_bytes (attr : StunAttribute) (pre rest : ByteString) :
    pre.length + kStunAttributeHeaderSize ≤ (pre ++ (attr.bytes ++ rest)).length := by
  simp only [StunAttribute.bytes, List.length_append, length_putBE16, kStunAttributeHeaderSize]
  omega

theorem locateAttributeBody_bytes {attrType : ℕ} {attr : StunAttribute} (h : attr.WellFormed)
    (hsize : attr.size < 65536) (hne : attr.type ≠ attrType) (pre rest : ByteString) :
    locateAttributeBody attrType (pre ++ (attr.bytes ++ rest)) pre.length =
      .inr (pre ++ attr.bytes).length := by
  have hsize' : attr.size =
      kStunAttributeHeaderSize + (attr.valueSize + paddingOf attr.valueSize) := rfl
  have hnext : (pre ++ attr.bytes).length =
      pre.length + (kStunAttributeHeaderSize + attr.valueSize) + paddingOf attr.valueSize := by
    rw [List.length_append, StunAttribute.length_bytes h hsize]
    omega
  rw [locateAttributeBody, if_pos (header_le_bytes attr pre rest), be16_bytes h, if_neg hne,
    be16_bytes_length attr hsize, hnext]

theorem exits_locateAttribute_body {attrType : ℕ} (h : ∀ attr ∈ attrs, attr.WellFormed)
    (hsize : (attrs.map StunAttribute.size).sum < 65536)
    (hne : ∀ attr ∈ attrs, attr.type ≠ attrType)
    {found : StunAttribute} (hfound : found.WellFormed) (htype : found.type = attrType)
    (pre rest : ByteString) :
    Exits (locateAttributeBody attrType (pre ++ (body attrs ++ (found.bytes ++ rest)))) pre.length
      (some (pre.length + (attrs.map StunAttribute.size).sum)) := by
  induction attrs generalizing pre with
  | nil =>
    have hbody : body [] ++ (found.bytes ++ rest) = found.bytes ++ rest := rfl
    rw [hbody]
    refine .leave ?_
    rw [locateAttributeBody, if_pos (header_le_bytes found pre rest), be16_bytes hfound,
      if_pos htype]
    rfl
  | cons attr attrs ih =>
    rw [List.map_cons, List.sum_cons] at hsize ⊢
    have hattr := h attr List.mem_cons_self
    have hbytes := StunAttribute.length_bytes hattr (by omega)
    have hbody : pre ++ (body (attr :: attrs) ++ (found.bytes ++ rest)) =
        pre ++ (attr.bytes ++ (body attrs ++ (found.bytes ++ rest))) := by
      rw [body, List.flatMap_cons, List.append_assoc]
      rfl
    have hrest := ih (fun a ha ↦ h a (List.mem_cons_of_mem _ ha)) (by omega)
      (fun a ha ↦ hne a (List.mem_cons_of_mem _ ha)) (pre ++ attr.bytes)
    rw [List.append_assoc, List.length_append, hbytes, Nat.add_assoc] at hrest
    rw [hbody]
    refine .again
      (locateAttributeBody_bytes hattr (by omega) (hne attr List.mem_cons_self) pre _) ?_
    rw [List.length_append, hbytes]
    exact hrest

end StunMessage

end XrtcServer
