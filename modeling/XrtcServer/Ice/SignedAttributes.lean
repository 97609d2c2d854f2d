import XrtcServer.Ice.OwnMessages

/-!
# Attributes outside the signature

The message integrity covers the bytes before its own attribute. The loop of
`_validate_message_integrity_of_type` finds that attribute by the declared lengths of the others;
the loop of `read` goes on to the end of the datagram, keeps what stands behind the message
integrity, and takes four bytes for a priority whatever its declared length is.

## Two loops over one datagram

So the two need not agree where an attribute starts, and a value that is used may lie behind the
signed part or across its end. `scanAttributes` is the loop of `read` with the position of each
attribute it keeps, and `scanAttributes_take` says what it makes of a datagram that is cut off: it
keeps the attributes whose values lie in the prefix, and their padding may be missing.

## The condition

`valuesSigned_iff` compares the two loops: the values that an authenticated request is used with are
from the signed part exactly if `read`, given this part alone, finds a username there, and a
priority if there is one at all. `get_byte_string` and `get_uint32` take the first attribute of a
type, and if any attribute of a type ends in the signed part then the first one does.
-/

namespace XrtcServer

open ByteString WhileLoop

/-! ## One attribute, read from a prefix

A value is read from the front, and what follows is left to the next round, so on a prefix the same
value is read or none. The kinds of values differ only in what is left behind them: the rest as it
is, or the rest without the padding. `CutsWell` is what the two have in common. -/

theorem consumePadding_eq (n : ℕ) (buf : ByteString) : consumePadding n buf =
    if paddingOf n ≤ buf.length then buf.drop (paddingOf n) else buf := by
  rw [consumePadding, readBytes]
  split_ifs <;> rfl

/-- The type and the declared length of the attribute in front. -/
def attributeHeader (buf : ByteString) : ℕ × ℕ :=
  (be16 (buf.take 2) 0, be16 ((buf.drop 2).take 2) 0)

theorem readAttribute_eq {buf : ByteString} (h : 4 ≤ buf.length) : readAttribute buf =
    match getAttributeValueType (attributeHeader buf).1 with
    | .unknown =>
      let n := ((attributeHeader buf).2 + paddingOf (attributeHeader buf).2) % 65536
      if 4 + n ≤ buf.length then some (none, buf.drop (4 + n)) else none
    | .byteString =>
      let n := (attributeHeader buf).2
      if 4 + n ≤ buf.length then
        some (some (.byteString (attributeHeader buf).1 ((buf.drop 4).take n)),
          consumePadding n (buf.drop (4 + n)))
      else none
    | .uint32 =>
      if 8 ≤ buf.length then
        some (some (.uint32 (attributeHeader buf).1 (be32 ((buf.drop 4).take 4) 0)), buf.drop 8)
      else none := by
  have h₂ : 2 ≤ buf.length := by omega
  have h₂' : 2 ≤ (buf.drop 2).length := by
    rw [List.length_drop]
    omega
  have hdrop : (buf.drop (2 + 2)).length = buf.length - 4 := List.length_drop
  have hle (n : ℕ) : n ≤ (buf.drop (2 + 2)).length ↔ 4 + n ≤ buf.length := by
    rw [hdrop]
    omega
  simp only [readAttribute, readUInt16, readUInt32, readBytes, if_pos h₂, if_pos h₂',
    Option.map_some, Option.bind_eq_bind, Option.bind_some, List.drop_drop, attributeHeader, hle]
  rcases getAttributeValueType (be16 (buf.take 2) 0) with _ | _ | _ <;> dsimp only <;>
    split_ifs with hn <;> simp [hn]

theorem attributeHeader_take {buf : ByteString} {k : ℕ} (h : 4 ≤ k) :
    attributeHeader (buf.take k) = attributeHeader buf := by
  rw [attributeHeader, attributeHeader, List.drop_take, List.take_take, List.take_take,
    Nat.min_eq_left (by omega), Nat.min_eq_left (by omega)]

theorem paddingOf_lt (n : ℕ) : paddingOf n < 4 := by
  rw [paddingOf]
  split_ifs <;> omega

/-- `after` is what is left once a value has been read. On a prefix it leaves the prefix of that,
or, if the cut comes before, too little for another attribute. -/
structure CutsWell (after : ByteString → ByteString) : Prop where
  length_le : ∀ s, (after s).length ≤ s.length
  within : ∀ s k, s.length ≤ k + (after s).length →
    after (s.take k) = (after s).take (k + (after s).length - s.length)
  beyond : ∀ s k, k + (after s).length < s.length → (after (s.take k)).length < 4

theorem cutsWell_id : CutsWell id where
  length_le _ := le_rfl
  within s k _ := by rw [id, id, Nat.add_sub_cancel]
  beyond s k h := absurd h (by rw [id]; omega)

theorem cutsWell_consumePadding (n : ℕ) : CutsWell (consumePadding n) where
  length_le := length_consumePadding_le n
  within s k h := by
    have hdrop : (s.drop (paddingOf n)).length = s.length - paddingOf n := List.length_drop
    rw [consumePadding_eq, consumePadding_eq, List.length_take]
    rw [consumePadding_eq] at h
    split_ifs at h ⊢ with hcut hs hs
    · rw [hdrop, List.drop_take]
      congr 1
      omega
    · omega
    · omega
    · rw [Nat.add_sub_cancel]
  beyond s k h := by
    have hpad := paddingOf_lt n
    have hdrop : (s.drop (paddingOf n)).length = s.length - paddingOf n := List.length_drop
    have htake : (s.take k).length = min k s.length := List.length_take
    rw [consumePadding_eq, htake]
    rw [consumePadding_eq] at h
    split_ifs at h ⊢ with hcut hs hs <;> omega

/-- `attr` is read from every prefix of `buf` that has the `m` bytes of its header and value, and
from no other. -/
structure ReadsPrefix (buf : ByteString) (attr : Option StunAttribute) (rest : ByteString) (m : ℕ) :
    Prop where
  four_le : 4 ≤ m
  length_le : m + rest.length ≤ buf.length
  value : ∀ a ∈ attr, m = kStunAttributeHeaderSize + a.length
  short : ∀ k < m, readAttribute (buf.take k) = none
  long : ∀ k, m ≤ k → ∃ rest', readAttribute (buf.take k) = some (attr, rest') ∧
    (buf.length ≤ k + rest.length → rest' = rest.take (k + rest.length - buf.length)) ∧
    (k + rest.length < buf.length → rest'.length < 4)

/-- It is enough to look at prefixes that have the header. -/
theorem CutsWell.readsPrefix {after : ByteString → ByteString} (h : CutsWell after)
    {buf : ByteString} {attr : Option StunAttribute} {m : ℕ} (hfour : 4 ≤ m) (hm : m ≤ buf.length)
    (hvalue : ∀ a ∈ attr, m = kStunAttributeHeaderSize + a.length)
    (hread : ∀ k, 4 ≤ k → 4 ≤ (buf.take k).length → readAttribute (buf.take k) =
      if m ≤ (buf.take k).length then some (attr, after ((buf.take k).drop m)) else none) :
    ReadsPrefix buf attr (after (buf.drop m)) m where
  four_le := hfour
  length_le := by
    have hle := h.length_le (buf.drop m)
    rw [List.length_drop] at hle
    omega
  value := hvalue
  short k hk := by
    by_contra hne
    obtain ⟨r, hr⟩ := Option.ne_none_iff_exists'.mp hne
    have hle := readAttribute_length hr
    have hcut : ¬m ≤ (buf.take k).length := by
      rw [List.length_take]
      omega
    refine hne ((hread k ?_ (by omega)).trans (if_neg hcut))
    rw [List.length_take] at hle
    omega
  long k hk := by
    have hlength : (buf.take k).length = min k buf.length := List.length_take
    have hdrop : (buf.drop m).length = buf.length - m := List.length_drop
    refine ⟨after ((buf.take k).drop m), ?_, fun hin ↦ ?_, fun hout ↦ ?_⟩
    · rw [hread k (by omega) (by omega), if_pos (by omega)]
    · rw [List.drop_take, h.within _ _ (by omega), hdrop]
      congr 1
      omega
    · rw [List.drop_take]
      exact h.beyond _ _ (by omega)

/-- What `readAttribute` makes of a prefix: it needs the header and the value, and if the padding is
cut off no attribute follows. -/
theorem readAttribute_take {buf rest : ByteString} {attr : Option StunAttribute}
    (h : readAttribute buf = some (attr, rest)) : ∃ m, ReadsPrefix buf attr rest m := by
  have hlong : 4 ≤ buf.length := by
    have := readAttribute_length h
    omega
  -- a value that lies in the prefix
  have hpart (k n : ℕ) (hk : 4 + n ≤ (buf.take k).length) :
      ((buf.take k).drop 4).take n = (buf.drop 4).take n := by
    rw [List.length_take] at hk
    rw [List.drop_take, List.take_take, Nat.min_eq_left (by omega)]
  rw [readAttribute_eq hlong] at h
  rcases hv : getAttributeValueType (attributeHeader buf).1 with _ | _ | _ <;> rw [hv] at h <;>
    dsimp only at h <;> split_ifs at h with hn <;> cases h
  · -- an unknown attribute is skipped, all of it
    refine ⟨_, cutsWell_id.readsPrefix (Nat.le_add_right ..) hn (by simp) fun k hk hlen ↦ ?_⟩
    rw [readAttribute_eq hlen, attributeHeader_take hk, hv]
    rfl
  · refine ⟨_, cutsWell_id.readsPrefix (by decide) hn ?_ fun k hk hlen ↦ ?_⟩
    · rintro a ⟨⟩
      rfl
    · rw [readAttribute_eq hlen, attributeHeader_take hk, hv]
      dsimp only
      split_ifs with hcut
      · rw [hpart k 4 hcut]
        rfl
      · rfl
  · -- of the padding there may be a part left
    refine ⟨_, (cutsWell_consumePadding _).readsPrefix (Nat.le_add_right ..) hn ?_
      fun k hk hlen ↦ ?_⟩
    · rintro a ⟨⟩
      have hlt : (attributeHeader buf).2 < 65536 := be16_lt _ _
      rw [StunAttribute.length, List.length_take, List.length_drop, Nat.min_eq_left (by omega),
        Nat.mod_eq_of_lt hlt]
      rfl
    · rw [readAttribute_eq hlen, attributeHeader_take hk, hv]
      dsimp only
      split_ifs with hcut
      · rw [hpart k _ hcut]
      · rfl

/-- What cannot be read whole cannot be read from a prefix. -/
theorem readAttribute_take_none {buf : ByteString} (h : readAttribute buf = none) (k : ℕ) :
    readAttribute (buf.take k) = none := by
  by_contra hne
  obtain ⟨r, hr⟩ := Option.ne_none_iff_exists'.mp hne
  have hle := readAttribute_length hr
  have htake : (buf.take k).length ≤ buf.length := by
    rw [List.length_take]
    exact Nat.min_le_right ..
  have hk : 4 ≤ k := by
    rw [List.length_take] at hle
    omega
  rw [readAttribute_eq (by omega)] at h
  rw [readAttribute_eq (by omega), attributeHeader_take hk] at hr
  rcases hv : getAttributeValueType (attributeHeader buf).1 with _ | _ | _ <;> rw [hv] at h hr <;>
    dsimp only at h hr <;> split_ifs at h hr <;> omega

/-! ## The attributes and their positions

The positions are those of the headers, and they grow, so the attributes that end before some byte
are an initial part of the list. -/

/-- The attributes `read` keeps of `buf`, each with the position of its header, up to where the loop
leaves; `pos` is the position of `buf`, and there are at most `n` rounds. -/
def scanAttributes : ℕ → ℕ → ByteString → List (ℕ × StunAttribute)
  | 0, _, _ => []
  | n + 1, pos, buf =>
    match readAttribute buf with
    | none => []
    | some (attr, rest) =>
      attr.toList.map (fun a ↦ (pos, a)) ++
        scanAttributes n (pos + (buf.length - rest.length)) rest

/-- Where the value of an attribute ends. -/
def valueEnd (x : ℕ × StunAttribute) : ℕ := x.1 + kStunAttributeHeaderSize + x.2.length

theorem le_of_mem_scanAttributes {n pos : ℕ} {buf : ByteString} {x : ℕ × StunAttribute}
    (h : x ∈ scanAttributes n pos buf) : pos ≤ x.1 := by
  induction n generalizing pos buf with
  | zero => cases h
  | succ n ih =>
    rw [scanAttributes] at h
    rcases hr : readAttribute buf with _ | ⟨attr, rest⟩ <;> rw [hr] at h
    · cases h
    · rcases List.mem_append.mp h with h | h
      · obtain ⟨a, -, rfl⟩ := List.mem_map.mp h
        exact le_rfl
      · have := ih h
        omega

theorem pairwise_scanAttributes (n pos : ℕ) (buf : ByteString) :
    (scanAttributes n pos buf).Pairwise fun x y ↦ valueEnd x ≤ y.1 := by
  induction n generalizing pos buf with
  | zero => exact .nil
  | succ n ih =>
    rw [scanAttributes]
    rcases hr : readAttribute buf with _ | ⟨attr, rest⟩
    · exact .nil
    · obtain ⟨m, hreads⟩ := readAttribute_take hr
      have hm := hreads.length_le
      refine List.pairwise_append.mpr ⟨?_, ih _ rest, ?_⟩
      · rcases attr with _ | a
        · exact .nil
        · exact List.pairwise_singleton ..
      · intro x hx y hy
        obtain ⟨a, ha, rfl⟩ := List.mem_map.mp hx
        have hle := le_of_mem_scanAttributes hy
        have hlength := hreads.value a (Option.mem_toList.mp ha)
        rw [valueEnd]
        dsimp only
        omega

theorem scanAttributes_of_short {n pos : ℕ} {buf : ByteString} (h : buf.length < 4) :
    scanAttributes n pos buf = [] := by
  rcases n with _ | n
  · rfl
  · rw [scanAttributes]
    rcases hr : readAttribute buf with _ | ⟨attr, rest⟩
    · rfl
    · have := readAttribute_length hr
      omega

/-- **Reading a prefix.** The loop keeps the attributes whose values lie in the prefix. -/
theorem scanAttributes_take (n pos k : ℕ) (buf : ByteString) :
    scanAttributes n pos (buf.take k) =
      (scanAttributes n pos buf).filter fun x ↦ valueEnd x ≤ pos + k := by
  induction n generalizing pos k buf with
  | zero => rfl
  | succ n ih =>
    rw [scanAttributes, scanAttributes]
    rcases hr : readAttribute buf with _ | ⟨attr, rest⟩
    · rw [readAttribute_take_none hr]
      rfl
    obtain ⟨m, hreads⟩ := readAttribute_take hr
    have hm := hreads.length_le
    have hm₄ := hreads.four_le
    have hend (x : ℕ × StunAttribute) (hx : x ∈ attr.toList.map fun a ↦ (pos, a)) :
        valueEnd x = pos + m := by
      obtain ⟨a, ha, rfl⟩ := List.mem_map.mp hx
      rw [valueEnd, hreads.value a (Option.mem_toList.mp ha), Nat.add_assoc]
    -- nothing from `rest` is left when the cut is before it
    have hrest (h : k + rest.length < buf.length) :
        (scanAttributes n (pos + (buf.length - rest.length)) rest).filter
          (fun x ↦ valueEnd x ≤ pos + k) = [] := by
      rw [List.filter_eq_nil_iff]
      intro x hx
      have hle := le_of_mem_scanAttributes hx
      rw [decide_eq_true_eq, valueEnd, kStunAttributeHeaderSize]
      omega
    by_cases hk : k < m
    · rw [hreads.short k hk, List.filter_append, hrest (by omega), List.append_nil]
      refine (List.filter_eq_nil_iff.mpr fun x hx ↦ ?_).symm
      rw [decide_eq_true_eq, hend x hx]
      omega
    · obtain ⟨rest', hrest', hin, hout⟩ := hreads.long k (by omega)
      rw [hrest', List.filter_append]
      dsimp only
      congr 1
      · refine (List.filter_eq_self.mpr fun x hx ↦ ?_).symm
        rw [decide_eq_true_eq, hend x hx]
        omega
      · by_cases hcut : buf.length ≤ k + rest.length
        · rw [hin hcut, List.length_take, List.length_take]
          have hpos : min k buf.length - min (k + rest.length - buf.length) rest.length =
              buf.length - rest.length := by omega
          have hbound : pos + (buf.length - rest.length) + (k + rest.length - buf.length) =
              pos + k := by omega
          rw [hpos, ih, hbound]
        · rw [hrest (by omega), scanAttributes_of_short (hout (by omega))]

/-! ## The attributes of a message -/

/-- The attributes `read` keeps of a datagram, with their positions. -/
def locatedAttributes (data : ByteString) : List (ℕ × StunAttribute) :=
  scanAttributes (data.length + 1) kStunHeaderSize (data.drop kStunHeaderSize)

/-- The attributes `read` would keep of the bytes before the message integrity alone. -/
def signedAttributes (data : ByteString) (miPos : ℕ) : List (ℕ × StunAttribute) :=
  scanAttributes (data.length + 1) kStunHeaderSize ((data.take miPos).drop kStunHeaderSize)

theorem attrs_of_exits {s : ByteString × List StunAttribute}
    {r : Option (List StunAttribute × ByteString)} (h : Exits readAttributesBody s r) (n pos : ℕ)
    (hn : s.1.length < n) {attrs : List StunAttribute} {rest : ByteString}
    (hr : r = some (attrs, rest)) : attrs = s.2 ++ (scanAttributes n pos s.1).map Prod.snd := by
  induction h generalizing n pos with
  | @leave s r hleave =>
    rw [readAttributesBody] at hleave
    split_ifs at hleave with hnil
    · cases hleave
      cases hr
      rw [hnil, scanAttributes_of_short (by decide), List.map_nil, List.append_nil]
    · rcases ha : readAttribute s.1 with _ | ⟨attr, rest'⟩ <;> rw [ha] at hleave <;> cases hleave
      cases hr
  | @again s s' r hstep _ ih =>
    rw [readAttributesBody] at hstep
    split_ifs at hstep
    rcases ha : readAttribute s.1 with _ | ⟨attr, rest'⟩ <;> rw [ha] at hstep <;> cases hstep
    have hlt := readAttribute_length ha
    obtain ⟨n, rfl⟩ := Nat.exists_eq_succ_of_ne_zero (by omega : n ≠ 0)
    rw [ih n (pos + (s.1.length - rest'.length)) (by dsimp only; omega) hr, scanAttributes, ha,
      List.append_assoc, List.map_append, List.map_map]
    have hsnd : Prod.snd ∘ (fun a ↦ (pos, a)) = (id : StunAttribute → StunAttribute) := rfl
    rw [hsnd, List.map_id]

theorem attrs_eq_locatedAttributes {data rest : ByteString} {msg : StunMessage}
    (h : StunMessage.read data = some (msg, rest)) :
    msg.attrs = (locatedAttributes data).map Prod.snd := by
  obtain ⟨-, -, hattrs⟩ := attrs_of_read h
  have hexits := exits_readAttributes (data.drop kStunHeaderSize)
  refine attrs_of_exits hexits (data.length + 1) kStunHeaderSize ?_ hattrs
  rw [List.length_drop]
  omega

theorem le_of_locateAttribute {attrType miPos : ℕ} {data : ByteString}
    (h : locateAttribute attrType data = some miPos) : kStunHeaderSize ≤ miPos := by
  have hround (pos pos' : ℕ) (hpos : kStunHeaderSize ≤ pos)
      (hstep : locateAttributeBody attrType data pos = .inr pos') : kStunHeaderSize ≤ pos' := by
    rw [locateAttributeBody] at hstep
    split_ifs at hstep
    cases hstep
    omega
  have hexits := exits_locateAttribute attrType data
  rw [h] at hexits
  obtain ⟨pos, hpos, hleave⟩ := hexits.induct_inv le_rfl hround
  rw [locateAttributeBody] at hleave
  split_ifs at hleave
  · cases hleave
    exact hpos
  · cases hleave

theorem mem_signedAttributes_iff {data : ByteString} {miPos : ℕ} (hpos : kStunHeaderSize ≤ miPos)
    {x : ℕ × StunAttribute} :
    x ∈ signedAttributes data miPos ↔ x ∈ locatedAttributes data ∧ valueEnd x ≤ miPos := by
  have hsum : kStunHeaderSize + (miPos - kStunHeaderSize) = miPos := by omega
  rw [signedAttributes, List.drop_take, scanAttributes_take, List.mem_filter, hsum,
    decide_eq_true_eq]
  rfl

/-- The attribute of a type that comes first, which is the one `_get_attribute` finds. -/
def firstAttribute (data : ByteString) (type : ℕ) : Option (ℕ × StunAttribute) :=
  (locatedAttributes data).find? fun x ↦ x.2.type = type

theorem getAttribute_read {data rest : ByteString} {msg : StunMessage}
    (h : StunMessage.read data = some (msg, rest)) (type : ℕ) :
    msg.getAttribute type = (firstAttribute data type).map Prod.snd := by
  rw [StunMessage.getAttribute, attrs_eq_locatedAttributes h, List.find?_map]
  rfl

/-- If any attribute of a type ends before `miPos`, the first one does. -/
theorem valueEnd_firstAttribute_le_iff {data : ByteString} {type miPos : ℕ}
    {x : ℕ × StunAttribute} (h : firstAttribute data type = some x) :
    valueEnd x ≤ miPos ↔
      ∃ y ∈ locatedAttributes data, y.2.type = type ∧ valueEnd y ≤ miPos := by
  obtain ⟨htype, before, after, hsplit, hbefore⟩ := List.find?_eq_some_iff_append.mp h
  have hpairs := pairwise_scanAttributes (data.length + 1) kStunHeaderSize
    (data.drop kStunHeaderSize)
  have hmem : x ∈ locatedAttributes data := by
    rw [hsplit]
    exact List.mem_append_right _ List.mem_cons_self
  refine ⟨fun hle ↦ ⟨x, hmem, of_decide_eq_true htype, hle⟩, ?_⟩
  rintro ⟨y, hy, hytype, hle⟩
  rw [hsplit] at hy
  rcases List.mem_append.mp hy with hy | hy
  · have := hbefore y hy
    rw [decide_eq_true hytype] at this
    cases this
  · rcases List.mem_cons.mp hy with rfl | hy
    · exact hle
    · -- `y` stands behind `x`
      change (locatedAttributes data).Pairwise _ at hpairs
      rw [hsplit] at hpairs
      have hxy := (List.pairwise_cons.mp (List.pairwise_append.mp hpairs).2.1).1 y hy
      rw [valueEnd] at hle
      omega

/-! ## Authenticated requests

The password has been checked by now, and the username and the priority are read again, from the
message. Where they come from is asked of the datagram. -/

theorem accepted_request {env : IceEnv} {iceParams : IceParameters} {data ufrag : ByteString}
    {msg : StunMessage} (h : UDPPort.getStunMessage env iceParams data = .accepted msg ufrag)
    (htype : msg.type = stunBindingRequest) :
    ∃ msg₀, StunMessage.read data = some (msg₀, []) ∧
      msg = msg₀.validateMessageIntegrity env iceParams.icePwd ∧ msg.integrity = .integrityOk ∧
      msg.getByteString stunAttrUsername ≠ none := by
  rw [UDPPort.getStunMessage] at h
  split_ifs at h
  rcases hread : StunMessage.read data with _ | ⟨msg₀, rest⟩ <;> rw [hread] at h
  · cases h
  dsimp only at h
  split_ifs at h with hrest htype₀
  · rw [ne_eq, Decidable.not_not] at hrest
    rw [UDPPort.checkRequest] at h
    split_ifs at h with hmissing
    rcases hparse : UDPPort.parseStunUsername msg₀ with _ | ⟨localUfrag, remoteUfrag⟩ <;>
      rw [hparse] at h
    · cases h
    dsimp only at h
    split_ifs at h with hlocal hintegrity
    rw [ne_eq, Decidable.not_not] at hintegrity
    cases h
    rw [not_or] at hmissing
    exact ⟨msg₀, by rw [hrest], rfl, hintegrity, hmissing.1⟩
  · cases h
    exact absurd htype htype₀

/-- The username and the priority of a message are read from attributes that end before `miPos`. -/
structure ReadBefore (data : ByteString) (msg : StunMessage) (miPos : ℕ) : Prop where
  username : ∀ bytes, msg.getByteString stunAttrUsername = some bytes →
    ∃ x, firstAttribute data stunAttrUsername = some x ∧ x.2 = .byteString stunAttrUsername bytes ∧
      valueEnd x ≤ miPos
  priority : ∀ bits, msg.getUInt32 stunAttrPriority = some bits →
    ∃ x, firstAttribute data stunAttrPriority = some x ∧ x.2 = .uint32 stunAttrPriority bits ∧
      valueEnd x ≤ miPos

/-- The values are read from the part of the datagram that the message integrity covers. -/
def ValuesSigned (data : ByteString) (msg : StunMessage) : Prop :=
  ∃ miPos, locateAttribute stunAttrMessageIntegrity data = some miPos ∧ ReadBefore data msg miPos

/-- There is an attribute of the type among those listed. -/
def HasType (l : List (ℕ × StunAttribute)) (type : ℕ) : Prop := ∃ x ∈ l, x.2.type = type

/-- Before the message integrity `read` finds a username, and a priority unless there is none in the
whole datagram. -/
def SignedPartComplete (data : ByteString) : Prop :=
  ∃ miPos, locateAttribute stunAttrMessageIntegrity data = some miPos ∧
    HasType (signedAttributes data miPos) stunAttrUsername ∧
    (HasType (locatedAttributes data) stunAttrPriority →
      HasType (signedAttributes data miPos) stunAttrPriority)

section

variable {data rest : ByteString} {msg : StunMessage} {miPos type : ℕ}

theorem hasType_signedAttributes_iff (hpos : kStunHeaderSize ≤ miPos) {x : ℕ × StunAttribute}
    (h : firstAttribute data type = some x) :
    HasType (signedAttributes data miPos) type ↔ valueEnd x ≤ miPos := by
  rw [valueEnd_firstAttribute_le_iff h]
  constructor
  · rintro ⟨y, hy, htype⟩
    obtain ⟨hmem, hle⟩ := (mem_signedAttributes_iff hpos).mp hy
    exact ⟨y, hmem, htype, hle⟩
  · rintro ⟨y, hmem, htype, hle⟩
    exact ⟨y, (mem_signedAttributes_iff hpos).mpr ⟨hmem, hle⟩, htype⟩

theorem hasType_locatedAttributes_iff :
    HasType (locatedAttributes data) type ↔ ∃ x, firstAttribute data type = some x := by
  rw [HasType, ← Option.isSome_iff_exists, firstAttribute, List.find?_isSome]
  simp only [decide_eq_true_eq]

theorem kept_firstAttribute (hread : StunMessage.read data = some (msg, rest))
    {x : ℕ × StunAttribute} (h : firstAttribute data type = some x) :
    x.2.type = type ∧ x.2.Kept := by
  obtain ⟨-, -, hattrs⟩ := attrs_of_read hread
  have htype := List.find?_some h
  refine ⟨of_decide_eq_true htype, kept_of_mem_readAttributes hattrs x.2 ?_⟩
  rw [attrs_eq_locatedAttributes hread]
  exact List.mem_map_of_mem (List.mem_of_find?_eq_some h)

theorem getByteString_username_iff (hread : StunMessage.read data = some (msg, rest))
    {bytes : ByteString} : msg.getByteString stunAttrUsername = some bytes ↔
      ∃ x, firstAttribute data stunAttrUsername = some x ∧
        x.2 = .byteString stunAttrUsername bytes := by
  rw [StunMessage.getByteString, getAttribute_read hread]
  rcases hx : firstAttribute data stunAttrUsername with _ | x
  · simp
  · obtain ⟨htype, hkept⟩ := kept_firstAttribute hread hx
    rw [StunAttribute.Kept, htype] at hkept
    obtain ⟨bytes', hbytes⟩ := hkept
    simp [hbytes]

theorem getUInt32_priority_iff (hread : StunMessage.read data = some (msg, rest)) {bits : ℕ} :
    msg.getUInt32 stunAttrPriority = some bits ↔
      ∃ x, firstAttribute data stunAttrPriority = some x ∧
        x.2 = .uint32 stunAttrPriority bits := by
  rw [StunMessage.getUInt32, getAttribute_read hread]
  rcases hx : firstAttribute data stunAttrPriority with _ | x
  · simp
  · obtain ⟨htype, hkept⟩ := kept_firstAttribute hread hx
    rw [StunAttribute.Kept, htype] at hkept
    obtain ⟨bits', hbits⟩ := hkept
    simp [hbits]

end

/-- **Which requests are used as signed.** -/
theorem valuesSigned_iff {env : IceEnv} {iceParams : IceParameters} {data ufrag : ByteString}
    {msg : StunMessage} (h : UDPPort.getStunMessage env iceParams data = .accepted msg ufrag)
    (htype : msg.type = stunBindingRequest) : ValuesSigned data msg ↔ SignedPartComplete data := by
  obtain ⟨msg₀, hread, rfl, -, husername⟩ := accepted_request h htype
  obtain ⟨bytes, hbytes⟩ := Option.ne_none_iff_exists'.mp husername
  -- the verdict on the integrity leaves the attributes alone
  change msg₀.getByteString stunAttrUsername = some bytes at hbytes
  obtain ⟨x, hx, hxbytes⟩ := (getByteString_username_iff hread).mp hbytes
  constructor
  · rintro ⟨miPos', hmi', hbefore⟩
    refine ⟨miPos', hmi', ?_, fun hpriority ↦ ?_⟩
    · obtain ⟨y, hy, -, hle⟩ := hbefore.username bytes hbytes
      exact (hasType_signedAttributes_iff (le_of_locateAttribute hmi') hy).mpr hle
    · obtain ⟨y, hy⟩ := hasType_locatedAttributes_iff.mp hpriority
      obtain ⟨hytype, hkept⟩ := kept_firstAttribute hread hy
      rw [StunAttribute.Kept, hytype] at hkept
      obtain ⟨bits, hbits⟩ := hkept
      obtain ⟨z, hz, -, hle⟩ :=
        hbefore.priority bits ((getUInt32_priority_iff hread).mpr ⟨y, hy, hbits⟩)
      exact (hasType_signedAttributes_iff (le_of_locateAttribute hmi') hz).mpr hle
  · rintro ⟨miPos', hmi', husername', hpriority⟩
    have hpos' := le_of_locateAttribute hmi'
    refine ⟨miPos', hmi', fun bytes' hbytes' ↦ ?_, fun bits hbits ↦ ?_⟩
    · obtain ⟨y, hy, hybytes⟩ := (getByteString_username_iff hread).mp hbytes'
      exact ⟨y, hy, hybytes, (hasType_signedAttributes_iff hpos' hy).mp husername'⟩
    · obtain ⟨y, hy, hybits⟩ := (getUInt32_priority_iff hread).mp hbits
      have hsigned := hpriority (hasType_locatedAttributes_iff.mpr ⟨y, hy⟩)
      exact ⟨y, hy, hybits, (hasType_signedAttributes_iff hpos' hy).mp hsigned⟩

/-- What `get_stun_message` hands on of a binding request at the sample port. -/
def acceptedRequest (env : IceEnv) (data : ByteString) : StunMessage :=
  (((StunMessage.read data).map Prod.fst).getD {}).validateMessageIntegrity env samplePort.1.icePwd

/-- The request of the first peer is used as signed. -/
theorem valuesSigned_requestA :
    (UDPPort.getStunMessage sampleEnv samplePort.1 bindingRequestA =
      .accepted (acceptedRequest sampleEnv bindingRequestA) (lit "peer")) ∧
    (ValuesSigned bindingRequestA (acceptedRequest sampleEnv bindingRequestA) ↔
      SignedPartComplete bindingRequestA) :=
  ⟨by decide +kernel, valuesSigned_iff
    (by decide +kernel : UDPPort.getStunMessage sampleEnv samplePort.1 bindingRequestA =
      .accepted (acceptedRequest sampleEnv bindingRequestA) (lit "peer")) (by decide +kernel)⟩

/-- A request of the first peer with the priority behind the message integrity. -/
def bindingRequestUnsigned : ByteString :=
  words [0x00010038, 0x2112A442, 0x72657175, 0x65737466, 0x726F6D41, 0x00060009, 0x73727631,
    0x3A706565, 0x72000000, 0x00080014, 0xE1AA2698, 0x4E08AA53, 0xAB83F845, 0x5C83FA3B, 0xA27EACFB,
    0x00240004, 0x6E0001FF, 0x80280004, 0xED1FD8C0]

/-- Its HMAC-SHA1, over the bytes up to the message integrity. -/
def unsignedEnv : IceEnv :=
  { sampleEnv with
    computeHmac := fun _ _ ↦ words [0xE1AA2698, 0x4E08AA53, 0xAB83F845, 0x5C83FA3B, 0xA27EACFB] }

/-- The priority is used although it is not signed. -/
theorem not_valuesSigned :
    ¬∀ (env : IceEnv) (iceParams : IceParameters) (data ufrag : ByteString) (msg : StunMessage),
      UDPPort.getStunMessage env iceParams data = .accepted msg ufrag →
      msg.type = stunBindingRequest → ValuesSigned data msg := by
  intro h
  have hsigned := h unsignedEnv samplePort.1 bindingRequestUnsigned (lit "peer")
    (acceptedRequest unsignedEnv bindingRequestUnsigned) (by decide +kernel) (by decide +kernel)
  obtain ⟨miPos, hmi, hbefore⟩ := hsigned
  obtain ⟨x, hx, -, hle⟩ := hbefore.priority 0x6E0001FF (by decide +kernel)
  have hpos : miPos = 36 := Option.some.inj (hmi.symm.trans (by decide +kernel))
  have hfirst : x = (60, .uint32 stunAttrPriority 0x6E0001FF) :=
    Option.some.inj (hx.symm.trans (by decide +kernel))
  rw [hpos, hfirst] at hle
  exact absurd hle (by decide)

end XrtcServer
