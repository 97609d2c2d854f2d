import XrtcServer.Ice.SignedAttributes

/-!
# The grammar of a STUN message

A message is a header of twenty bytes and attributes that tile the rest: four bytes of header, a
value of the declared length, and padding up to a multiple of four. A priority declares four bytes.

## The slips

`read` also takes tiles that are none. It makes a priority with its own length and so never looks
at the declared one, it rounds the length of an unknown attribute up in sixteen bits, and it does
not mind when the padding of a value is missing, which goes well if the datagram ends there. These
are the three `Slip`s, and `readIsGrammar_iff` says that nothing else is between `read` and the
grammar.

## Why they cannot hide

Bytes might be tiled in several ways, and a slip in one of them would prove nothing if another one
were in order. But where a tile starts, its length is determined by its header; so the first slip is
where every tiling by the grammar goes wrong (`not_readIsGrammar`).
-/

namespace XrtcServer

open ByteString WhileLoop

/-! ## Tiles

A `WireAttribute` is a piece of a datagram, whatever its bytes say. `Strict` are those that say what
they are. The three slips name what their bytes look like, and not what `read` computes of them. -/

/-- A piece of a datagram: the header of an attribute and what is taken to belong to it. -/
structure WireAttribute where
  header : ByteString
  value : ByteString
  padding : ByteString
  length_header : header.length = kStunAttributeHeaderSize

namespace WireAttribute

variable (w : WireAttribute)

def type : ℕ := w.header.be16 0

/-- The length that the header gives the value. -/
def declared : ℕ := w.header.be16 2

def bytes : ByteString := w.header ++ (w.value ++ w.padding)

/-- The attribute, if it is of a type that `read` keeps. -/
def kept : Option StunAttribute :=
  match getAttributeValueType w.type with
  | .unknown => none
  | .uint32 => some (.uint32 w.type (w.value.be32 0))
  | .byteString => some (.byteString w.type w.value)

/-- A tile of the grammar. -/
structure Strict : Prop where
  length_value : w.value.length = w.declared
  length_padding : w.padding.length = paddingOf w.declared
  priority : w.type = stunAttrPriority → w.declared = 4

/-- What `read` takes for an attribute though it is no tile; `last` says that nothing follows. -/
inductive Slip (last : Prop) : Prop
  /-- The length of a priority is not looked at. -/
  | priority (htype : w.type = stunAttrPriority) (hdeclared : w.declared ≠ 4)
      (hvalue : w.value.length = 4) (hpadding : w.padding = [])
  /-- The padded length of an unknown attribute is `0` in sixteen bits. -/
  | wrapped (htype : getAttributeValueType w.type = .unknown) (hdeclared : 65533 ≤ w.declared)
      (hvalue : w.value = []) (hpadding : w.padding = [])
  /-- A value that is kept ends the datagram without its padding. -/
  | unpadded (htype : getAttributeValueType w.type = .byteString) (hdeclared : ¬4 ∣ w.declared)
      (hvalue : w.value.length = w.declared) (hpadding : w.padding = []) (hlast : last)

variable {w} {last last' : Prop}

theorem Slip.imp (h : w.Slip last) (hl : last → last') : w.Slip last' := by
  cases h with
  | priority htype hdeclared hvalue hpadding => exact .priority htype hdeclared hvalue hpadding
  | wrapped htype hdeclared hvalue hpadding => exact .wrapped htype hdeclared hvalue hpadding
  | unpadded htype hdeclared hvalue hpadding hlast =>
    exact .unpadded htype hdeclared hvalue hpadding (hl hlast)

variable (w) in
theorem length_bytes : w.bytes.length = 4 + (w.value.length + w.padding.length) := by
  rw [bytes, List.length_append, List.length_append, w.length_header]
  rfl

variable (w) in
theorem declared_lt : w.declared < 65536 := be16_lt _ _

end WireAttribute

/-- The attributes are tiles, or slips of `read`. -/
def Tiled : List WireAttribute → Prop
  | [] => True
  | w :: ws => (w.Strict ∨ w.Slip (ws = [])) ∧ Tiled ws

theorem tiled_of_strict {ws : List WireAttribute} (h : ∀ w ∈ ws, w.Strict) : Tiled ws := by
  induction ws with
  | nil => trivial
  | cons w ws ih =>
    exact ⟨.inl (h w List.mem_cons_self), ih fun v hv ↦ h v (List.mem_cons_of_mem _ hv)⟩

theorem eq_nil_of_short {ws : List WireAttribute}
    (h : (ws.flatMap WireAttribute.bytes).length < 4) : ws = [] := by
  cases ws with
  | nil => rfl
  | cons w ws =>
    have hw := w.length_bytes
    rw [List.flatMap_cons, List.length_append] at h
    omega

/-! ## One attribute

In one direction, `read` takes a tile or a slip off the front. In the other one, what it took is a
tile or a slip, with `cut` for the piece of the buffer that it took; here the cases are the three
kinds of values, and in each the length decides which of the two it is. -/

theorem getAttributeValueType_eq_uint32 {type : ℕ} :
    getAttributeValueType type = .uint32 ↔ type = stunAttrPriority := by
  rw [getAttributeValueType]
  split_ifs with h₁ h₂ h₃
  · simp [h₁, stunAttrUsername, stunAttrPriority]
  · simp [h₂, stunAttrMessageIntegrity, stunAttrPriority]
  · simp [h₃]
  · simp [h₃]

theorem attributeHeader_append {s : ByteString} (h : s.length = 4) (t : ByteString) :
    attributeHeader (s ++ t) = (s.be16 0, s.be16 2) := by
  obtain ⟨a, b, c, d, rfl⟩ : ∃ a b c d, s = [a, b, c, d] := by
    match s, h with
    | [a, b, c, d], _ => exact ⟨a, b, c, d, rfl⟩
  rfl

/-- The padded length in sixteen bits, of an attribute that fits into a datagram. -/
theorem padded_of_le {n m : ℕ} (hm : m < 65536) (h : n + paddingOf n ≤ m) :
    (n + paddingOf n) % 65536 = n + paddingOf n :=
  Nat.mod_eq_of_lt (h.trans_lt hm)

theorem paddingOf_eq_zero_iff {n : ℕ} : paddingOf n = 0 ↔ 4 ∣ n := by
  rw [paddingOf]
  split_ifs <;> omega

/-- The padded length wraps for the last three lengths, and to zero. -/
theorem padded_wrap {n : ℕ} (hn : n < 65536) (h : 65533 ≤ n) : (n + paddingOf n) % 65536 = 0 := by
  rw [paddingOf]
  split_ifs <;> omega

namespace WireAttribute

variable {w : WireAttribute} {rest : ByteString}

theorem readAttribute_bytes_append (hlt : (w.bytes ++ rest).length < 65536)
    (h : w.Strict ∨ w.Slip (rest = [])) :
    readAttribute (w.bytes ++ rest) = some (w.kept, rest) := by
  have hlength : (w.bytes ++ rest).length =
      4 + (w.value.length + w.padding.length) + rest.length := by
    rw [List.length_append, length_bytes]
  have hheader : attributeHeader (w.bytes ++ rest) = (w.type, w.declared) := by
    rw [bytes, List.append_assoc]
    exact attributeHeader_append w.length_header _
  have hdrop : (w.bytes ++ rest).drop 4 = w.value ++ (w.padding ++ rest) := by
    rw [bytes, List.append_assoc, List.append_assoc]
    exact List.drop_left' w.length_header
  have hdropAdd (n : ℕ) : (w.bytes ++ rest).drop (4 + n) =
      (w.value ++ (w.padding ++ rest)).drop n := by
    rw [← List.drop_drop, hdrop]
  have hdeclared := w.declared_lt
  rw [readAttribute_eq (by omega), hheader]
  dsimp only
  rcases h with hstrict | hslip
  · have hvalue := hstrict.length_value
    have hpadding := hstrict.length_padding
    rcases hv : getAttributeValueType w.type with _ | _ | _ <;> dsimp only <;>
      rw [kept, hv] <;> dsimp only
    · have hskip : (w.bytes ++ rest).drop (4 + (w.declared + paddingOf w.declared)) = rest := by
        rw [hdropAdd, ← List.append_assoc]
        exact List.drop_left' (by rw [List.length_append, hvalue, hpadding])
      rw [padded_of_le hlt (by omega), if_pos (by omega), hskip]
    · have hfour := hstrict.priority (getAttributeValueType_eq_uint32.mp hv)
      have hnil : w.padding = [] := List.eq_nil_of_length_eq_zero (by rw [hpadding, hfour]; rfl)
      have hskip : (w.bytes ++ rest).drop 8 = rest := by
        rw [show 8 = 4 + 4 from rfl, hdropAdd, hnil]
        exact List.drop_left' (hvalue.trans hfour)
      rw [if_pos (by omega), hdrop, List.take_left' (hvalue.trans hfour), hskip]
    · have hskip : consumePadding w.declared (w.padding ++ rest) = rest := by
        rw [consumePadding_eq, if_pos (by rw [List.length_append]; omega),
          List.drop_left' hpadding]
      rw [if_pos (by omega), hdropAdd, hdrop, List.take_left' hvalue, List.drop_left' hvalue, hskip]
  · cases hslip with
    | priority htype hdeclared hvalue hpadding =>
      have hv := getAttributeValueType_eq_uint32.mpr htype
      have hskip : (w.bytes ++ rest).drop 8 = rest := by
        rw [show 8 = 4 + 4 from rfl, hdropAdd, hpadding]
        exact List.drop_left' hvalue
      rw [kept, hv]
      dsimp only
      rw [if_pos (by omega), hdrop, List.take_left' hvalue, hskip]
    | wrapped htype hdeclared hvalue hpadding =>
      have hskip : (w.bytes ++ rest).drop 4 = rest := by
        rw [hdrop, hvalue, hpadding]
        rfl
      rw [kept, htype]
      dsimp only
      rw [padded_wrap w.declared_lt hdeclared, if_pos (by omega), hskip]
    | unpadded htype hdeclared hvalue hpadding hlast =>
      have hne := mt paddingOf_eq_zero_iff.mp hdeclared
      have hskip : consumePadding w.declared [] = [] := by
        rw [consumePadding_eq, if_neg (by simp only [List.length_nil]; omega)]
      rw [kept, htype]
      dsimp only
      rw [if_pos (by omega), hdropAdd, hdrop, hpadding, hlast, List.take_left' hvalue,
        List.drop_left' hvalue, List.append_nil, hskip]

/-- The front of `buf` with a value of `n` bytes and `m` bytes of padding. -/
def cut {buf : ByteString} (h : 4 ≤ buf.length) (n m : ℕ) : WireAttribute where
  header := buf.take 4
  value := (buf.drop 4).take n
  padding := (buf.drop (4 + n)).take m
  length_header := List.length_take_of_le h

section cut

variable {buf : ByteString} (h : 4 ≤ buf.length)

theorem cut_append (n m : ℕ) : buf = (cut h n m).bytes ++ buf.drop (4 + n + m) := by
  rw [bytes, cut, List.append_assoc, List.append_assoc, ← List.drop_drop (l := buf) (i := m),
    List.take_append_drop, ← List.drop_drop (l := buf) (i := n), List.take_append_drop,
    List.take_append_drop]

theorem attributeHeader_eq (n m : ℕ) :
    attributeHeader buf = ((cut h n m).type, (cut h n m).declared) := by
  have := attributeHeader_append (cut h n m).length_header (buf.drop 4)
  rwa [cut, List.take_append_drop] at this

theorem type_cut (n m : ℕ) : (cut h n m).type = (attributeHeader buf).1 :=
  (congrArg Prod.fst (attributeHeader_eq h n m)).symm

theorem declared_cut (n m : ℕ) : (cut h n m).declared = (attributeHeader buf).2 :=
  (congrArg Prod.snd (attributeHeader_eq h n m)).symm

theorem length_value_cut {n : ℕ} (hn : 4 + n ≤ buf.length) (m : ℕ) :
    (cut h n m).value.length = n :=
  List.length_take_of_le (by rw [List.length_drop]; omega)

theorem length_padding_cut {n m : ℕ} (hn : 4 + n + m ≤ buf.length) :
    (cut h n m).padding.length = m :=
  List.length_take_of_le (by rw [List.length_drop]; omega)

theorem strict_cut (hn : 4 + (attributeHeader buf).2 + paddingOf (attributeHeader buf).2 ≤
    buf.length) (hfour : (attributeHeader buf).1 = stunAttrPriority → (attributeHeader buf).2 = 4) :
    (cut h (attributeHeader buf).2 (paddingOf (attributeHeader buf).2)).Strict where
  length_value := by rw [declared_cut, length_value_cut h (by omega)]
  length_padding := by rw [declared_cut, length_padding_cut h hn]
  priority := by rwa [type_cut, declared_cut]

end cut

/-- What `readAttribute` took is a tile or a slip. A missing padding leaves less than the header of
another attribute. -/
theorem exists_of_readAttribute {buf : ByteString} {attr : Option StunAttribute}
    (hlt : buf.length < 65536) (h : readAttribute buf = some (attr, rest)) :
    ∃ w : WireAttribute, buf = w.bytes ++ rest ∧ w.kept = attr ∧
      (w.Strict ∨ w.Slip (rest.length < 4)) := by
  have hfour : 4 ≤ buf.length := by
    have := readAttribute_length h
    omega
  have hdeclared : (attributeHeader buf).2 < 65536 := be16_lt _ _
  have hpad := paddingOf_lt (attributeHeader buf).2
  have hpriority : getAttributeValueType (attributeHeader buf).1 = .uint32 ↔
      (attributeHeader buf).1 = stunAttrPriority := getAttributeValueType_eq_uint32
  rw [readAttribute_eq hfour] at h
  rcases hv : getAttributeValueType (attributeHeader buf).1 with _ | _ | _ <;> rw [hv] at h <;>
    dsimp only at h
  · -- an unknown attribute is skipped
    split_ifs at h with hn
    cases h
    have hkept (n m : ℕ) : (cut hfour n m).kept = none := by rw [kept, type_cut, hv]
    by_cases hwrap : 65533 ≤ (attributeHeader buf).2
    · rw [padded_wrap hdeclared hwrap]
      refine ⟨cut hfour 0 0, cut_append hfour 0 0, hkept _ _, .inr (.wrapped ?_ ?_ rfl rfl)⟩
      · rw [type_cut, hv]
      · rwa [declared_cut]
    · have hle := dvd_add_paddingOf (attributeHeader buf).2
      rw [Nat.mod_eq_of_lt (by omega)] at hn ⊢
      rw [← Nat.add_assoc] at hn ⊢
      refine ⟨_, cut_append hfour _ _, hkept _ _, .inl (strict_cut hfour hn fun hp ↦ ?_)⟩
      rw [hpriority.mpr hp] at hv
      cases hv
  · -- four bytes are read for a priority
    split_ifs at h with hn
    cases h
    have hkept : (cut hfour 4 0).kept = some (.uint32 (attributeHeader buf).1
        (ByteString.be32 ((buf.drop 4).take 4) 0)) := by
      rw [kept, type_cut, hv]
      rfl
    refine ⟨cut hfour 4 0, cut_append hfour 4 0, hkept, ?_⟩
    by_cases hd : (attributeHeader buf).2 = 4
    · have := strict_cut hfour (by rw [hd]; exact hn) fun _ ↦ hd
      rw [hd] at this
      exact .inl this
    · refine .inr (.priority ?_ ?_ (length_value_cut hfour hn 0) rfl)
      · rw [type_cut, ← hpriority, hv]
      · rwa [declared_cut]
  · -- the padding of a value that is kept is consumed if it is there
    split_ifs at h with hn
    cases h
    have hkept (m : ℕ) : (cut hfour (attributeHeader buf).2 m).kept = some (.byteString
        (attributeHeader buf).1 ((buf.drop 4).take (attributeHeader buf).2)) := by
      rw [kept, type_cut, hv]
      rfl
    have hdrop : (buf.drop (4 + (attributeHeader buf).2)).length =
        buf.length - (4 + (attributeHeader buf).2) := List.length_drop
    rw [consumePadding_eq]
    split_ifs with hin
    · rw [List.drop_drop]
      refine ⟨_, cut_append hfour _ _, hkept _, .inl (strict_cut hfour (by omega) fun hp ↦ ?_)⟩
      rw [hpriority.mpr hp] at hv
      cases hv
    · refine ⟨_, cut_append hfour _ 0, hkept _, .inr (.unpadded ?_ ?_ ?_ rfl (by omega))⟩
      · rw [type_cut, hv]
      · rw [declared_cut, ← paddingOf_eq_zero_iff]
        omega
      · rw [declared_cut, length_value_cut hfour hn]

/-- The bytes of a tile are not those of a slip. -/
theorem Strict.of_bytes_eq {v : WireAttribute} (h : v.Strict) {last : Prop}
    (hw : w.Strict ∨ w.Slip last) (heq : v.bytes = w.bytes) : w.Strict := by
  have hlength := congrArg List.length heq
  rw [length_bytes, length_bytes] at hlength
  have hheader : v.header = w.header := by
    have := congrArg (List.take kStunAttributeHeaderSize) heq
    rwa [bytes, bytes, List.take_left' v.length_header, List.take_left' w.length_header] at this
  have htype : v.type = w.type := congrArg (ByteString.be16 · 0) hheader
  have hdeclared : v.declared = w.declared := congrArg (ByteString.be16 · 2) hheader
  have hvalue := h.length_value
  have hpadding := h.length_padding
  rcases hw with hw | hw
  · exact hw
  · cases hw with
    | priority htype' hdeclared' =>
      have := h.priority (htype.trans htype')
      omega
    | wrapped htype' hdeclared' hvalue' hpadding' =>
      rw [hvalue', hpadding', List.length_nil] at hlength
      omega
    | unpadded htype' hdeclared' hvalue' hpadding' =>
      have := mt paddingOf_eq_zero_iff.mp hdeclared'
      rw [hpadding', List.length_nil] at hlength
      rw [hdeclared] at hvalue hpadding
      omega

end WireAttribute

/-! ## The loop -/

theorem exits_readAttributes_tiled {ws : List WireAttribute} (h : Tiled ws)
    (hlt : (ws.flatMap WireAttribute.bytes).length < 65536) (acc : List StunAttribute) :
    Exits readAttributesBody (ws.flatMap WireAttribute.bytes, acc)
      (some (acc ++ ws.filterMap WireAttribute.kept, [])) := by
  induction ws generalizing acc with
  | nil => exact .leave (by simp [readAttributesBody])
  | cons w ws ih =>
    rw [List.flatMap_cons] at hlt ⊢
    have hlength := hlt
    rw [List.length_append, w.length_bytes] at hlength
    have hne : w.bytes ++ ws.flatMap WireAttribute.bytes ≠ [] := by
      rw [← List.length_pos_iff, List.length_append, w.length_bytes]
      omega
    have hread := WireAttribute.readAttribute_bytes_append hlt
      (h.1.imp_right fun hslip ↦ hslip.imp (by rintro rfl; rfl))
    have hrest := ih h.2 (by omega) (acc ++ w.kept.toList)
    have hbody : readAttributesBody (w.bytes ++ ws.flatMap WireAttribute.bytes, acc) =
        .inr (ws.flatMap WireAttribute.bytes, acc ++ w.kept.toList) := by
      rw [readAttributesBody, if_neg hne, hread]
    refine .again hbody ?_
    rw [List.filterMap_cons]
    rcases hk : w.kept with _ | a <;> rw [hk] at hrest <;> simpa using hrest

theorem tiled_of_exits {s : ByteString × List StunAttribute}
    {r : Option (List StunAttribute × ByteString)} (h : Exits readAttributesBody s r)
    (hlt : s.1.length < 65536) (hr : r.isSome = true) :
    ∃ ws, s.1 = ws.flatMap WireAttribute.bytes ∧ Tiled ws := by
  induction h with
  | @leave s r hs =>
    rw [readAttributesBody] at hs
    split_ifs at hs with hnil
    · exact ⟨[], hnil, trivial⟩
    · rcases ha : readAttribute s.1 with _ | ⟨attr, rest⟩ <;> rw [ha] at hs <;> cases hs
      cases hr
  | @again s s' r hs _ ih =>
    rw [readAttributesBody] at hs
    split_ifs at hs
    rcases ha : readAttribute s.1 with _ | ⟨attr, rest⟩ <;> rw [ha] at hs <;> cases hs
    have hshort := readAttribute_length ha
    obtain ⟨w, hbytes, -, hw⟩ := WireAttribute.exists_of_readAttribute hlt ha
    obtain ⟨ws, hws, htiled⟩ := ih (by dsimp only; omega) hr
    dsimp only at hws
    refine ⟨w :: ws, by rw [List.flatMap_cons, ← hws, ← hbytes], ?_, htiled⟩
    exact hw.imp_right fun hslip ↦ hslip.imp fun hlast ↦ eq_nil_of_short (hws ▸ hlast)

/-- Bytes tile in one way only, if one way is that of the grammar. -/
theorem strict_of_tiled {vs ws : List WireAttribute} (hv : ∀ v ∈ vs, v.Strict) (hw : Tiled ws)
    (heq : vs.flatMap WireAttribute.bytes = ws.flatMap WireAttribute.bytes)
    (hlt : (vs.flatMap WireAttribute.bytes).length < 65536) : ∀ w ∈ ws, w.Strict := by
  induction vs generalizing ws with
  | nil =>
    have hnil : ws = [] := eq_nil_of_short (by rw [← heq]; exact Nat.zero_lt_succ _)
    simp [hnil]
  | cons v vs ih =>
    cases ws with
    | nil => simp
    | cons w ws =>
      have htiled := tiled_of_strict hv
      rw [List.flatMap_cons, List.flatMap_cons] at heq
      rw [List.flatMap_cons] at hlt
      -- both begin with what one round of the loop takes
      have hreadv := WireAttribute.readAttribute_bytes_append hlt
        (htiled.1.imp_right fun hslip ↦ hslip.imp (by rintro rfl; rfl))
      have hreadw := WireAttribute.readAttribute_bytes_append (heq ▸ hlt)
        (hw.1.imp_right fun hslip ↦ hslip.imp (by rintro rfl; rfl))
      rw [← heq, hreadv] at hreadw
      have hrest : vs.flatMap WireAttribute.bytes = ws.flatMap WireAttribute.bytes :=
        (Prod.mk.inj (Option.some.inj hreadw)).2
      rw [hrest] at heq
      have hbytes := List.append_cancel_right heq
      rw [List.length_append] at hlt
      intro u hu
      rcases List.mem_cons.mp hu with rfl | hu
      · exact (hv v List.mem_cons_self).of_bytes_eq hw.1 hbytes
      · exact ih (fun u hu ↦ hv u (List.mem_cons_of_mem _ hu)) hw.2 hrest (by omega) u hu

/-! ## Messages

The header is read first and without the loop, so being accepted splits into two conditions: the
header is in order, and the loop gets to the end. -/

/-- The header of a message: the type has passed its check, and the length is that of the rest. -/
def HeaderOk (data : ByteString) : Prop :=
  kStunHeaderSize ≤ data.length ∧ data.be16 0 &&& 0x0800 = 0 ∧
    data.be16 2 + kStunHeaderSize = data.length

instance (data : ByteString) : Decidable (HeaderOk data) :=
  inferInstanceAs (Decidable (_ ∧ _ ∧ _))

/-- `read` accepts a header that is in order, if the loop gets to the end of what follows. -/
theorem exists_read_iff (data : ByteString) : (∃ r, StunMessage.read data = some r) ↔
    HeaderOk data ∧ (readAttributes (data.drop kStunHeaderSize)).isSome = true := by
  have hsizes : 2 + 2 + kStunMagicCookieLength + kStunTransactionIdLength = kStunHeaderSize := rfl
  have htype : be16 (data.take 2) 0 = data.be16 0 := be16_take (Nat.le_refl 2)
  have hlength : be16 ((data.drop 2).take 2) 0 = data.be16 2 :=
    (be16_take (Nat.le_refl 2)).trans (be16_drop data 2 0)
  have hrest : (data.drop (2 + 2 + kStunMagicCookieLength + kStunTransactionIdLength)).length =
      data.length - kStunHeaderSize := List.length_drop
  have hread {n : ℕ} (k : ℕ) (hn : k + n ≤ data.length) :
      readBytes n (data.drop k) = some ((data.drop k).take n, data.drop (k + n)) := by
    rw [readBytes, if_pos (by rw [List.length_drop]; omega), List.drop_drop]
  by_cases hlong : kStunHeaderSize ≤ data.length
  · have h₁ : readUInt16 data = some (data.be16 0, data.drop 2) := by
      have := hread (n := 2) 0 (by omega)
      rw [List.drop_zero, Nat.zero_add] at this
      rw [readUInt16, this, Option.map_some, htype]
    have h₂ : readUInt16 (data.drop 2) = some (data.be16 2, data.drop (2 + 2)) := by
      rw [readUInt16, hread 2 (by omega), Option.map_some, hlength]
    rw [StunMessage.read, h₁, Option.bind_eq_bind, Option.bind_some]
    dsimp only
    by_cases hbit : data.be16 0 &&& 0x0800 = 0
    · rw [if_neg (not_not.mpr hbit), h₂, Option.bind_eq_bind, Option.bind_some]
      dsimp only
      rw [hread (2 + 2) (by omega), Option.bind_eq_bind, Option.bind_some]
      dsimp only
      rw [hread (2 + 2 + kStunMagicCookieLength) (by omega), Option.bind_some]
      dsimp only
      rw [hrest, hsizes]
      by_cases hfield : data.length - kStunHeaderSize = data.be16 2
      · rw [if_neg (not_not.mpr hfield)]
        have hok : HeaderOk data := ⟨hlong, hbit, by omega⟩
        rcases readAttributes (data.drop kStunHeaderSize) with _ | r <;> simp [hok]
      · rw [if_pos hfield]
        simp [HeaderOk]
        omega
    · rw [if_pos hbit]
      simp [HeaderOk, hbit]
  · constructor
    · rintro ⟨⟨msg, rest⟩, h⟩
      exact absurd (attrs_of_read h).1 hlong
    · rintro ⟨h, -⟩
      exact absurd h.1 hlong

/-- The datagram is a header and tiles. -/
def InGrammar (data : ByteString) (ws : List WireAttribute) : Prop :=
  HeaderOk data ∧ data.drop kStunHeaderSize = ws.flatMap WireAttribute.bytes ∧ ∀ w ∈ ws, w.Strict

/-- What `read` makes of the datagram is what the grammar says. -/
def ReadIsGrammar (data : ByteString) : Prop :=
  ((∃ r, StunMessage.read data = some r) ↔ ∃ ws, InGrammar data ws) ∧
    ∀ msg rest ws, StunMessage.read data = some (msg, rest) → InGrammar data ws →
      msg.attrs = ws.filterMap WireAttribute.kept

/-- The datagram is a header and what `read` takes for tiles, and one is none. -/
def HasSlip (data : ByteString) : Prop :=
  HeaderOk data ∧ ∃ ws, data.drop kStunHeaderSize = ws.flatMap WireAttribute.bytes ∧ Tiled ws ∧
    ∃ w ∈ ws, ¬w.Strict

variable {data : ByteString} {ws : List WireAttribute}

theorem HeaderOk.length_drop_lt (h : HeaderOk data) :
    (data.drop kStunHeaderSize).length < 65536 := by
  have hlt := be16_lt data 2
  have := h.2.2
  rw [List.length_drop]
  omega

theorem readAttributes_of_tiled (h : HeaderOk data)
    (hbytes : data.drop kStunHeaderSize = ws.flatMap WireAttribute.bytes) (htiled : Tiled ws) :
    readAttributes (data.drop kStunHeaderSize) =
      some (ws.filterMap WireAttribute.kept, []) := by
  have hexits := exits_readAttributes_tiled htiled (hbytes ▸ h.length_drop_lt) []
  rw [← hbytes] at hexits
  exact (exits_readAttributes _).unique hexits

theorem exists_read_iff_tiled (data : ByteString) : (∃ r, StunMessage.read data = some r) ↔
    HeaderOk data ∧ ∃ ws, data.drop kStunHeaderSize = ws.flatMap WireAttribute.bytes ∧
      Tiled ws := by
  rw [exists_read_iff]
  refine and_congr_right fun h ↦ ⟨fun hr ↦ ?_, fun ⟨ws, hbytes, htiled⟩ ↦ ?_⟩
  · exact tiled_of_exits (exits_readAttributes _) h.length_drop_lt hr
  · rw [readAttributes_of_tiled h hbytes htiled]
    rfl

/-- A slip in a datagram is not undone by another way to tile it. -/
theorem not_readIsGrammar (h : HasSlip data) : ¬ReadIsGrammar data := by
  obtain ⟨hheader, ws, hbytes, htiled, w, hw, hstrict⟩ := h
  intro hread
  obtain ⟨vs, -, hvs, hv⟩ := hread.1.mp ((exists_read_iff_tiled data).mpr ⟨hheader, ws, hbytes,
    htiled⟩)
  exact hstrict (strict_of_tiled hv htiled (hvs.symm.trans hbytes)
    (hvs ▸ hheader.length_drop_lt) w hw)

/-- **The grammar of `read`.** It accepts the messages of the grammar, with the attributes they
have, and otherwise just the datagrams with a slip. -/
theorem readIsGrammar_iff (data : ByteString) : ReadIsGrammar data ↔ ¬HasSlip data := by
  constructor
  · exact fun h hslip ↦ not_readIsGrammar hslip h
  intro hslip
  refine ⟨⟨fun h ↦ ?_, fun ⟨ws, hheader, hbytes, hstrict⟩ ↦ ?_⟩, ?_⟩
  · obtain ⟨hheader, ws, hbytes, htiled⟩ := (exists_read_iff_tiled data).mp h
    refine ⟨ws, hheader, hbytes, fun w hw ↦ ?_⟩
    by_contra hstrict
    exact hslip ⟨hheader, ws, hbytes, htiled, w, hw, hstrict⟩
  · exact (exists_read_iff_tiled data).mpr ⟨hheader, ws, hbytes, tiled_of_strict hstrict⟩
  · rintro msg rest ws hread ⟨hheader, hbytes, hstrict⟩
    have hattrs := (attrs_of_read hread).2.2
    rw [readAttributes_of_tiled hheader hbytes (tiled_of_strict hstrict)] at hattrs
    exact (congrArg Prod.fst (Option.some.inj hattrs)).symm

/-- A binding request whose priority declares no bytes, and has four. -/
def requestWithEmptyPriority : ByteString :=
  putBE16 stunBindingRequest ++ putBE16 8 ++ putBE32 kStunMagicCookie ++ lit "abcdefghijkl"
    ++ putBE16 stunAttrPriority ++ putBE16 0 ++ putBE32 7

/-- `read` takes the four bytes for the value. -/
theorem not_readIsGrammar_emptyPriority : ¬ReadIsGrammar requestWithEmptyPriority := by
  let w : WireAttribute := ⟨putBE16 stunAttrPriority ++ putBE16 0, putBE32 7, [], rfl⟩
  have hslip : w.Slip True := .priority (by decide) (by decide) rfl rfl
  refine not_readIsGrammar ⟨by decide, [w], by decide, ⟨.inr (hslip.imp fun _ ↦ rfl), trivial⟩, w,
    List.mem_singleton_self w, fun h ↦ ?_⟩
  exact absurd (h.priority (by decide)) (by decide)

end XrtcServer
