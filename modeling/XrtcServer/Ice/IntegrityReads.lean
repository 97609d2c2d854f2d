import XrtcServer.Ice.StunGrammar

/-!
# What the integrity check reads

`_validate_message_integrity_of_type` works on the bytes of the datagram. The functions here are
those of `Ice/Stun.lean` and `Ice/UDPPort.lean` with a log of where the datagram is read, on the way
from `get_stun_message` and from `IceConnection::on_read_packet`; that they still compute the same
is said first.

The loop reads headers that it has room for, and the bytes before the message integrity are there.
The comparison at its end takes twenty bytes wherever the attribute was found. A message integrity
that is shorter and stands at the end is accepted by `read`, and then the comparison runs out of the
datagram.
-/

namespace XrtcServer

open ByteString WhileLoop

/-- The bytes of the datagram that are read at one time. -/
structure Access where
  pos : ℕ
  size : ℕ
deriving DecidableEq

/-- Nothing but the datagram is read. -/
def ReadsInside (data : ByteString) (reads : List Access) : Prop :=
  ∀ a ∈ reads, a.pos + a.size ≤ data.length

/-! ## The functions with their reads -/

/-- The type and the length of the attribute at `pos`. -/
def headerReads (data : ByteString) (pos : ℕ) : List Access :=
  if pos + kStunAttributeHeaderSize ≤ data.length then [⟨pos, 2⟩, ⟨pos + 2, 2⟩] else []

def locateAttributeLogged (attrType : ℕ) (data : ByteString) : Option ℕ × List Access :=
  (rounds (logged (locateAttributeBody attrType data) (headerReads data)) (data.length + 1)
    (kStunHeaderSize, [])).getD (none, [])

def validateMessageIntegrityOfTypeLogged (env : IceEnv) (miAttrType miAttrSize : ℕ)
    (data : ByteString) (password : ByteString) : Bool × List Access :=
  if data.length % 4 ≠ 0 ∨ data.length < kStunHeaderSize then (false, [])
  else
    let reads : List Access := [⟨2, 2⟩]
    if data.be16 2 + kStunHeaderSize ≠ data.length then (false, reads)
    else
      let located := locateAttributeLogged miAttrType data
      let reads := reads ++ located.2
      match located.1 with
      | none => (false, reads)
      | some miPos =>
        let tempData := data.take miPos
        let reads := reads ++ [⟨0, miPos⟩]
        let extraPos := miPos + kStunAttributeHeaderSize + miAttrSize
        let tempData :=
          if data.length > extraPos then
            setBE16 tempData 2 (data.length - (data.length - extraPos) - kStunHeaderSize)
          else tempData
        let hmac := env.computeHmac password tempData
        if hmac.length ≠ kStunMessageIntegritySize then (false, reads)
        else
          (memoryAt env data (miPos + kStunAttributeHeaderSize) miAttrSize == hmac,
            reads ++ [⟨miPos + kStunAttributeHeaderSize, miAttrSize⟩])

def StunMessage.validateMessageIntegrityLogged (env : IceEnv) (msg : StunMessage)
    (password : ByteString) : StunMessage × List Access :=
  match msg.getByteString stunAttrMessageIntegrity with
  | none => ({ msg with password, integrity := .notSet }, [])
  | some _ =>
    let checked := validateMessageIntegrityOfTypeLogged env stunAttrMessageIntegrity
      kStunMessageIntegritySize msg.buffer password
    ({ msg with password, integrity := if checked.1 then .integrityOk else .integrityBad },
      checked.2)

namespace UDPPort

def checkRequestLogged (env : IceEnv) (iceParams : IceParameters) (msg : StunMessage) :
    StunVerdict × List Access :=
  if msg.getByteString stunAttrUsername = none ∨
      msg.getByteString stunAttrMessageIntegrity = none then
    (.rejected msg stunErrorBadRequest stunErrorReasonBadRequest, [])
  else
    match parseStunUsername msg with
    | none => (.rejected msg stunErrorUnauthorized stunErrorReasonUnauthorized, [])
    | some (localUfrag, remoteUfrag) =>
      if localUfrag ≠ iceParams.iceUfrag then
        (.rejected msg stunErrorUnauthorized stunErrorReasonUnauthorized, [])
      else
        let checked := msg.validateMessageIntegrityLogged env iceParams.icePwd
        if checked.1.integrity ≠ .integrityOk then
          (.rejected checked.1 stunErrorUnauthorized stunErrorReasonUnauthorized, checked.2)
        else (.accepted checked.1 remoteUfrag, checked.2)

def getStunMessageLogged (env : IceEnv) (iceParams : IceParameters) (data : ByteString) :
    StunVerdict × List Access :=
  if !validateFingerprint env data then (.notStun, [])
  else
    match StunMessage.read data with
    | none => (.notStun, [])
    | some (msg, rest) =>
      if rest ≠ [] then (.notStun, [])
      else if msg.type = stunBindingRequest then checkRequestLogged env iceParams msg
      else (.accepted msg [], [])

end UDPPort

namespace World

variable (env : IceEnv) (w : World)

def onStunMessageLogged (c : ConnId) (msg : StunMessage) (remoteUfrag : ByteString) (now : ℤ) :
    World × List Access :=
  let x := w.conn c
  if msg.type = stunBindingRequest then
    if remoteUfrag ≠ x.remoteCandidate.username then
      (w.sendBindingErrorResponse env x.port msg x.remoteCandidate.address stunErrorUnauthorized
        stunErrorReasonUnauthorized, [])
    else (w.handleStunBindingRequest env c msg, [])
  else if msg.type = stunBindingResponse ∨ msg.type = stunBindingErrorResponse then
    let checked := msg.validateMessageIntegrityLogged env x.remoteCandidate.password
    if checked.1.integrity = .integrityOk then ((w.checkResponse env c checked.1 now).1, checked.2)
    else (w, checked.2)
  else (w, [])

def onConnReadPacketLogged (c : ConnId) (data : ByteString) (ts now : ℤ) : World × List Access :=
  if w.conns.live c then
    let verdict := UDPPort.getStunMessageLogged env (w.port (w.conn c).port).iceParams data
    match verdict.1 with
    | .notStun => (w.signal (.readPacket data ts), verdict.2)
    | .rejected msg errCode reason =>
      (w.sendBindingErrorResponse env (w.conn c).port msg (w.conn c).remoteCandidate.address errCode
        reason, verdict.2)
    | .accepted msg remoteUfrag =>
      let handled := w.onStunMessageLogged env c msg remoteUfrag now
      (handled.1, verdict.2 ++ handled.2)
  else (w.fault (.connectionCalled c), [])

end World

/-! ## They compute the same

A function with a log returns what the function without it returns. Each lemma is about the first
component alone, so a test that is made on the way is the same test on both sides. -/

variable {env : IceEnv}

theorem locateAttributeLogged_fst (attrType : ℕ) (data : ByteString) :
    (locateAttributeLogged attrType data).1 = locateAttribute attrType data := by
  have h : (rounds (logged (locateAttributeBody attrType data) (headerReads data))
      (data.length + 1) (kStunHeaderSize, [])).map Prod.fst =
      rounds (locateAttributeBody attrType data) (data.length + 1) kStunHeaderSize :=
    map_fst_rounds_logged ..
  rw [locateAttributeLogged, locateAttribute, ← h]
  rcases rounds (logged (locateAttributeBody attrType data) (headerReads data)) (data.length + 1)
    (kStunHeaderSize, []) with _ | r <;> rfl

theorem validateMessageIntegrityOfTypeLogged_fst (env : IceEnv) (miAttrType miAttrSize : ℕ)
    (data password : ByteString) :
    (validateMessageIntegrityOfTypeLogged env miAttrType miAttrSize data password).1 =
      validateMessageIntegrityOfType env miAttrType miAttrSize data password := by
  rw [validateMessageIntegrityOfTypeLogged, validateMessageIntegrityOfType]
  by_cases hsize : data.length % 4 ≠ 0 ∨ data.length < kStunHeaderSize
  · rw [if_pos hsize, if_pos hsize]
  rw [if_neg hsize, if_neg hsize]
  by_cases hfield : data.be16 2 + kStunHeaderSize ≠ data.length
  · rw [if_pos hfield, if_pos hfield]
  rw [if_neg hfield, if_neg hfield]
  dsimp only
  rw [locateAttributeLogged_fst]
  rcases locateAttribute miAttrType data with _ | miPos
  · rfl
  · dsimp only
    exact apply_ite Prod.fst ..

theorem StunMessage.validateMessageIntegrityLogged_fst (env : IceEnv) (msg : StunMessage)
    (password : ByteString) : (msg.validateMessageIntegrityLogged env password).1 =
      msg.validateMessageIntegrity env password := by
  rw [validateMessageIntegrityLogged, validateMessageIntegrity]
  rcases msg.getByteString stunAttrMessageIntegrity with _ | bytes
  · rfl
  · dsimp only
    rw [validateMessageIntegrityOfTypeLogged_fst]

theorem UDPPort.getStunMessageLogged_fst (env : IceEnv) (iceParams : IceParameters)
    (data : ByteString) :
    (getStunMessageLogged env iceParams data).1 = getStunMessage env iceParams data := by
  rw [getStunMessageLogged, getStunMessage]
  split_ifs
  · rfl
  rcases StunMessage.read data with _ | ⟨msg, rest⟩
  · rfl
  dsimp only
  rw [apply_ite Prod.fst, apply_ite Prod.fst, checkRequestLogged, checkRequest]
  congr 2
  rw [apply_ite Prod.fst]
  congr 1
  rcases parseStunUsername msg with _ | ⟨localUfrag, remoteUfrag⟩
  · rfl
  dsimp only
  rw [StunMessage.validateMessageIntegrityLogged_fst, apply_ite Prod.fst, apply_ite Prod.fst]

theorem World.onConnReadPacketLogged_fst (env : IceEnv) (w : World) (c : ConnId)
    (data : ByteString) (ts now : ℤ) :
    (w.onConnReadPacketLogged env c data ts now).1 = w.onConnReadPacket env c data ts now := by
  rw [onConnReadPacketLogged, onConnReadPacket, stunVerdict]
  dsimp only
  rw [UDPPort.getStunMessageLogged_fst]
  split_ifs
  · rcases UDPPort.getStunMessage env (w.port (w.conn c).port).iceParams data with _ |
      ⟨msg, errCode, reason⟩ | ⟨msg, remoteUfrag⟩
    · rfl
    · rfl
    · dsimp only
      rw [onStunMessageLogged, onStunMessage]
      simp only [apply_ite Prod.fst, StunMessage.validateMessageIntegrityLogged_fst]
  · rfl

/-! ## Which reads are inside

Everything but the comparison is inside for every datagram. So the exact condition speaks of the one
attribute that is compared, and only when the comparison is reached at all. -/

variable {data : ByteString}

/-- The message integrity that the loop finds, if any, has room for its value. -/
def IntegrityFits (data : ByteString) : Prop :=
  ∀ miPos, locateAttribute stunAttrMessageIntegrity data = some miPos →
    miPos + kStunAttributeHeaderSize + kStunMessageIntegritySize ≤ data.length

theorem header_le_of_locateAttribute {attrType miPos : ℕ}
    (h : locateAttribute attrType data = some miPos) :
    miPos + kStunAttributeHeaderSize ≤ data.length := by
  have hexits := exits_locateAttribute attrType data
  rw [h] at hexits
  obtain ⟨pos, -, hleave⟩ := hexits.induct_inv (I := fun _ ↦ True) trivial fun _ _ _ _ ↦ trivial
  rw [locateAttributeBody] at hleave
  split_ifs at hleave with hpos
  · cases hleave
    exact hpos
  · cases hleave

theorem readsInside_locateAttribute (attrType : ℕ) (data : ByteString) :
    ReadsInside data (locateAttributeLogged attrType data).2 := by
  have hnote (pos : ℕ) : ReadsInside data (headerReads data pos) := by
    intro a ha
    rw [headerReads] at ha
    split_ifs at ha with hpos
    · rw [kStunAttributeHeaderSize] at hpos
      rcases List.mem_pair.mp ha with rfl | rfl <;> dsimp only <;> omega
    · cases ha
  rw [locateAttributeLogged]
  rcases hr : rounds (logged (locateAttributeBody attrType data) (headerReads data))
    (data.length + 1) (kStunHeaderSize, []) with _ | ⟨r, reads⟩
  · exact fun a ha ↦ absurd ha List.not_mem_nil
  · exact forall_mem_log (headerReads data) hnote hr fun a ha ↦ absurd ha List.not_mem_nil

theorem readsInside_append {reads reads' : List Access} :
    ReadsInside data (reads ++ reads') ↔ ReadsInside data reads ∧ ReadsInside data reads' :=
  List.forall_mem_append

theorem readsInside_singleton {a : Access} :
    ReadsInside data [a] ↔ a.pos + a.size ≤ data.length :=
  List.forall_mem_singleton

/-- Everything but the comparison is inside, whatever the layout. -/
theorem readsInside_validate_iff (hhmac : ∀ password text,
    (env.computeHmac password text).length = kStunMessageIntegritySize)
    (hsize : data.length % 4 = 0) (hheader : HeaderOk data) (password : ByteString) :
    ReadsInside data (validateMessageIntegrityOfTypeLogged env stunAttrMessageIntegrity
      kStunMessageIntegritySize data password).2 ↔ IntegrityFits data := by
  have hlong := hheader.1
  have hlength : ReadsInside data [⟨2, 2⟩] := by
    rw [readsInside_singleton]
    rw [kStunHeaderSize] at hlong
    dsimp only
    omega
  have hloop := readsInside_locateAttribute stunAttrMessageIntegrity data
  rw [validateMessageIntegrityOfTypeLogged, if_neg (by omega), if_neg (not_not.mpr hheader.2.2)]
  dsimp only
  rw [locateAttributeLogged_fst, IntegrityFits]
  rcases hmi : locateAttribute stunAttrMessageIntegrity data with _ | miPos
  · dsimp only
    rw [readsInside_append]
    exact ⟨fun _ _ h ↦ (by cases h), fun _ ↦ ⟨hlength, hloop⟩⟩
  · have hpos := header_le_of_locateAttribute hmi
    have hcopy : ReadsInside data [⟨0, miPos⟩] := by
      rw [readsInside_singleton]
      dsimp only
      omega
    dsimp only
    rw [if_neg (not_not.mpr (hhmac _ _)), readsInside_append, readsInside_append,
      readsInside_append]
    constructor
    · rintro ⟨-, hcompare⟩ _ ⟨⟩
      exact readsInside_singleton.mp hcompare
    · exact fun hfits ↦ ⟨⟨⟨hlength, hloop⟩, hcopy⟩, readsInside_singleton.mpr (hfits miPos rfl)⟩

/-- The reads are those of one integrity check of the datagram, or there are none. -/
def OneCheck (env : IceEnv) (data : ByteString) (reads : List Access) : Prop :=
  reads = [] ∨ data.length % 4 = 0 ∧ HeaderOk data ∧
    ∃ password, reads = (validateMessageIntegrityOfTypeLogged env stunAttrMessageIntegrity
      kStunMessageIntegritySize data password).2

theorem OneCheck.readsInside_iff {reads : List Access} (h : OneCheck env data reads)
    (hhmac : ∀ password text,
      (env.computeHmac password text).length = kStunMessageIntegritySize) :
    ReadsInside data reads ↔ reads = [] ∨ IntegrityFits data := by
  rcases h with rfl | ⟨hsize, hheader, password, rfl⟩
  · exact iff_of_true (fun a ha ↦ absurd ha List.not_mem_nil) (.inl rfl)
  · have hiff := readsInside_validate_iff hhmac hsize hheader password
    constructor
    · exact fun h ↦ .inr (hiff.mp h)
    · rintro (hnil | hfits)
      · rw [hnil]
        exact fun a ha ↦ absurd ha List.not_mem_nil
      · exact hiff.mpr hfits

/-- A message of the datagram is checked on the bytes of the datagram. -/
theorem oneCheck_validate {msg : StunMessage} (hfingerprint : validateFingerprint env data = true)
    (hheader : HeaderOk data) (hbuffer : msg.buffer = data) (password : ByteString) :
    OneCheck env data (msg.validateMessageIntegrityLogged env password).2 := by
  have hsize : data.length % 4 = 0 := by
    rw [validateFingerprint] at hfingerprint
    split_ifs at hfingerprint with h
    omega
  rw [StunMessage.validateMessageIntegrityLogged, hbuffer]
  rcases msg.getByteString stunAttrMessageIntegrity with _ | bytes
  · exact .inl rfl
  · exact .inr ⟨hsize, hheader, password, rfl⟩

theorem oneCheck_getStunMessage (env : IceEnv) (iceParams : IceParameters) (data : ByteString) :
    OneCheck env data (UDPPort.getStunMessageLogged env iceParams data).2 := by
  rw [UDPPort.getStunMessageLogged]
  split_ifs with hfingerprint
  · exact .inl rfl
  rcases hread : StunMessage.read data with _ | ⟨msg, rest⟩
  · exact .inl rfl
  have hheader := ((exists_read_iff data).mp ⟨_, hread⟩).1
  have hcheck := oneCheck_validate (by simpa using hfingerprint) hheader (attrs_of_read hread).2.1
    iceParams.icePwd
  dsimp only
  split_ifs
  · exact .inl rfl
  · rw [UDPPort.checkRequestLogged]
    split_ifs
    · exact .inl rfl
    rcases UDPPort.parseStunUsername msg with _ | ⟨localUfrag, remoteUfrag⟩
    · exact .inl rfl
    · dsimp only
      split_ifs
      · exact .inl rfl
      · exact hcheck
      · exact hcheck
  · exact .inl rfl

/-- A connection checks a datagram in `get_stun_message` or, when it is a response, itself. -/
theorem oneCheck_onConnReadPacket (env : IceEnv) (w : World) (c : ConnId) (data : ByteString)
    (ts now : ℤ) : ∃ reads reads',
      (w.onConnReadPacketLogged env c data ts now).2 = reads ++ reads' ∧
        OneCheck env data reads ∧ OneCheck env data reads' := by
  rw [World.onConnReadPacketLogged]
  split_ifs
  · have hfirst := oneCheck_getStunMessage env (w.port (w.conn c).port).iceParams data
    dsimp only
    rw [UDPPort.getStunMessageLogged_fst]
    rcases hv : UDPPort.getStunMessage env (w.port (w.conn c).port).iceParams data with _ |
      ⟨msg, errCode, reason⟩ | ⟨msg, remoteUfrag⟩
    · exact ⟨_, [], (List.append_nil _).symm, hfirst, .inl rfl⟩
    · exact ⟨_, [], (List.append_nil _).symm, hfirst, .inl rfl⟩
    · refine ⟨_, _, rfl, hfirst, ?_⟩
      rw [World.onStunMessageLogged]
      dsimp only
      by_cases htype : msg.type = stunBindingRequest
      · rw [if_pos htype]
        split_ifs <;> exact .inl rfl
      · obtain ⟨hfingerprint, hread⟩ := read_of_accepted hv htype
        have hcheck := oneCheck_validate hfingerprint ((exists_read_iff data).mp ⟨_, hread⟩).1
          (attrs_of_read hread).2.1 (w.conn c).remoteCandidate.password
        rw [if_neg htype]
        split_ifs
        · exact hcheck
        · exact hcheck
        · exact .inl rfl
  · exact ⟨[], [], rfl, .inl rfl, .inl rfl⟩

/-- **Reads of the integrity check.** A datagram that comes to the check is read inside its bounds
exactly if the message integrity that the loop finds has room for twenty bytes. -/
theorem integrityReads_inside_iff (hhmac : ∀ password text,
    (env.computeHmac password text).length = kStunMessageIntegritySize) (w : World) (p : PortId)
    (c : ConnId) (data : ByteString) (ts now : ℤ) :
    ((UDPPort.getStunMessageLogged env (w.port p).iceParams data).2 ≠ [] →
      (ReadsInside data (UDPPort.getStunMessageLogged env (w.port p).iceParams data).2 ↔
        IntegrityFits data)) ∧
    ((w.onConnReadPacketLogged env c data ts now).2 ≠ [] →
      (ReadsInside data (w.onConnReadPacketLogged env c data ts now).2 ↔ IntegrityFits data)) := by
  constructor
  · intro hne
    rw [(oneCheck_getStunMessage env _ data).readsInside_iff hhmac, or_iff_right hne]
  · obtain ⟨reads, reads', heq, hreads, hreads'⟩ := oneCheck_onConnReadPacket env w c data ts now
    rw [heq, readsInside_append, hreads.readsInside_iff hhmac, hreads'.readsInside_iff hhmac]
    intro hne
    rw [ne_eq, List.append_eq_nil_iff, not_and_or] at hne
    rcases hne with hne | hne <;> simp only [hne, false_or]
    · exact ⟨And.left, fun h ↦ ⟨h, .inr h⟩⟩
    · exact ⟨And.right, fun h ↦ ⟨.inr h, h⟩⟩

/-- A connection that was made by a request, with its port. -/
def requestedWorld : World :=
  World.run unsignedEnv .rtp (fun _ ↦ samplePort) [.datagram 0 peerA bindingRequestUnsigned 10 10]

/-- The request again, at the port and at its connection. -/
theorem readsInside_bindingRequestUnsigned :
    (ReadsInside bindingRequestUnsigned (UDPPort.getStunMessageLogged unsignedEnv
      (requestedWorld.port 0).iceParams bindingRequestUnsigned).2 ↔
        IntegrityFits bindingRequestUnsigned) ∧
    (ReadsInside bindingRequestUnsigned (requestedWorld.onConnReadPacketLogged unsignedEnv 0
      bindingRequestUnsigned 20 20).2 ↔ IntegrityFits bindingRequestUnsigned) :=
  have h := @integrityReads_inside_iff unsignedEnv (fun _ _ ↦ rfl) requestedWorld 0 0
    bindingRequestUnsigned 20 20
  ⟨h.1 (by decide +kernel), h.2 (by decide +kernel)⟩

/-- A request of the first peer with a message integrity that has no value. -/
def bindingRequestShort : ByteString :=
  words [0x0001001C, 0x2112A442, 0x72657175, 0x65737466, 0x726F6D41, 0x00060009, 0x73727631,
    0x3A706565, 0x72000000, 0x00080000, 0x80280004, 0xBDF1821C]

/-- The comparison reads twelve bytes behind the datagram. -/
theorem not_readsInside_bindingRequestShort :
    ¬ReadsInside bindingRequestShort
      (UDPPort.getStunMessageLogged unsignedEnv samplePort.1 bindingRequestShort).2 := by
  have hmem : (⟨40, 20⟩ : Access) ∈
      (UDPPort.getStunMessageLogged unsignedEnv samplePort.1 bindingRequestShort).2 := by
    decide +kernel
  intro h
  exact absurd (h _ hmem) (by decide)

end XrtcServer
