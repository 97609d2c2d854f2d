import XrtcServer.Pc.DtlsTransport

/-!
# The records of a DTLS datagram

`_handle_dtls_packet` walks over a datagram with a pointer and a `size_t`, and hands it to the SSL
adapter when the walk ends at its end. Here the loop is taken as it stands, in the memory that the
datagram is part of and with a log of the bytes it reads. What is behind the datagram is arbitrary.

The pointer and the size always add up to the size of the datagram, so the subtraction does not wrap
and the two bytes of a length are read inside. The datagrams that are handed over are the
concatenations of records.
-/

namespace XrtcServer

open WhileLoop ByteString

/-! ## The loop in memory -/

/-- `tmp_data`, as an offset from `data`, and `tmp_size`. -/
structure RecordCursor where
  tmpData : ℕ
  tmpSize : ℕ
deriving DecidableEq

/-- The difference of two `size_t`. -/
def sizeSub (a b : ℕ) : ℕ := if b ≤ a then a - b else a + 2 ^ 64 - b

/-- The body of the `while` loop. -/
def recordBody (memory : ℕ → UInt8) (c : RecordCursor) : Bool ⊕ RecordCursor :=
  if c.tmpSize > 0 then
    if c.tmpSize < kDtlsRecordHeaderLen then .inl false
    else
      let recordLen :=
        (memory (c.tmpData + 11)).toNat <<< 8 ||| (memory (c.tmpData + 12)).toNat
      if recordLen + kDtlsRecordHeaderLen > c.tmpSize then .inl false
      else
        .inr
          { tmpData := c.tmpData + (kDtlsRecordHeaderLen + recordLen)
            tmpSize := sizeSub c.tmpSize (kDtlsRecordHeaderLen + recordLen) }
  else .inl true

/-- The offsets that a round reads at. -/
def recordReads (c : RecordCursor) : List ℕ :=
  if c.tmpSize > 0 ∧ ¬c.tmpSize < kDtlsRecordHeaderLen then [c.tmpData + 11, c.tmpData + 12]
  else []

/-- What a call of `_handle_dtls_packet` does. -/
structure DtlsPacketCall where
  result : Bool
  /-- What `StreamInterfaceChannel::on_received_packet` is called with, which puts it into the queue
  that the adapter reads from. -/
  received : List ByteString := []
  /-- The offsets that are read at. -/
  reads : List ℕ
deriving DecidableEq

/-- The bytes `memory` has at a datagram of `size` bytes. -/
def datagramAt (memory : ℕ → UInt8) (size : ℕ) : ByteString := (List.range size).map memory

/-- `_handle_dtls_packet` on the first `size` bytes of `memory`; a loop that does not end is no
call. `on_received_packet` always returns `true`. -/
inductive HandlesPacket (memory : ℕ → UInt8) (size : ℕ) : DtlsPacketCall → Prop
  | refused {reads : List ℕ}
      (h : Exits (logged (recordBody memory) recordReads) (⟨0, size⟩, []) (false, reads)) :
      HandlesPacket memory size { result := false, reads }
  | passed {reads : List ℕ}
      (h : Exits (logged (recordBody memory) recordReads) (⟨0, size⟩, []) (true, reads)) :
      HandlesPacket memory size { result := true, received := [datagramAt memory size], reads }

/-- Memory with a datagram at its start. -/
def memoryOf (data : ByteString) (beyond : ℕ → UInt8) (i : ℕ) : UInt8 :=
  if i < data.length then data.getD i 0 else beyond i

/-! ## The grammar

A record is as long as the last two bytes of its header say, so a datagram can be cut into records
in one way at most, from the front; the loop is that cut. -/

/-- A complete record: a header, whose last two bytes are the length of the payload. -/
structure DtlsRecord where
  header : ByteString
  payload : ByteString
  length_header : header.length = kDtlsRecordHeaderLen
  length_payload : payload.length = header.be16 11

def DtlsRecord.bytes (r : DtlsRecord) : ByteString := r.header ++ r.payload

/-- The datagram is a concatenation of complete records. -/
def IsRecords (data : ByteString) : Prop :=
  ∃ records : List DtlsRecord, data = (records.map DtlsRecord.bytes).flatten

theorem isRecords_nil : IsRecords [] := ⟨[], rfl⟩

theorem DtlsRecord.isRecords_append (r : DtlsRecord) {rest : ByteString} (h : IsRecords rest) :
    IsRecords (r.bytes ++ rest) := by
  obtain ⟨records, rfl⟩ := h
  exact ⟨r :: records, rfl⟩

theorem DtlsRecord.length_bytes (r : DtlsRecord) :
    r.bytes.length = kDtlsRecordHeaderLen + r.header.be16 11 := by
  rw [bytes, List.length_append, r.length_header, r.length_payload]

theorem DtlsRecord.be16_append (r : DtlsRecord) (rest : ByteString) :
    (r.bytes ++ rest).be16 11 = r.header.be16 11 := by
  rw [← be16_take (n := kDtlsRecordHeaderLen) (by decide), bytes, List.append_assoc,
    List.take_left' r.length_header]

theorem dtlsRecordsBody_append (r : DtlsRecord) (rest : ByteString) :
    dtlsRecordsBody (r.bytes ++ rest) = .inr rest := by
  have hlength : (r.bytes ++ rest).length =
      kDtlsRecordHeaderLen + r.header.be16 11 + rest.length := by
    rw [List.length_append, r.length_bytes]
  have hheader : 0 < kDtlsRecordHeaderLen := by decide
  have hnil : r.bytes ++ rest ≠ [] := by
    rw [← List.length_pos_iff, hlength]
    omega
  rw [dtlsRecordsBody, if_neg hnil, if_neg (by rw [hlength]; omega)]
  dsimp only
  rw [r.be16_append, if_neg (by rw [hlength]; omega), ← r.length_bytes, List.drop_left]

theorem exists_record_of_dtlsRecordsBody {data rest : ByteString}
    (h : dtlsRecordsBody data = .inr rest) : ∃ r : DtlsRecord, data = r.bytes ++ rest := by
  rw [dtlsRecordsBody] at h
  dsimp only at h
  split_ifs at h with hnil hshort hlong
  obtain rfl := Sum.inr.inj h
  have hlength : kDtlsRecordHeaderLen ≤ data.length := not_lt.mp hshort
  refine ⟨{ header := data.take kDtlsRecordHeaderLen
            payload := (data.drop kDtlsRecordHeaderLen).take (data.be16 11)
            length_header := List.length_take_of_le hlength
            length_payload := ?_ }, ?_⟩
  · rw [List.length_take, List.length_drop, be16_take (by decide)]
    omega
  · rw [DtlsRecord.bytes, List.append_assoc, ← List.drop_drop, List.take_append_drop,
      List.take_append_drop]

/-- **What the loop accepts** are the concatenations of records. -/
theorem exits_dtlsRecordsBody_iff (data : ByteString) :
    Exits dtlsRecordsBody data true ↔ IsRecords data := by
  constructor
  · intro h
    generalize hr : true = r at h
    induction h with
    | @leave data r hb =>
      subst hr
      rw [dtlsRecordsBody] at hb
      dsimp only at hb
      split_ifs at hb with hnil
      · rw [hnil]
        exact isRecords_nil
      · cases hb
      · cases hb
    | again hb _ ih =>
      obtain ⟨r, rfl⟩ := exists_record_of_dtlsRecordsBody hb
      exact r.isRecords_append (ih hr)
  · rintro ⟨records, rfl⟩
    induction records with
    | nil => exact .leave rfl
    | cons r records ih => exact .again (dtlsRecordsBody_append r _) ih

theorem dtlsRecords_iff (data : ByteString) : dtlsRecords data = true ↔ IsRecords data := by
  rw [← exits_dtlsRecordsBody_iff]
  constructor
  · intro h
    exact h ▸ exits_dtlsRecords data
  · intro h
    exact (exits_dtlsRecords data).unique h

/-! ## The walk through the datagram

The invariant is that pointer and size add up. It is needed in every round, for the reads and for
the subtraction, and it makes the loop in memory the same as one on the rest of the datagram. -/

variable (data : ByteString) (beyond : ℕ → UInt8)

/-- The pointer and the size add up to the size of the datagram. -/
def RecordCursor.Within (c : RecordCursor) : Prop := c.tmpData + c.tmpSize = data.length

variable {data beyond} {c c' : RecordCursor}

theorem memoryOf_of_lt {i : ℕ} (h : i < data.length) : memoryOf data beyond i = data.getD i 0 :=
  if_pos h

theorem datagramAt_memoryOf (data : ByteString) (beyond : ℕ → UInt8) :
    datagramAt (memoryOf data beyond) data.length = data := by
  apply List.ext_getElem
  · simp [datagramAt]
  · intro i _ hi
    simp [datagramAt, memoryOf, hi]

theorem recordLen_eq (h : c.tmpData + kDtlsRecordHeaderLen ≤ data.length) :
    (memoryOf data beyond (c.tmpData + 11)).toNat <<< 8 |||
        (memoryOf data beyond (c.tmpData + 12)).toNat = be16 (data.drop c.tmpData) 11 := by
  rw [kDtlsRecordHeaderLen] at h
  rw [memoryOf_of_lt (by omega), memoryOf_of_lt (by omega),
    ← Nat.shiftLeft_add_eq_or_of_lt (UInt8.toNat_lt _), Nat.shiftLeft_eq, be16_drop, be16]

/-- The loop in memory does what the loop on the rest of the datagram does. -/
theorem dtlsRecordsBody_drop (h : c.Within data) :
    dtlsRecordsBody (data.drop c.tmpData) =
      (recordBody (memoryOf data beyond) c).map id fun c ↦ data.drop c.tmpData := by
  have hlength : (data.drop c.tmpData).length = c.tmpSize := by
    rw [List.length_drop, ← h, Nat.add_sub_cancel_left]
  rw [dtlsRecordsBody, recordBody, hlength]
  by_cases hend : c.tmpSize = 0
  · rw [if_pos (List.length_eq_zero_iff.mp (hlength.trans hend)), if_neg (by omega)]
    rfl
  · have hnil : data.drop c.tmpData ≠ [] := by
      rw [← List.length_pos_iff, hlength]
      omega
    rw [if_neg hnil, if_pos (Nat.pos_of_ne_zero hend)]
    by_cases hshort : c.tmpSize < kDtlsRecordHeaderLen
    · rw [if_pos hshort, if_pos hshort]
      rfl
    · rw [if_neg hshort, if_neg hshort]
      rw [RecordCursor.Within] at h
      dsimp only
      rw [recordLen_eq (by omega)]
      by_cases hlong : be16 (data.drop c.tmpData) 11 + kDtlsRecordHeaderLen > c.tmpSize
      · rw [if_pos hlong, if_pos hlong]
        rfl
      · rw [if_neg hlong, if_neg hlong, List.drop_drop]
        rfl

/-- A round stays within the datagram, and gets on. -/
theorem within_of_recordBody (h : c.Within data)
    (hbody : recordBody (memoryOf data beyond) c = .inr c') :
    c'.Within data ∧ c'.tmpSize < c.tmpSize := by
  rw [RecordCursor.Within] at h ⊢
  rw [recordBody] at hbody
  dsimp only at hbody
  split_ifs at hbody with hpos hshort hlong
  obtain rfl := Sum.inr.inj hbody
  generalize (memoryOf data beyond (c.tmpData + 11)).toNat <<< 8 |||
    (memoryOf data beyond (c.tmpData + 12)).toNat = recordLen at *
  -- the second check is what the subtraction rests on
  have hfits : kDtlsRecordHeaderLen + recordLen ≤ c.tmpSize := by omega
  dsimp only
  rw [sizeSub, if_pos hfits]
  rw [kDtlsRecordHeaderLen] at hfits ⊢
  constructor
  · omega
  · omega

theorem recordReads_inside (h : c.Within data) : ∀ i ∈ recordReads c, i < data.length := by
  rw [RecordCursor.Within] at h
  rw [recordReads]
  split_ifs with hround
  · rw [kDtlsRecordHeaderLen] at hround
    intro i hi
    rcases List.mem_pair.mp hi with rfl | rfl
    · omega
    · omega
  · intro i hi
    exact absurd hi List.not_mem_nil

theorem within_start (data : ByteString) : RecordCursor.Within data ⟨0, data.length⟩ :=
  Nat.zero_add _

theorem exists_exits_recordBody (data : ByteString) (beyond : ℕ → UInt8) :
    ∃ r, Exits (recordBody (memoryOf data beyond)) ⟨0, data.length⟩ r := by
  apply exists_exits_of_measure RecordCursor.tmpSize
  intro c c' hvisits hbody
  have hwithin : c.Within data := hvisits.induct_inv (within_start data)
    fun _ _ h hb ↦ (within_of_recordBody h hb).1
  exact (within_of_recordBody hwithin hbody).2

/-- What the loop leaves with is what it finds out on the datagram alone, and it reads inside. -/
theorem exits_logged_recordBody {x : Bool × List ℕ}
    (h : Exits (logged (recordBody (memoryOf data beyond)) recordReads)
      (⟨0, data.length⟩, []) x) :
    Exits dtlsRecordsBody data x.1 ∧ ∀ i ∈ x.2, i < data.length := by
  obtain ⟨hexits, hreads⟩ := h.forall_mem_log recordReads (I := RecordCursor.Within data)
    (fun _ _ h hb ↦ (within_of_recordBody h hb).1) (fun _ h ↦ recordReads_inside h)
    (within_start data) (by
      intro i hi
      exact absurd hi List.not_mem_nil)
  refine ⟨?_, hreads⟩
  exact hexits.map (f := fun c ↦ data.drop c.tmpData) (I := RecordCursor.Within data)
    (fun _ _ h hb ↦ (within_of_recordBody h hb).1) (fun _ h ↦ dtlsRecordsBody_drop h)
    (within_start data)

/-! ## The call -/

/-- A call gives the datagram to the adapter, whole and once, or nothing and fails. -/
theorem handlesPacket_cases {call : DtlsPacketCall}
    (h : HandlesPacket (memoryOf data beyond) data.length call) :
    (∀ i ∈ call.reads, i < data.length) ∧
      (IsRecords data → call.result = true ∧ call.received = [data]) ∧
      (¬IsRecords data → call.result = false ∧ call.received = []) := by
  cases h with
  | refused h =>
    obtain ⟨hexits, hreads⟩ := exits_logged_recordBody h
    refine ⟨hreads, fun hrecords ↦ ?_, fun _ ↦ ⟨rfl, rfl⟩⟩
    cases hexits.unique ((exits_dtlsRecordsBody_iff data).mpr hrecords)
  | passed h =>
    obtain ⟨hexits, hreads⟩ := exits_logged_recordBody h
    refine ⟨hreads, fun _ ↦ ⟨rfl, ?_⟩, fun hrecords ↦ ?_⟩
    · exact congrArg (· :: []) (datagramAt_memoryOf data beyond)
    · exact absurd ((exits_dtlsRecordsBody_iff data).mp hexits) hrecords

theorem HandlesPacket.unique {memory : ℕ → UInt8} {size : ℕ} {call call' : DtlsPacketCall}
    (h : HandlesPacket memory size call) (h' : HandlesPacket memory size call') : call = call' := by
  cases h with
  | refused h =>
    cases h' with
    | refused h' =>
      obtain rfl := congrArg Prod.snd (h.unique h')
      rfl
    | passed h' => cases congrArg Prod.fst (h.unique h')
  | passed h =>
    cases h' with
    | refused h' => cases congrArg Prod.fst (h.unique h')
    | passed h' =>
      obtain rfl := congrArg Prod.snd (h.unique h')
      rfl

/-- For every datagram, whether `is_dtls_packet` accepts it or not, and whatever is behind it in
memory, the loop ends, in one way; it reads inside the datagram; and the adapter receives the
datagram, whole and once, if it is a concatenation of complete records, and nothing if it is not,
when the result is `false`. -/
theorem exists_handlesPacket (data : ByteString) (beyond : ℕ → UInt8) :
    ∃ call, HandlesPacket (memoryOf data beyond) data.length call ∧
      (∀ call', HandlesPacket (memoryOf data beyond) data.length call' → call' = call) ∧
      (∀ i ∈ call.reads, i < data.length) ∧
      (IsRecords data → call.result = true ∧ call.received = [data]) ∧
      (¬IsRecords data → call.result = false ∧ call.received = []) := by
  obtain ⟨r, hr⟩ := exists_exits_recordBody data beyond
  obtain ⟨reads, hreads⟩ := hr.logged recordReads []
  have hcall : ∃ call, HandlesPacket (memoryOf data beyond) data.length call := by
    cases r with
    | false => exact ⟨_, .refused hreads⟩
    | true => exact ⟨_, .passed hreads⟩
  obtain ⟨call, hcall⟩ := hcall
  exact ⟨call, hcall, fun call' hcall' ↦ hcall'.unique hcall, handlesPacket_cases hcall⟩

/-- The transport is changed by what the adapter does with the datagram, when it receives it. -/
theorem DtlsPair.handleDtlsPacket_eq {Ctx : Type} (env : DtlsEnv Ctx) (s : DtlsPair Ctx)
    (answers : AdapterAnswers) {call : DtlsPacketCall}
    (h : HandlesPacket (memoryOf data beyond) data.length call) :
    s.handleDtlsPacket env data answers =
      (if call.received = [] then s else s.onDtlsEvents env answers.duringPacket,
        call.result) := by
  obtain ⟨-, hrecords, hother⟩ := handlesPacket_cases h
  rw [handleDtlsPacket]
  by_cases hdata : IsRecords data
  · obtain ⟨hresult, hreceived⟩ := hrecords hdata
    rw [if_pos ((dtlsRecords_iff data).mpr hdata), hresult, hreceived,
      if_neg (List.cons_ne_nil _ _)]
  · obtain ⟨hresult, hreceived⟩ := hother hdata
    rw [if_neg fun h ↦ hdata ((dtlsRecords_iff data).mp h), hresult, hreceived, if_pos rfl]

end XrtcServer
