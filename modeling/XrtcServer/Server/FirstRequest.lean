import XrtcServer.Server.QueryLoop

/-!
# The request of a connection, however it is cut

The bytes of a connection arrive in reads of at most 36 bytes, cut anywhere. A request is whole when
36 bytes with the magic number have arrived and then as many as the header says; `_process_request`
is to be called then, with just these bytes, and the cutting is not to matter.

## The offset of a read

`_read_query` remembers the length of the buffer in an `int` and reads to this offset. From `2^31`
bytes on the offset is negative, or wraps around: the bytes that arrive are written elsewhere, and
the buffer grows by whatever was in memory behind it. Only a body that large brings the buffer there
before the first request, so the exact condition is about the header.

## The phases

In the other case the phases of an open connection are those of `Server/QueryLoop.lean`, except that
the contents of a buffer that waits for a large body are not known. Nothing is assumed about the
values `_process_request` returns; after a whole request it may be called again with the same
arguments.
-/

namespace XrtcServer

open WhileLoop

/-! ## Reading into the buffer -/

/-- `read` to the address `querybuf + qb_len`, and `sdsIncrLen`; `past i` is what the memory behind
the buffer holds at the offset `i`. -/
def storeRead (past : ℕ → UInt8) (buf chunk : ByteString) : ByteString :=
  (List.range (buf.length + chunk.length)).map fun i : ℕ ↦
    let k := (i : ℤ) - toInt32 buf.length
    if 0 ≤ k ∧ k < chunk.length then chunk.getD k.toNat 0 else buf.getD i (past i)

@[simp] theorem length_storeRead (past : ℕ → UInt8) (buf chunk : ByteString) :
    (storeRead past buf chunk).length = buf.length + chunk.length := by
  rw [storeRead, List.length_map, List.length_range]

/-- As long as the length is an `int`, the bytes are appended. -/
theorem storeRead_of_lt (past : ℕ → UInt8) {buf chunk : ByteString} (h : buf.length < 2 ^ 31) :
    storeRead past buf chunk = buf ++ chunk := by
  refine List.ext_getElem (by simp) fun i hi _ ↦ ?_
  rw [length_storeRead] at hi
  simp only [storeRead, toInt32_of_lt h, List.getElem_map, List.getElem_range]
  rcases lt_or_ge i buf.length with hbuf | hbuf
  · rw [if_neg (by omega), List.getElem_append_left hbuf, List.getD_eq_getElem?_getD,
      List.getElem?_eq_getElem hbuf, Option.getD_some]
  · have hk : ((i : ℤ) - buf.length).toNat = i - buf.length := by omega
    rw [if_pos (by omega), List.getElem_append_right hbuf, hk, List.getD_eq_getElem?_getD,
      List.getElem?_eq_getElem (by omega), Option.getD_some]

def QueryBuffer.read (past : ℕ → UInt8) (q : QueryBuffer) (chunk : ByteString) : QueryBuffer :=
  { q with querybuf := storeRead past q.querybuf chunk }

/-! ## The calls -/

variable (past : ℕ → UInt8) (ret : ℕ → ℤ)

/-- The connection is open after these reads, with this buffer and log. -/
inductive OpenAfterReads : List ByteString → QueryBuffer → RequestLog → Prop
  | new : OpenAfterReads [] {} []
  | read {chunks : List ByteString} {q q' : QueryBuffer} {log log' : RequestLog}
      {chunk : ByteString} (h : OpenAfterReads chunks q log)
      (hexit : ProcessesQueryBuffer ret (q.read past chunk) log (0, q', log')) :
      OpenAfterReads (chunks ++ [chunk]) q' log'

/-- The calls that have been made at the end of some round of the loop, after the last of these
reads. -/
def Called (reads : List ByteString) (log : RequestLog) : Prop :=
  ∃ before chunk q log₀ s, reads = before ++ [chunk] ∧ OpenAfterReads past ret before q log₀ ∧
    Visits (queryRound (recordRequest ret)) (q.read past chunk, log₀) s ∧
    log = roundWorld (queryRound (recordRequest ret) s)

/-- The first call is made after the read `chunk`. -/
def FirstCalledAfter (before : List ByteString) (chunk : ByteString) : Prop :=
  (∃ log, Called past ret (before ++ [chunk]) log ∧ log ≠ []) ∧
    ∀ fs, fs <+: before → ∀ log, Called past ret fs log → log = []

/-- The first call on a connection with these reads has these arguments. -/
def FirstCall (chunks : List ByteString) (request : ByteString × ByteString) : Prop :=
  ∃ fs, fs <+: chunks ∧ ∃ log, Called past ret fs (request :: log)

/-- The bytes hold a whole request. -/
def Complete (bytes : ByteString) : Prop :=
  xheadSize ≤ bytes.length ∧ XHead.magicNum bytes = xheaderMagicNum ∧
    xheadSize + XHead.bodyLen bytes ≤ bytes.length

/-- The reads of a stream. -/
structure CutsInto (bytes : ByteString) (chunks : List ByteString) : Prop where
  flatten : chunks.flatten = bytes
  read : ∀ chunk ∈ chunks, chunk ≠ [] ∧ chunk.length ≤ xheadSize

/-- However the stream is cut and whatever lies in memory, every call gets the header and the body
that were sent, the first one is made as soon as they are there, and it does not depend on the
cutting. -/
structure CallsWithRequest (bytes : ByteString) : Prop where
  exact : ∀ past ret chunks, CutsInto bytes chunks → ∀ fs, fs <+: chunks →
    ∀ log, Called past ret fs log → ∀ request ∈ log,
      Complete fs.flatten ∧ request = requestOf fs.flatten
  first : ∀ past ret chunks, CutsInto bytes chunks → ∀ before chunk, before ++ [chunk] <+: chunks →
    (FirstCalledAfter past ret before chunk ↔
      ¬Complete before.flatten ∧ Complete (before ++ [chunk]).flatten)
  independent : ∀ past past' ret chunks chunks', CutsInto bytes chunks → CutsInto bytes chunks' →
    ∀ request, FirstCall past ret chunks request ↔ FirstCall past' ret chunks' request

variable {past ret} {bytes chunk : ByteString} {q : QueryBuffer} {log : RequestLog}

/-! ## Whole requests -/

theorem Complete.append (h : Complete bytes) (t : ByteString) : Complete (bytes ++ t) := by
  obtain ⟨hlen, hmagic, hbody⟩ := h
  rw [Complete, XHead.magicNum_append hlen, XHead.bodyLen_append hlen, List.length_append]
  exact ⟨by omega, hmagic, by omega⟩

theorem Complete.mono (h : Complete bytes) {total : ByteString} (hp : bytes <+: total) :
    Complete total := by
  obtain ⟨t, rfl⟩ := hp
  exact h.append t

theorem Complete.requestOf_append (h : Complete bytes) (t : ByteString) :
    requestOf (bytes ++ t) = requestOf bytes := by
  obtain ⟨hlen, -, hbody⟩ := h
  rw [requestOf, requestOf, XHead.bodyLen_append hlen, List.take_append_of_le_length hlen,
    List.drop_append_of_le_length hlen, List.take_append_of_le_length]
  rw [List.length_drop]
  omega

theorem Complete.requestOf_eq (h : Complete bytes) {total : ByteString} (hp : bytes <+: total) :
    requestOf total = requestOf bytes := by
  obtain ⟨t, rfl⟩ := hp
  exact h.requestOf_append t

theorem flatten_isPrefix {fs chunks : List ByteString} (h : fs <+: chunks) :
    fs.flatten <+: chunks.flatten := by
  obtain ⟨t, rfl⟩ := h
  exact ⟨t.flatten, by rw [List.flatten_append]⟩

theorem exists_completing {chunks : List ByteString} (h : Complete chunks.flatten) :
    ∃ before chunk, before ++ [chunk] <+: chunks ∧ ¬Complete before.flatten ∧
      Complete (before ++ [chunk]).flatten := by
  induction chunks using List.reverseRecOn with
  | nil =>
    have hlen : xheadSize ≤ 0 := h.1
    exact absurd hlen (by decide)
  | append_singleton chunks chunk ih =>
    by_cases hbefore : Complete chunks.flatten
    · obtain ⟨before, chunk', hp, hrest⟩ := ih hbefore
      exact ⟨before, chunk', hp.trans (List.prefix_append ..), hrest⟩
    · exact ⟨chunks, chunk, List.prefix_refl _, hbefore, h⟩

/-- A whole request that does not fit into a buffer of `2^31` bytes. -/
def Oversized (bytes : ByteString) : Prop :=
  Complete bytes ∧ 2 ^ 31 < xheadSize + XHead.bodyLen bytes

theorem Oversized.mono (h : Oversized bytes) {total : ByteString} (hp : bytes <+: total) :
    Oversized total := by
  obtain ⟨t, rfl⟩ := hp
  refine ⟨h.1.append t, ?_⟩
  rw [XHead.bodyLen_append h.1.1]
  exact h.2

/-! ## The phases of a connection

What an open connection has received determines its phase: it waits for the header, it waits for the
body, or it has made its calls. A read leads into the loop and the loop back into a phase, and each
half is one lemma, so the cutting of the stream appears in the induction over the reads only. -/

/-- A buffer that waits for the body. -/
def waitingBuffer (bytes buf : ByteString) : QueryBuffer :=
  { pendingBuffer bytes with querybuf := buf }

/-- An open connection that has received `bytes`. -/
inductive Phase : ByteString → QueryBuffer → RequestLog → Prop
  | fresh {bytes : ByteString} (h : bytes.length < xheadSize) : Phase bytes (freshBuffer bytes) []
  | waiting {bytes buf : ByteString} (hlen : xheadSize ≤ bytes.length)
      (hmagic : XHead.magicNum bytes = xheaderMagicNum)
      (hshort : bytes.length < xheadSize + XHead.bodyLen bytes) (hbuf : buf.length = bytes.length)
      (hkept : xheadSize + XHead.bodyLen bytes ≤ 2 ^ 31 → buf = bytes) :
      Phase bytes (waitingBuffer bytes buf) []
  | done {bytes : ByteString} {log : RequestLog} (h : Complete bytes)
      (hlen : bytes.length < 65535 + xheadSize) (hlog : log ≠ [])
      (hall : ∀ request ∈ log, request = requestOf bytes) : Phase bytes (doneBuffer bytes) log

/-- The loop after a read. -/
inductive InLoop (bytes : ByteString) : QueryBuffer × RequestLog → Prop
  | fresh : InLoop bytes (freshBuffer bytes, [])
  | waiting {buf : ByteString} (hlen : xheadSize ≤ bytes.length)
      (hmagic : XHead.magicNum bytes = xheaderMagicNum) (hbuf : buf.length = bytes.length)
      (hkept : xheadSize + XHead.bodyLen bytes ≤ 2 ^ 31 → buf = bytes) :
      InLoop bytes (waitingBuffer bytes buf, [])
  | done {log : RequestLog} (h : Complete bytes) (hlog : log ≠ [])
      (hall : ∀ request ∈ log, request = requestOf bytes) : InLoop bytes (doneBuffer bytes, log)

theorem Phase.read (h : Phase bytes q log) (past : ℕ → UInt8) (chunk : ByteString) :
    InLoop (bytes ++ chunk) (q.read past chunk, log) := by
  have hstore {bytes : ByteString} (hlen : bytes.length < 2 ^ 31) :
      storeRead past bytes chunk = bytes ++ chunk := storeRead_of_lt past hlen
  cases h with
  | fresh h =>
    rw [QueryBuffer.read, freshBuffer]
    dsimp only
    rw [hstore (h.trans (by decide))]
    exact .fresh
  | @waiting buf hlen hmagic hshort hbuf hkept =>
    have hpending : (waitingBuffer bytes buf).read past chunk =
        waitingBuffer (bytes ++ chunk) (storeRead past buf chunk) := by
      rw [waitingBuffer, waitingBuffer, pendingBuffer, pendingBuffer, XHead.bodyLen_append hlen]
      rfl
    rw [hpending]
    refine .waiting ?_ ?_ ?_ fun hsmall ↦ ?_
    · rw [List.length_append]
      omega
    · rw [XHead.magicNum_append hlen, hmagic]
    · rw [length_storeRead, List.length_append, hbuf]
    · rw [XHead.bodyLen_append hlen] at hsmall
      rw [hkept hsmall]
      exact hstore (by omega)
  | done h hlen hlog hall =>
    rw [QueryBuffer.read, doneBuffer]
    dsimp only
    rw [hstore (hlen.trans (by decide))]
    refine .done (h.append chunk) hlog fun request hr ↦ ?_
    rw [h.requestOf_append, hall request hr]

/-- One round of the loop, as long as no request is oversized. -/
structure RoundSpec (ret : ℕ → ℤ) (bytes : ByteString) (s : QueryBuffer × RequestLog) : Prop where
  again : ∀ s', queryRound (recordRequest ret) s = .inr s' → InLoop bytes s'
  leave : ∀ q log, queryRound (recordRequest ret) s = .inl (0, q, log) → Phase bytes q log
  calls : ∀ request ∈ roundWorld (queryRound (recordRequest ret) s),
    Complete bytes ∧ request = requestOf bytes

theorem RoundSpec.of_inl {s : QueryBuffer × RequestLog} {code : ℤ}
    (h : queryRound (recordRequest ret) s = .inl (code, q, log))
    (hphase : code = 0 → Phase bytes q log)
    (hcalls : ∀ request ∈ log, Complete bytes ∧ request = requestOf bytes) :
    RoundSpec ret bytes s := by
  refine ⟨fun s' hs ↦ ?_, fun q' log' hs ↦ ?_, ?_⟩
  · cases h.symm.trans hs
  · cases h.symm.trans hs
    exact hphase rfl
  · rw [h]
    exact hcalls

theorem RoundSpec.of_inr {s : QueryBuffer × RequestLog}
    (h : queryRound (recordRequest ret) s = .inr (q, log)) (hloop : InLoop bytes (q, log))
    (hcalls : ∀ request ∈ log, Complete bytes ∧ request = requestOf bytes) :
    RoundSpec ret bytes s := by
  refine ⟨fun s' hs ↦ ?_, fun q' log' hs ↦ ?_, ?_⟩
  · cases h.symm.trans hs
    exact hloop
  · cases h.symm.trans hs
  · rw [h]
    exact hcalls

theorem queryRound_fresh (ret : ℕ → ℤ) (bytes : ByteString) (log : RequestLog) :
    queryRound (recordRequest ret) (freshBuffer bytes, log) =
      if xheadSize ≤ bytes.length then
        if XHead.magicNum bytes ≠ xheaderMagicNum then .inl (-1, freshBuffer bytes, log)
        else .inr (pendingBuffer bytes, log)
      else .inl (0, freshBuffer bytes, log) := by
  by_cases hlen : xheadSize ≤ bytes.length
  · by_cases hmagic : XHead.magicNum bytes = xheaderMagicNum
    · simp [queryRound, freshBuffer, pendingBuffer, hlen, hmagic]
    · simp [queryRound, freshBuffer, hlen, hmagic]
  · simp [queryRound, freshBuffer, hlen]

theorem queryRound_of_body (ret : ℕ → ℤ) (log : RequestLog) (hstate : q.currentState = .body) :
    queryRound (recordRequest ret) (q, log) =
      if q.bytesProcessed + q.bytesExpected ≤ q.querybuf.length then
        if ret log.length ≠ 0 then .inl (-1, q, log ++ [requestOf q.querybuf])
        else .inr ({ q with bytesProcessed := 65535 }, log ++ [requestOf q.querybuf])
      else .inl (0, q, log) := by
  by_cases hlen : q.bytesProcessed + q.bytesExpected ≤ q.querybuf.length
  · rw [queryRound_body hstate hlen, if_pos hlen]
  · rw [queryRound, if_neg hlen, if_neg hlen]

theorem InLoop.round (h : InLoop bytes (q, log)) (hsize : ¬Oversized bytes) :
    RoundSpec ret bytes (q, log) := by
  have hnone : ∀ request ∈ ([] : RequestLog), Complete bytes ∧ request = requestOf bytes :=
    fun request hr ↦ absurd hr List.not_mem_nil
  cases h with
  | fresh =>
    have hround := queryRound_fresh ret bytes []
    split_ifs at hround with hlen hmagic
    · exact .of_inl hround (fun hcode ↦ by cases hcode) hnone
    · exact .of_inr hround (.waiting hlen (not_not.mp hmagic) rfl fun _ ↦ rfl) hnone
    · exact .of_inl hround (fun _ ↦ .fresh (not_le.mp hlen)) hnone
  | @waiting buf hlen hmagic hbuf hkept =>
    have hround := queryRound_of_body (q := waitingBuffer bytes buf) ret [] rfl
    have hcomplete (hbody : XHead.bodyLen bytes + xheadSize ≤ buf.length) :
        Complete bytes ∧ buf = bytes := by
      have h : Complete bytes := ⟨hlen, hmagic, by omega⟩
      exact ⟨h, hkept (not_lt.mp fun hlarge ↦ hsize ⟨h, hlarge⟩)⟩
    split_ifs at hround with hbody hret
    · obtain ⟨h, rfl⟩ := hcomplete hbody
      exact .of_inl hround (fun hcode ↦ by cases hcode) fun request hr ↦
        ⟨h, List.mem_singleton.mp hr⟩
    · obtain ⟨h, rfl⟩ := hcomplete hbody
      exact .of_inr hround (.done h (by simp) fun request hr ↦ List.mem_singleton.mp hr)
        fun request hr ↦ ⟨h, List.mem_singleton.mp hr⟩
    · refine .of_inl hround (fun _ ↦ .waiting hlen hmagic ?_ hbuf hkept) hnone
      rw [not_le, waitingBuffer, pendingBuffer] at hbody
      dsimp only at hbody
      omega
  | done h hlog hall =>
    have hround := queryRound_of_body (q := doneBuffer bytes) ret log rfl
    have hcalls : ∀ request ∈ log ++ [requestOf bytes],
        Complete bytes ∧ request = requestOf bytes := fun request hr ↦ by
      rcases List.mem_append.mp hr with hr | hr
      · exact ⟨h, hall request hr⟩
      · exact ⟨h, List.mem_singleton.mp hr⟩
    split_ifs at hround with hlong hret
    · exact .of_inl hround (fun hcode ↦ by cases hcode) hcalls
    · exact .of_inr hround (.done h (by simp) fun request hr ↦ (hcalls request hr).2) hcalls
    · exact .of_inl hround (fun _ ↦ .done h (not_le.mp hlong) hlog hall)
        fun request hr ↦ ⟨h, hall request hr⟩

/-! ## Every call -/

theorem InLoop.visits {s t : QueryBuffer × RequestLog} (h : InLoop bytes s)
    (hsize : ¬Oversized bytes) (hv : Visits (queryRound (recordRequest ret)) s t) :
    InLoop bytes t :=
  hv.induct_inv h fun _ t' ht hround ↦ (ht.round hsize).again t' hround

/-- **Open connections are in a phase**, as long as no oversized request has arrived. -/
theorem OpenAfterReads.phase {chunks : List ByteString} (h : OpenAfterReads past ret chunks q log)
    (hsize : ¬Oversized chunks.flatten) : Phase chunks.flatten q log := by
  induction h with
  | new => exact .fresh (by decide)
  | @read chunks q q' log log' chunk h hexit ih =>
    rw [List.flatten_append, List.flatten_singleton] at hsize ⊢
    have hloop := (ih fun hover ↦ hsize (hover.mono (List.prefix_append ..))).read past chunk
    obtain ⟨t, ht, hl⟩ := hexit.induct_inv hloop fun t t' ht hround ↦
      RoundSpec.again (ht.round hsize) t' hround
    exact (ht.round hsize).leave q' log' hl

theorem Called.exact {fs : List ByteString} (h : Called past ret fs log)
    (hsize : ¬Oversized fs.flatten) : ∀ request ∈ log,
      Complete fs.flatten ∧ request = requestOf fs.flatten := by
  obtain ⟨before, chunk, q, log₀, s, rfl, hopen, hv, rfl⟩ := h
  rw [List.flatten_append, List.flatten_singleton] at hsize ⊢
  have hphase := hopen.phase fun hover ↦ hsize (hover.mono (List.prefix_append ..))
  exact (((hphase.read past chunk).visits hsize hv).round hsize).calls

/-! ## The first call

There is a last read before the request is whole and one that completes it. In between the loop
makes no call, and after the second it makes one with what is in the buffer. -/

theorem InLoop.exits (h : InLoop bytes (q, log)) (hnot : ¬Complete bytes)
    (hmagic : xheadSize ≤ bytes.length → XHead.magicNum bytes = xheaderMagicNum) :
    ∃ q' log', ProcessesQueryBuffer ret q log (0, q', log') := by
  have hwaiting {buf : ByteString} (hlen : xheadSize ≤ bytes.length)
      (hbuf : buf.length = bytes.length) :
      ProcessesQueryBuffer ret (waitingBuffer bytes buf) [] (0, waitingBuffer bytes buf, []) := by
    refine .leave ((queryRound_of_body ret [] rfl).trans (if_neg fun hbody ↦ hnot ?_))
    rw [waitingBuffer, pendingBuffer] at hbody
    dsimp only at hbody
    exact ⟨hlen, hmagic hlen, by omega⟩
  cases h with
  | fresh =>
    have hround := queryRound_fresh ret bytes []
    by_cases hlen : xheadSize ≤ bytes.length
    · rw [if_pos hlen, if_neg (not_not.mpr (hmagic hlen))] at hround
      exact ⟨_, _, .again hround (hwaiting hlen rfl)⟩
    · rw [if_neg hlen] at hround
      exact ⟨_, _, .leave hround⟩
  | waiting hlen _ hbuf _ => exact ⟨_, _, hwaiting hlen hbuf⟩
  | done hc => exact absurd hc hnot

theorem exists_openAfterReads (past : ℕ → UInt8) (ret : ℕ → ℤ) {chunks : List ByteString}
    (h : ¬Complete chunks.flatten) (hmagic : xheadSize ≤ chunks.flatten.length →
      XHead.magicNum chunks.flatten = xheaderMagicNum) :
    ∃ q log, OpenAfterReads past ret chunks q log := by
  induction chunks using List.reverseRecOn with
  | nil => exact ⟨_, _, .new⟩
  | append_singleton chunks chunk ih =>
    rw [List.flatten_append, List.flatten_singleton] at h hmagic
    obtain ⟨q, log, hopen⟩ := ih (fun hc ↦ h (hc.append chunk)) fun hlen ↦ by
      rw [← XHead.magicNum_append (t := chunk) hlen]
      exact hmagic (by rw [List.length_append]; omega)
    have hloop := (hopen.phase fun hover ↦ h (hover.1.append chunk)).read past chunk
    obtain ⟨q', log', hexit⟩ := hloop.exits h hmagic
    exact ⟨q', log', hopen.read hexit⟩

/-- The read that completes a request calls `_process_request` with what is in the buffer. -/
theorem OpenAfterReads.called {before : List ByteString} (h : OpenAfterReads past ret before q log)
    (hnot : ¬Complete before.flatten) (hc : Complete (before ++ [chunk]).flatten) :
    Called past ret (before ++ [chunk]) [requestOf (q.read past chunk).querybuf] := by
  have hphase := h.phase fun hover ↦ hnot hover.1
  rw [List.flatten_append, List.flatten_singleton] at hc
  have hloop := hphase.read past chunk
  obtain rfl : log = [] := by
    cases hphase with
    | fresh _ => rfl
    | waiting _ _ _ _ _ => rfl
    | done hc' _ _ _ => exact absurd hc' hnot
  have hcall {buf : ByteString} (hbuf : buf.length = (before.flatten ++ chunk).length) :
      roundWorld (queryRound (recordRequest ret)
        (waitingBuffer (before.flatten ++ chunk) buf, [])) = [requestOf buf] := by
    have hlen := hc.2.2
    rw [queryRound_of_body ret [] rfl, if_pos]
    · split_ifs <;> rfl
    · rw [waitingBuffer, pendingBuffer]
      dsimp only
      omega
  generalize hq : q.read past chunk = q' at hloop
  cases hloop with
  | fresh =>
    have hround := queryRound_fresh ret (before.flatten ++ chunk) []
    rw [if_pos hc.1, if_neg (not_not.mpr hc.2.1)] at hround
    exact ⟨before, chunk, q, [], _, rfl, h, hq ▸ (visits_self _ _).again hround,
      (hcall rfl).symm⟩
  | waiting _ _ hbuf _ =>
    exact ⟨before, chunk, q, [], _, rfl, h, hq ▸ visits_self _ _, (hcall hbuf).symm⟩
  | done _ hlog _ => exact absurd rfl hlog

/-- When a request gets whole, there is a call. -/
theorem exists_called (past : ℕ → UInt8) (ret : ℕ → ℤ) {before : List ByteString}
    (hnot : ¬Complete before.flatten) (hc : Complete (before ++ [chunk]).flatten) :
    ∃ q log, OpenAfterReads past ret before q log ∧
      Called past ret (before ++ [chunk]) [requestOf (q.read past chunk).querybuf] := by
  obtain ⟨q, log, hopen⟩ := exists_openAfterReads past ret hnot fun hlen ↦ by
    rw [← XHead.magicNum_append (t := chunk) hlen, ← hc.2.1, List.flatten_append,
      List.flatten_singleton]
  exact ⟨q, log, hopen, hopen.called hnot hc⟩

/-! ## The exact condition

If the request does not fit, one stream of reads and one memory are enough to see that it is not
handed over: byte by byte, with something behind the buffer that was not sent. The byte that is read
to the offset `2^31` is lost, and no later read brings it back. -/

theorem firstCalledAfter_iff {before : List ByteString}
    (hsize : ¬Oversized (before ++ [chunk]).flatten) :
    FirstCalledAfter past ret before chunk ↔
      ¬Complete before.flatten ∧ Complete (before ++ [chunk]).flatten := by
  constructor
  · rintro ⟨⟨log, hcalled, hne⟩, hbefore⟩
    refine ⟨fun hc ↦ ?_, ?_⟩
    · obtain ⟨fs, chunk', hp, hnot, hc'⟩ := exists_completing hc
      obtain ⟨q, log', -, hcalled'⟩ := exists_called past ret hnot hc'
      cases hbefore _ hp _ hcalled'
    · obtain ⟨request, hr⟩ := List.exists_mem_of_ne_nil log hne
      exact (hcalled.exact hsize request hr).1
  · rintro ⟨hnot, hc⟩
    obtain ⟨q, log, -, hcalled⟩ := exists_called past ret hnot hc
    refine ⟨⟨_, hcalled, List.cons_ne_nil _ _⟩, fun fs hp log' hcalled' ↦ ?_⟩
    have hfs : fs.flatten <+: (before ++ [chunk]).flatten :=
      flatten_isPrefix (hp.trans (List.prefix_append ..))
    refine List.eq_nil_iff_forall_not_mem.mpr fun request hr ↦ hnot ?_
    exact (hcalled'.exact (fun hover ↦ hsize (hover.mono hfs)) request hr).1.mono
      (flatten_isPrefix hp)

theorem firstCall_iff {chunks : List ByteString} (hsize : ¬Oversized chunks.flatten)
    (request : ByteString × ByteString) :
    FirstCall past ret chunks request ↔
      Complete chunks.flatten ∧ request = requestOf chunks.flatten := by
  have hprefix {fs : List ByteString} {log : RequestLog} (hp : fs <+: chunks)
      (hcalled : Called past ret fs (request :: log)) :
      Complete chunks.flatten ∧ request = requestOf chunks.flatten := by
    have hfs := flatten_isPrefix hp
    obtain ⟨hc, hrequest⟩ := hcalled.exact (fun hover ↦ hsize (hover.mono hfs)) request
      List.mem_cons_self
    exact ⟨hc.mono hfs, hrequest.trans (hc.requestOf_eq hfs).symm⟩
  constructor
  · rintro ⟨fs, hp, log, hcalled⟩
    exact hprefix hp hcalled
  · rintro ⟨hc, rfl⟩
    obtain ⟨before, chunk, hp, hnot, hc'⟩ := exists_completing hc
    obtain ⟨q, log, -, hcalled⟩ := exists_called past ret hnot hc'
    have hfs := flatten_isPrefix hp
    have hrequest := (hcalled.exact (fun hover ↦ hsize (hover.mono hfs)) _ List.mem_cons_self).2
    rw [hrequest, ← hc'.requestOf_eq hfs] at hcalled
    exact ⟨_, hp, [], hcalled⟩

theorem callsWithRequest_of_not_oversized (h : ¬Oversized bytes) : CallsWithRequest bytes := by
  have hsize {chunks fs : List ByteString} (hcut : CutsInto bytes chunks) (hp : fs <+: chunks) :
      ¬Oversized fs.flatten := fun hover ↦
    h (hcut.flatten ▸ hover.mono (flatten_isPrefix hp))
  refine ⟨fun past ret chunks hcut fs hp log hcalled ↦ hcalled.exact (hsize hcut hp),
    fun past ret chunks hcut before chunk hp ↦ firstCalledAfter_iff (hsize hcut hp),
    fun past past' ret chunks chunks' hcut hcut' request ↦ ?_⟩
  rw [firstCall_iff (hsize hcut (List.prefix_refl _)),
    firstCall_iff (hsize hcut' (List.prefix_refl _)), hcut.flatten, hcut'.flatten]

/-! ### The lost byte -/

theorem ProcessesQueryBuffer.querybuf {r : ℤ × QueryBuffer × RequestLog}
    (h : ProcessesQueryBuffer ret q log r) : r.2.1.querybuf = q.querybuf := by
  have hstep (t : QueryBuffer × RequestLog) :
      (roundBuffer (queryRound (recordRequest ret) t)).querybuf = t.1.querybuf :=
    querybuf_queryRound (recordRequest ret) t.1 t.2
  obtain ⟨t, ht, hl⟩ := h.induct_inv (I := fun s ↦ s.1.querybuf = q.querybuf) rfl
    fun t t' ht hround ↦ by
      rw [← ht, ← hstep t, hround]
      rfl
  rw [← ht, ← hstep t, hl]
  rfl

/-- A byte that is read to the offset `2^31` does not get there, and no later read of one byte gets
there either. -/
theorem getD_storeRead (past : ℕ → UInt8) {buf : ByteString} (b : UInt8)
    (hlen : 2 ^ 31 ≤ buf.length) (h : 2 ^ 31 < buf.length → buf.getD (2 ^ 31) 0 = past (2 ^ 31)) :
    (storeRead past buf [b]).getD (2 ^ 31) 0 = past (2 ^ 31) := by
  have hi : 2 ^ 31 < (storeRead past buf [b]).length := by
    rw [length_storeRead, List.length_singleton]
    omega
  rw [List.getD_eq_getElem?_getD, List.getElem?_eq_getElem hi, Option.getD_some]
  simp only [storeRead, List.getElem_map, List.getElem_range, List.length_singleton]
  -- no `int` is `2^31`
  rw [if_neg (by rw [toInt32]; split_ifs <;> omega)]
  rcases Nat.lt_or_ge (2 ^ 31) buf.length with hlt | hge
  · rw [← h hlt, List.getD_eq_getElem?_getD, List.getD_eq_getElem?_getD,
      List.getElem?_eq_getElem hlt]
    rfl
  · rw [List.getD_eq_getElem?_getD, List.getElem?_eq_none hge]
    rfl

/-- A stream that is read byte by byte. -/
theorem OpenAfterReads.lost {chunks : List ByteString} (h : OpenAfterReads past ret chunks q log)
    (hone : ∀ chunk ∈ chunks, ∃ b, chunk = [b]) :
    q.querybuf.length = chunks.flatten.length ∧
      (2 ^ 31 < q.querybuf.length → q.querybuf.getD (2 ^ 31) 0 = past (2 ^ 31)) := by
  induction h with
  | new => exact ⟨rfl, fun h ↦ absurd h (by decide)⟩
  | @read chunks q q' log log' chunk h hexit ih =>
    obtain ⟨hlen, hbyte⟩ := ih fun chunk hc ↦ hone chunk (List.mem_append_left _ hc)
    obtain ⟨b, rfl⟩ := hone chunk (List.mem_append_right _ (List.mem_singleton_self _))
    have hbuf : q'.querybuf = storeRead past q.querybuf [b] := hexit.querybuf
    rw [hbuf, length_storeRead, List.flatten_append, List.flatten_singleton, List.length_append,
      hlen, List.length_singleton]
    exact ⟨rfl, fun hlt ↦ getD_storeRead past b (by omega) hbyte⟩

theorem getD_eq_of_requestOf_eq {buf : ByteString} (hc : Complete bytes)
    (h : requestOf buf = requestOf bytes) {i : ℕ} (hi : xheadSize ≤ i)
    (hbody : i < xheadSize + XHead.bodyLen bytes) : buf.getD i 0 = bytes.getD i 0 := by
  obtain ⟨k, rfl⟩ := Nat.exists_eq_add_of_le hi
  have hk : k < XHead.bodyLen bytes := by omega
  have hi' : xheadSize + k < bytes.length := by
    have := hc.2.2
    omega
  have hat : (requestOf buf).2[k]? = some bytes[xheadSize + k] := by
    rw [h, requestOf, List.getElem?_take_of_lt hk, List.getElem?_drop,
      List.getElem?_eq_getElem hi']
  rw [requestOf, List.getElem?_take] at hat
  split_ifs at hat
  rw [List.getElem?_drop] at hat
  rw [List.getD_eq_getElem?_getD, List.getD_eq_getElem?_getD, hat, List.getElem?_eq_getElem hi']

/-- **Every call gets the request that was sent**, unless it is one that does not fit. -/
theorem callsWithRequest_iff (bytes : ByteString) : CallsWithRequest bytes ↔ ¬Oversized bytes := by
  refine ⟨fun h hover ↦ ?_, callsWithRequest_of_not_oversized⟩
  -- the stream is read byte by byte, and memory differs from it everywhere
  let past : ℕ → UInt8 := fun i ↦ if bytes.getD i 0 = 0 then 1 else 0
  have hcut : CutsInto bytes (bytes.map fun b ↦ [b]) := by
    refine ⟨?_, fun chunk hmem ↦ ?_⟩
    · rw [← List.flatMap_def]
      exact List.flatMap_singleton' bytes
    · obtain ⟨b, -, rfl⟩ := List.mem_map.mp hmem
      exact ⟨List.cons_ne_nil _ _, Nat.one_le_iff_ne_zero.mpr (by decide)⟩
  have hone : ∀ chunk ∈ bytes.map fun b ↦ [b], ∃ b, chunk = [b] := fun chunk hmem ↦ by
    obtain ⟨b, -, rfl⟩ := List.mem_map.mp hmem
    exact ⟨b, rfl⟩
  obtain ⟨before, chunk, hp, hnot, hc⟩ := exists_completing (hcut.flatten.symm ▸ hover.1)
  obtain ⟨q, log, hopen, hcalled⟩ := exists_called past (fun _ ↦ 0) hnot hc
  have hrequest := (h.exact past (fun _ ↦ 0) _ hcut _ hp _ hcalled _ List.mem_cons_self).2
  -- at the offset `2^31` the buffer has what was in memory
  obtain ⟨hlen, hbyte⟩ := hopen.lost fun chunk hmem ↦
    hone chunk (hp.subset (List.mem_append_left _ hmem))
  obtain ⟨b, rfl⟩ := hone chunk (hp.subset (List.mem_append_right _ (List.mem_singleton_self _)))
  have hsent : (before ++ [[b]]).flatten <+: bytes := hcut.flatten ▸ flatten_isPrefix hp
  have hbody : XHead.bodyLen (before ++ [[b]]).flatten = XHead.bodyLen bytes := by
    obtain ⟨t, ht⟩ := hsent
    rw [← ht, XHead.bodyLen_append hc.1]
  have hlarge : 2 ^ 31 < xheadSize + XHead.bodyLen (before ++ [[b]]).flatten := hbody ▸ hover.2
  have hcount : (before ++ [[b]]).flatten.length = q.querybuf.length + 1 := by
    rw [List.flatten_append, List.flatten_singleton, List.length_append, hlen,
      List.length_singleton]
  have hwhole := hc.2.2
  have heq := getD_eq_of_requestOf_eq hc hrequest (i := 2 ^ 31) (by decide) hlarge
  rw [QueryBuffer.read, getD_storeRead past b (by omega) hbyte] at heq
  have hat : bytes.getD (2 ^ 31) 0 = (before ++ [[b]]).flatten.getD (2 ^ 31) 0 := by
    obtain ⟨t, ht⟩ := hsent
    rw [← ht, List.getD_eq_getElem?_getD, List.getElem?_append_left (by omega),
      ← List.getD_eq_getElem?_getD]
  rw [← hat] at heq
  by_cases hzero : bytes.getD (2 ^ 31) 0 = 0
  · rw [hzero] at heq
    exact absurd ((if_pos hzero).symm.trans heq) (by decide)
  · exact hzero (heq.symm.trans (if_neg hzero))

/-- A request with a body of `2^31` spaces. -/
theorem not_callsWithRequest : ¬∀ bytes, CallsWithRequest bytes := by
  intro h
  let header : ByteString :=
    List.replicate 24 0 ++ ByteString.putLE32 xheaderMagicNum ++ List.replicate 4 0 ++
      ByteString.putLE32 (2 ^ 31)
  have hbody : XHead.bodyLen header = 2 ^ 31 := by decide
  refine (callsWithRequest_iff (header ++ List.replicate (2 ^ 31) 32)).mp (h _) ⟨⟨?_, ?_, ?_⟩, ?_⟩
  · rw [List.length_append]
    exact Nat.le_add_right 36 _
  · rw [XHead.magicNum_append (by decide)]
    decide
  · rw [XHead.bodyLen_append (by decide), hbody, List.length_append, List.length_replicate]
    exact le_rfl
  · rw [XHead.bodyLen_append (by decide), hbody]
    decide

end XrtcServer
