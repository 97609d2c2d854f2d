import XrtcServer.Lib.WhileLoop
import XrtcServer.Server.TcpConnection

/-!
# The loop over the query buffer

After a request `_process_query_buffer` sets `bytes_processed` to 65535, so that the loop condition
asks for 65571 bytes in the buffer. That stops the loop while the buffer is shorter. The buffer is
never emptied, so a client that sends 65571 bytes or more has its one request executed again, and
again, without end as long as `_process_request` returns zero.

## A connection as its reads

Nothing is assumed about `_process_request` but that it returns: `ret n` is what its `n`-th call on
the connection returns, and the calls are recorded. A connection is given by the reads so far, and
`Settled` describes the buffer between two reads; it is exact, so the theorem at the end is an
equivalence for every sequence of reads.

## Up to `2^31` bytes

`_read_query` keeps the length of the buffer in an `int` and adds it to a pointer, so no read makes
sense once the buffer has `2^31` bytes. A connection is only followed up to there.
-/

namespace XrtcServer

open WhileLoop

/-- The calls of `_process_request` on a connection, as header and body. -/
abbrev RequestLog := List (ByteString × ByteString)

variable (ret : ℕ → ℤ)

/-- `_process_request`, recorded. -/
def recordRequest (log : RequestLog) (header body : ByteString) : RequestLog × ℤ :=
  (log ++ [(header, body)], ret log.length)

/-- The loop of `_process_query_buffer` leaves with this return value, buffer and log. -/
def ProcessesQueryBuffer (q : QueryBuffer) (log : RequestLog) (r : ℤ × QueryBuffer × RequestLog) :
    Prop :=
  Exits (queryRound (recordRequest ret)) (q, log) r

/-- The connection is open after these reads, with this buffer and log. -/
inductive OpenAfter : List ByteString → QueryBuffer → RequestLog → Prop
  | new : OpenAfter [] {} []
  | read {chunks : List ByteString} {q q' : QueryBuffer} {log log' : RequestLog}
      {chunk : ByteString} (h : OpenAfter chunks q log) (hint : q.querybuf.length < 2 ^ 31)
      (hexit : ProcessesQueryBuffer ret (q.append chunk) log (0, q', log')) :
      OpenAfter (chunks ++ [chunk]) q' log'

/-- Every read of the connection is processed in finite time and with at most one request so far. -/
def ProcessesOneRequest (chunks : List ByteString) : Prop :=
  ∀ before chunk q log, before ++ [chunk] <+: chunks → OpenAfter ret before q log →
    q.querybuf.length < 2 ^ 31 →
      ∃ r, ProcessesQueryBuffer ret (q.append chunk) log r ∧ r.2.2.length ≤ 1

/-- The bytes hold a whole request that is accepted, and at least 65571 bytes altogether. -/
def Overlong (bytes : ByteString) : Prop :=
  XHead.magicNum bytes = xheaderMagicNum ∧ xheadSize + XHead.bodyLen bytes ≤ bytes.length ∧
    65535 + xheadSize ≤ bytes.length ∧ ret 0 = 0

variable {ret} {bytes chunk : ByteString} {log : RequestLog} {q : QueryBuffer}
  {r : ℤ × QueryBuffer × RequestLog}

/-! ## The three states of a buffer

The contents of the buffer are the bytes that have come, in all three. They differ in what the loop
asks for next: a header, a body, or more bytes than a request has. -/

/-- Before the header. -/
def freshBuffer (bytes : ByteString) : QueryBuffer := { querybuf := bytes }

/-- After the header. -/
def pendingBuffer (bytes : ByteString) : QueryBuffer :=
  { querybuf := bytes, bytesProcessed := XHead.bodyLen bytes, currentState := .body }

/-- After a request. -/
def doneBuffer (bytes : ByteString) : QueryBuffer :=
  { querybuf := bytes, bytesProcessed := 65535, currentState := .body }

def requestOf (bytes : ByteString) : ByteString × ByteString :=
  (bytes.take xheadSize, (bytes.drop xheadSize).take (XHead.bodyLen bytes))

theorem processes_of_short (h : q.querybuf.length < q.bytesProcessed + q.bytesExpected) :
    ProcessesQueryBuffer ret q log r ↔ r = (0, q, log) := by
  refine exits_of_inl ?_
  rw [queryRound]
  exact if_neg h.not_ge

theorem processes_fresh_invalid (hlen : xheadSize ≤ bytes.length)
    (hmagic : XHead.magicNum bytes ≠ xheaderMagicNum) :
    ProcessesQueryBuffer ret (freshBuffer bytes) log r ↔ r = (-1, freshBuffer bytes, log) := by
  refine exits_of_inl ?_
  simp [queryRound, freshBuffer, hlen, hmagic]

theorem processes_fresh (hlen : xheadSize ≤ bytes.length)
    (hmagic : XHead.magicNum bytes = xheaderMagicNum) :
    ProcessesQueryBuffer ret (freshBuffer bytes) log r ↔
      ProcessesQueryBuffer ret (pendingBuffer bytes) log r := by
  refine exits_of_inr ?_
  simp [queryRound, freshBuffer, pendingBuffer, hlen, hmagic]

theorem queryRound_body (hstate : q.currentState = .body)
    (hlen : q.bytesProcessed + q.bytesExpected ≤ q.querybuf.length) :
    queryRound (recordRequest ret) (q, log) =
      if ret log.length ≠ 0 then .inl (-1, q, log ++ [requestOf q.querybuf])
      else .inr ({ q with bytesProcessed := 65535 }, log ++ [requestOf q.querybuf]) := by
  simp [queryRound, recordRequest, requestOf, hlen, hstate]

theorem processes_pending_refused (hlen : xheadSize + XHead.bodyLen bytes ≤ bytes.length)
    (hret : ret 0 ≠ 0) :
    ProcessesQueryBuffer ret (pendingBuffer bytes) [] r ↔
      r = (-1, pendingBuffer bytes, [requestOf bytes]) := by
  refine exits_of_inl ?_
  rw [queryRound_body rfl (by rw [Nat.add_comm] at hlen; exact hlen)]
  simp [hret, pendingBuffer]

theorem processes_pending (hlen : xheadSize + XHead.bodyLen bytes ≤ bytes.length)
    (hret : ret 0 = 0) :
    ProcessesQueryBuffer ret (pendingBuffer bytes) [] r ↔
      ProcessesQueryBuffer ret (doneBuffer bytes) [requestOf bytes] r := by
  refine exits_of_inr ?_
  rw [queryRound_body rfl (by rw [Nat.add_comm] at hlen; exact hlen)]
  simp [hret, pendingBuffer, doneBuffer]

/-- Once a request is done and the buffer has 65571 bytes, the loop can only be left through another
call, and one that fails. -/
theorem processes_done_long (hlen : 65535 + xheadSize ≤ bytes.length) (hlog : log ≠ [])
    (h : ProcessesQueryBuffer ret (doneBuffer bytes) log r) : r.1 = -1 ∧ 2 ≤ r.2.2.length := by
  have hround (log : RequestLog) : queryRound (recordRequest ret) (doneBuffer bytes, log) =
      if ret log.length ≠ 0 then .inl (-1, doneBuffer bytes, log ++ [requestOf bytes])
      else .inr (doneBuffer bytes, log ++ [requestOf bytes]) := queryRound_body rfl hlen
  obtain ⟨⟨q, log'⟩, ⟨rfl, hlog'⟩, hl⟩ := h.induct_inv
    (I := fun s ↦ s.1 = doneBuffer bytes ∧ s.2 ≠ []) ⟨rfl, hlog⟩ (by
      rintro ⟨q, log'⟩ t ⟨rfl, -⟩ ht
      rw [hround] at ht
      split_ifs at ht
      obtain rfl := Sum.inr.inj ht
      exact ⟨rfl, by simp⟩)
  rw [hround] at hl
  split_ifs at hl
  obtain rfl := Sum.inl.inj hl
  have : 0 < log'.length := List.length_pos_iff.mpr hlog'
  refine ⟨rfl, ?_⟩
  rw [List.length_append, List.length_singleton]
  omega

/-! ## Between two reads

`Settled` lists what an open connection can be like between two reads, with at most one request
done. A read of bytes that are not overlong leads back to it or closes the connection; a read of
overlong bytes leads nowhere that is settled. -/

/-- The buffer and the log of an open connection that has received `bytes`. -/
def Settled (ret : ℕ → ℤ) (bytes : ByteString) (q : QueryBuffer) (log : RequestLog) : Prop :=
  (bytes.length < xheadSize ∧ q = freshBuffer bytes ∧ log = []) ∨
    xheadSize ≤ bytes.length ∧ XHead.magicNum bytes = xheaderMagicNum ∧
      (bytes.length < xheadSize + XHead.bodyLen bytes ∧ q = pendingBuffer bytes ∧ log = [] ∨
        xheadSize + XHead.bodyLen bytes ≤ bytes.length ∧ bytes.length < 65535 + xheadSize ∧
          ret 0 = 0 ∧ q = doneBuffer bytes ∧ ∃ request, log = [request])

/-- What the buffer looks like when the loop starts after a read: nothing was processed and the
buffer is in its first or second state, or a request was. -/
theorem Settled.append (h : Settled ret bytes q log) (chunk : ByteString) :
    log = [] ∧ (q.append chunk = freshBuffer (bytes ++ chunk) ∨
        q.append chunk = pendingBuffer (bytes ++ chunk) ∧ xheadSize ≤ (bytes ++ chunk).length ∧
          XHead.magicNum (bytes ++ chunk) = xheaderMagicNum) ∨
      (∃ request, log = [request]) ∧ q.append chunk = doneBuffer (bytes ++ chunk) ∧
        ret 0 = 0 ∧ XHead.magicNum (bytes ++ chunk) = xheaderMagicNum ∧
        xheadSize + XHead.bodyLen (bytes ++ chunk) ≤ (bytes ++ chunk).length := by
  rcases h with ⟨-, rfl, rfl⟩ | ⟨hlen, hmagic, ⟨-, rfl, rfl⟩ | ⟨hbody, -, hret, rfl, hlog⟩⟩
  · exact .inl ⟨rfl, .inl rfl⟩
  · refine .inl ⟨rfl, .inr ⟨?_, ?_, ?_⟩⟩
    · rw [pendingBuffer, pendingBuffer, XHead.bodyLen_append hlen]
      rfl
    · rw [List.length_append]
      omega
    · rw [XHead.magicNum_append hlen, hmagic]
  · refine .inr ⟨hlog, rfl, hret, ?_, ?_⟩
    · rw [XHead.magicNum_append hlen, hmagic]
    · rw [XHead.bodyLen_append hlen, List.length_append]
      omega

/-- What a read does to a settled connection when the bytes are not overlong: the loop is left,
after at most one request altogether; the connection is settled again or closed for a reason. -/
def Resettles (ret : ℕ → ℤ) (bytes : ByteString) (r : ℤ × QueryBuffer × RequestLog) : Prop :=
  r.2.2.length ≤ 1 ∧ (r.1 = 0 → Settled ret bytes r.2.1 r.2.2) ∧
    (r.1 = 0 ∨ ret 0 ≠ 0 ∨
      xheadSize ≤ bytes.length ∧ XHead.magicNum bytes ≠ xheaderMagicNum)

theorem resettles_of_settled (h : Settled ret bytes q log) (hlog : log.length ≤ 1) :
    Resettles ret bytes (0, q, log) := ⟨hlog, fun _ ↦ h, .inl rfl⟩

theorem resettles_of_closed (hlog : log.length ≤ 1)
    (h : ret 0 ≠ 0 ∨ xheadSize ≤ bytes.length ∧ XHead.magicNum bytes ≠ xheaderMagicNum) :
    Resettles ret bytes (-1, q, log) := by
  refine ⟨hlog, fun h0 ↦ ?_, .inr h⟩
  cases h0

theorem processes_pending_of_not_overlong (hlen : xheadSize ≤ bytes.length)
    (hmagic : XHead.magicNum bytes = xheaderMagicNum) (h : ¬Overlong ret bytes) :
    ∃ r, ProcessesQueryBuffer ret (pendingBuffer bytes) [] r ∧ Resettles ret bytes r := by
  rcases lt_or_ge bytes.length (xheadSize + XHead.bodyLen bytes) with hshort | hbody
  · refine ⟨_, (processes_of_short ?_).mpr rfl, resettles_of_settled ?_ (Nat.zero_le _)⟩
    · rw [Nat.add_comm] at hshort
      exact hshort
    · exact .inr ⟨hlen, hmagic, .inl ⟨hshort, rfl, rfl⟩⟩
  by_cases hret : ret 0 = 0
  · have hlong : bytes.length < 65535 + xheadSize := by
      by_contra hlong
      exact h ⟨hmagic, hbody, not_lt.mp hlong, hret⟩
    refine ⟨_, (processes_pending hbody hret).mpr ((processes_of_short hlong).mpr rfl),
      resettles_of_settled ?_ le_rfl⟩
    exact .inr ⟨hlen, hmagic, .inr ⟨hbody, hlong, hret, rfl, _, rfl⟩⟩
  · exact ⟨_, (processes_pending_refused hbody hret).mpr rfl,
      resettles_of_closed le_rfl (.inl hret)⟩

/-- **One read** of bytes that are not overlong. -/
theorem Settled.processes (hs : Settled ret bytes q log) (h : ¬Overlong ret (bytes ++ chunk)) :
    ∃ r, ProcessesQueryBuffer ret (q.append chunk) log r ∧ Resettles ret (bytes ++ chunk) r := by
  rcases hs.append chunk with
    ⟨rfl, hq | ⟨hq, hlen, hmagic⟩⟩ | ⟨⟨request, rfl⟩, hq, hret, hmagic, hbody⟩
  · rw [hq]
    rcases lt_or_ge (bytes ++ chunk).length xheadSize with hshort | hlen
    · refine ⟨_, (processes_of_short ?_).mpr rfl, resettles_of_settled ?_ (Nat.zero_le _)⟩
      · rw [freshBuffer, Nat.zero_add]
        exact hshort
      · exact .inl ⟨hshort, rfl, rfl⟩
    by_cases hmagic : XHead.magicNum (bytes ++ chunk) = xheaderMagicNum
    · simp only [processes_fresh hlen hmagic]
      exact processes_pending_of_not_overlong hlen hmagic h
    · exact ⟨_, (processes_fresh_invalid hlen hmagic).mpr rfl,
        resettles_of_closed (Nat.zero_le _) (.inr ⟨hlen, hmagic⟩)⟩
  · rw [hq]
    exact processes_pending_of_not_overlong hlen hmagic h
  · rw [hq]
    have hlong : (bytes ++ chunk).length < 65535 + xheadSize := by
      by_contra hlong
      exact h ⟨hmagic, hbody, not_lt.mp hlong, hret⟩
    refine ⟨_, (processes_of_short hlong).mpr rfl, resettles_of_settled ?_ le_rfl⟩
    exact .inr ⟨by omega, hmagic, .inr ⟨hbody, hlong, hret, rfl, request, rfl⟩⟩

/-- **One read** of overlong bytes: the loop is not left before a second request, and if it is left
the connection is closed. -/
theorem Settled.processes_overlong (hs : Settled ret bytes q log)
    (h : Overlong ret (bytes ++ chunk)) (hr : ProcessesQueryBuffer ret (q.append chunk) log r) :
    r.1 = -1 ∧ 2 ≤ r.2.2.length := by
  obtain ⟨hmagic, hbody, hlong, hret⟩ := h
  rcases hs.append chunk with ⟨rfl, hq | ⟨hq, -, -⟩⟩ | ⟨⟨request, rfl⟩, hq, -⟩
  · rw [hq, processes_fresh (by omega) hmagic, processes_pending hbody hret] at hr
    exact processes_done_long hlong (by simp) hr
  · rw [hq, processes_pending hbody hret] at hr
    exact processes_done_long hlong (by simp) hr
  · rw [hq] at hr
    exact processes_done_long hlong (by simp) hr

/-! ## The life of a connection

By induction over the reads an open connection is settled. So one request too many is only executed
at a read that makes the bytes overlong, and at such a read one is, or the loop does not end. -/

/-- **Open connections are settled.** -/
theorem OpenAfter.settled {chunks : List ByteString} (h : OpenAfter ret chunks q log) :
    Settled ret chunks.flatten q log := by
  induction h with
  | new => exact .inl ⟨by decide, rfl, rfl⟩
  | @read chunks q q' log log' chunk h hint hexit ih =>
    rw [List.flatten_append, List.flatten_singleton]
    by_cases ho : Overlong ret (chunks.flatten ++ chunk)
    · cases (ih.processes_overlong ho hexit).1
    · obtain ⟨r, hr, hre⟩ := ih.processes ho
      obtain rfl := hr.unique hexit
      exact hre.2.1 rfl

theorem Settled.querybuf (h : Settled ret bytes q log) : q.querybuf = bytes := by
  rcases h with ⟨-, rfl, -⟩ | ⟨-, -, ⟨-, rfl, -⟩ | ⟨-, -, -, rfl, -⟩⟩ <;> rfl

/-- A connection whose bytes so far are those of a good request, and were never overlong, is
open. -/
theorem exists_openAfter (hret : ret 0 = 0) {chunks : List ByteString}
    (hno : ∀ before chunk, before ++ [chunk] <+: chunks → ¬Overlong ret (before ++ [chunk]).flatten)
    (hmagic : xheadSize ≤ chunks.flatten.length →
      XHead.magicNum chunks.flatten = xheaderMagicNum) (hint : chunks.flatten.length < 2 ^ 31) :
    ∃ q log, OpenAfter ret chunks q log := by
  induction chunks using List.reverseRecOn with
  | nil => exact ⟨_, _, .new⟩
  | append_singleton chunks chunk ih =>
    rw [List.flatten_append, List.flatten_singleton] at hmagic hint
    have hlen : chunks.flatten.length < 2 ^ 31 := by
      rw [List.length_append] at hint
      omega
    obtain ⟨q, log, h⟩ := ih
      (fun before chunk' hp ↦ hno before chunk' (hp.trans (List.prefix_append ..)))
      (fun hhead ↦ by
        rw [← XHead.magicNum_append (t := chunk) hhead]
        exact hmagic (by rw [List.length_append]; omega)) hlen
    have hthis := hno chunks chunk (List.prefix_refl _)
    rw [List.flatten_append, List.flatten_singleton] at hthis
    obtain ⟨⟨code, q', log'⟩, hr, -, -, hcode⟩ := h.settled.processes hthis
    rcases hcode with rfl | hcode | ⟨hhead, hbad⟩
    · exact ⟨q', log', h.read (by rw [h.settled.querybuf]; exact hlen) hr⟩
    · exact absurd hret hcode
    · exact absurd (hmagic hhead) hbad

/-- **The exact condition.** -/
theorem processesOneRequest_iff (ret : ℕ → ℤ) (chunks : List ByteString) :
    ProcessesOneRequest ret chunks ↔
      ∀ before chunk, before ++ [chunk] <+: chunks → before.flatten.length < 2 ^ 31 →
        ¬Overlong ret (before ++ [chunk]).flatten := by
  constructor
  · intro hone before
    -- a first overlong read is reached, since the connection was open until then
    induction hn : before.length using Nat.strongRecOn generalizing before with
    | ind n ih =>
      intro chunk hp hint hover
      have hno : ∀ before' chunk', before' ++ [chunk'] <+: before →
          ¬Overlong ret (before' ++ [chunk']).flatten := by
        intro before' chunk' hp'
        have hlen := hp'.length_le
        have hflat : before'.flatten.length ≤ before.flatten.length := by
          obtain ⟨t, rfl⟩ := (List.prefix_append before' [chunk']).trans hp'
          rw [List.flatten_append, List.length_append]
          omega
        rw [List.length_append, List.length_singleton] at hlen
        exact ih before'.length (by omega) before' rfl chunk'
          (hp'.trans ((List.prefix_append ..).trans hp)) (by omega)
      rw [List.flatten_append, List.flatten_singleton] at hover
      have hmagic : xheadSize ≤ before.flatten.length →
          XHead.magicNum before.flatten = xheaderMagicNum := fun hhead ↦ by
        rw [← XHead.magicNum_append (t := chunk) hhead, hover.1]
      obtain ⟨q, log, hopen⟩ := exists_openAfter hover.2.2.2 hno hmagic hint
      obtain ⟨r, hr, hle⟩ :=
        hone before chunk q log hp hopen (by rw [hopen.settled.querybuf]; exact hint)
      have := (hopen.settled.processes_overlong hover hr).2
      omega
  · intro hno before chunk q log hp hopen hint
    rw [hopen.settled.querybuf] at hint
    have hthis := hno before chunk hp hint
    rw [List.flatten_append, List.flatten_singleton] at hthis
    obtain ⟨r, hr, hre⟩ := hopen.settled.processes hthis
    exact ⟨r, hr, hre.1⟩

/-- A request whose number stands for no command, so that the answer is an error, and then zeros, in
reads of 36 bytes as `_read_query` makes them. -/
theorem not_processesOneRequest :
    ¬∀ (ret : ℕ → ℤ) (chunks : List ByteString), (∀ chunk ∈ chunks, chunk.length ≤ xheadSize) →
      ProcessesOneRequest ret chunks := by
  intro h
  let header : ByteString := List.replicate 24 0 ++ ByteString.putLE32 xheaderMagicNum ++
    List.replicate 4 0 ++ ByteString.putLE32 11
  let body : ByteString := lit "\x7b\"cmdno\":0\x7d"
  let zeros : ByteString := List.replicate 36 0
  have hrest (n : ℕ) : (body :: List.replicate n zeros).flatten.length = 11 + n * 36 := by
    simp [body, zeros, lit]
    omega
  have hlen (n : ℕ) : (header :: body :: List.replicate n zeros).flatten.length = 47 + n * 36 := by
    have hheader : header.length = 36 := rfl
    rw [List.flatten_cons, List.length_append, hrest, hheader]
    omega
  have hmagic : XHead.magicNum header = xheaderMagicNum := by decide
  have hbody : XHead.bodyLen header = 11 := by decide
  have hone := h (fun _ ↦ 0) (header :: body :: List.replicate 1821 zeros) (by
    intro chunk hc
    rcases List.mem_cons.mp hc with rfl | hc
    · decide
    rcases List.mem_cons.mp hc with rfl | hc
    · decide
    · obtain rfl := List.eq_of_mem_replicate hc
      decide)
  have hreads : header :: body :: List.replicate 1820 zeros ++ [zeros] =
      header :: body :: List.replicate 1821 zeros := by
    rw [List.cons_append, List.cons_append, ← List.replicate_succ']
  refine (processesOneRequest_iff _ _).mp hone (header :: body :: List.replicate 1820 zeros) zeros
    ?_ ?_ ?_
  · rw [hreads]
  · rw [hlen]
    decide
  · rw [hreads]
    refine ⟨?_, ?_, ?_, rfl⟩
    · rw [List.flatten_cons, XHead.magicNum_append (by decide), hmagic]
    · rw [hlen, List.flatten_cons, XHead.bodyLen_append (by decide), hbody]
      decide
    · rw [hlen]
      decide

end XrtcServer
