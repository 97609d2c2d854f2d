import XrtcServer.Base.ByteString

/-!
# Signaling connections

A request on a signaling connection is a header of 36 bytes (`base/xhead.h`) and then as many bytes
as the header's last field says. `TcpConnection` (`server/tcp_connection.h`) collects what it reads
in one buffer and remembers how far it is; `QueryBuffer` is that part of it.

`queryRound` is the body of the `while` loop of `_process_query_buffer`. What `_process_request`
does to the rest of the world is a parameter, so that the loop can be studied alone.
-/

namespace XrtcServer

open ByteString

/-! ## The header -/

def xheadSize : ℕ := 36
def xheaderMagicNum : ℕ := 0xfb202309

/-- The fields of an `xhead_t` laid over the beginning of a buffer. -/
def XHead.logId (buf : ByteString) : ℕ := buf.le32 4
def XHead.magicNum (buf : ByteString) : ℕ := buf.le32 24
def XHead.bodyLen (buf : ByteString) : ℕ := buf.le32 32

theorem XHead.magicNum_append {s t : ByteString} (h : xheadSize ≤ s.length) :
    magicNum (s ++ t) = magicNum s := le32_append (by rw [xheadSize] at h; omega)

theorem XHead.bodyLen_append {s t : ByteString} (h : xheadSize ≤ s.length) :
    bodyLen (s ++ t) = bodyLen s := le32_append h

/-! ## The query buffer -/

inductive QueryState
  | head
  | body
deriving DecidableEq

structure QueryBuffer where
  querybuf : ByteString := []
  bytesExpected : ℕ := xheadSize
  bytesProcessed : ℕ := 0
  currentState : QueryState := .head
deriving DecidableEq

/-- `sdsIncrLen` after a read. -/
def QueryBuffer.append (q : QueryBuffer) (chunk : ByteString) : QueryBuffer :=
  { q with querybuf := q.querybuf ++ chunk }

/-- One round of the loop of `_process_query_buffer`: it leaves with the return value, or goes
round again. In the first branch the source sets `bytes_processed` twice; the second assignment
stands. -/
def queryRound {σ : Type} (processRequest : σ → ByteString → ByteString → σ × ℤ)
    (s : QueryBuffer × σ) : (ℤ × QueryBuffer × σ) ⊕ (QueryBuffer × σ) :=
  let (q, w) := s
  if q.bytesProcessed + q.bytesExpected ≤ q.querybuf.length then
    match q.currentState with
    | .head =>
      if XHead.magicNum q.querybuf ≠ xheaderMagicNum then .inl (-1, q, w)
      else .inr ({ q with currentState := .body, bytesProcessed := XHead.bodyLen q.querybuf }, w)
    | .body =>
      let header := q.querybuf.take xheadSize
      let body := (q.querybuf.drop xheadSize).take (XHead.bodyLen q.querybuf)
      let (w, ret) := processRequest w header body
      if ret ≠ 0 then .inl (-1, q, w) else .inr ({ q with bytesProcessed := 65535 }, w)
  else .inl (0, q, w)

/-- The rest of the world after a round. -/
def roundWorld {σ : Type} : (ℤ × QueryBuffer × σ) ⊕ (QueryBuffer × σ) → σ
  | .inl (_, _, w) => w
  | .inr (_, w) => w

/-- A round touches the rest of the world through `_process_request` only. -/
theorem roundWorld_queryRound {σ : Type} (processRequest : σ → ByteString → ByteString → σ × ℤ)
    (q : QueryBuffer) (w : σ) :
    roundWorld (queryRound processRequest (q, w)) = w ∨
      ∃ header body, roundWorld (queryRound processRequest (q, w)) =
        (processRequest w header body).1 := by
  rw [queryRound]
  dsimp only
  by_cases hlen : q.bytesProcessed + q.bytesExpected ≤ q.querybuf.length
  swap
  · rw [if_neg hlen]
    exact .inl rfl
  rw [if_pos hlen]
  rcases q.currentState with _ | _
  · dsimp only
    split_ifs
    · exact .inl rfl
    · exact .inl rfl
  · refine .inr ⟨q.querybuf.take xheadSize,
      (q.querybuf.drop xheadSize).take (XHead.bodyLen q.querybuf), ?_⟩
    dsimp only
    split_ifs
    · rfl
    · rfl

/-- The buffer after a round. -/
def roundBuffer {σ : Type} : (ℤ × QueryBuffer × σ) ⊕ (QueryBuffer × σ) → QueryBuffer
  | .inl (_, q, _) => q
  | .inr (q, _) => q

theorem querybuf_queryRound {σ : Type} (processRequest : σ → ByteString → ByteString → σ × ℤ)
    (q : QueryBuffer) (w : σ) :
    (roundBuffer (queryRound processRequest (q, w))).querybuf = q.querybuf := by
  rw [queryRound]
  dsimp only
  by_cases hlen : q.bytesProcessed + q.bytesExpected ≤ q.querybuf.length
  · rw [if_pos hlen]
    rcases q.currentState with _ | _
    · dsimp only
      split_ifs <;> rfl
    · dsimp only
      split_ifs <;> rfl
  · rw [if_neg hlen]
    rfl

/-! ## Replies and connections -/

/-- `rtc::Slice`: a size and the start of an allocated block. -/
structure Slice where
  block : ByteString
  size : ℕ
deriving DecidableEq

/-- The bytes of the slice that belong to its block. -/
def Slice.data (s : Slice) : ByteString := s.block.take s.size

structure TcpConnection where
  fd : ℕ
  query : QueryBuffer := {}
  lastInteraction : ℕ := 0
  replyList : List Slice := []
  curRespPos : ℕ := 0
  /-- Which accept the connection comes from. The program does not keep this. -/
  accept : ℕ
deriving DecidableEq

end XrtcServer
