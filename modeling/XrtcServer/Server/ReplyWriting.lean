import XrtcServer.Base.EventLoop
import XrtcServer.Server.SignalingWorker

/-!
# Writing replies

`_write_reply` takes the replies of a connection from the front of the queue and offers the rest of
the first one to the socket, until the queue is empty or `write` fails. What `write` returns is
given by a sequence of results, one for each call.

## What every state keeps

Every state of the loop keeps the same sum: what was sent, and what is left of the queue, are the
replies in the order in which they were added. The offset into the first reply is part of what is
left, so it survives from one call to the next.

## `EAGAIN`

`sock_write_data` returns zero for `EAGAIN`, and the loop goes on after a zero as after any other
number. So a call that meets `EAGAIN` does not return to the event loop but writes again, until the
peer has read everything. The loop ends for certain only if no result is `EAGAIN`: then each round
sends a byte or empties a reply, and what is left becomes less.
-/

namespace XrtcServer

open WhileLoop

/-! ## The loop -/

/-- What `write` does with the bytes it is offered: it takes some, as many as there is room for, or
fails. -/
inductive WriteResult
  /-- There is room for `n + 1` bytes. -/
  | written (n : ℕ)
  /-- `EAGAIN` -/
  | again
  | error
deriving DecidableEq

/-- `sock_write_data` of `len` bytes; `none` is -1. -/
def sockWriteData (len : ℕ) : WriteResult → Option ℕ
  | .written n => some (min (n + 1) len)
  | .again => some 0
  | .error => none

theorem sockWriteData_le {len n : ℕ} {result : WriteResult}
    (h : sockWriteData len result = some n) : n ≤ len := by
  cases result with
  | written k =>
    obtain rfl := Option.some.inj h
    exact min_le_right _ _
  | again =>
    obtain rfl := Option.some.inj h
    exact Nat.zero_le len
  | error => cases h

/-- Except for `EAGAIN`, something is taken if something is offered. -/
theorem sockWriteData_pos {len n : ℕ} {result : WriteResult} (hlen : 0 < len)
    (hagain : result ≠ .again) (h : sockWriteData len result = some n) : 0 < n := by
  cases result with
  | written k =>
    obtain rfl := Option.some.inj h
    exact lt_min (Nat.succ_pos k) hlen
  | again => exact absurd rfl hagain
  | error => cases h

/-- The bytes of a slice; `past` is what follows its block in memory. -/
def Slice.bytes (past : ℕ → UInt8) (s : Slice) : ByteString :=
  (List.range s.size).map fun i ↦ s.block.getD i (past i)

@[simp] theorem Slice.length_bytes (past : ℕ → UInt8) (s : Slice) :
    (s.bytes past).length = s.size := by
  rw [bytes, List.length_map, List.length_range]

/-- A call of `_write_reply`: how often it has called `write`, and what has been sent. -/
structure Writing where
  conn : TcpConnection
  writes : ℕ := 0
  sent : ByteString := []
deriving DecidableEq

/-- One round of the loop. It leaves with whether the connection is to be closed. -/
def writeRound (past : ℕ → UInt8) (results : ℕ → WriteResult) (w : Writing) :
    (Writing × Bool) ⊕ Writing :=
  match w.conn.replyList with
  | [] => .inl (w, false)
  | reply :: replies =>
    let c := w.conn
    match sockWriteData (reply.size - c.curRespPos) (results w.writes) with
    | none => .inl ({ w with writes := w.writes + 1 }, true)
    | some nwritten =>
      let w := { w with
        writes := w.writes + 1
        sent := w.sent ++ ((reply.bytes past).drop c.curRespPos).take nwritten }
      if reply.size ≤ nwritten + c.curRespPos then
        .inr { w with conn := { c with replyList := replies, curRespPos := 0 } }
      else .inr { w with conn := { c with curRespPos := c.curRespPos + nwritten } }

variable {past : ℕ → UInt8} {results : ℕ → WriteResult} {w w' : Writing} {closed : Bool}

theorem writeRound_cases (past : ℕ → UInt8) (results : ℕ → WriteResult) (w : Writing) :
    (w.conn.replyList = [] ∧ writeRound past results w = .inl (w, false)) ∨
    ∃ reply replies, w.conn.replyList = reply :: replies ∧
      ((results w.writes = .error ∧
          writeRound past results w = .inl ({ w with writes := w.writes + 1 }, true)) ∨
        ∃ n, sockWriteData (reply.size - w.conn.curRespPos) (results w.writes) = some n ∧
          writeRound past results w = .inr
            { conn := if reply.size ≤ n + w.conn.curRespPos then
                { w.conn with replyList := replies, curRespPos := 0 }
                else { w.conn with curRespPos := w.conn.curRespPos + n }
              writes := w.writes + 1
              sent := w.sent ++ ((reply.bytes past).drop w.conn.curRespPos).take n }) := by
  rw [writeRound]
  rcases hlist : w.conn.replyList with _ | ⟨reply, replies⟩
  · exact .inl ⟨rfl, rfl⟩
  · refine .inr ⟨reply, replies, rfl, ?_⟩
    dsimp only
    rcases hresult : sockWriteData (reply.size - w.conn.curRespPos) (results w.writes) with _ | n
    · refine .inl ⟨?_, rfl⟩
      cases h : results w.writes with
      | error => rfl
      | written k => rw [h] at hresult; cases hresult
      | again => rw [h] at hresult; cases hresult
    · refine .inr ⟨n, rfl, ?_⟩
      dsimp only
      split_ifs <;> rfl

/-- The loop is that of `Server/SignalingWorker.lean`, on the values `sock_write_data` returns. -/
theorem exists_writeLoop {r : Writing × Bool} (h : Exits (writeRound past results) w r) :
    ∃ answers, Worker.writeLoop w.conn answers = some (r.1.conn, r.2) := by
  induction h with
  | @leave w r h =>
    rcases writeRound_cases past results w with ⟨hnil, hround⟩ | ⟨reply, replies, hcons, h' | h'⟩
    · cases hround.symm.trans h
      exact ⟨[], by rw [Worker.writeLoop, if_pos hnil]⟩
    · cases h'.2.symm.trans h
      refine ⟨[none], ?_⟩
      rw [Worker.writeLoop.eq_def, hcons]
    · obtain ⟨n, -, hround⟩ := h'
      cases hround.symm.trans h
  | @again w w' r h _ ih =>
    obtain ⟨answers, hanswers⟩ := ih
    rcases writeRound_cases past results w with ⟨-, hround⟩ | ⟨reply, replies, hcons, h' | h'⟩
    · cases hround.symm.trans h
    · cases h'.2.symm.trans h
    · obtain ⟨n, -, hround⟩ := h'
      cases hround.symm.trans h
      refine ⟨some n :: answers, ?_⟩
      rw [Worker.writeLoop.eq_def, hcons]
      dsimp only at hanswers ⊢
      split_ifs at hanswers ⊢
      · exact hanswers
      · rw [← hcons]
        exact hanswers

/-! ## `EAGAIN` -/

/-- A write that meets `EAGAIN` is the last one of its call, which leaves the queue and the offset
as they are, and the call ends. -/
structure YieldsOnAgain (past : ℕ → UInt8) (results : ℕ → WriteResult) (w : Writing) : Prop where
  stops : ∀ t, Visits (writeRound past results) w t → t.conn.replyList ≠ [] →
    results t.writes = .again →
      Exits (writeRound past results) t ({ t with writes := t.writes + 1 }, false)
  finite : ∃ r, Exits (writeRound past results) w r

/-- No write of the call meets `EAGAIN`. -/
def MeetsNoAgain (past : ℕ → UInt8) (results : ℕ → WriteResult) (w : Writing) : Prop :=
  ∀ t, Visits (writeRound past results) w t → t.conn.replyList ≠ [] → results t.writes ≠ .again

theorem replyList_of_exits {r : Writing × Bool} (h : Exits (writeRound past results) w r)
    (hopen : r.2 = false) : r.1.conn.replyList = [] := by
  obtain ⟨t, -, ht⟩ := h.induct_inv (I := fun _ ↦ True) trivial fun _ _ _ _ ↦ trivial
  rcases writeRound_cases past results t with ⟨hnil, hround⟩ | ⟨reply, replies, -, h' | h'⟩
  · cases hround.symm.trans ht
    exact hnil
  · cases h'.2.symm.trans ht
    cases hopen
  · obtain ⟨n, -, hround⟩ := h'
    cases hround.symm.trans ht

/-- What is left of the queue, with one for each reply. -/
def TcpConnection.unsent (c : TcpConnection) : ℕ :=
  match c.replyList with
  | [] => 0
  | reply :: replies => (reply.size - c.curRespPos) + 1 + (replies.map fun s ↦ s.size + 1).sum

/-- A round that sends something, or takes a reply off the queue, leaves less. -/
theorem unsent_lt {t t' : Writing} (hagain : t.conn.replyList ≠ [] → results t.writes ≠ .again)
    (h : writeRound past results t = .inr t') : t'.conn.unsent < t.conn.unsent := by
  rcases writeRound_cases past results t with ⟨-, hround⟩ | ⟨reply, replies, hcons, h' | h'⟩
  · cases hround.symm.trans h
  · cases h'.2.symm.trans h
  · obtain ⟨n, hn, hround⟩ := h'
    cases hround.symm.trans h
    dsimp only
    rw [TcpConnection.unsent, TcpConnection.unsent, hcons]
    split_ifs with hdone
    · rcases replies with _ | ⟨reply', replies⟩
      · exact Nat.succ_pos _
      · dsimp only
        rw [List.map_cons, List.sum_cons]
        omega
    · have hpos : 0 < n := sockWriteData_pos (by omega) (hagain (by rw [hcons]; simp)) hn
      dsimp only
      omega

/-- **A call yields on `EAGAIN`** only if it does not meet it; then it ends. -/
theorem yieldsOnAgain_iff (past : ℕ → UInt8) (results : ℕ → WriteResult) (c : TcpConnection) :
    YieldsOnAgain past results { conn := c } ↔ MeetsNoAgain past results { conn := c } := by
  constructor
  · intro h t ht hne hagain
    exact hne (replyList_of_exits (h.stops t ht hne hagain) rfl)
  · intro h
    refine ⟨fun t ht hne hagain ↦ absurd hagain (h t ht hne), ?_⟩
    exact exists_exits_of_measure (fun t ↦ t.conn.unsent) _ fun t t' ht ↦ unsent_lt (h t ht)

/-- One reply, and a peer that reads nothing. -/
theorem not_yieldsOnAgain : ¬∀ (past : ℕ → UInt8) (results : ℕ → WriteResult) (c : TcpConnection),
    YieldsOnAgain past results { conn := c } := by
  intro h
  let c : TcpConnection := { fd := 7, accept := 0, replyList := [⟨[1, 2, 3], 3⟩] }
  refine (yieldsOnAgain_iff (fun _ ↦ 0) (fun _ ↦ .again) c).mp (h _ _ _) _ (visits_self _ _) ?_ rfl
  exact List.cons_ne_nil _ _

/-! ## The bytes that are sent

The invariant is an equation between byte strings, and a round moves a prefix of the first reply
from one side to the other. Nothing else has to be known of a round. -/

/-- The offset lies in the first reply. -/
def TcpConnection.PosOk (c : TcpConnection) : Prop :=
  c.curRespPos = 0 ∨ ∃ reply replies, c.replyList = reply :: replies ∧ c.curRespPos < reply.size

/-- What is left of the queue. -/
def TcpConnection.rest (past : ℕ → UInt8) (c : TcpConnection) : ByteString :=
  (c.replyList.flatMap (Slice.bytes past)).drop c.curRespPos

theorem TcpConnection.PosOk.le {c : TcpConnection} {reply : Slice} {replies : List Slice}
    (h : c.PosOk) (hcons : c.replyList = reply :: replies) : c.curRespPos ≤ reply.size := by
  rcases h with hzero | ⟨reply', replies', hcons', hlt⟩
  · rw [hzero]
    exact Nat.zero_le _
  · cases hcons.symm.trans hcons'
    exact hlt.le

theorem TcpConnection.PosOk.le_length {c : TcpConnection} (h : c.PosOk) (past : ℕ → UInt8) :
    c.curRespPos ≤ (c.replyList.flatMap (Slice.bytes past)).length := by
  rcases hcons : c.replyList with _ | ⟨reply, replies⟩
  · rcases h with hzero | ⟨reply, replies, hcons', -⟩
    · exact hzero.le
    · cases hcons.symm.trans hcons'
  · rw [List.flatMap_cons, List.length_append, Slice.length_bytes]
    exact Nat.le_add_right_of_le (h.le hcons)

theorem TcpConnection.rest_cons {c : TcpConnection} {reply : Slice} {replies : List Slice}
    (past : ℕ → UInt8) (h : c.PosOk) (hcons : c.replyList = reply :: replies) :
    c.rest past = (reply.bytes past).drop c.curRespPos ++ replies.flatMap (Slice.bytes past) := by
  rw [rest, hcons, List.flatMap_cons, List.drop_append_of_le_length]
  rw [Slice.length_bytes]
  exact h.le hcons

/-- The bytes sent and the bytes left are `all`. -/
structure Accounts (past : ℕ → UInt8) (all : ByteString) (c : TcpConnection) (sent : ByteString) :
    Prop where
  pos : c.PosOk
  sum : sent ++ c.rest past = all

variable {all : ByteString}

/-- **One round** moves bytes from what is left to what was sent. -/
theorem Accounts.round (h : Accounts past all w.conn w.sent)
    (hround : writeRound past results w = .inr w') : Accounts past all w'.conn w'.sent := by
  rcases writeRound_cases past results w with ⟨-, h'⟩ | ⟨reply, replies, hcons, h' | h'⟩
  · cases h'.symm.trans hround
  · cases h'.2.symm.trans hround
  · obtain ⟨n, hn, h'⟩ := h'
    cases h'.symm.trans hround
    have hsum := h.sum
    have hle := h.pos.le hcons
    have hoffered := sockWriteData_le hn
    rw [TcpConnection.rest_cons past h.pos hcons] at hsum
    dsimp only
    split_ifs with hdone
    · refine ⟨.inl rfl, ?_⟩
      rw [List.take_of_length_le (by rw [List.length_drop, Slice.length_bytes]; omega)]
      rw [← hsum, TcpConnection.rest, List.drop_zero, List.append_assoc]
    · have hpos : TcpConnection.PosOk
          { w.conn with curRespPos := w.conn.curRespPos + n } := by
        refine .inr ⟨reply, replies, hcons, ?_⟩
        rw [Nat.add_comm]
        exact not_le.mp hdone
      refine ⟨hpos, ?_⟩
      rw [TcpConnection.rest_cons past hpos hcons, ← hsum, List.append_assoc, ← List.append_assoc
        (List.take _ _), ← List.drop_drop, List.take_append_drop]

theorem Accounts.visits (h : Accounts past all w.conn w.sent)
    (hv : Visits (writeRound past results) w w') : Accounts past all w'.conn w'.sent :=
  hv.induct_inv (I := fun t ↦ Accounts past all t.conn t.sent) h fun _ _ ht hround ↦
    ht.round hround

theorem Accounts.exits {r : Writing × Bool} (h : Accounts past all w.conn w.sent)
    (hr : Exits (writeRound past results) w r) : Accounts past all r.1.conn r.1.sent := by
  obtain ⟨t, ht, hl⟩ := hr.induct_inv (I := fun t ↦ Accounts past all t.conn t.sent) h
    fun _ _ ht hround ↦ ht.round hround
  rcases writeRound_cases past results t with ⟨-, h'⟩ | ⟨reply, replies, -, h' | h'⟩
  · cases h'.symm.trans hl
    exact ht
  · cases h'.2.symm.trans hl
    exact ht
  · obtain ⟨n, -, h'⟩ := h'
    cases h'.symm.trans hl

/-! ## A connection with its watcher

Over many calls the connection is asked to write by its watcher, which is there as long as the queue
is not empty. Replies may be added between any two calls. -/

/-- An open connection, with what has been sent on it and the replies that were added. -/
structure ReplyStream where
  conn : TcpConnection
  watcher : IoWatcher
  sent : ByteString := []
  added : List Slice := []
deriving DecidableEq

namespace ReplyStream

open IoMask

/-- As `_new_conn` makes it. -/
def new (fd accept now : ℕ) : ReplyStream where
  conn := { fd, accept, lastInteraction := now }
  watcher := IoWatcher.start {} ioRead

/-- `_add_reply`. -/
def addReply (s : ReplyStream) (reply : Slice) : ReplyStream :=
  { s with
    conn := { s.conn with replyList := s.conn.replyList ++ [reply] }
    watcher := s.watcher.start ioWrite
    added := s.added ++ [reply] }

/-- The start of the loop of `_write_reply`. -/
def writing (s : ReplyStream) : Writing := { conn := s.conn, sent := s.sent }

/-- `_write_reply` after its loop. -/
def finishWrite (s : ReplyStream) (w : Writing) (now : ℕ) : ReplyStream :=
  { s with
    conn := { w.conn with lastInteraction := now }
    watcher := if w.conn.replyList = [] then s.watcher.stop ioWrite else s.watcher
    sent := w.sent }

/-- A call that leaves the connection open. For the descriptor 0 `_write_reply` does nothing. -/
inductive Step (past : ℕ → UInt8) : ReplyStream → ReplyStream → Prop
  | addReply (s : ReplyStream) (reply : Slice) : Step past s (s.addReply reply)
  | ignored {s : ReplyStream} (hfd : s.conn.fd = 0) : Step past s s
  | writeReply {s : ReplyStream} {results : ℕ → WriteResult} {w : Writing} (now : ℕ)
      (hfd : s.conn.fd ≠ 0) (hexit : Exits (writeRound past results) s.writing (w, false)) :
      Step past s (s.finishWrite w now)

/-- The replies that were added, in this order. -/
def allBytes (past : ℕ → UInt8) (s : ReplyStream) : ByteString := s.added.flatMap (Slice.bytes past)

/-- What holds between two calls. -/
structure Inv (past : ℕ → UInt8) (s : ReplyStream) : Prop where
  accounts : Accounts past (s.allBytes past) s.conn s.sent
  write : s.watcher.interest.write = true ↔ s.conn.replyList ≠ []
  read : s.watcher.interest.read = true

variable {s s' : ReplyStream}

theorem inv_new (past : ℕ → UInt8) (fd accept now : ℕ) : Inv past (new fd accept now) := by
  refine ⟨⟨.inl rfl, rfl⟩, ?_, rfl⟩
  exact iff_of_false Bool.false_ne_true fun hne ↦ absurd rfl hne

theorem Inv.addReply (h : Inv past s) (reply : Slice) : Inv past (s.addReply reply) := by
  have hinterest : (s.watcher.start ioWrite).interest = s.watcher.interest.union ioWrite :=
    s.watcher.interest_start ioWrite
  refine ⟨⟨?_, ?_⟩, ?_, ?_⟩
  · rcases h.accounts.pos with hzero | ⟨first, replies, hcons, hlt⟩
    · exact .inl hzero
    · exact .inr ⟨first, replies ++ [reply], congrArg (· ++ [reply]) hcons, hlt⟩
  · have hsum := h.accounts.sum
    have hrest : (s.addReply reply).conn.rest past = s.conn.rest past ++ reply.bytes past := by
      rw [TcpConnection.rest, TcpConnection.rest, ← List.drop_append_of_le_length
        (h.accounts.pos.le_length past), ReplyStream.addReply]
      dsimp only
      rw [List.flatMap_append, List.flatMap_singleton]
    have hadded : (s.addReply reply).allBytes past = s.allBytes past ++ reply.bytes past := by
      rw [allBytes, allBytes, ReplyStream.addReply]
      dsimp only
      rw [List.flatMap_append, List.flatMap_singleton]
    rw [hrest, hadded, ← hsum, List.append_assoc]
    rfl
  · rw [ReplyStream.addReply, hinterest]
    exact iff_of_true (Bool.or_true _) (by simp)
  · rw [ReplyStream.addReply, hinterest, IoMask.union, h.read]
    rfl

theorem Inv.finishWrite (h : Inv past s) (now : ℕ)
    (hexit : Exits (writeRound past results) s.writing (w, false)) :
    Inv past (s.finishWrite w now) := by
  have haccounts := Accounts.exits (w := s.writing) h.accounts hexit
  have hnil : w.conn.replyList = [] := replyList_of_exits hexit rfl
  have hactive : s.watcher.active = true :=
    s.watcher.active_of_interest fun hnone ↦ by cases hnone ▸ h.read
  have hinterest := s.watcher.interest_stop ioWrite hactive
  refine ⟨⟨haccounts.pos, haccounts.sum⟩, ?_, ?_⟩
  · rw [ReplyStream.finishWrite, if_pos hnil, hinterest]
    exact iff_of_false (by simp [IoMask.diff, ioWrite]) fun hne ↦ hne hnil
  · rw [ReplyStream.finishWrite, if_pos hnil, hinterest, IoMask.diff, h.read]
    rfl

theorem Inv.step (h : Inv past s) (hstep : Step past s s') : Inv past s' := by
  cases hstep with
  | addReply reply => exact h.addReply reply
  | ignored _ => exact h
  | writeReply now _ hexit => exact h.finishWrite now hexit

/-- What the replies of a connection come to: at any time what was sent is the beginning of the
replies that were added, also inside of a call; the offset is below the size of the first reply or
zero; and the loop waits for READ, and for WRITE exactly if there are replies. -/
structure InOrder (past : ℕ → UInt8) (s : ReplyStream) : Prop where
  sent : s.sent <+: s.allBytes past
  pos : s.conn.PosOk
  write : s.watcher.interest.write = true ↔ s.conn.replyList ≠ []
  read : s.watcher.interest.read = true
  during : ∀ results w, Visits (writeRound past results) s.writing w →
    w.sent <+: s.allBytes past ∧ w.conn.PosOk

/-- **Replies are sent in order.** -/
theorem inOrder (past : ℕ → UInt8) (fd accept now : ℕ) (s : ReplyStream)
    (h : Relation.ReflTransGen (Step past) (new fd accept now) s) : InOrder past s := by
  have hinv : Inv past s := by
    induction h with
    | refl => exact inv_new past fd accept now
    | tail _ hstep ih => exact ih.step hstep
  refine ⟨⟨_, hinv.accounts.sum⟩, hinv.accounts.pos, hinv.write, hinv.read, fun results w hv ↦ ?_⟩
  have hw := Accounts.visits (w := s.writing) hinv.accounts hv
  exact ⟨⟨_, hw.sum⟩, hw.pos⟩

/-- A connection with a reply of four bytes. -/
def oneReply : ReplyStream := (new 7 0 0).addReply ⟨[1, 2, 3, 4], 4⟩

/-- The reply is sent in two pieces. -/
theorem inOrder_oneReply : InOrder (fun _ ↦ 0) (oneReply.finishWrite
    { conn := { oneReply.conn with replyList := [] }, writes := 2, sent := [1, 2, 3, 4] } 1) := by
  have hexit : Exits (writeRound (fun _ ↦ 0) fun _ ↦ .written 1) oneReply.writing
      ({ conn := { oneReply.conn with replyList := [] }, writes := 2, sent := [1, 2, 3, 4] },
        false) := exits_of_rounds (n := 3) (by decide)
  exact inOrder (fun _ ↦ 0) 7 0 0 _
    (.tail (.single (.addReply _ _)) (.writeReply 1 (by decide) hexit))

end ReplyStream

end XrtcServer
