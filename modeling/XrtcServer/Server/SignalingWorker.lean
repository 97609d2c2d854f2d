import Mathlib.Logic.Function.Basic
import XrtcServer.Lib.WhileLoop
import XrtcServer.Server.TcpConnection

/-!
# The signaling worker

`SignalingWorker` (`server/signaling_worker.cpp`) owns the connections it accepted. Requests to
publish or to play a stream are answered later: the worker hands an `RtcMsg` with the address and
the descriptor of the connection to the RTC side, and when the message comes back it builds the
reply from it.

## Addresses and descriptors

Addresses are numbers, and `heap` says which `TcpConnection` lives at an address now. The allocator
may hand out an address again once the object is gone, and the system may do the same with a
descriptor; `Step` leaves both free. `accept` numbers the connections, so that two connections with
the same address and descriptor can be told apart; the program does not see it.

The JSON library, the allocator and the pipe to the RTC side are parameters.
-/

namespace XrtcServer

open ByteString WhileLoop

def cmdnoPush : ℤ := 1
def cmdnoPull : ℤ := 2
def cmdnoAnswer : ℤ := 3
def cmdnoStopPush : ℤ := 4
def cmdnoStopPull : ℤ := 5
def maxResBuf : ℕ := 4096

structure RtcMsg where
  cmdno : ℤ := -1
  uid : ℕ := 0
  streamName : ByteString := []
  streamType : ByteString := []
  audio : ℤ := 0
  video : ℤ := 0
  logId : ℕ := 0
  /-- The address of the connection, `none` for the null pointer. -/
  conn : Option ℕ := none
  fd : ℕ := 0
  sdp : ByteString := []
  errNo : ℤ := 0
  /-- The accept of the connection that sent the request. -/
  accept : ℕ := 0
deriving DecidableEq

/-- The fields of a request body as the worker reads them; `none` is a `Json::Exception`. -/
structure RequestJson where
  cmdno : Option ℤ := none
  uid : Option ℕ := none
  streamName : Option ByteString := none
  audio : Option ℤ := none
  video : Option ℤ := none
  answer : Option ByteString := none
  type : Option ByteString := none

structure ResponseJson where
  errNo : ℤ
  errMsg : ByteString
  offer : Option ByteString := none
deriving DecidableEq

structure WorkerEnv where
  /-- The JSON reader; `none` when it reports an error. -/
  parse : ByteString → Option RequestJson
  /-- `Json::writeString`. -/
  writeString : ResponseJson → ByteString
  /-- What the `n`-th call of `g_rtc_server->send_rtc_msg` returns. -/
  sendRtcMsg : ℕ → ℤ
  /-- What `zmalloc` leaves in a new block; `none` is the null pointer. -/
  zmalloc : Option (ℕ → UInt8)
  /-- What lies in memory where a buffer is shorter than a header. -/
  past : ℕ → UInt8

/-! ## Building a reply -/

/-- `memcpy` into a block. -/
def store (block : ByteString) (offset : ℕ) (bytes : ByteString) : ByteString :=
  block.take offset ++ bytes ++ block.drop (offset + bytes.length)

/-- What `snprintf(_, n, "%s", s.c_str())` writes. -/
def snprintf (n : ℕ) (s : ByteString) : ByteString := (s.takeWhile (· ≠ 0)).take (n - 1) ++ [0]

/-- The end of `_process_request` and of `_response_server_offer`: a block of fixed size, with a
copy of the request's header and the text. -/
def buildReply (env : WorkerEnv) (header : ByteString) (root : ResponseJson) : Option Slice :=
  env.zmalloc.map fun fresh ↦
    let json := env.writeString root
    let buf := (List.range (xheadSize + maxResBuf)).map fresh
    let buf := store buf 0 header
    let buf := store buf 32 (putLE32 json.length)
    let buf := store buf xheadSize (snprintf maxResBuf json)
    { block := buf, size := (xheadSize + XHead.bodyLen buf) % 2 ^ 32 }

/-! ## The worker -/

structure Worker where
  /-- `_conns`. -/
  conns : List (Option ℕ) := []
  heap : ℕ → Option TcpConnection := fun _ ↦ none
  connectionTimeout : ℕ
  /-- The messages the RTC side has not answered. -/
  rtcMsgs : List RtcMsg := []
  /-- How many messages were sent to the RTC side. -/
  sent : ℕ := 0
  /-- How many connections were accepted. -/
  accepts : ℕ := 0
  /-- The replies of `_response_server_offer`: the accept that sent the request, and the accept of
  the connection the reply was queued on. -/
  queued : List (ℕ × ℕ) := []

namespace Worker

/-- `_conns[fd]`, where an index out of range counts as null. -/
def getConn (w : Worker) (fd : ℕ) : Option ℕ := w.conns[fd]?.join

/-- An assignment to fields of the connection at `p`. -/
def modifyConn (w : Worker) (p : ℕ) (f : TcpConnection → TcpConnection) : Worker :=
  { w with heap := Function.update w.heap p ((w.heap p).map f) }

def addReply (w : Worker) (p : ℕ) (reply : Slice) : Worker :=
  w.modifyConn p fun c ↦ { c with replyList := c.replyList ++ [reply] }

/-- `_close_conn`. -/
def closeConn (w : Worker) (p : ℕ) : Worker :=
  match w.heap p with
  | none => w
  | some c =>
    { w with conns := w.conns.set c.fd none, heap := Function.update w.heap p none }

/-- `_conns.resize(n, nullptr)`. A negative number is refused, as a `size_t` it is too large. -/
def resizeConns (conns : List (Option ℕ)) (n : ℤ) : Option (List (Option ℕ)) :=
  if 0 ≤ n then some (conns.take n.toNat ++ List.replicate (n.toNat - conns.length) none) else none

/-- `_new_conn`, for a connection the allocator puts at `p`. On an empty table the descriptor 0
leaves the table empty, and the last assignment is out of range. From `2^30` on `fd * 2` is no
`int`; what comes out is negative, and the last assignment is not reached. -/
def newConn (w : Worker) (fd p now : ℕ) : Worker :=
  let conns :=
    if w.conns.length ≤ fd then (resizeConns w.conns (toInt32 (fd * 2))).getD w.conns
    else w.conns
  { w with
    conns := conns.set fd (some p)
    heap := Function.update w.heap p
      (some { fd, lastInteraction := now, accept := w.accepts })
    accepts := w.accepts + 1 }

variable (env : WorkerEnv)

/-! ### Requests -/

def sendRtcMsg (w : Worker) (msg : RtcMsg) : Worker × ℤ :=
  ({ w with rtcMsgs := w.rtcMsgs ++ [msg], sent := w.sent + 1 }, env.sendRtcMsg w.sent)

/-- `_process_push` and `_process_pull` are the same text. -/
def processOffer (w : Worker) (cmdno : ℤ) (p : ℕ) (c : TcpConnection) (root : RequestJson)
    (logId : ℕ) : Worker × ℤ :=
  match root.uid, root.streamName, root.audio, root.video with
  | some uid, some streamName, some audio, some video =>
    w.sendRtcMsg env { cmdno, uid, streamName, audio, video, logId, conn := some p, fd := c.fd,
                       accept := c.accept }
  | _, _, _, _ => (w, -1)

def processPush (w : Worker) (p : ℕ) (c : TcpConnection) (root : RequestJson) (logId : ℕ) :
    Worker × ℤ := w.processOffer env cmdnoPush p c root logId

def processPull (w : Worker) (p : ℕ) (c : TcpConnection) (root : RequestJson) (logId : ℕ) :
    Worker × ℤ := w.processOffer env cmdnoPull p c root logId

/-- `_process_stop_push` and `_process_stop_pull` are the same text. -/
def processStop (w : Worker) (cmdno : ℤ) (root : RequestJson) (logId : ℕ) : Worker × ℤ :=
  match root.uid, root.streamName with
  | some uid, some streamName => w.sendRtcMsg env { cmdno, uid, streamName, logId }
  | _, _ => (w, -1)

def processStopPush (w : Worker) (root : RequestJson) (logId : ℕ) : Worker × ℤ :=
  w.processStop env cmdnoStopPush root logId

def processStopPull (w : Worker) (root : RequestJson) (logId : ℕ) : Worker × ℤ :=
  w.processStop env cmdnoStopPull root logId

def processAnswer (w : Worker) (root : RequestJson) (logId : ℕ) : Worker × ℤ :=
  match root.uid, root.streamName, root.answer, root.type with
  | some uid, some streamName, some answer, some type =>
    w.sendRtcMsg env { cmdno := cmdnoAnswer, uid, streamName, sdp := answer, streamType := type,
                       logId }
  | _, _, _, _ => (w, -1)

/-- The requests that are answered at once. -/
def processCommand (w : Worker) (cmdno : ℤ) (root : RequestJson) (logId : ℕ) : Worker × ℤ :=
  if cmdno = cmdnoStopPush then w.processStopPush env root logId
  else if cmdno = cmdnoStopPull then w.processStopPull env root logId
  else if cmdno = cmdnoAnswer then w.processAnswer env root logId
  else (w, -1)

/-- `_process_request` on the connection at `p`, which is alive. A null block of `zmalloc` is not
checked for here; the model queues nothing then. -/
def processRequest (p : ℕ) (w : Worker) (header body : ByteString) : Worker × ℤ :=
  match w.heap p, env.parse body with
  | some c, some root =>
    match root.cmdno with
    | none => (w, -1)
    | some cmdno =>
      let logId := XHead.logId header
      if cmdno = cmdnoPush then w.processPush env p c root logId
      else if cmdno = cmdnoPull then w.processPull env p c root logId
      else
        let (w, ret) := w.processCommand env cmdno root logId
        let root : ResponseJson :=
          if ret = 0 then { errNo := 0, errMsg := lit "success" }
          else { errNo := -1, errMsg := lit "process error" }
        match buildReply env header root with
        | none => (w, 0)
        | some reply => (w.addReply p reply, 0)
  | _, _ => (w, -1)

/-- The end of `_read_query`, after the loop over the buffer. -/
def finishRead (w : Worker) (p : ℕ) (ret : ℤ) (q : QueryBuffer) : Worker :=
  if ret ≠ 0 then w.closeConn p else w.modifyConn p fun c ↦ { c with query := q }

/-! ### Replies -/

/-- `rtc::Slice header(c->querybuf, XHEAD_SIZE)`. -/
def headerOf (c : TcpConnection) : ByteString :=
  (List.range xheadSize).map fun i ↦ c.query.querybuf.getD i (env.past i)

def offerResponse (msg : RtcMsg) : ResponseJson :=
  if msg.errNo ≠ 0 then
    { errNo := msg.errNo, errMsg := lit "process error", offer := some [] }
  else { errNo := msg.errNo, errMsg := lit "success", offer := some msg.sdp }

/-- `_response_server_offer`. -/
def responseServerOffer (w : Worker) (msg : RtcMsg) : Worker :=
  match msg.conn with
  | none => w
  | some p =>
    if w.getConn msg.fd ≠ some p then w
    else
      match w.heap p with
      | none => w
      | some c =>
        match buildReply env (headerOf env c) (offerResponse msg) with
        | none => w
        | some reply =>
          { w.addReply p reply with queued := w.queued ++ [(msg.accept, c.accept)] }

/-- `_process_rtc_msg` on a message that came back. -/
def processRtcMsg (w : Worker) (msg : RtcMsg) : Worker :=
  if msg.cmdno = cmdnoPull ∨ msg.cmdno = cmdnoPush then w.responseServerOffer env msg else w

/-- The loop of `_write_reply` on the results of its `write` calls, `none` for an error: the
connection it leaves, and whether it closes it. The loop has not ended when the results run out. -/
def writeLoop (c : TcpConnection) : List (Option ℕ) → Option (TcpConnection × Bool)
  | [] => if c.replyList = [] then some (c, false) else none
  | result :: results =>
    match c.replyList, result with
    | [], _ => some (c, false)
    | _ :: _, none => some (c, true)
    | reply :: replies, some nwritten =>
      if reply.size ≤ nwritten + c.curRespPos then
        writeLoop { c with replyList := replies, curRespPos := 0 } results
      else writeLoop { c with curRespPos := c.curRespPos + nwritten } results

/-- `_write_reply`; `none` when the results do not end the loop. -/
def writeReply (w : Worker) (fd : ℕ) (results : List (Option ℕ)) (now : ℕ) : Option Worker :=
  if fd = 0 then some w
  else
    match w.getConn fd with
    | none => some w
    | some p =>
      match w.heap p with
      | none => some w
      | some c =>
        (writeLoop c results).map fun (c', closed) ↦
          let w := w.modifyConn p fun _ ↦ { c' with lastInteraction := now }
          if closed then w.closeConn p else w

/-- `_process_timeout`; the difference is unsigned. -/
def processTimeout (w : Worker) (p now : ℕ) : Worker :=
  match w.heap p with
  | none => w
  | some c =>
    if w.connectionTimeout ≤ (now + 2 ^ 64 - c.lastInteraction) % 2 ^ 64 then w.closeConn p else w

end Worker

/-! ## What a message that comes back can do -/

/-- The checks of `_response_server_offer` pass: the table still has the message's connection. -/
def Worker.Answers (env : WorkerEnv) (w : Worker) (msg : RtcMsg) : Prop :=
  ∃ p c, msg.conn = some p ∧ w.getConn msg.fd = some p ∧ w.heap p = some c ∧ env.zmalloc ≠ none

theorem buildReply_eq_none {env : WorkerEnv} {header : ByteString} {root : ResponseJson} :
    buildReply env header root = none ↔ env.zmalloc = none := by
  rw [buildReply, Option.map_eq_none_iff]

@[simp] theorem length_headerOf (env : WorkerEnv) (c : TcpConnection) :
    (Worker.headerOf env c).length = xheadSize := by
  rw [Worker.headerOf, List.length_map, List.length_range]

theorem Worker.responseServerOffer_cases (env : WorkerEnv) (w : Worker) (msg : RtcMsg) :
    (¬w.Answers env msg ∧ w.responseServerOffer env msg = w) ∨
      ∃ p c reply, msg.conn = some p ∧ w.getConn msg.fd = some p ∧ w.heap p = some c ∧
        buildReply env (headerOf env c) (offerResponse msg) = some reply ∧
        w.responseServerOffer env msg =
          { w.addReply p reply with queued := w.queued ++ [(msg.accept, c.accept)] } := by
  rw [responseServerOffer]
  rcases hp : msg.conn with _ | p
  · refine .inl ⟨?_, rfl⟩
    rintro ⟨p, c, hp', -⟩
    simp [hp] at hp'
  dsimp only
  by_cases hconn : w.getConn msg.fd = some p
  swap
  · refine .inl ⟨?_, if_pos hconn⟩
    rintro ⟨p', c, hp', hconn', -⟩
    rw [hp] at hp'
    exact hconn (hconn'.trans hp'.symm)
  rw [if_neg (not_not.mpr hconn)]
  rcases hc : w.heap p with _ | c
  · refine .inl ⟨?_, rfl⟩
    rintro ⟨p', c, hp', -, hc', -⟩
    rw [hp] at hp'
    rw [← Option.some.inj hp', hc] at hc'
    cases hc'
  dsimp only
  rcases hr : buildReply env (headerOf env c) (offerResponse msg) with _ | reply
  · refine .inl ⟨?_, rfl⟩
    rintro ⟨-, -, -, -, -, hz⟩
    exact hz (buildReply_eq_none.mp hr)
  · exact .inr ⟨p, c, reply, rfl, hconn, hc, hr, rfl⟩

/-! ## Steps -/

inductive WorkerEvent
  /-- A connection is accepted on `fd`, and the allocator puts its object at `p`. -/
  | newConn (fd p now : ℕ)
  /-- A READ event; `none` is a failed read. -/
  | read (fd : ℕ) (chunk : Option ByteString) (now : ℕ)
  /-- A WRITE event. -/
  | write (fd : ℕ) (results : List (Option ℕ)) (now : ℕ)
  /-- The timer of the connection at `p`. -/
  | timeout (p now : ℕ)
  /-- The RTC side answers the `i`-th message it has. -/
  | rtcMsg (i : ℕ) (errNo : ℤ) (sdp : ByteString)

open Worker in
/-- One event handler of the worker. A descriptor that is accepted is not open, and an object is
put where none lives. A read brings at most as many bytes as were asked for. -/
inductive WorkerStep (env : WorkerEnv) : Worker → WorkerEvent → Worker → Prop
  | newConn {w : Worker} {fd p now : ℕ} (hfd : ∀ p' c, w.heap p' = some c → c.fd ≠ fd)
      (hp : w.heap p = none) : WorkerStep env w (.newConn fd p now) (w.newConn fd p now)
  | readError {w : Worker} {fd p now : ℕ} (hconn : w.getConn fd = some p) :
      WorkerStep env w (.read fd none now) (w.closeConn p)
  | read {w w' : Worker} {fd p now : ℕ} {c : TcpConnection} {chunk : ByteString} {ret : ℤ}
      {q : QueryBuffer} (hconn : w.getConn fd = some p) (hc : w.heap p = some c)
      (hlen : chunk.length ≤ c.query.bytesExpected) (hint : c.query.querybuf.length < 2 ^ 31)
      (hexit : Exits (queryRound (processRequest env p))
        (c.query.append chunk, w.modifyConn p fun c ↦ { c with lastInteraction := now })
        (ret, q, w')) :
      WorkerStep env w (.read fd (some chunk) now) (w'.finishRead p ret q)
  | write {w w' : Worker} {fd now : ℕ} {results : List (Option ℕ)}
      (h : w.writeReply fd results now = some w') :
      WorkerStep env w (.write fd results now) w'
  | timeout {w : Worker} {p now : ℕ} : WorkerStep env w (.timeout p now) (w.processTimeout p now)
  | rtcMsg {w : Worker} {i : ℕ} {errNo : ℤ} {sdp : ByteString} {msg : RtcMsg}
      (hmsg : w.rtcMsgs[i]? = some msg) :
      WorkerStep env w (.rtcMsg i errNo sdp)
        ({ w with rtcMsgs := w.rtcMsgs.eraseIdx i }.processRtcMsg env { msg with errNo, sdp })

end XrtcServer
