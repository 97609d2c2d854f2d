import XrtcServer.Lib.Arena
import XrtcServer.Lib.EventRun
import XrtcServer.Lib.Mailbox
import XrtcServer.Pc.SessionDescription
import XrtcServer.Server.SignalingWorker

/-!
# The RTC side and its threads

Every request that is not answered at once goes through three queues. A `SignalingWorker` makes an
`RtcMsg` and hands it to the `RtcServer` (`server/rtc_server.cpp`), whose thread enters its
certificate and passes it on to one of the `RtcWorker`s (`server/rtc_worker.cpp`), chosen by the
stream's name. The worker carries the command out on its streams and sends an offer back to the
signaling worker. Each thread has a queue of messages and a pipe, and wakes up when a notification
arrives there.

## Threads

The threads interleave in any way: an event of `step` is one action of one thread, from one access
to shared data to the next, and the program counter of a thread says where it is in its handler. A
message is an object that several threads hold a `shared_ptr` to; the queues hold its number, and
`push_msg` of the server numbers the messages in the order in which they come.

## What is shared

The certificate is shared without a count: `_certificate` of the server is the only `scoped_refptr`,
and everything else is a raw pointer. Assigning to it destroys the certificate it held. What the
streams of a worker do is a parameter, `StreamHandlers`, and they find the certificates in memory.
`QUIT`, which ends a thread, is left out.
-/

namespace XrtcServer

open ByteString EventRun

/-! ## Messages and certificates -/

/-- What is written into the pipes. -/
inductive Notification
  | newConn
  | rtcMsg
deriving DecidableEq

/-- An `RtcMsg` with the pointers that only the queues use. -/
structure QueuedMsg extends RtcMsg where
  /-- The signaling worker to answer to. -/
  worker : Option ℕ := none
  certificate : Option ℕ := none
  /-- The signaling worker that made the message, which is not a field of the class. -/
  sender : ℕ := 0

/-- `CMDNO_PUSH` and `CMDNO_PULL`, the commands that are answered with an offer. -/
def RtcMsg.isOffer (msg : RtcMsg) : Bool := msg.cmdno = cmdnoPush ∨ msg.cmdno = cmdnoPull

/-- The commands for which `_process_request` makes a message. -/
def RtcMsg.isCommand (msg : RtcMsg) : Bool :=
  msg.isOffer ∨ msg.cmdno = cmdnoStopPush ∨ msg.cmdno = cmdnoStopPull ∨ msg.cmdno = cmdnoAnswer

/-- An `rtc::RTCCertificate` in memory. -/
structure Certificate extends RTCCertificate where
  /-- `HasExpired`, by the time in milliseconds. -/
  hasExpired : ℕ → Bool

def kYearInMs : ℕ := 365 * 24 * 3600 * 1000

/-! ## The streams of a worker -/

/-- The calls a worker makes on its `RtcStreamManager`, whose state is a `σ`. An `ι` is what such a
call draws from outside; an `ε` is an event of the worker's loop that is no message. -/
structure StreamHandlers (σ ι ε : Type) where
  /-- The offer and the return value. -/
  createPushStream : Arena Certificate → ι → σ → QueuedMsg → σ × ByteString × ℤ
  createPullStream : Arena Certificate → ι → σ → QueuedMsg → σ × ByteString × ℤ
  stopPush : σ → QueuedMsg → σ
  stopPull : σ → QueuedMsg → σ
  setAnswer : ι → σ → QueuedMsg → σ
  onEvent : Arena Certificate → σ → ε → σ

variable {σ ι ε : Type}

/-- The switch of `RtcWorker::_process_rtc_msg`; for an offer also what goes into the answer. -/
def StreamHandlers.processRtcMsg (h : StreamHandlers σ ι ε) (certificates : Arena Certificate)
    (x : ι) (streams : σ) (msg : QueuedMsg) : σ × Option (ByteString × ℤ) :=
  if msg.cmdno = cmdnoPush then
    let (streams, answer) := h.createPushStream certificates x streams msg
    (streams, some answer)
  else if msg.cmdno = cmdnoPull then
    let (streams, answer) := h.createPullStream certificates x streams msg
    (streams, some answer)
  else if msg.cmdno = cmdnoStopPush then (h.stopPush streams msg, none)
  else if msg.cmdno = cmdnoStopPull then (h.stopPull streams msg, none)
  else if msg.cmdno = cmdnoAnswer then (h.setAnswer x streams msg, none)
  else (streams, none)

/-- `msg->sdp = offer`, and the error number. -/
def QueuedMsg.answer (msg : QueuedMsg) (offer : ByteString) (ret : ℤ) : QueuedMsg :=
  { msg with sdp := offer, errNo := if ret ≠ 0 then -1 else msg.errNo }

/-- The configuration of the server, and the functions that are not part of the repository. -/
structure RtcServerConfig where
  /-- `_options.worker_num`. -/
  workerNum : ℕ
  /-- The size of `_workers`. -/
  workers : ℕ
  /-- `rtc::ComputeCrc32`. -/
  computeCrc32 : ByteString → UInt32
  /-- What the `n`-th call of `GenerateCertificate` returns, by the lifetime and the time. -/
  generateCertificate : ℕ → ℕ → ℕ → Option Certificate

structure RtcServerEnv (σ ι ε : Type) extends RtcServerConfig where
  handlers : StreamHandlers σ ι ε

/-- The index that `_get_worker` computes. -/
def RtcServerEnv.workerIndex (env : RtcServerEnv σ ι ε) (streamName : ByteString) : ℕ :=
  (env.computeCrc32 streamName).toNat % env.workerNum

def RtcServerEnv.getWorker (env : RtcServerEnv σ ι ε) (streamName : ByteString) : Option ℕ :=
  if env.workers = 0 ∨ env.workers ≠ env.workerNum then none
  else some (env.workerIndex streamName)

/-! ## The threads

Each thread has a program counter of its own type, with what it holds between two accesses to shared
data. A message that a thread has popped is in no queue; it is in the program counter. -/

/-- The queue of messages and the pipe of a thread. -/
abbrev Inbox := Mailbox Notification ℕ

inductive ServerPc
  | idle
  /-- A notification was read. -/
  | notified (k : Notification)
  /-- `_process_rtc_msg` has a message. -/
  | popped (m : ℕ)
  /-- The certificate was entered. -/
  | certified (m : ℕ)
  /-- `send_rtc_msg` of the worker `w`: the message is in the queue, the pipe comes next. -/
  | pushed (w m : ℕ)
deriving DecidableEq

inductive RtcWorkerPc
  | idle
  | notified (k : Notification)
  | popped (m : ℕ)
  /-- The offer was made, the answer comes next. -/
  | processed (m : ℕ)
  /-- `send_rtc_msg` of the signaling worker `i`. -/
  | pushed (i m : ℕ)
deriving DecidableEq

inductive SignalingPc
  | idle
  /-- `send_rtc_msg` of the server. -/
  | pushed (m : ℕ)
  | notified (k : Notification)
  /-- `_process_rtc_msg` has an answer. -/
  | popped (m : ℕ)
deriving DecidableEq

structure RtcWorker (σ : Type) where
  inbox : Inbox := {}
  pc : RtcWorkerPc := .idle
  /-- `_rtc_stream_mgr`. -/
  streams : σ
  /-- The messages that were carried out, oldest first. -/
  executed : List ℕ := []
  /-- The messages that were sent back, oldest first. -/
  posted : List ℕ := []

structure SignalingThread where
  inbox : Inbox := {}
  qConn : List ℕ := []
  pc : SignalingPc := .idle

structure RtcSystem (σ : Type) where
  messages : Arena QueuedMsg := .empty {}
  /-- The queue and the pipe of the server. -/
  server : Inbox := {}
  serverPc : ServerPc := .idle
  certificates : Arena Certificate := .empty { fingerprint := none, hasExpired := fun _ ↦ true }
  /-- `_certificate` of the server. -/
  certificate : Option ℕ := none
  /-- How often `GenerateCertificate` was called. -/
  generations : ℕ := 0
  /-- `time(NULL)`. -/
  now : ℕ
  workers : ℕ → RtcWorker σ
  signaling : ℕ → SignalingThread := fun _ ↦ {}
  /-- The thread that accepts connections is in `notify_new_conn` of this signaling worker. -/
  acceptor : Option ℕ := none

namespace RtcSystem

variable (env : RtcServerEnv σ ι ε) (s : RtcSystem σ)

def msg (m : ℕ) : QueuedMsg := s.messages.cell m

/-- An assignment to fields of a message. -/
def modifyMsg (m : ℕ) (f : QueuedMsg → QueuedMsg) : RtcSystem σ :=
  { s with messages := s.messages.modify m f }

def setServer (server : Inbox) (serverPc : ServerPc) : RtcSystem σ := { s with server, serverPc }

def setWorker (w : ℕ) (worker : RtcWorker σ) : RtcSystem σ :=
  { s with workers := Function.update s.workers w worker }

def setSignaling (i : ℕ) (thread : SignalingThread) : RtcSystem σ :=
  { s with signaling := Function.update s.signaling i thread }

variable {s} {w w' i j : ℕ} {worker : RtcWorker σ} {thread : SignalingThread}

@[simp] theorem workers_setWorker_self : (s.setWorker w worker).workers w = worker :=
  Function.update_self ..

theorem workers_setWorker_of_ne (h : w' ≠ w) :
    (s.setWorker w worker).workers w' = s.workers w' := Function.update_of_ne h ..

/-- What holds of the new state of one and of the others as they are holds of all. -/
theorem forall_setWorker {P : ℕ → RtcWorker σ → Prop} (hself : P w worker)
    (hother : ∀ w' ≠ w, P w' (s.workers w')) (w' : ℕ) :
    P w' ((s.setWorker w worker).workers w') := by
  by_cases hw : w' = w
  · rw [hw, workers_setWorker_self]
    exact hself
  · rw [workers_setWorker_of_ne hw]
    exact hother w' hw

@[simp] theorem signaling_setSignaling_self : (s.setSignaling i thread).signaling i = thread :=
  Function.update_self ..

theorem signaling_setSignaling_of_ne (h : j ≠ i) :
    (s.setSignaling i thread).signaling j = s.signaling j := Function.update_of_ne h ..

@[inherit_doc forall_setWorker]
theorem forall_setSignaling {P : ℕ → SignalingThread → Prop} (hself : P i thread)
    (hother : ∀ j ≠ i, P j (s.signaling j)) (j : ℕ) :
    P j ((s.setSignaling i thread).signaling j) := by
  by_cases hj : j = i
  · rw [hj, signaling_setSignaling_self]
    exact hself
  · rw [signaling_setSignaling_of_ne hj]
    exact hother j hj

variable (s)

/-! ### The server -/

/-- There is no certificate, or it has expired. -/
def certificateExpired : Bool :=
  match s.certificate with
  | none => true
  | some c => (s.certificates.cell c).hasExpired (s.now * 1000)

/-- The assignment of a new certificate to `_certificate`; the old one loses its only reference. -/
def renewCertificate : RtcSystem σ :=
  let s' := { s with generations := s.generations + 1 }
  match env.generateCertificate s.generations kYearInMs s.now with
  | none =>
    { s' with certificates := s.certificate.elim s.certificates s.certificates.free
              certificate := none }
  | some x =>
    let certificates := s.certificates.alloc x
    { s' with certificates := s.certificate.elim certificates certificates.free
              certificate := some s.certificates.next }

/-- `_generate_and_check_certificate`. -/
def generateAndCheckCertificate : RtcSystem σ × ℤ :=
  let s := if s.certificateExpired then s.renewCertificate env else s
  if s.certificate.isNone then (s, -1) else (s, 0)

/-- The second part of `_process_rtc_msg`: the certificate. -/
def serverCertify (m : ℕ) : RtcSystem σ :=
  let (s, ret) := s.generateAndCheckCertificate env
  if ret ≠ 0 then { s with serverPc := .idle }
  else
    { s.modifyMsg m fun msg ↦ { msg with certificate := s.certificate } with
      serverPc := .certified m }

/-- The third part of `_process_rtc_msg`: `push_msg` of the worker. -/
def serverPush (m : ℕ) : RtcSystem σ :=
  match env.getWorker (s.msg m).streamName with
  | none => { s with serverPc := .idle }
  | some w =>
    let worker := s.workers w
    { s.setWorker w { worker with inbox := worker.inbox.push m } with serverPc := .pushed w m }

/-- `notify` of the worker. -/
def serverNotify (w : ℕ) : RtcSystem σ :=
  let worker := s.workers w
  { s.setWorker w { worker with inbox := worker.inbox.notify .rtcMsg } with serverPc := .idle }

/-- The next action of the server's thread. -/
def stepServer : RtcSystem σ :=
  match s.serverPc with
  | .idle =>
    match s.server.read with
    | none => s
    | some (k, server) => s.setServer server (.notified k)
  | .notified .rtcMsg =>
    match s.server.pop with
    | none => s.setServer s.server .idle
    | some (m, server) => s.setServer server (.popped m)
  | .notified .newConn => s.setServer s.server .idle
  | .popped m => s.serverCertify env m
  | .certified m => s.serverPush env m
  | .pushed w _ => s.serverNotify w

/-! ### The workers -/

/-- `_process_rtc_msg` with a message, up to the answer. -/
def workerExecute (w : ℕ) (x : ι) (m : ℕ) : RtcSystem σ :=
  let worker := s.workers w
  let (streams, answer) :=
    env.handlers.processRtcMsg s.certificates x worker.streams (s.msg m)
  let worker := { worker with streams, executed := worker.executed ++ [m] }
  match answer with
  | none => s.setWorker w { worker with pc := .idle }
  | some (offer, ret) =>
    (s.modifyMsg m fun msg ↦ msg.answer offer ret).setWorker w { worker with pc := .processed m }

/-- The end of `_process_push` and `_process_pull`: `push_msg` of the signaling worker. -/
def workerPush (w m : ℕ) : RtcSystem σ :=
  let worker := s.workers w
  match (s.msg m).worker with
  | none => s.setWorker w { worker with pc := .idle }
  | some i =>
    let thread := s.signaling i
    (s.setSignaling i { thread with inbox := thread.inbox.push m }).setWorker w
      { worker with pc := .pushed i m, posted := worker.posted ++ [m] }

/-- `notify` of the signaling worker. -/
def workerNotify (w i : ℕ) : RtcSystem σ :=
  let thread := s.signaling i
  (s.setSignaling i { thread with inbox := thread.inbox.notify .rtcMsg }).setWorker w
    { s.workers w with pc := .idle }

/-- The next action of the thread of the worker `w`. -/
def stepWorker (w : ℕ) (x : ι) : RtcSystem σ :=
  let worker := s.workers w
  match worker.pc with
  | .idle =>
    match worker.inbox.read with
    | none => s
    | some (k, inbox) => s.setWorker w { worker with inbox, pc := .notified k }
  | .notified .rtcMsg =>
    match worker.inbox.pop with
    | none => s.setWorker w { worker with pc := .idle }
    | some (m, inbox) => s.setWorker w { worker with inbox, pc := .popped m }
  | .notified .newConn => s.setWorker w { worker with pc := .idle }
  | .popped m => s.workerExecute env w x m
  | .processed m => s.workerPush w m
  | .pushed i _ => s.workerNotify w i

/-- An event of the loop of the worker `w` that is no message. -/
def loopEvent (w : ℕ) (e : ε) : RtcSystem σ :=
  let worker := s.workers w
  if worker.pc = .idle then
    s.setWorker w
      { worker with streams := env.handlers.onEvent s.certificates worker.streams e }
  else s

/-! ### The signaling workers -/

/-- `push_msg` of the server, on a message that the signaling worker `i` made. Only the messages of
offers have a worker. -/
def request (i : ℕ) (msg : RtcMsg) : RtcSystem σ :=
  let thread := s.signaling i
  if thread.pc = .idle ∧ msg.isCommand then
    { s.setSignaling i { thread with pc := .pushed s.messages.next } with
      messages := s.messages.alloc
        { toRtcMsg := msg, worker := if msg.isOffer then some i else none, sender := i }
      server := s.server.push s.messages.next }
  else s

/-- The next action of the thread of the signaling worker `i`. -/
def stepSignaling (i : ℕ) : RtcSystem σ :=
  let thread := s.signaling i
  match thread.pc with
  | .idle =>
    match thread.inbox.read with
    | none => s
    | some (k, inbox) => s.setSignaling i { thread with inbox, pc := .notified k }
  | .pushed _ =>
    { s.setSignaling i { thread with pc := .idle } with server := s.server.notify .rtcMsg }
  | .notified .newConn => s.setSignaling i { thread with qConn := thread.qConn.tail, pc := .idle }
  | .notified .rtcMsg =>
    match thread.inbox.pop with
    | none => s.setSignaling i { thread with pc := .idle }
    | some (m, inbox) => s.setSignaling i { thread with inbox, pc := .popped m }
  | .popped _ => s.setSignaling i { thread with pc := .idle }

/-- The first part of `notify_new_conn` of the signaling worker `i`. -/
def accept (i fd : ℕ) : RtcSystem σ :=
  let thread := s.signaling i
  match s.acceptor with
  | none =>
    { s.setSignaling i { thread with qConn := thread.qConn ++ [fd] } with acceptor := some i }
  | some _ => s

/-- The second part. -/
def stepAcceptor : RtcSystem σ :=
  match s.acceptor with
  | none => s
  | some i =>
    let thread := s.signaling i
    { s.setSignaling i { thread with inbox := thread.inbox.notify .newConn } with
      acceptor := none }

end RtcSystem

/-! ## Runs -/

inductive RtcEvent (ι ε : Type)
  /-- A signaling worker makes a message of a request. -/
  | request (i : ℕ) (msg : RtcMsg)
  | accept (i fd : ℕ)
  | acceptor
  | signaling (i : ℕ)
  | server
  | worker (w : ℕ) (x : ι)
  | loop (w : ℕ) (e : ε)
  /-- The clock advances. -/
  | clock (seconds : ℕ)

namespace RtcSystem

def step (env : RtcServerEnv σ ι ε) (s : RtcSystem σ) : RtcEvent ι ε → RtcSystem σ
  | .request i msg => s.request i msg
  | .accept i fd => s.accept i fd
  | .acceptor => s.stepAcceptor
  | .signaling i => s.stepSignaling i
  | .server => s.stepServer env
  | .worker w x => s.stepWorker env w x
  | .loop w e => s.loopEvent env w e
  | .clock seconds => { s with now := s.now + seconds }

/-- `RtcServer::init`, and workers that have no streams yet. -/
def init (env : RtcServerEnv σ ι ε) (streams : σ) (now : ℕ) : RtcSystem σ :=
  ({ now, workers := fun _ ↦ { streams } : RtcSystem σ }.generateAndCheckCertificate env).1

/-- The state after a run. -/
def run (env : RtcServerEnv σ ι ε) (streams : σ) (now : ℕ) (es : List (RtcEvent ι ε)) :
    RtcSystem σ := exec (step env) (init env streams now) es

end RtcSystem

end XrtcServer
