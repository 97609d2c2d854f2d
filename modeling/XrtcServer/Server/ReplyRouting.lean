import Mathlib.Logic.Relation
import XrtcServer.Server.SignalingWorker

/-!
# Which connection gets the reply to an offer

Before it queues a reply, `_response_server_offer` looks up the descriptor of the message in
`_conns` and compares the address it finds with the one in the message; a comment says that this is
to catch a new connection in that place. It catches one whose object lies elsewhere. A new
connection that got both the old descriptor and the old address passes, and receives the reply to a
request that another client sent.

## What identifies a connection

An accept is identified by its number in the run, which the program does not have: it has only the
descriptor and the address, and the system and the allocator may give out both again. So the check
is good exactly as long as no accept brings back the pair that a message on its way still carries.

## The invariant

The invariant behind this is `Routed`: if an object at the address of a message has the descriptor
of the message, then it is the connection that sent it. A message that is sent is `Routed` because
its sender is there, closing a connection can only make the premise false, and an accept is where
the condition is used.
-/

namespace XrtcServer

open ByteString WhileLoop Worker

/-! ## Who lives where

`ident` is all that `Routed` asks of an object. Reading, writing and the queue of replies change
other fields, so that most handlers leave it alone. -/

/-- The descriptor and the accept of the connection at an address. -/
def Worker.ident (w : Worker) (p : ℕ) : Option (ℕ × ℕ) :=
  (w.heap p).map fun c ↦ (c.fd, c.accept)

/-- The table points to live connections, each at its own descriptor. -/
def TableOk (w : Worker) : Prop :=
  ∀ fd p, w.getConn fd = some p → ∃ accept, w.ident p = some (fd, accept)

/-- What lives at the address and descriptor of a message is the connection that sent it. -/
def Routed (w : Worker) (msg : RtcMsg) : Prop :=
  ∀ p accept, msg.conn = some p → w.ident p = some (msg.fd, accept) → accept = msg.accept

structure WorkerInv (w : Worker) : Prop where
  table : TableOk w
  routed : ∀ msg ∈ w.rtcMsgs, Routed w msg
  queued : ∀ pair ∈ w.queued, pair.1 = pair.2

/-- No accept hands out the descriptor and the address of a message that is not answered. -/
def FreshAccept (w : Worker) (e : WorkerEvent) : Prop :=
  ∀ fd p now, e = .newConn fd p now → ∀ msg ∈ w.rtcMsgs, ¬(msg.conn = some p ∧ msg.fd = fd)

variable {env : WorkerEnv} {w w' : Worker} {p fd now : ℕ}

theorem ident_modifyConn {f : TcpConnection → TcpConnection}
    (hf : ∀ c, (f c).fd = c.fd ∧ (f c).accept = c.accept) (p q : ℕ) :
    (w.modifyConn p f).ident q = w.ident q := by
  rw [ident, ident, modifyConn]
  dsimp only
  by_cases hq : q = p
  · subst hq
    rw [Function.update_self]
    rcases w.heap q with _ | c
    · rfl
    · exact congrArg some (Prod.ext (hf c).1 (hf c).2)
  · rw [Function.update_of_ne hq]

theorem ident_addReply (reply : Slice) (p q : ℕ) : (w.addReply p reply).ident q = w.ident q :=
  ident_modifyConn (f := fun c ↦ { c with replyList := c.replyList ++ [reply] })
    (fun _ ↦ ⟨rfl, rfl⟩) p q

theorem ident_closeConn {c : TcpConnection} (hc : w.heap p = some c) (q : ℕ) :
    (w.closeConn p).ident q = if q = p then none else w.ident q := by
  rw [ident, ident, Worker.closeConn, hc]
  dsimp only
  split_ifs with hq
  · rw [hq, Function.update_self]
    rfl
  · rw [Function.update_of_ne hq]

/-! ## Accepting and closing

The table may be longer than the descriptors in use, and is made longer when a larger one comes; the
new entries are null, so no message finds anything there. -/

theorem getConn_set {conns : List (Option ℕ)} {i fd : ℕ} {o : Option ℕ}
    (h : (conns.set i o)[fd]?.join = some p) :
    (fd = i ∧ o = some p) ∨ (fd ≠ i ∧ conns[fd]?.join = some p) := by
  by_cases hi : fd = i
  · subst hi
    rw [List.getElem?_set_self'] at h
    rcases hc : conns[fd]? with _ | c
    · simp [hc] at h
    · exact .inl ⟨rfl, by simpa [hc] using h⟩
  · rw [List.getElem?_set_ne (Ne.symm hi)] at h
    exact .inr ⟨hi, h⟩

theorem WorkerInv.closeConn (h : WorkerInv w) (p : ℕ) : WorkerInv (w.closeConn p) := by
  rcases hc : w.heap p with _ | c
  · rw [Worker.closeConn, hc]
    exact h
  have hclosed : w.closeConn p = { w with
      conns := w.conns.set c.fd none, heap := Function.update w.heap p none } := by
    rw [Worker.closeConn, hc]
  refine ⟨fun fd q hq ↦ ?_, fun msg hmsg q accept hq hi ↦ ?_, ?_⟩
  · rw [hclosed] at hq
    rcases getConn_set hq with ⟨-, hnone⟩ | ⟨hfd, hq⟩
    · cases hnone
    obtain ⟨accept, hi⟩ := h.table fd q hq
    -- the connection that closes had another descriptor
    have hqp : q ≠ p := by
      rintro rfl
      rw [ident, hc] at hi
      exact hfd (Prod.mk.inj (Option.some.inj hi)).1.symm
    exact ⟨accept, by rw [ident_closeConn hc, if_neg hqp, hi]⟩
  · rw [ident_closeConn hc] at hi
    rw [hclosed] at hmsg
    split_ifs at hi
    exact h.routed msg hmsg q accept hq hi
  · rw [hclosed]
    exact h.queued

theorem ident_newConn_self (w : Worker) (fd p now : ℕ) :
    (w.newConn fd p now).ident p = some (fd, w.accepts) := by
  rw [ident, Worker.newConn]
  dsimp only
  rw [Function.update_self]
  rfl

theorem length_resizeConns {conns : List (Option ℕ)} {n : ℕ} (h : n < 2 ^ 31) :
    ((resizeConns conns (toInt32 n)).getD conns).length = n := by
  have hn : ((n : ℤ).toNat) = n := rfl
  rw [toInt32_of_lt h, resizeConns, if_pos (Int.natCast_nonneg n), Option.getD_some, hn,
    List.length_append, List.length_take, List.length_replicate]
  omega

/-- No entry of the table is new. -/
theorem getConn_resizeConns {conns : List (Option ℕ)} {n : ℤ}
    (h : ((resizeConns conns n).getD conns)[fd]?.join = some p) : conns[fd]?.join = some p := by
  rw [resizeConns] at h
  split_ifs at h
  · rw [Option.getD_some, List.getElem?_append, List.getElem?_replicate] at h
    split_ifs at h with htake hrest
    · rw [List.getElem?_take_of_lt (by rw [List.length_take] at htake; omega)] at h
      exact h
    · cases h
    · cases h
  · exact h

theorem getConn_newConn_self (w : Worker) (hfd : 0 < fd) (hint : fd < 2 ^ 30) (p now : ℕ) :
    (w.newConn fd p now).getConn fd = some p := by
  rw [getConn, Worker.newConn]
  dsimp only
  rw [List.getElem?_set_self]
  · rfl
  · split_ifs with h
    · rw [length_resizeConns (by omega)]
      omega
    · omega

theorem WorkerInv.newConn (h : WorkerInv w) (hp : w.heap p = none)
    (hfresh : FreshAccept w (.newConn fd p now)) : WorkerInv (w.newConn fd p now) := by
  have hother : ∀ q, q ≠ p → (w.newConn fd p now).ident q = w.ident q := fun q hq ↦ by
    rw [ident, ident, Worker.newConn]
    dsimp only
    rw [Function.update_of_ne hq]
  refine ⟨fun fd' q hq ↦ ?_, fun msg hmsg q accept hq hi ↦ ?_, h.queued⟩
  · rw [getConn, Worker.newConn] at hq
    rcases getConn_set hq with ⟨rfl, hpq⟩ | ⟨-, hq⟩
    · obtain rfl := Option.some.inj hpq
      exact ⟨_, ident_newConn_self ..⟩
    · have hq : w.getConn fd' = some q := by
        rw [getConn]
        split_ifs at hq
        · exact getConn_resizeConns hq
        · exact hq
      obtain ⟨accept, hi⟩ := h.table fd' q hq
      have hqp : q ≠ p := by
        rintro rfl
        rw [ident, hp] at hi
        cases hi
      exact ⟨accept, by rw [hother q hqp, hi]⟩
  · by_cases hqp : q = p
    · subst hqp
      rw [ident_newConn_self] at hi
      exact absurd ⟨hq, (Prod.mk.inj (Option.some.inj hi)).1.symm⟩
        (hfresh fd q now rfl msg hmsg)
    · rw [hother q hqp] at hi
      exact h.routed msg hmsg q accept hq hi

/-! ## Requests

What `_process_request` does to the worker is to queue replies on its own connection and to send at
most one message. If that asks for an offer, it has the address and the descriptor of this
connection; the messages of the other commands have no connection to come back to. -/

/-- What `_process_request` on the connection at `p` can do to the worker: queue replies, and send
messages that carry no address or that of the connection. -/
structure SendsOnly (p : ℕ) (w w' : Worker) : Prop where
  conns : w'.conns = w.conns
  ident : ∀ q, w'.ident q = w.ident q
  queued : w'.queued = w.queued
  msgs : ∀ msg ∈ w'.rtcMsgs, msg ∈ w.rtcMsgs ∨ msg.conn = none ∨
    msg.conn = some p ∧ w.ident p = some (msg.fd, msg.accept)

namespace SendsOnly

variable {w₁ w₂ w₃ : Worker}

theorem refl (p : ℕ) (w : Worker) : SendsOnly p w w :=
  ⟨rfl, fun _ ↦ rfl, rfl, fun _ ↦ .inl⟩

theorem trans (h : SendsOnly p w₁ w₂) (h' : SendsOnly p w₂ w₃) : SendsOnly p w₁ w₃ where
  conns := h'.conns.trans h.conns
  ident q := (h'.ident q).trans (h.ident q)
  queued := h'.queued.trans h.queued
  msgs msg hmsg := by
    rcases h'.msgs msg hmsg with hm | hm | ⟨hp, hi⟩
    · exact h.msgs msg hm
    · exact .inr (.inl hm)
    · exact .inr (.inr ⟨hp, by rw [← h.ident, hi]⟩)

theorem modifyConn {f : TcpConnection → TcpConnection}
    (hf : ∀ c, (f c).fd = c.fd ∧ (f c).accept = c.accept) (p q : ℕ) (w : Worker) :
    SendsOnly p w (w.modifyConn q f) :=
  ⟨rfl, fun _ ↦ ident_modifyConn hf .., rfl, fun _ ↦ .inl⟩

theorem addReply (p q : ℕ) (w : Worker) (reply : Slice) : SendsOnly p w (w.addReply q reply) :=
  ⟨rfl, fun _ ↦ ident_addReply .., rfl, fun _ ↦ .inl⟩

theorem sendRtcMsg {msg : RtcMsg}
    (h : msg.conn = none ∨ msg.conn = some p ∧ w.ident p = some (msg.fd, msg.accept)) :
    SendsOnly p w (w.sendRtcMsg env msg).1 where
  conns := rfl
  ident _ := rfl
  queued := rfl
  msgs msg' hmsg := by
    rcases List.mem_append.mp hmsg with hmsg | hmsg
    · exact .inl hmsg
    · obtain rfl := List.mem_singleton.mp hmsg
      exact .inr h

theorem processOffer {c : TcpConnection} (hc : w.heap p = some c) (cmdno : ℤ) (root : RequestJson)
    (logId : ℕ) : SendsOnly p w (w.processOffer env cmdno p c root logId).1 := by
  rw [Worker.processOffer]
  split
  · exact sendRtcMsg (.inr ⟨rfl, by rw [Worker.ident, hc]; rfl⟩)
  · exact refl p w

theorem processCommand (env : WorkerEnv) (cmdno : ℤ) (root : RequestJson) (logId : ℕ) :
    SendsOnly p w (w.processCommand env cmdno root logId).1 := by
  have hstop (cmdno : ℤ) : SendsOnly p w (w.processStop env cmdno root logId).1 := by
    rw [processStop]
    split
    · exact sendRtcMsg (.inl rfl)
    · exact refl p w
  rw [Worker.processCommand]
  split_ifs
  · exact hstop _
  · exact hstop _
  · rw [processAnswer]
    split
    · exact sendRtcMsg (.inl rfl)
    · exact refl p w
  · exact refl p w

theorem processRequest (p : ℕ) (w : Worker) (header body : ByteString) :
    SendsOnly p w (w.processRequest env p header body).1 := by
  rw [Worker.processRequest]
  rcases hc : w.heap p with _ | c
  · exact refl p w
  rcases env.parse body with _ | root
  · exact refl p w
  dsimp only
  rcases root.cmdno with _ | cmdno
  · exact refl p w
  dsimp only
  by_cases hpush : cmdno = cmdnoPush
  · rw [if_pos hpush]
    exact processOffer hc ..
  rw [if_neg hpush]
  by_cases hpull : cmdno = cmdnoPull
  · rw [if_pos hpull]
    exact processOffer hc ..
  rw [if_neg hpull]
  refine (processCommand env cmdno root (XHead.logId header)).trans ?_
  split
  · exact refl p _
  · exact addReply ..

theorem exits {q q' : QueryBuffer} {ret : ℤ}
    (h : Exits (queryRound (Worker.processRequest env p)) (q, w) (ret, q', w')) :
    SendsOnly p w w' := by
  have hround {t : QueryBuffer × Worker} (ht : SendsOnly p w t.2) :
      SendsOnly p w (roundWorld (queryRound (Worker.processRequest env p) t)) := by
    rcases roundWorld_queryRound (Worker.processRequest env p) t.1 t.2 with hr | ⟨_, _, hr⟩
    · rw [hr]
      exact ht
    · rw [hr]
      exact ht.trans (processRequest ..)
  obtain ⟨t, ht, hl⟩ := h.induct_inv (I := fun t ↦ SendsOnly p w t.2) (refl p w)
    fun t t' ht hb ↦ by
      have := hround ht
      rwa [hb] at this
  have := hround ht
  rwa [hl] at this

end SendsOnly

theorem WorkerInv.sendsOnly (h : WorkerInv w) (hs : SendsOnly p w w') : WorkerInv w' where
  table fd q hq := by
    rw [getConn, hs.conns] at hq
    rw [hs.ident]
    exact h.table fd q hq
  routed msg hmsg q accept hq hi := by
    rw [hs.ident] at hi
    rcases hs.msgs msg hmsg with hm | hm | ⟨hp, hp'⟩
    · exact h.routed msg hm q accept hq hi
    · rw [hm] at hq
      cases hq
    · obtain rfl := Option.some.inj (hp.symm.trans hq)
      rw [hi] at hp'
      exact (Prod.mk.inj (Option.some.inj hp')).2
  queued := by
    rw [hs.queued]
    exact h.queued

/-! ## Steps and runs

Only one handler queues a reply that was not asked for by the same read: the one for the messages
that come back from the workers. -/

theorem WorkerInv.modifyConn (h : WorkerInv w) {f : TcpConnection → TcpConnection}
    (hf : ∀ c, (f c).fd = c.fd ∧ (f c).accept = c.accept) (p : ℕ) :
    WorkerInv (w.modifyConn p f) := h.sendsOnly (.modifyConn hf p p w)

theorem writeLoop_keeps {c c' : TcpConnection} {results : List (Option ℕ)} {closed : Bool}
    (h : writeLoop c results = some (c', closed)) : c'.fd = c.fd ∧ c'.accept = c.accept := by
  induction results generalizing c with
  | nil =>
    rw [writeLoop] at h
    split_ifs at h
    cases h
    exact ⟨rfl, rfl⟩
  | cons result results ih =>
    rcases hl : c.replyList with _ | ⟨reply, replies⟩
    · simp only [writeLoop, hl] at h
      cases h
      exact ⟨rfl, rfl⟩
    rcases result with _ | nwritten
    · simp only [writeLoop, hl] at h
      cases h
      exact ⟨rfl, rfl⟩
    simp only [writeLoop, hl] at h
    split_ifs at h
    · have := ih h
      exact this
    · have := ih h
      exact this

theorem writeReply_cases {results : List (Option ℕ)}
    (h : w.writeReply fd results now = some w') :
    ∃ p w₁, SendsOnly p w w₁ ∧ (w' = w₁ ∨ w' = w₁.closeConn p) := by
  have hsame : ∃ p w₁, SendsOnly p w w₁ ∧ (w = w₁ ∨ w = w₁.closeConn p) :=
    ⟨0, w, .refl 0 w, .inl rfl⟩
  rw [Worker.writeReply] at h
  split_ifs at h
  · exact Option.some.inj h ▸ hsame
  rcases hp : w.getConn fd with _ | p <;> simp only [hp] at h
  · exact Option.some.inj h ▸ hsame
  rcases hc : w.heap p with _ | c <;> simp only [hc] at h
  · exact Option.some.inj h ▸ hsame
  obtain ⟨⟨c', closed⟩, hl, rfl⟩ := Option.map_eq_some_iff.mp h
  obtain ⟨hfd, haccept⟩ := writeLoop_keeps hl
  refine ⟨p, w.modifyConn p fun _ ↦ { c' with lastInteraction := now },
    ⟨rfl, fun q ↦ ?_, rfl, fun _ ↦ .inl⟩, ?_⟩
  · -- the loop worked on the connection at `p`
    rw [ident, ident, Worker.modifyConn]
    dsimp only
    by_cases hq : q = p
    · rw [hq, Function.update_self, hc]
      exact congrArg some (Prod.ext hfd haccept)
    · rw [Function.update_of_ne hq]
  · dsimp only
    split_ifs
    · exact .inr rfl
    · exact .inl rfl

theorem WorkerInv.writeReply (h : WorkerInv w) {results : List (Option ℕ)}
    (hw : w.writeReply fd results now = some w') : WorkerInv w' := by
  obtain ⟨p, w₁, hsends, rfl | rfl⟩ := writeReply_cases hw
  · exact h.sendsOnly hsends
  · exact (h.sendsOnly hsends).closeConn p

/-- The table still points to the connection of the message, so it is the one that sent it. -/
theorem WorkerInv.responseServerOffer (h : WorkerInv w) {msg : RtcMsg} (hr : Routed w msg) :
    WorkerInv (w.responseServerOffer env msg) := by
  rcases w.responseServerOffer_cases env msg with
    ⟨-, heq⟩ | ⟨p, c, reply, hp, hconn, hc, -, heq⟩
  · rw [heq]
    exact h
  have hadd : WorkerInv (w.addReply p reply) := h.sendsOnly (.addReply p p w reply)
  rw [heq]
  refine ⟨hadd.table, hadd.routed, fun pair hpair ↦ ?_⟩
  rcases List.mem_append.mp hpair with hpair | hpair
  · exact h.queued pair hpair
  · obtain rfl := List.mem_singleton.mp hpair
    obtain ⟨accept, hi⟩ := h.table _ _ hconn
    have hident : w.ident p = some (c.fd, c.accept) := by
      rw [ident, hc]
      rfl
    have hfd : c.fd = msg.fd := (Prod.mk.inj (Option.some.inj (hident.symm.trans hi))).1
    exact (hr p c.accept hp (by rw [hident, hfd])).symm

theorem WorkerInv.processRtcMsg (h : WorkerInv w) {msg : RtcMsg} (hr : Routed w msg) :
    WorkerInv (w.processRtcMsg env msg) := by
  rw [Worker.processRtcMsg]
  split_ifs
  · exact h.responseServerOffer hr
  · exact h

theorem WorkerInv.eraseMsg (h : WorkerInv w) (i : ℕ) :
    WorkerInv { w with rtcMsgs := w.rtcMsgs.eraseIdx i } where
  table := h.table
  routed msg hmsg := h.routed msg (List.mem_of_mem_eraseIdx hmsg)
  queued := h.queued

/-- **One handler.** -/
theorem WorkerInv.step {e : WorkerEvent} (h : WorkerInv w) (hfresh : FreshAccept w e)
    (hs : WorkerStep env w e w') : WorkerInv w' := by
  rcases hs with ⟨-, hp⟩ | - | ⟨-, -, -, -, hexit⟩ | hw | - | hmsg
  · exact h.newConn hp hfresh
  · exact h.closeConn _
  · have hread := (h.modifyConn (by exact fun _ ↦ ⟨rfl, rfl⟩) _).sendsOnly (SendsOnly.exits hexit)
    rw [finishRead]
    split_ifs
    · exact hread.closeConn _
    · refine hread.modifyConn ?_ _
      exact fun _ ↦ ⟨rfl, rfl⟩
  · exact h.writeReply hw
  · rw [processTimeout]
    split
    · exact h
    · split_ifs
      · exact h.closeConn _
      · exact h
  · have hrouted := h.routed _ (List.mem_of_getElem? hmsg)
    exact (h.eraseMsg _).processRtcMsg hrouted

theorem workerInv_init (connectionTimeout : ℕ) : WorkerInv { connectionTimeout } where
  table fd p h := by cases h
  routed msg h := by cases h
  queued pair h := by cases h

/-- The states the worker can reach when every event that arrives satisfies `G`. -/
def Reaches (env : WorkerEnv) (G : Worker → WorkerEvent → Prop) : Worker → Worker → Prop :=
  Relation.ReflTransGen fun w w' ↦ ∃ e, G w e ∧ WorkerStep env w e w'

theorem Reaches.mono {G H : Worker → WorkerEvent → Prop} (hGH : ∀ w e, G w e → H w e)
    (h : Reaches env G w w') : Reaches env H w w' := by
  induction h with
  | refl => exact .refl
  | tail _ hs ih =>
    obtain ⟨e, hG, hs⟩ := hs
    exact ih.tail ⟨e, hGH _ e hG, hs⟩

/-- **All runs.** -/
theorem queued_of_freshAccept {connectionTimeout : ℕ}
    (h : Reaches env FreshAccept { connectionTimeout } w) : ∀ pair ∈ w.queued, pair.1 = pair.2 := by
  have hinv : WorkerInv w := by
    induction h with
    | refl => exact workerInv_init connectionTimeout
    | tail _ hs ih =>
      obtain ⟨e, hfresh, hs⟩ := hs
      exact ih.step hfresh hs
  exact hinv.queued

/-! ## Two runs

A client publishes a stream on descriptor 5, with its object at address 100. -/

def pushText : ByteString :=
  lit "\x7b\"cmdno\":1,\"uid\":7,\"stream_name\":\"\",\"audio\":1,\"video\":1\x7d"

def pushHeader : ByteString :=
  List.replicate 24 0 ++ putLE32 xheaderMagicNum ++ List.replicate 4 0 ++ putLE32 pushText.length

def pushEnv : WorkerEnv where
  parse body :=
    if body = pushText then
      some { cmdno := some 1, uid := some 7, streamName := some []
             audio := some 1, video := some 1 }
    else none
  writeString _ := lit "\x7b\"err_msg\":\"success\",\"err_no\":0,\"offer\":\"\"\x7d"
  sendRtcMsg _ := 0
  zmalloc := some fun _ ↦ 0
  past _ := 0

def noWorkers : Worker := { connectionTimeout := 1000 }

theorem freshAccept_read (w : Worker) (fd : ℕ) (chunk : Option ByteString) (now : ℕ) :
    FreshAccept w (.read fd chunk now) := by
  intro _ _ _ h
  cases h

theorem reaches_push : ∃ w msg, Reaches pushEnv FreshAccept noWorkers w ∧
    SendsOnly 100 (noWorkers.newConn 5 100 0) w ∧ w.rtcMsgs = [msg] ∧ w.accepts = 1 ∧
    msg.cmdno = cmdnoPush ∧ msg.conn = some 100 ∧ msg.fd = 5 ∧ msg.accept = 0 := by
  have haccept : Reaches pushEnv FreshAccept noWorkers (noWorkers.newConn 5 100 0) :=
    .single ⟨.newConn 5 100 0, (fun _ _ _ _ msg hmsg ↦ by cases hmsg), .newConn nofun rfl⟩
  have hread (chunk : ByteString) {w w' : Worker} {c : TcpConnection} {q : QueryBuffer}
      (hw : Reaches pushEnv FreshAccept noWorkers w ∧ SendsOnly 100 (noWorkers.newConn 5 100 0) w)
      (hconn : w.getConn 5 = some 100) (hc : w.heap 100 = some c)
      (hlen : chunk.length ≤ c.query.bytesExpected) (hint : c.query.querybuf.length < 2 ^ 31)
      (hexit : rounds (queryRound (processRequest pushEnv 100)) 2
        (c.query.append chunk, w.modifyConn 100 fun c ↦ { c with lastInteraction := 0 }) =
          some (0, q, w')) :
      Reaches pushEnv FreshAccept noWorkers (w'.finishRead 100 0 q) ∧
        SendsOnly 100 (noWorkers.newConn 5 100 0) (w'.finishRead 100 0 q) :=
    ⟨hw.1.tail ⟨.read 5 (some chunk) 0, freshAccept_read _ _ _ _,
        .read hconn hc hlen hint (exits_of_rounds hexit)⟩,
      ((hw.2.trans (.modifyConn (by exact fun _ ↦ ⟨rfl, rfl⟩) ..)).trans
        (.exits (exits_of_rounds hexit))).trans (.modifyConn (by exact fun _ ↦ ⟨rfl, rfl⟩) ..)⟩
  have hheader := hread pushHeader ⟨haccept, .refl _ _⟩ rfl rfl (by decide) (by decide) rfl
  have hbody := hread (pushText.take 36) hheader rfl rfl (by decide) (by decide) rfl
  obtain ⟨hreach, hsends⟩ := hread (pushText.drop 36) hbody rfl rfl (by decide) (by decide) rfl
  exact ⟨_, _, hreach, hsends, rfl, rfl, rfl, rfl, rfl, rfl⟩

/-- The reply is queued on whatever lives where the message points. -/
theorem queued_rtcMsg (env : WorkerEnv) (i : ℕ) (errNo : ℤ) (sdp : ByteString) {msg : RtcMsg}
    {accept : ℕ} (hcmd : msg.cmdno = cmdnoPull ∨ msg.cmdno = cmdnoPush) (hp : msg.conn = some p)
    (hconn : w.getConn msg.fd = some p) (hi : w.ident p = some (fd, accept))
    (hz : env.zmalloc ≠ none) :
    ({ w with rtcMsgs := w.rtcMsgs.eraseIdx i }.processRtcMsg env { msg with errNo, sdp }).queued =
      w.queued ++ [(msg.accept, accept)] := by
  obtain ⟨c, hc, hident⟩ := Option.map_eq_some_iff.mp hi
  obtain rfl : c.accept = accept := (Prod.mk.inj hident).2
  rw [processRtcMsg, if_pos hcmd]
  rcases responseServerOffer_cases env { w with rtcMsgs := w.rtcMsgs.eraseIdx i }
    { msg with errNo, sdp } with ⟨hno, -⟩ | ⟨p', c', reply, hp', -, hc', -, heq⟩
  · exact absurd ⟨p, c, hp, hconn, hc, hz⟩ hno
  · obtain rfl := Option.some.inj (hp.symm.trans hp')
    obtain rfl := Option.some.inj (hc.symm.trans hc')
    rw [heq]

/-- A connection that is still there when its answer comes gets it. -/
theorem queued_push : ∃ w, Reaches pushEnv FreshAccept noWorkers w ∧ w.queued = [(0, 0)] ∧
    ∀ pair ∈ w.queued, pair.1 = pair.2 := by
  obtain ⟨w, msg, hreach, hsends, hmsgs, -, hcmd, hconn, hfd, haccept⟩ := reaches_push
  have hanswer : Reaches pushEnv FreshAccept noWorkers
      ({ w with rtcMsgs := w.rtcMsgs.eraseIdx 0 }.processRtcMsg pushEnv
        { msg with errNo := 0, sdp := [] }) :=
    hreach.tail ⟨.rtcMsg 0 0 [], (fun _ _ _ h ↦ by cases h), .rtcMsg (by rw [hmsgs]; rfl)⟩
  refine ⟨_, hanswer, ?_, queued_of_freshAccept hanswer⟩
  have htable : w.getConn 5 = some 100 := by
    rw [getConn, hsends.conns]
    rfl
  rw [queued_rtcMsg pushEnv 0 0 [] (.inr hcmd) hconn (by rw [hfd]; exact htable)
    (hsends.ident 100) (by simp [pushEnv]), hsends.queued, haccept]
  rfl

/-- The client goes away, another one is accepted on the same descriptor with its object at the same
address, and then the answer comes. -/
theorem not_queued_same_accept :
    ¬∀ (env : WorkerEnv) (connectionTimeout : ℕ) (w : Worker),
      Reaches env (fun _ _ ↦ True) { connectionTimeout } w →
        ∀ pair ∈ w.queued, pair.1 = pair.2 := by
  intro h
  obtain ⟨w, msg, hreach, hsends, hmsgs, haccepts, hcmd, hconn, hfd, haccept⟩ := reaches_push
  have htable : w.getConn 5 = some 100 := by
    rw [getConn, hsends.conns]
    rfl
  obtain ⟨c, hc, -⟩ := Option.map_eq_some_iff.mp (hsends.ident 100)
  have hclosed : ∀ q, (w.closeConn 100).ident q = none := fun q ↦ by
    rw [ident_closeConn hc, hsends.ident]
    split_ifs with hq
    · rfl
    · rw [ident, Worker.newConn]
      dsimp only
      rw [Function.update_of_ne hq]
      rfl
  have hheap : ∀ q, (w.closeConn 100).heap q = none := fun q ↦ by
    simpa [ident] using hclosed q
  have hclose : w.closeConn 100 =
      { w with conns := w.conns.set c.fd none, heap := Function.update w.heap 100 none } := by
    rw [closeConn, hc]
  let w' := (w.closeConn 100).newConn 5 100 0
  have hmsgs' : w'.rtcMsgs = [msg] := by
    rw [← hmsgs, show w'.rtcMsgs = (w.closeConn 100).rtcMsgs from rfl, hclose]
  have hqueued' : w'.queued = [] := by
    rw [show w'.queued = (w.closeConn 100).queued from rfl, hclose]
    exact hsends.queued
  have hident' : w'.ident 100 = some (5, 1) := by
    rw [ident_newConn_self, hclose, haccepts]
  have hstale := (((hreach.mono fun _ _ _ ↦ trivial).tail
    ⟨.read 5 none 0, trivial, .readError htable⟩).tail
    ⟨.newConn 5 100 0, trivial, .newConn (fun q c hq ↦ by simp [hheap] at hq) (hheap 100)⟩).tail
    ⟨.rtcMsg 0 0 [], trivial, .rtcMsg (by rw [hmsgs']; rfl)⟩
  have hpair := h pushEnv _ _ hstale (0, 1) ?_
  · cases hpair
  rw [queued_rtcMsg pushEnv 0 0 [] (.inr hcmd) hconn
    (by rw [hfd]; exact getConn_newConn_self _ (by decide) (by decide) ..) hident'
    (by simp [pushEnv]), List.mem_append, haccept]
  exact .inr (List.mem_singleton_self _)

end XrtcServer
