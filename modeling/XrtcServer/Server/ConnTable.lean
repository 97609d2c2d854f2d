import XrtcServer.Lib.EventRun
import XrtcServer.Server.ReplyRouting

/-!
# The table of connections

`_conns` is indexed by descriptors. `_new_conn` makes it larger when it has to, to twice the
descriptor, and four handlers close connections: after a failed read, a bad request, a failed write
or a timeout. The table is to have exactly the live connections, each at its own descriptor; then
the handlers of I/O events, which find their connection in the table, and the timers, which have
its address, never meet one that is gone.

## Closing and opening

Closing keeps this, in every handler: the entry, the two watchers and the object go together.
Opening does not: twice the descriptor 0 is no room for it, and twice a descriptor from `2^30` on is
no `int`. `Fits` is what is left, and it is asked of the event and the length of the table alone.

## The watchers

`WatchedWorker` is the worker of `Server/SignalingWorker.lean` with the watchers of its connections.
An event of a watcher can only come while the watcher is there, which is how the loop is modelled
(`Step`), and it is the reason why a handler never gets the address of an object that is gone. As
there, a connection is only read up to `2^31` bytes.
-/

namespace XrtcServer

open EventRun Worker WhileLoop

/-- A worker, and for each connection that has its watchers, its address and its descriptor. -/
structure WatchedWorker where
  worker : Worker
  watched : List (ℕ × ℕ) := []

namespace WatchedWorker

/-- `_new_conn` creates the watchers. -/
def newConn (s : WatchedWorker) (fd p now : ℕ) : WatchedWorker where
  worker := s.worker.newConn fd p now
  watched := s.watched ++ [(p, fd)]

/-- The watchers after a handler: `_remove_conn` deletes those of the object that it deletes. -/
def handled (s : WatchedWorker) (w : Worker) : WatchedWorker where
  worker := w
  watched := s.watched.filter fun x ↦ (w.heap x.1).isSome

/-- One event. READ comes from a watcher, and a timer is one of a connection that has its watchers.
WRITE may come after READ has closed the connection. A descriptor is an `int`. -/
inductive Step (env : WorkerEnv) : WatchedWorker → WorkerEvent → WatchedWorker → Prop
  | newConn {s : WatchedWorker} {fd p now : ℕ} (hint : fd < 2 ^ 31)
      (hfd : ∀ p' c, s.worker.heap p' = some c → c.fd ≠ fd) (hp : s.worker.heap p = none) :
      Step env s (.newConn fd p now) (s.newConn fd p now)
  | read {s : WatchedWorker} {fd now : ℕ} {chunk : Option ByteString} {w : Worker}
      (hwatched : ∃ p, (p, fd) ∈ s.watched)
      (h : WorkerStep env s.worker (.read fd chunk now) w) :
      Step env s (.read fd chunk now) (s.handled w)
  | write {s : WatchedWorker} {fd now : ℕ} {results : List (Option ℕ)} {w : Worker}
      (h : WorkerStep env s.worker (.write fd results now) w) :
      Step env s (.write fd results now) (s.handled w)
  | timeout {s : WatchedWorker} {p now : ℕ} {w : Worker} (hwatched : ∃ fd, (p, fd) ∈ s.watched)
      (h : WorkerStep env s.worker (.timeout p now) w) :
      Step env s (.timeout p now) (s.handled w)
  | rtcMsg {s : WatchedWorker} {i : ℕ} {errNo : ℤ} {sdp : ByteString} {w : Worker}
      (h : WorkerStep env s.worker (.rtcMsg i errNo sdp) w) :
      Step env s (.rtcMsg i errNo sdp) (s.handled w)

/-- The handler of the event uses the index `i` of the table, which has `n` entries then. -/
inductive Uses (s : WatchedWorker) : WorkerEvent → ℕ → ℕ → Prop
  | newConn {fd p now : ℕ} :
      Uses s (.newConn fd p now) fd (s.worker.newConn fd p now).conns.length
  | read {fd now : ℕ} {chunk : Option ByteString} (h : fd < s.worker.conns.length) :
      Uses s (.read fd chunk now) fd s.worker.conns.length
  | write {fd now : ℕ} {results : List (Option ℕ)} (h : 0 < fd ∧ fd < s.worker.conns.length) :
      Uses s (.write fd results now) fd s.worker.conns.length
  | rtcMsg {i : ℕ} {errNo : ℤ} {sdp : ByteString} {msg : RtcMsg}
      (hmsg : s.worker.rtcMsgs[i]? = some msg) (h : msg.fd < s.worker.conns.length) :
      Uses s (.rtcMsg i errNo sdp) msg.fd s.worker.conns.length
  /-- `_remove_conn`, in any handler. -/
  | close {e : WorkerEvent} {p : ℕ} {c : TcpConnection} (hc : s.worker.heap p = some c) :
      Uses s e c.fd s.worker.conns.length

/-- The table is that of the live connections, and what the handlers take from it or from a watcher
is a live connection. -/
structure TableSafe (s : WatchedWorker) : Prop where
  stored : ∀ p c, s.worker.heap p = some c → s.worker.conns[c.fd]? = some (some p)
  unique : ∀ p c (i : ℕ), s.worker.heap p = some c → s.worker.conns[i]? = some (some p) → i = c.fd
  live : ∀ i p : ℕ, s.worker.conns[i]? = some (some p) → ∃ c, s.worker.heap p = some c
  read : ∀ p fd : ℕ, (p, fd) ∈ s.watched → s.worker.conns[fd]? = some (some p)
  timer : ∀ p fd, (p, fd) ∈ s.watched → ∃ c, s.worker.heap p = some c

/-- The event keeps the table in order. -/
structure KeepsTable (s : WatchedWorker) (e : WorkerEvent) (s' : WatchedWorker) : Prop where
  safe : s'.TableSafe
  inRange : ∀ i n, s.Uses e i n → i < n

/-- There is room for the descriptor, or there will be when the table is made larger. -/
def Fits (s : WatchedWorker) : WorkerEvent → Prop
  | .newConn fd _ _ => fd < s.worker.conns.length ∨ 0 < fd ∧ fd < 2 ^ 30
  | _ => True

end WatchedWorker

/-! ## The worker

`TableExact` is about the worker without its watchers. A handler other than `_new_conn` changes the
table by closing a connection or not at all, so there are two cases for all of them. -/

/-- `TableSafe` of the worker. -/
structure TableExact (w : Worker) : Prop where
  stored : ∀ p c, w.heap p = some c → w.conns[c.fd]? = some (some p)
  live : ∀ i p : ℕ, w.conns[i]? = some (some p) → ∃ c, w.heap p = some c ∧ c.fd = i

/-- The same connections in the same table. -/
structure SameTable (w w' : Worker) : Prop where
  conns : w'.conns = w.conns
  ident : ∀ q, w'.ident q = w.ident q

variable {env : WorkerEnv} {w w' w₁ : Worker} {p q fd now : ℕ} {e : WorkerEvent}

theorem exists_of_ident_eq (h : w'.ident q = w.ident q) {c' : TcpConnection}
    (hc : w'.heap q = some c') : ∃ c, w.heap q = some c ∧ c.fd = c'.fd := by
  rw [ident, ident, hc, Option.map_some] at h
  obtain ⟨c, hc, hfd⟩ := Option.map_eq_some_iff.mp h.symm
  exact ⟨c, hc, (Prod.mk.inj hfd).1⟩

namespace SameTable

theorem refl (w : Worker) : SameTable w w := ⟨rfl, fun _ ↦ rfl⟩

theorem trans (h : SameTable w w₁) (h' : SameTable w₁ w') : SameTable w w' :=
  ⟨h'.conns.trans h.conns, fun q ↦ (h'.ident q).trans (h.ident q)⟩

theorem of_sendsOnly (h : SendsOnly p w w') : SameTable w w' := ⟨h.conns, h.ident⟩

end SameTable

theorem TableExact.same (h : TableExact w) (hs : SameTable w w') : TableExact w' := by
  refine ⟨fun p c' hc' ↦ ?_, fun i p hi ↦ ?_⟩
  · obtain ⟨c, hc, hfd⟩ := exists_of_ident_eq (hs.ident p) hc'
    rw [hs.conns, ← hfd]
    exact h.stored p c hc
  · rw [hs.conns] at hi
    obtain ⟨c, hc, rfl⟩ := h.live i p hi
    exact exists_of_ident_eq (hs.ident p).symm hc

theorem conns_closeConn {c : TcpConnection} (hc : w.heap p = some c) :
    (w.closeConn p).conns = w.conns.set c.fd none := by
  rw [Worker.closeConn, hc]

theorem heap_closeConn {c : TcpConnection} (hc : w.heap p = some c) :
    (w.closeConn p).heap = Function.update w.heap p none := by
  rw [Worker.closeConn, hc]

theorem heap_of_closeConn {c : TcpConnection} (h : (w.closeConn p).heap q = some c) :
    w.heap q = some c := by
  rcases hc : w.heap p with _ | c'
  · rw [Worker.closeConn, hc] at h
    exact h
  · rw [heap_closeConn hc] at h
    have hqp : q ≠ p := by
      rintro rfl
      rw [Function.update_self] at h
      cases h
    rw [Function.update_of_ne hqp] at h
    exact h

theorem TableExact.closeConn (h : TableExact w) (p : ℕ) : TableExact (w.closeConn p) := by
  rcases hc : w.heap p with _ | c
  · rw [Worker.closeConn, hc]
    exact h
  refine ⟨fun q c' hc' ↦ ?_, fun i q hi ↦ ?_⟩
  · rw [heap_closeConn hc] at hc'
    have hqp : q ≠ p := by
      rintro rfl
      rw [Function.update_self] at hc'
      cases hc'
    rw [Function.update_of_ne hqp] at hc'
    -- two connections do not share a descriptor
    have hfd : c.fd ≠ c'.fd := by
      intro hfd
      have hboth := (h.stored p c hc).symm.trans (hfd ▸ h.stored q c' hc')
      exact hqp (Option.some.inj (Option.some.inj hboth)).symm
    rw [conns_closeConn hc, List.getElem?_set_ne hfd]
    exact h.stored q c' hc'
  · rw [conns_closeConn hc] at hi
    have hfd : c.fd ≠ i := by
      rintro rfl
      rw [List.getElem?_set_self'] at hi
      rcases hget : w.conns[c.fd]? with _ | o
      · rw [hget] at hi
        cases hi
      · rw [hget] at hi
        cases hi
    rw [List.getElem?_set_ne hfd] at hi
    obtain ⟨c', hc', hi'⟩ := h.live i q hi
    have hqp : q ≠ p := by
      rintro rfl
      cases hc.symm.trans hc'
      exact hfd hi'
    rw [heap_closeConn hc, Function.update_of_ne hqp]
    exact ⟨c', hc', hi'⟩

/-- The table in which `_new_conn` stores the connection. -/
def grownConns (conns : List (Option ℕ)) (fd : ℕ) : List (Option ℕ) :=
  if conns.length ≤ fd then (resizeConns conns (toInt32 (fd * 2))).getD conns else conns

theorem conns_newConn (w : Worker) (fd p now : ℕ) :
    (w.newConn fd p now).conns = (grownConns w.conns fd).set fd (some p) := rfl

theorem resizeConns_of_large {conns : List (Option ℕ)} (hlarge : 2 ^ 30 ≤ fd) (hint : fd < 2 ^ 31) :
    resizeConns conns (toInt32 (fd * 2)) = none := by
  rw [resizeConns, if_neg]
  rw [toInt32]
  split_ifs <;> omega

theorem lt_length_grownConns {conns : List (Option ℕ)} (hint : fd < 2 ^ 31) :
    fd < (grownConns conns fd).length ↔ fd < conns.length ∨ 0 < fd ∧ fd < 2 ^ 30 := by
  rw [grownConns]
  split_ifs with hlen
  · rcases lt_or_ge fd (2 ^ 30) with hsmall | hlarge
    · rw [length_resizeConns (by omega)]
      omega
    · rw [resizeConns_of_large hlarge hint, Option.getD_none]
      omega
  · omega

theorem getElem?_grownConns {conns : List (Option ℕ)} (hint : fd < 2 ^ 31) {i : ℕ}
    (hi : i < conns.length) : (grownConns conns fd)[i]? = conns[i]? := by
  rw [grownConns]
  split_ifs with hlen
  · rcases lt_or_ge fd (2 ^ 30) with hsmall | hlarge
    · rw [toInt32_of_lt (by omega), resizeConns, if_pos (Int.natCast_nonneg _), Option.getD_some,
        Int.toNat_natCast, List.take_of_length_le (by omega), List.getElem?_append_left hi]
    · rw [resizeConns_of_large hlarge hint, Option.getD_none]
  · rfl

theorem getElem?_of_grownConns {conns : List (Option ℕ)} {i : ℕ}
    (h : (grownConns conns fd)[i]? = some (some q)) : conns[i]? = some (some q) := by
  rw [grownConns] at h
  split_ifs at h
  · exact Option.join_eq_some_iff.mp (getConn_resizeConns (Option.join_eq_some_iff.mpr h))
  · exact h

/-- Opening a connection, if there is room for it. -/
theorem TableExact.newConn (h : TableExact w) (hint : fd < 2 ^ 31)
    (hfd : ∀ p' c, w.heap p' = some c → c.fd ≠ fd) (hp : w.heap p = none)
    (hroom : fd < (grownConns w.conns fd).length) (now : ℕ) :
    TableExact (w.newConn fd p now) := by
  have hheap : (w.newConn fd p now).heap = Function.update w.heap p
      (some { fd, lastInteraction := now, accept := w.accepts }) := rfl
  refine ⟨fun q c hc ↦ ?_, fun i q hi ↦ ?_⟩
  · rw [hheap] at hc
    rw [conns_newConn]
    by_cases hqp : q = p
    · rw [hqp, Function.update_self] at hc
      cases hc
      rw [hqp, List.getElem?_set_self hroom]
    · rw [Function.update_of_ne hqp] at hc
      have hstored := h.stored q c hc
      obtain ⟨hlt, -⟩ := List.getElem?_eq_some_iff.mp hstored
      rw [List.getElem?_set_ne (hfd q c hc).symm, getElem?_grownConns hint hlt, hstored]
  · rw [conns_newConn] at hi
    rw [hheap]
    by_cases hfi : fd = i
    · subst hfi
      rw [List.getElem?_set_self hroom] at hi
      cases hi
      exact ⟨_, Function.update_self .., rfl⟩
    · rw [List.getElem?_set_ne hfi] at hi
      obtain ⟨c, hc, hci⟩ := h.live i q (getElem?_of_grownConns hi)
      have hqp : q ≠ p := by
        rintro rfl
        cases hp.symm.trans hc
      exact ⟨c, (Function.update_of_ne hqp _ _).trans hc, hci⟩

/-- What the handlers other than `_new_conn` do to the table: they close at most one connection. -/
theorem handler_cases (h : WorkerStep env w e w') (he : ∀ fd p now, e ≠ .newConn fd p now) :
    ∃ p w₁, SameTable w w₁ ∧ (w' = w₁ ∨ w' = w₁.closeConn p) := by
  have hmodify {f : TcpConnection → TcpConnection}
      (hf : ∀ c, (f c).fd = c.fd ∧ (f c).accept = c.accept) (p : ℕ) (w : Worker) :
      SameTable w (w.modifyConn p f) := .of_sendsOnly (.modifyConn hf p p w)
  cases h with
  | newConn _ _ => exact absurd rfl (he _ _ _)
  | readError _ => exact ⟨_, w, .refl w, .inr rfl⟩
  | @read w₁ fd p now c chunk ret q hconn hc hlen hint hexit =>
    have hread := (hmodify (by exact fun _ ↦ ⟨rfl, rfl⟩) p w).trans
      (.of_sendsOnly (SendsOnly.exits hexit))
    rw [finishRead]
    split_ifs
    · exact ⟨p, w₁, hread, .inr rfl⟩
    · exact ⟨p, _, hread.trans (hmodify (by exact fun _ ↦ ⟨rfl, rfl⟩) p w₁), .inl rfl⟩
  | write hw =>
    obtain ⟨p, w₁, hsends, hw'⟩ := writeReply_cases hw
    exact ⟨p, w₁, .of_sendsOnly hsends, hw'⟩
  | @timeout p now =>
    rw [processTimeout]
    split
    · exact ⟨p, w, .refl w, .inl rfl⟩
    · split_ifs
      · exact ⟨p, w, .refl w, .inr rfl⟩
      · exact ⟨p, w, .refl w, .inl rfl⟩
  | @rtcMsg i errNo sdp msg hmsg =>
    refine ⟨0, _, ?_, .inl rfl⟩
    have herase : SameTable w { w with rtcMsgs := w.rtcMsgs.eraseIdx i } := ⟨rfl, fun _ ↦ rfl⟩
    refine herase.trans ?_
    rw [processRtcMsg]
    split_ifs
    · rcases Worker.responseServerOffer_cases env { w with rtcMsgs := w.rtcMsgs.eraseIdx i }
        { msg with errNo, sdp } with ⟨-, heq⟩ | ⟨p, c, reply, -, -, -, -, heq⟩
      · rw [heq]
        exact .refl _
      · rw [heq]
        exact ⟨rfl, fun q ↦ ident_addReply reply p q⟩
    · exact .refl _

/-! ## The watchers

A watcher is made and deleted with its connection, so the watchers are those of the live
connections. Their addresses and descriptors are then those that the table has. -/

namespace WatchedWorker

variable {s s' : WatchedWorker}

theorem Step.worker (h : Step env s e s') : WorkerStep env s.worker e s'.worker := by
  cases h with
  | newConn _ hfd hp => exact .newConn hfd hp
  | read _ h => exact h
  | write h => exact h
  | timeout _ h => exact h
  | rtcMsg h => exact h

theorem TableSafe.exact (h : s.TableSafe) : TableExact s.worker := by
  refine ⟨h.stored, fun i p hi ↦ ?_⟩
  obtain ⟨c, hc⟩ := h.live i p hi
  exact ⟨c, hc, (h.unique p c i hc hi).symm⟩

theorem tableSafe_of_exact (h : TableExact s.worker)
    (hread : ∀ p fd : ℕ, (p, fd) ∈ s.watched → s.worker.conns[fd]? = some (some p)) :
    s.TableSafe := by
  refine ⟨h.stored, fun p c i hc hi ↦ ?_, fun i p hi ↦ ?_, hread, fun p fd hmem ↦ ?_⟩
  · obtain ⟨c', hc', rfl⟩ := h.live i p hi
    cases hc.symm.trans hc'
    rfl
  · obtain ⟨c, hc, -⟩ := h.live i p hi
    exact ⟨c, hc⟩
  · obtain ⟨c, hc, -⟩ := h.live fd p (hread p fd hmem)
    exact ⟨c, hc⟩

/-- **Handlers keep the table.** -/
theorem TableSafe.handled (h : s.TableSafe) (hw : WorkerStep env s.worker e w')
    (he : ∀ fd p now, e ≠ .newConn fd p now) : (s.handled w').TableSafe := by
  obtain ⟨p, w₁, hsame, hw'⟩ := handler_cases hw he
  have hexact : TableExact w' := by
    rcases hw' with rfl | rfl
    · exact h.exact.same hsame
    · exact (h.exact.same hsame).closeConn p
  refine tableSafe_of_exact hexact fun q fd hmem ↦ ?_
  obtain ⟨hmem, hlive⟩ := List.mem_filter.mp hmem
  obtain ⟨c', hc'⟩ := Option.isSome_iff_exists.mp hlive
  have hc₁ : w₁.heap q = some c' := by
    rcases hw' with rfl | rfl
    · exact hc'
    · exact heap_of_closeConn hc'
  -- the connection at `q` was there before, with the same descriptor
  obtain ⟨c, hc, hfd⟩ := exists_of_ident_eq (hsame.ident q) hc₁
  rw [h.unique q c fd hc (h.read q fd hmem), hfd]
  exact hexact.stored q c' hc'

/-- **Opening keeps the table** if there is room. -/
theorem TableSafe.newConn_iff (h : s.TableSafe) (hint : fd < 2 ^ 31)
    (hfd : ∀ p' c, s.worker.heap p' = some c → c.fd ≠ fd) (hp : s.worker.heap p = none)
    (now : ℕ) : (s.newConn fd p now).TableSafe ↔ fd < (grownConns s.worker.conns fd).length := by
  have hconns : (s.newConn fd p now).worker.conns =
      (grownConns s.worker.conns fd).set fd (some p) := rfl
  constructor
  · intro hsafe
    have hstored := hsafe.stored p _ (Function.update_self ..)
    rw [hconns] at hstored
    obtain ⟨hlt, -⟩ := List.getElem?_eq_some_iff.mp hstored
    rw [List.length_set] at hlt
    exact hlt
  · intro hroom
    refine tableSafe_of_exact (h.exact.newConn hint hfd hp hroom now) fun q fd' hmem ↦ ?_
    rw [hconns]
    rcases List.mem_append.mp hmem with hmem | hmem
    · have hread := h.read q fd' hmem
      obtain ⟨c, hc⟩ := h.live fd' q hread
      obtain ⟨hlt, -⟩ := List.getElem?_eq_some_iff.mp hread
      have hne : fd ≠ fd' := by
        rw [h.unique q c fd' hc hread]
        exact (hfd q c hc).symm
      rw [List.getElem?_set_ne hne, getElem?_grownConns hint hlt, hread]
    · obtain ⟨rfl, rfl⟩ := Prod.mk.inj (List.mem_singleton.mp hmem)
      exact List.getElem?_set_self hroom

theorem TableSafe.lt_length (h : s.TableSafe) {c : TcpConnection}
    (hc : s.worker.heap p = some c) : c.fd < s.worker.conns.length := by
  obtain ⟨hlt, -⟩ := List.getElem?_eq_some_iff.mp (h.stored p c hc)
  exact hlt

/-- **One event** keeps the table in order exactly when there is room for a new descriptor. -/
theorem keepsTable_iff (h : s.TableSafe) (hs : Step env s e s') :
    KeepsTable s e s' ↔ s.Fits e := by
  have hhandled {w : Worker} (hw : WorkerStep env s.worker e w)
      (he : ∀ fd p now, e ≠ .newConn fd p now) : KeepsTable s e (s.handled w) := by
    refine ⟨h.handled hw he, fun i n huses ↦ ?_⟩
    cases huses with
    | newConn => exact absurd rfl (he _ _ _)
    | read hlt => exact hlt
    | write hlt => exact hlt.2
    | rtcMsg _ hlt => exact hlt
    | close hc => exact h.lt_length hc
  cases hs with
  | @newConn fd p now hint hfd hp =>
    rw [Fits, ← lt_length_grownConns hint]
    refine ⟨fun hkeeps ↦ (h.newConn_iff hint hfd hp now).mp hkeeps.safe, fun hroom ↦ ?_⟩
    refine ⟨(h.newConn_iff hint hfd hp now).mpr hroom, fun i n huses ↦ ?_⟩
    cases huses with
    | newConn =>
      rw [conns_newConn, List.length_set]
      exact hroom
    | close hc => exact h.lt_length hc
  | read _ hw => exact iff_of_true (hhandled hw fun _ _ _ heq ↦ by cases heq) trivial
  | write hw => exact iff_of_true (hhandled hw fun _ _ _ heq ↦ by cases heq) trivial
  | timeout _ hw => exact iff_of_true (hhandled hw fun _ _ _ heq ↦ by cases heq) trivial
  | rtcMsg hw => exact iff_of_true (hhandled hw fun _ _ _ heq ↦ by cases heq) trivial

/-! ## Runs -/

/-- A worker without connections. -/
def init (connectionTimeout : ℕ) : WatchedWorker := { worker := { connectionTimeout } }

theorem tableSafe_init (connectionTimeout : ℕ) : (init connectionTimeout).TableSafe := by
  refine tableSafe_of_exact ⟨fun p c hc ↦ ?_, fun i p hi ↦ ?_⟩ fun p fd hmem ↦ ?_
  · cases hc
  · cases hi
  · cases hmem

/-- **The table of connections** is in order throughout a run, and all its indices are in range, if
and only if there is room for every new descriptor. -/
theorem alongTrace_keepsTable_iff (env : WorkerEnv) (connectionTimeout : ℕ)
    (tr : List (WorkerEvent × WatchedWorker))
    (h : AlongTrace (Step env) (init connectionTimeout) tr) :
    AlongTrace KeepsTable (init connectionTimeout) tr ↔
      AlongTrace (fun s e _ ↦ s.Fits e) (init connectionTimeout) tr := by
  refine alongTrace_iff (I := TableSafe) (R := Step env) (G := Fits) ?_ ?_ ?_ h
  · exact fun _ _ _ hs hstep ↦ keepsTable_iff hs hstep
  · exact fun _ _ _ hkeeps ↦ hkeeps.safe
  · exact tableSafe_init connectionTimeout

/-- A connection on descriptor 5, which fails at its first read. -/
def failingRead : List (WorkerEvent × WatchedWorker) :=
  let opened := (init 1000).newConn 5 100 0
  [(.newConn 5 100 0, opened), (.read 5 none 1, opened.handled (opened.worker.closeConn 100))]

theorem alongTrace_failingRead : AlongTrace KeepsTable (init 1000) failingRead := by
  have hclosed (p' : ℕ) (c : TcpConnection) (h : (init 1000).worker.heap p' = some c) :
      c.fd ≠ 5 := by cases h
  refine (alongTrace_keepsTable_iff pushEnv 1000 failingRead ⟨?_, ?_, trivial⟩).mpr
    ⟨.inr (by decide), trivial, trivial⟩
  · exact .newConn (by decide) hclosed rfl
  · refine .read ⟨100, List.mem_singleton_self _⟩ (.readError ?_)
    exact getConn_newConn_self _ (by decide) (by decide) 100 0

/-- The first connection is accepted on descriptor 0. -/
theorem not_alongTrace_keepsTable : ¬∀ (env : WorkerEnv) (connectionTimeout : ℕ)
    (tr : List (WorkerEvent × WatchedWorker)),
    AlongTrace (Step env) (init connectionTimeout) tr →
      AlongTrace KeepsTable (init connectionTimeout) tr := by
  intro h
  have hclosed (p' : ℕ) (c : TcpConnection) (h : (init 1000).worker.heap p' = some c) :
      c.fd ≠ 0 := by cases h
  have hkeeps := h pushEnv 1000 [(.newConn 0 100 0, (init 1000).newConn 0 100 0)]
    ⟨.newConn (by decide) hclosed rfl, trivial⟩
  exact absurd (hkeeps.1.inRange 0 0 .newConn) (Nat.lt_irrefl 0)

end WatchedWorker

end XrtcServer
