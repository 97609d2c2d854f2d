import XrtcServer.Ice.Destruction
import XrtcServer.Lib.SignalLog

/-!
# What the handlers can bring about

`Settles` says what the handlers leave alone. `Traced` is about the rest, with the misuse of
destroyed objects included: which connections can become able to send, inside the signals as well,
which requests can be made, that the address maps stay true to the connections, and that no change
of the state shown to the owner goes without a signal.

## Two parameters

The connections with a valid response and the pings that were sent are parameters; every function
is traced for any values of them that it does not touch. So there is one relation for all handlers,
and what an event may bring about is said by the values that it is traced with. It is a relation in
the sense of `Ice/Calls.lean` for each pair of values, and a function that only calls others needs
no argument of its own.
-/

namespace XrtcServer

open SignalLog

namespace World

/-- What `ready_to_send` asks of the connection `c`. -/
def CanSend (conns : Arena IceConnection) (c : ConnId) : Prop :=
  (conns.cell c).writeState.toNat ≤ 1

instance (conns : Arena IceConnection) (c : ConnId) : Decidable (CanSend conns c) :=
  inferInstanceAs (Decidable (_ ≤ _))

/-- An entry of an address map was made for the port and the address of its connection. -/
def EntriesOk (w : World) : Prop :=
  ∀ p addr c, w.getConnection p addr = some c →
    c < w.conns.next ∧ (w.conn c).port = p ∧ (w.conn c).remoteCandidate.address = addr

/-- The signal tells of a new state of the channel, which is never that it is closed. -/
def TellsState (s : SentSignal) : Prop := s.signal = .iceStateChanged ∧ s.channel.state ≠ .closed

/-- Connections become able to send only by `valid`, and requests are made only by `pinged`. -/
structure Traced (valid : ConnId → Prop) (pinged : ConnId → ByteString → Prop) (w w' : World) :
    Prop where
  canSend : ∀ c, CanSend w'.conns c → CanSend w.conns c ∨ valid c
  signals : ∀ s ∈ w'.signals, s ∈ w.signals ∨ ∀ c, CanSend s.conns c → CanSend w.conns c ∨ valid c
  requests : ∀ c id, w'.conns.live c = true → id ∈ (w'.conn c).requests →
    (w.conns.live c = true ∧ id ∈ (w.conn c).requests) ∨ pinged c id
  entries : EntriesOk w → EntriesOk w'
  faults : w.faults.length ≤ w'.faults.length
  announced : ∃ new, w'.signals = w.signals ++ new ∧
    Announced TellsState (fun s ↦ s.channel.state) w.channel.state new w'.channel.state

variable {valid : ConnId → Prop} {pinged : ConnId → ByteString → Prop} {env : IceEnv}
  {w w' w'' : World} {c : ConnId} {now : ℤ}

theorem Traced.refl (w : World) : Traced valid pinged w w where
  canSend _ h := .inl h
  signals _ h := .inl h
  requests _ _ hlive hid := .inl ⟨hlive, hid⟩
  entries h := h
  faults := le_rfl
  announced := ⟨[], (List.append_nil _).symm, .refl _⟩

theorem Traced.trans (h : Traced valid pinged w w') (h' : Traced valid pinged w' w'') :
    Traced valid pinged w w'' where
  canSend c hc := (h'.canSend c hc).elim (h.canSend c) .inr
  signals s hs := by
    rcases h'.signals s hs with hs | hs
    · exact h.signals s hs
    · exact .inr fun c hc ↦ (hs c hc).elim (h.canSend c) .inr
  requests c id hlive hid := by
    rcases h'.requests c id hlive hid with ⟨hlive, hid⟩ | hpinged
    · exact h.requests c id hlive hid
    · exact .inr hpinged
  entries he := h'.entries (h.entries he)
  faults := h.faults.trans h'.faults
  announced := by
    obtain ⟨new, hnew, hannounced⟩ := h.announced
    obtain ⟨new', hnew', hannounced'⟩ := h'.announced
    exact ⟨new ++ new', by rw [hnew', hnew, List.append_assoc], hannounced.append hannounced'⟩

instance : IsPreorder World (Traced valid pinged) where
  refl := .refl
  trans _ _ _ := .trans

/-! ## Assignments

Most functions of the channel assign to fields that `Traced` does not look at. What is left are the
write state, the requests, the address maps and the state that is shown, and each of them is written
in one place. -/

/-- Assignments that do not reach the connections, the ports, the state shown or the signals. -/
theorem Traced.of_eq (hconns : w'.conns = w.conns) (hport : w'.port = w.port)
    (hstate : w'.channel.state = w.channel.state) (hsignals : w'.signals = w.signals)
    (hfaults : w.faults.length ≤ w'.faults.length) :
    Traced valid pinged w w' where
  canSend c hc := .inl (hconns ▸ hc)
  signals s hs := .inl (hsignals ▸ hs)
  requests c id hlive hid := by
    rw [conn, hconns] at hid
    rw [hconns] at hlive
    exact .inl ⟨hlive, hid⟩
  entries he := by
    intro p addr c hc
    rw [getConnection, hport] at hc
    rw [conn, hconns]
    exact he p addr c hc
  faults := hfaults
  announced := ⟨[], by rw [hsignals, List.append_nil], hstate.symm⟩

/-- An assignment to fields of one connection, neither its port nor its address. -/
theorem traced_modifyConn (w : World) (c : ConnId) {f : IceConnection → IceConnection}
    (hplace : ∀ x, (f x).port = x.port ∧
      (f x).remoteCandidate.address = x.remoteCandidate.address)
    (hwrite : (f (w.conn c)).writeState.toNat ≤ 1 → CanSend w.conns c ∨ valid c)
    (hrequests : ∀ id ∈ (f (w.conn c)).requests, id ∈ (w.conn c).requests ∨ pinged c id) :
    Traced valid pinged w (w.modifyConn c f) where
  canSend d hd := by
    by_cases hdc : d = c
    · subst hdc
      rw [CanSend, modifyConn, Arena.cell_modify_self] at hd
      exact hwrite hd
    · rw [CanSend, modifyConn, Arena.cell_modify_of_ne hdc] at hd
      exact .inl hd
  signals s hs := .inl hs
  requests d id hlive hid := by
    by_cases hdc : d = c
    · subst hdc
      rw [conn, modifyConn, Arena.cell_modify_self] at hid
      exact (hrequests id hid).imp_left fun hid ↦ ⟨hlive, hid⟩
    · rw [conn, modifyConn, Arena.cell_modify_of_ne hdc] at hid
      exact .inl ⟨hlive, hid⟩
  entries he := by
    intro p addr d hd
    obtain ⟨hnext, hport, haddr⟩ := he p addr d hd
    refine ⟨hnext, ?_, ?_⟩
    · exact (Arena.proj_cell_modify (fun x ↦ (hplace x).1) c d).trans hport
    · exact (Arena.proj_cell_modify (p := fun x ↦ x.remoteCandidate.address)
        (fun x ↦ (hplace x).2) c d).trans haddr
  faults := le_rfl
  announced := ⟨[], (List.append_nil _).symm, rfl⟩

theorem traced_assign (w : World) (c : ConnId) {f : IceConnection → IceConnection}
    (hf : ∀ x, (f x).port = x.port ∧ (f x).remoteCandidate.address = x.remoteCandidate.address ∧
      (f x).writeState = x.writeState ∧ (f x).requests = x.requests) :
    Traced valid pinged w (w.modifyConn c f) := by
  refine traced_modifyConn w c (fun x ↦ ⟨(hf x).1, (hf x).2.1⟩) ?_ ?_
  · rw [(hf _).2.2.1]
    exact .inl
  · rw [(hf _).2.2.2]
    exact fun id hid ↦ .inl hid

theorem traced_free (w : World) (c : ConnId) :
    Traced valid pinged w { w with conns := w.conns.free c } where
  canSend _ h := .inl h
  signals _ h := .inl h
  requests _ _ hlive hid := .inl ⟨(Arena.live_free_iff.mp hlive).2, hid⟩
  entries h := h
  faults := le_rfl
  announced := ⟨[], (List.append_nil _).symm, rfl⟩

theorem traced_signal (w : World) (s : ChannelSignal) : Traced valid pinged w (w.signal s) where
  canSend _ h := .inl h
  signals s' hs := by
    rcases List.mem_append.mp hs with hs | hs
    · exact .inl hs
    · obtain rfl := List.mem_singleton.mp hs
      exact .inr fun _ ↦ .inl
  requests _ _ hlive hid := .inl ⟨hlive, hid⟩
  entries h := h
  faults := le_rfl
  announced := ⟨[⟨s, w.channel, w.conns⟩], rfl, .singleton (.inl rfl)⟩

theorem Traced.signal (h : Traced valid pinged w w') (s : ChannelSignal) :
    Traced valid pinged w (w'.signal s) := h.trans (traced_signal w' s)

theorem traced_setChannel (w : World) (channel : IceTransportChannel)
    (hstate : channel.state = w.channel.state) :
    Traced valid pinged w { w with channel } := .of_eq rfl rfl hstate rfl le_rfl

theorem traced_fault (w : World) (f : Fault) : Traced valid pinged w (w.fault f) := by
  refine .of_eq rfl rfl rfl rfl ?_
  rw [fault, List.length_append]
  exact Nat.le_add_right ..

theorem traced_sendTo (w : World) (p : PortId) (data : ByteString) (addr : SocketAddress) :
    Traced valid pinged w (w.sendTo p data addr) := .of_eq rfl rfl rfl rfl le_rfl

/-! ## The channel -/

theorem computeIceTransportState_ne_closed (w : World) :
    w.computeIceTransportState ≠ .closed := by
  rw [computeIceTransportState]
  split_ifs <;> decide

/-- Only the assignment to the state shown is announced. -/
theorem traced_updateState (w : World) : Traced valid pinged w w.updateState := by
  refine across_updateState (fun w ↦ traced_setChannel w _ rfl)
    (fun w writable ↦ (traced_setChannel w { w.channel with writable } rfl).signal _)
    (fun w receiving ↦ (traced_setChannel w { w.channel with receiving } rfl).signal _)
    (fun w ↦ ?_) w
  set w₁ : World :=
    { w with channel := { w.channel with state := w.computeIceTransportState } } with hw₁
  have hsignal : Traced valid pinged w₁ (w₁.signal .iceStateChanged) := traced_signal w₁ _
  exact { canSend := hsignal.canSend, signals := hsignal.signals, requests := hsignal.requests
          entries := hsignal.entries, faults := hsignal.faults
          announced := ⟨_, rfl, .singleton (.inr ⟨rfl, computeIceTransportState_ne_closed w⟩)⟩ }

theorem traced_switchSelectedConnection (w : World) (conn : Option ConnId) :
    Traced valid pinged w (w.switchSelectedConnection conn) :=
  across_switchSelectedConnection (traced_setChannel w _ rfl)
    (fun w c _ ↦ traced_assign w c fun _ ↦ ⟨rfl, rfl, rfl, rfl⟩)
    fun _ _ ↦ .of_eq rfl rfl rfl rfl le_rfl

theorem traced_sortConnectionsAndUpdateState (w : World) (now : ℤ) :
    Traced valid pinged w (w.sortConnectionsAndUpdateState now) :=
  across_sortConnectionsAndUpdateState (.of_eq rfl rfl rfl rfl le_rfl)
    (fun t _ ↦ traced_switchSelectedConnection _ (some t)) traced_updateState
    fun _ ↦ across_maybeStartPinging fun _ ↦ .of_eq rfl rfl rfl rfl le_rfl

theorem traced_addConnection (w : World) (c : ConnId) :
    Traced valid pinged w (w.addConnection env c) := .of_eq rfl rfl rfl rfl le_rfl

theorem traced_onConnectionDestroyed (w : World) (c : ConnId) (now : ℤ) :
    Traced valid pinged w (w.onConnectionDestroyed c now) :=
  across_onConnectionDestroyed (fun _ ↦ .of_eq rfl rfl rfl rfl le_rfl)
    (fun w ↦ traced_switchSelectedConnection w none)
    (fun w ↦ traced_sortConnectionsAndUpdateState w now) traced_updateState w

/-! ## The connections -/

theorem traced_setConnState (w : World) (c : ConnId) (state : IceCandidatePairState) :
    Traced valid pinged w (w.setConnState c state) := traced_assign w c fun _ ↦ ⟨rfl, rfl, rfl, rfl⟩

/-- The one assignment that can make a connection able to send. -/
theorem traced_setWriteState (w : World) (c : ConnId) (state : WriteState) (now : ℤ)
    (h : state.toNat ≤ 1 → CanSend w.conns c ∨ valid c) :
    Traced valid pinged w (w.setWriteState c state now) :=
  across_setWriteState (traced_modifyConn w c (fun _ ↦ ⟨rfl, rfl⟩) h fun _ ↦ .inl)
    fun w ↦ traced_sortConnectionsAndUpdateState w now

theorem traced_updateReceiving (w : World) (c : ConnId) (now : ℤ) :
    Traced valid pinged w (w.updateReceiving c now) :=
  across_updateReceiving (fun _ ↦ traced_assign w c fun _ ↦ ⟨rfl, rfl, rfl, rfl⟩)
    fun w ↦ traced_sortConnectionsAndUpdateState w now

theorem traced_receivedPingResponse (w : World) (c : ConnId) (rtt now : ℤ) (hc : valid c) :
    Traced valid pinged w (w.receivedPingResponse env c rtt now) :=
  across_receivedPingResponse (traced_assign w c fun _ ↦ ⟨rfl, rfl, rfl, rfl⟩)
    (fun w ↦ traced_updateReceiving w c now)
    (fun w ↦ traced_setWriteState w c .writable now fun _ ↦ .inr hc)
    fun w ↦ traced_setConnState w c .succeeded

theorem traced_updateConnState (w : World) (c : ConnId) (now : ℤ) :
    Traced valid pinged w (w.updateConnState c now) := by
  refine across_updateConnState (fun hwritable ↦ ?_) (fun w ↦ ?_)
    fun w ↦ traced_updateReceiving w c now
  · -- a connection that turns unreliable was writable
    refine traced_setWriteState w c _ now fun _ ↦ .inl ?_
    rw [CanSend, ← conn, hwritable]
    decide
  · exact traced_setWriteState w c .writeTimeout now fun h ↦ absurd h (by decide)

/-! ## Requests and their manager -/

theorem traced_modifyConn_erase (w : World) (c : ConnId) (id : ByteString) :
    Traced valid pinged w (w.modifyConn c fun x ↦ { x with requests := x.requests.erase id }) := by
  refine traced_modifyConn w c (fun _ ↦ ⟨rfl, rfl⟩) .inl fun k hk ↦ .inl ?_
  exact (AList.mem_erase.mp hk).2

theorem traced_deleteRequest (w : World) (r : RequestId) :
    Traced valid pinged w (w.deleteRequest r) :=
  across_deleteRequest traced_fault traced_modifyConn_erase
    (fun _ _ ↦ .of_eq rfl rfl rfl rfl le_rfl) w r

theorem traced_failAndDestroy (w : World) (c : ConnId) (now : ℤ) :
    Traced valid pinged w (w.failAndDestroy c now) :=
  across_failAndDestroy (fun w ↦ traced_setConnState w c .failed)
    (fun w ↦ traced_onConnectionDestroyed w c now)
    (across_destroyRequests (fun w id ↦ traced_modifyConn_erase w c id) traced_deleteRequest)
    (fun w ↦ traced_free w c) w

/-- A response makes the connection it is for able to send, if it is a success response. -/
theorem traced_checkResponse (h : RequestsOwned w) (hc : w.conns.live c = true) (msg : StunMessage)
    (now : ℤ) (hvalid : msg.type = stunBindingResponse →
      msg.transactionId ∈ (w.conn c).requests → valid c) :
    Traced valid pinged w (w.checkResponse env c msg now).1 := by
  have houtcome := responseOutcome_checkResponse env now msg h hc
  generalize (w.checkResponse env c msg now).1 = w' at houtcome ⊢
  cases houtcome with
  | unknown hl => exact .refl w
  | success r hl htype =>
    have hmem : msg.transactionId ∈ (w.conn c).requests :=
      AList.lookup_isSome.mp (by rw [hl]; rfl)
    refine Traced.trans ?_ (traced_deleteRequest _ r)
    exact traced_receivedPingResponse w c _ now (hvalid htype hmem)
  | dropped r hl htype hf => exact traced_deleteRequest w r
  | fatal r hl hf => exact (traced_failAndDestroy w c now).trans (traced_deleteRequest _ r)

theorem traced_sendRequest (w : World) (c : ConnId) (id : ByteString) (now : ℤ)
    (hpinged : pinged c id) : Traced valid pinged w (w.sendRequest env c id now) := by
  have hinsert (w : World) (r : RequestId) : Traced valid pinged w
      (w.modifyConn c fun x ↦ { x with requests := x.requests.insert id r }) := by
    refine traced_modifyConn w c (fun _ ↦ ⟨rfl, rfl⟩) .inl fun k hk ↦ ?_
    rcases (AList.mem_insert _).mp hk with rfl | hk
    · exact .inr hpinged
    · exact .inl hk
  exact across_sendRequest (fun _ _ ↦ .of_eq rfl rfl rfl rfl le_rfl) hinsert traced_sendTo w

theorem traced_ping (w : World) (c : ConnId) (id : ByteString) (now : ℤ)
    (hpinged : w.conns.live c = true → pinged c id) :
    Traced valid pinged w (w.ping env c id now) :=
  across_ping (traced_assign w c fun _ ↦ ⟨rfl, rfl, rfl, rfl⟩)
    (fun hc w ↦ traced_sendRequest w c id now (hpinged hc))
    (fun w ↦ traced_setConnState w c .inProgress)
    (fun w ↦ traced_assign w c fun _ ↦ ⟨rfl, rfl, rfl, rfl⟩) (traced_fault w _)

/-! ## The ports -/

/-- A new connection cannot send yet, and has sent nothing. -/
theorem traced_createConnection (w : World) (p : PortId) (candidate : Candidate) :
    Traced valid pinged w (w.createConnection p candidate).1 where
  canSend c hc := by
    rw [CanSend, createConnection] at hc
    dsimp only at hc
    by_cases hnew : c = w.conns.next
    · rw [hnew, Arena.cell_alloc_next] at hc
      exact absurd (show 2 ≤ 1 from hc) (by decide)
    · rw [Arena.cell_alloc_of_ne hnew] at hc
      exact .inl hc
  signals s hs := .inl hs
  requests c id hlive hid := by
    rw [createConnection] at hlive
    rw [conn, createConnection] at hid
    dsimp only at hlive hid
    by_cases hnew : c = w.conns.next
    · rw [hnew, Arena.cell_alloc_next] at hid
      exact absurd hid (AList.notMem_empty id)
    · rw [Arena.cell_alloc_of_ne hnew] at hid
      rw [Arena.live_alloc_of_ne hnew] at hlive
      exact .inl ⟨hlive, hid⟩
  entries he := by
    have hold (q : PortId) (addr : SocketAddress) (c : ConnId)
        (hc : w.getConnection q addr = some c) : c < w.conns.next + 1 ∧
        ((w.createConnection p candidate).1.conn c).port = q ∧
        ((w.createConnection p candidate).1.conn c).remoteCandidate.address = addr := by
      obtain ⟨hlt, hport, haddr⟩ := he q addr c hc
      have hcell : (w.createConnection p candidate).1.conn c = w.conn c :=
        Arena.cell_alloc_of_ne (Nat.ne_of_lt hlt)
      rw [hcell]
      exact ⟨Nat.lt_succ_of_lt hlt, hport, haddr⟩
    intro q addr c hc
    rw [getConnection, createConnection] at hc
    dsimp only at hc
    by_cases hq : q = p
    · subst hq
      rw [Function.update_self] at hc
      dsimp only at hc
      by_cases ha : addr = candidate.address
      · rw [ha, Function.update_self] at hc
        obtain rfl := Option.some.inj hc
        have hcell : (w.createConnection q candidate).1.conn w.conns.next =
            { port := q, remoteCandidate := candidate } := Arena.cell_alloc_next
        rw [hcell, ha]
        exact ⟨Nat.lt_succ_self _, rfl, rfl⟩
      · rw [Function.update_of_ne ha] at hc
        exact hold q addr c hc
    · rw [Function.update_of_ne hq] at hc
      exact hold q addr c hc
  faults := le_rfl
  announced := ⟨[], (List.append_nil _).symm, rfl⟩

theorem traced_onConnReadPacket (h : RequestsOwned w) (c : ConnId) (data : ByteString) (ts now : ℤ)
    (hvalid : ∀ msg remoteUfrag, w.conns.live c = true →
      w.stunVerdict env (w.conn c).port data = .accepted msg remoteUfrag →
      msg.type = stunBindingResponse →
      (msg.validateMessageIntegrity env (w.conn c).remoteCandidate.password).integrity
        = .integrityOk → msg.transactionId ∈ (w.conn c).requests → valid c) :
    Traced valid pinged w (w.onConnReadPacket env c data ts now) :=
  across_onConnReadPacket (traced_sendTo w) (traced_signal w _)
    (fun msg remoteUfrag hc hv ↦ across_onStunMessage (traced_sendTo w)
      (fun hok ↦ traced_checkResponse h hc _ now fun htype hid ↦
        hvalid msg remoteUfrag hc hv htype hok hid) remoteUfrag)
    (traced_fault w _)

theorem traced_onUnknownAddress (w : World) (p : PortId) (addr : SocketAddress) (msg : StunMessage)
    (remoteUfrag : ByteString) (now : ℤ) :
    Traced valid pinged w (w.onUnknownAddress env p addr msg remoteUfrag now) := by
  rw [onUnknownAddress]
  split
  · exact .refl w
  · refine Traced.trans ?_ (traced_sortConnectionsAndUpdateState _ now)
    refine Traced.trans ?_ (across_handleStunBindingRequest (traced_sendTo _) _ msg)
    exact (traced_createConnection w p _).trans (traced_addConnection _ _)

/-! ## Events

Here the parameters get their values: a datagram makes `valid` the connection it authenticates a
response for, and a tick makes `pinged` the ping that it sends. -/

/-- The datagram `e` is from the address of `c`, and is an authenticated message for it. -/
structure Authenticated (env : IceEnv) (w : World) (e : IceEvent) (c : ConnId) (msg : StunMessage) :
    Prop where
  received : ∃ p addr data ts now remoteUfrag, e = .datagram p addr data ts now ∧
    w.getConnection p addr = some c ∧
      w.stunVerdict env (w.conn c).port data = .accepted msg remoteUfrag
  live : w.conns.live c = true
  integrity :
    (msg.validateMessageIntegrity env (w.conn c).remoteCandidate.password).integrity = .integrityOk

/-- The connection `_on_check_and_ping` calls `ping` on. -/
def connectionToPing (env : IceEnv) (w : World) (now : ℤ) : Option ConnId :=
  let w := w.updateConnectionStates now
  (w.selectConnectionToPing env (w.channel.lastPingSentMs - pingIntervalDiff) now).2.1

/-- The tick `e` sends a ping of `c` with the transaction id `id`. -/
def SendsPing (env : IceEnv) (w : World) (e : IceEvent) (c : ConnId) (id : ByteString) : Prop :=
  ∃ now, e = .checkAndPing id now ∧ w.connectionToPing env now = some c ∧ w.conns.live c = true

theorem traced_onCheckAndPing (w : World) (id : ByteString) (now : ℤ)
    (hpinged : ∀ c, w.connectionToPing env now = some c → w.conns.live c = true → pinged c id) :
    Traced valid pinged w (w.onCheckAndPing env id now) := by
  rw [connectionToPing] at hpinged
  have hupdate : Traced valid pinged w (w.updateConnectionStates now) :=
    across_foldl (fun w c ↦ traced_updateConnState w c now) _ w
  have hlive := (settles_updateConnectionStates w now).live
  have hselect : Traced valid pinged (w.updateConnectionStates now)
      ((w.updateConnectionStates now).selectConnectionToPing env
        ((w.updateConnectionStates now).channel.lastPingSentMs - pingIntervalDiff) now).1 :=
    across_selectConnectionToPing (.of_eq rfl rfl rfl rfl le_rfl) _
  have hlive' := (settles_selectConnectionToPing env (w.updateConnectionStates now)
    ((w.updateConnectionStates now).channel.lastPingSentMs - pingIntervalDiff) now).live
  rw [onCheckAndPing]
  rcases hresult : (w.updateConnectionStates now).selectConnectionToPing env
    ((w.updateConnectionStates now).channel.lastPingSentMs - pingIntervalDiff) now
    with ⟨w₁, conn, pingInterval⟩
  rw [hresult] at hselect hpinged hlive'
  dsimp only at hselect hpinged hlive' ⊢
  refine (hupdate.trans hselect).trans ?_
  refine Traced.trans ?_
    (across_setPingInterval (fun _ _ ↦ .of_eq rfl rfl rfl rfl le_rfl) pingInterval)
  refine across_pingConnection (traced_setChannel w₁ _ rfl) (fun c hc ↦ ?_)
    fun _ _ _ _ ↦ .of_eq rfl rfl rfl rfl le_rfl
  exact traced_ping _ c id now fun hlive₁ ↦ hpinged c hc (by rw [← hlive, ← hlive']; exact hlive₁)

theorem traced_setRemoteIceParams (w : World) (iceParams : IceParameters) (now : ℤ) :
    Traced valid pinged w (w.setRemoteIceParams iceParams now) := by
  have hone (x : IceConnection) : (x.maybeSetRemoteIceParams iceParams).port = x.port ∧
      (x.maybeSetRemoteIceParams iceParams).remoteCandidate.address = x.remoteCandidate.address ∧
      (x.maybeSetRemoteIceParams iceParams).writeState = x.writeState ∧
      (x.maybeSetRemoteIceParams iceParams).requests = x.requests := by
    rw [IceConnection.maybeSetRemoteIceParams]
    split_ifs <;> exact ⟨rfl, rfl, rfl, rfl⟩
  exact across_setRemoteIceParams (traced_setChannel w _ rfl) (fun w c ↦ traced_assign w c hone)
    fun w ↦ traced_sortConnectionsAndUpdateState w now

/-- **Events.** Connections become able to send by a response to a request they have made, and make
requests by pinging. -/
theorem traced_step (env : IceEnv) (h : RequestsOwned w) (e : IceEvent) :
    Traced (fun c ↦ ∃ msg, w.Authenticated env e c msg ∧ msg.type = stunBindingResponse ∧
        msg.transactionId ∈ (w.conn c).requests)
      (w.SendsPing env e) w (w.step env e) := by
  cases e with
  | datagram p addr data ts now =>
    refine across_onReadPacket (fun c hconn ↦ ?_) (fun _ ↦ traced_sendTo w _ _ _)
      fun msg remoteUfrag ↦ traced_onUnknownAddress w p addr msg remoteUfrag now
    exact traced_onConnReadPacket h c data ts now fun msg remoteUfrag hc hv htype hok hid ↦
      ⟨msg, ⟨⟨p, addr, data, ts, now, remoteUfrag, rfl, hconn, hv⟩, hc, hok⟩, htype, hid⟩
  | setRemoteIceParams iceParams now => exact traced_setRemoteIceParams w iceParams now
  | checkAndPing id now =>
    exact traced_onCheckAndPing w id now fun c hping hc ↦ ⟨now, rfl, hping, hc⟩
  | sendPacket data => exact across_sendPacket (traced_sendTo w) data

end World

end XrtcServer
