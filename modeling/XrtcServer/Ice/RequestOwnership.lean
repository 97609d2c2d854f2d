import XrtcServer.Ice.Frame

/-!
# Who owns a ping request

Every entry of a live connection's request map is a live request that names this connection as its
manager and its own transaction id as the key. So no two connections hold the same request, and no
connection holds one twice, which is what makes both destructors safe: `~StunRequest` finds its
manager alive and takes the right entry out, and `~StunRequestManager` destroys every request once.

The one place where this fails is the last statement of `check_response` after the connection has
destroyed itself.
-/

namespace XrtcServer

namespace World

variable {env : IceEnv} {w w' w'' : World} {c d : ConnId} {r : RequestId} {id : ByteString}
  {now : ℤ}

/-- The request `r` is alive and belongs to the entry `id` of connection `c`. -/
structure Owned (w : World) (c : ConnId) (id : ByteString) (r : RequestId) : Prop where
  live : w.requests.live r = true
  transactionId : (w.requests.cell r).msg.transactionId = id
  manager : (w.requests.cell r).manager = some c
  connection : (w.requests.cell r).connection = c
  type : (w.requests.cell r).msg.type = stunBindingRequest

def RequestsOwned (w : World) : Prop :=
  ∀ c, w.conns.live c = true → ∀ id r, (w.conn c).requests.lookup id = some r → Owned w c id r

theorem Owned.congr (h : Owned w c id r) (hr : w'.requests = w.requests) : Owned w' c id r := by
  refine ⟨?_, ?_, ?_, ?_, ?_⟩ <;> rw [hr]
  · exact h.live
  · exact h.transactionId
  · exact h.manager
  · exact h.connection
  · exact h.type

theorem SameRequests.requestsOwned (h : SameRequests w w') (hw : RequestsOwned w) :
    RequestsOwned w' := by
  intro c hc id r hr
  rw [h.live] at hc
  rw [h.connRequests] at hr
  exact (hw c hc id r hr).congr h.requests

theorem requestsOwned_init (component : IceCandidateComponent)
    (port : PortId → IceParameters × Candidate) : RequestsOwned (init component port) := by
  intro c hc
  cases hc

/-! ## Destroying a request

`~StunRequest` goes through the manager that the request points to. As long as the request is in the
list of a live connection, this is its own manager, and nothing is misused. -/

/-- Only requests and logs are different: nobody outside the request managers notices. -/
structure OnlyRequests (w w' : World) : Prop where
  live : w'.conns.live = w.conns.live
  next : w'.conns.next = w.conns.next
  port : w'.port = w.port
  controller : w'.controller = w.controller
  channel : w'.channel = w.channel

theorem OnlyRequests.refl (w : World) : OnlyRequests w w := ⟨rfl, rfl, rfl, rfl, rfl⟩

theorem OnlyRequests.trans (h : OnlyRequests w w') (h' : OnlyRequests w' w'') :
    OnlyRequests w w'' where
  live := h'.live.trans h.live
  next := h'.next.trans h.next
  port := h'.port.trans h.port
  controller := h'.controller.trans h.controller
  channel := h'.channel.trans h.channel

instance : IsPreorder World OnlyRequests where
  refl := .refl
  trans _ _ _ := .trans

theorem OnlyRequests.sameShape (h : OnlyRequests w w') : SameShape w w' where
  live := h.live
  next := h.next
  port := h.port
  connections := by rw [h.controller]
  selection := .inl ⟨by rw [h.controller], by rw [h.channel]⟩

theorem onlyRequests_modifyConn (w : World) (c : ConnId) (f : IceConnection → IceConnection) :
    OnlyRequests w (w.modifyConn c f) := ⟨rfl, rfl, rfl, rfl, rfl⟩

theorem onlyRequests_fault (w : World) (f : Fault) : OnlyRequests w (w.fault f) :=
  ⟨rfl, rfl, rfl, rfl, rfl⟩

theorem onlyRequests_deleteRequest (w : World) (r : RequestId) :
    OnlyRequests w (w.deleteRequest r) :=
  across_deleteRequest onlyRequests_fault (fun w c _ ↦ onlyRequests_modifyConn w c _)
    (fun _ _ ↦ ⟨rfl, rfl, rfl, rfl, rfl⟩) w r

theorem onlyRequests_destroyRequests (n : ℕ) (w : World) (c : ConnId) :
    OnlyRequests w (destroyRequests n w c) :=
  across_destroyRequests (fun w _ ↦ onlyRequests_modifyConn w c _) onlyRequests_deleteRequest n w

/-- A live request that leaves a live manager: nothing is misused. -/
theorem Owned.deleteRequest_eq (h : Owned w c id r) (hc : w.conns.live c = true) :
    w.deleteRequest r =
      { w.modifyConn c fun x ↦ { x with requests := x.requests.erase id } with
        requests := w.requests.free r } := by
  rw [deleteRequest, useRequest, if_pos h.live, leaveManager, h.manager]
  dsimp only
  rw [removeRequest, if_pos hc, h.transactionId]
  rfl

theorem lookup_requests_erase {d : ConnId} {k id : ByteString} {r : RequestId}
    (h : ((w.modifyConn c
      fun x ↦ { x with requests := x.requests.erase id }).conn d).requests.lookup k
      = some r) : (w.conn d).requests.lookup k = some r ∧ (d = c → k ≠ id) := by
  rw [conn, modifyConn] at h
  by_cases hd : d = c
  · subst hd
    rw [Arena.cell_modify_self] at h
    have hk : k ≠ id := by
      rintro rfl
      rw [AList.lookup_erase] at h
      cases h
    rw [AList.lookup_erase_ne hk] at h
    exact ⟨h, fun _ ↦ hk⟩
  · rw [Arena.cell_modify_of_ne hd] at h
    exact ⟨h, fun hdc ↦ absurd hdc hd⟩

/-- An entry that goes takes nobody else's request with it. -/
theorem RequestsOwned.modifyConn_erase (h : RequestsOwned w) :
    RequestsOwned (w.modifyConn c fun x ↦ { x with requests := x.requests.erase id }) := by
  intro d hd k r hk
  exact (h d hd k r (lookup_requests_erase hk).1).congr rfl

theorem RequestsOwned.deleteRequest (h : RequestsOwned w) (hr : Owned w c id r)
    (hc : w.conns.live c = true) : RequestsOwned (w.deleteRequest r) := by
  rw [hr.deleteRequest_eq hc]
  intro d hd k r' hk
  obtain ⟨hlookup, hne⟩ := lookup_requests_erase hk
  have hr' := h d hd k r' hlookup
  -- another entry holds another request: the manager or the key differs
  have hrr : r' ≠ r := by
    rintro rfl
    have hdc : d = c := Option.some.inj (hr'.manager.symm.trans hr.manager)
    exact hne hdc (hr'.transactionId.symm.trans hr.transactionId)
  exact { hr' with live := Arena.live_free_iff.mpr ⟨hrr, hr'.live⟩ }

theorem Owned.faults_deleteRequest (h : Owned w c id r) (hc : w.conns.live c = true) :
    (w.deleteRequest r).faults = w.faults := by
  rw [h.deleteRequest_eq hc]
  rfl

/-! ## Destroying a connection -/

/-- **The request manager's destructor.** It destroys each request once, under a live manager. -/
theorem RequestsOwned.destroyRequests (h : RequestsOwned w) (hc : w.conns.live c = true) (n : ℕ) :
    RequestsOwned (destroyRequests n w c) ∧ (World.destroyRequests n w c).faults = w.faults ∧
      (World.destroyRequests n w c).requests.cell = w.requests.cell := by
  induction n generalizing w with
  | zero => exact ⟨h, rfl, rfl⟩
  | succ n ih =>
    rw [World.destroyRequests]
    split
    · exact ⟨h, rfl, rfl⟩
    · next id r rest hentries =>
      have hlookup : (w.conn c).requests.lookup id = some r := by
        rw [AList.lookup, hentries]
        exact List.dlookup_cons_eq _ _ _
      have hr : Owned (w.modifyConn c fun x ↦ { x with requests := x.requests.erase id }) c id r :=
        (h c hc id r hlookup).congr rfl
      have hlive := (onlyRequests_deleteRequest
        (w.modifyConn c fun x ↦ { x with requests := x.requests.erase id }) r).live
      obtain ⟨howned, hfaults, hcell⟩ := ih (h.modifyConn_erase.deleteRequest hr hc)
        (by rw [hlive]; exact hc)
      refine ⟨howned, hfaults.trans (hr.faults_deleteRequest hc), hcell.trans ?_⟩
      rw [hr.deleteRequest_eq hc]
      rfl

theorem RequestsOwned.deleteConnection (h : RequestsOwned w) (hc : w.conns.live c = true) :
    RequestsOwned (w.deleteConnection c) ∧ (w.deleteConnection c).faults = w.faults ∧
      (w.deleteConnection c).requests.cell = w.requests.cell := by
  obtain ⟨howned, hfaults, hcell⟩ := h.destroyRequests hc (w.conn c).requests.entries.length
  refine ⟨?_, hfaults, hcell⟩
  intro d hd k r hk
  exact (howned d (Arena.live_free_iff.mp hd).2 k r hk).congr rfl

theorem sameRequests_removeFromController (w : World) (c : ConnId) :
    SameRequests w (w.removeFromController c) := ⟨rfl, rfl, rfl, rfl, fun _ ↦ rfl, rfl⟩

theorem sameRequests_switchSelectedConnection_none (w : World) :
    SameRequests w (w.switchSelectedConnection none) :=
  across_switchSelectedConnection ⟨rfl, rfl, rfl, rfl, fun _ ↦ rfl, rfl⟩
    (fun w c value ↦ (settles_modifyConn w c (f := fun x ↦ { x with selected := value })
      fun _ ↦ rfl).toSameRequests)
    fun _ _ ↦ ⟨rfl, rfl, rfl, rfl, fun _ ↦ rfl, rfl⟩

theorem sameRequests_onConnectionDestroyed (w : World) (c : ConnId) (now : ℤ) :
    SameRequests w (w.onConnectionDestroyed c now) :=
  across_onConnectionDestroyed (fun w ↦ sameRequests_removeFromController w c)
    sameRequests_switchSelectedConnection_none
    (fun w ↦ (settles_sortConnectionsAndUpdateState w now).toSameRequests)
    (fun w ↦ (settles_updateState w).toSameRequests) w

theorem sameRequests_failing (w : World) (c : ConnId) (now : ℤ) :
    SameRequests w ((w.setConnState c .failed).onConnectionDestroyed c now) :=
  (settles_setConnState w c .failed).toSameRequests.trans
    (sameRequests_onConnectionDestroyed _ c now)

/-! ## Making a request

A request is made, prepared and put under its transaction id. The old entry under that id, if there
is one, is overwritten, and its request is then in nobody's list; but no list has it twice. -/

theorem prepare_spec (w : World) (c : ConnId) (id : ByteString) :
    (w.prepare env c id).type = stunBindingRequest ∧
      (w.prepare env c id).transactionId = id := by
  have hfingerprint (msg : StunMessage) : (msg.addFingerprint env).type = msg.type ∧
      (msg.addFingerprint env).transactionId = msg.transactionId := by
    rw [StunMessage.addFingerprint]
    dsimp only
    split <;> exact ⟨rfl, rfl⟩
  have hintegrity (msg : StunMessage) (password : ByteString) :
      (msg.addMessageIntegrity env password).type = msg.type ∧
        (msg.addMessageIntegrity env password).transactionId = msg.transactionId := by
    rw [StunMessage.addMessageIntegrity]
    dsimp only
    split
    · exact ⟨rfl, rfl⟩
    · split_ifs <;> exact ⟨rfl, rfl⟩
  rw [prepare, (hfingerprint _).1, (hfingerprint _).2, (hintegrity _ _).1, (hintegrity _ _).2]
  exact ⟨rfl, rfl⟩

theorem requestsOwned_insert (request : StunRequest) (h : RequestsOwned w)
    (hid : request.msg.transactionId = id) (htype : request.msg.type = stunBindingRequest)
    (hmanager : request.manager = some c) (hconnection : request.connection = c) :
    RequestsOwned ({ w with requests := w.requests.alloc request }.modifyConn c fun x ↦
      { x with requests := x.requests.insert id w.requests.next }) := by
  -- what was owned stays owned, because the new request gets a fresh number
  have hold (d : ConnId) (hd : w.conns.live d = true) {k : ByteString} {r : RequestId}
      (hk : (w.conn d).requests.lookup k = some r) :
      Owned ({ w with requests := w.requests.alloc request }.modifyConn c fun x ↦
        { x with requests := x.requests.insert id w.requests.next }) d k r := by
    have hr := h d hd k r hk
    have hne := Arena.ne_next_of_live hr.live
    have hcell : (w.requests.alloc request).cell r = w.requests.cell r :=
      Arena.cell_alloc_of_ne hne
    refine ⟨Arena.live_alloc_iff.mpr (.inr hr.live), ?_, ?_, ?_, ?_⟩
    · exact (congrArg (·.msg.transactionId) hcell).trans hr.transactionId
    · exact (congrArg (·.manager) hcell).trans hr.manager
    · exact (congrArg (·.connection) hcell).trans hr.connection
    · exact (congrArg (·.msg.type) hcell).trans hr.type
  intro d hd k r hk
  rw [conn, modifyConn] at hk
  dsimp only at hk
  by_cases hdc : d = c
  · subst hdc
    rw [Arena.cell_modify_self] at hk
    by_cases hkid : k = id
    · subst hkid
      rw [AList.lookup_insert] at hk
      obtain rfl := Option.some.inj hk
      have hcell : (w.requests.alloc request).cell w.requests.next = request :=
        Arena.cell_alloc_next
      refine ⟨Arena.live_alloc_next, ?_, ?_, ?_, ?_⟩
      · exact (congrArg (·.msg.transactionId) hcell).trans hid
      · exact (congrArg (·.manager) hcell).trans hmanager
      · exact (congrArg (·.connection) hcell).trans hconnection
      · exact (congrArg (·.msg.type) hcell).trans htype
    · rw [AList.lookup_insert_ne hkid] at hk
      exact hold d hd hk
  · rw [Arena.cell_modify_of_ne hdc] at hk
    exact hold d hd hk

theorem RequestsOwned.sendRequest (env : IceEnv) (h : RequestsOwned w) (c : ConnId)
    (id : ByteString) (now : ℤ) :
    RequestsOwned (w.sendRequest env c id now) := by
  have hinsert := requestsOwned_insert ⟨w.prepare env c id, some c, c, now⟩ h
    (prepare_spec w c id).2 (prepare_spec w c id).1 rfl rfl
  rw [World.sendRequest]
  split
  · exact hinsert
  · exact (settles_sendTo _ _ _ _).toSameRequests.requestsOwned hinsert

theorem onlyRequests_sendRequest (w : World) (c : ConnId) (id : ByteString) (now : ℤ) :
    OnlyRequests w (w.sendRequest env c id now) := by
  rw [World.sendRequest]
  split <;> exact ⟨rfl, rfl, rfl, rfl, rfl⟩

theorem RequestsOwned.ping (env : IceEnv) (h : RequestsOwned w) (c : ConnId) (id : ByteString)
    (now : ℤ) :
    RequestsOwned (w.ping env c id now) := by
  rw [World.ping]
  split_ifs with hc
  · have hsent := ((settles_modifyConn w c (f := fun x ↦ { x with
        lastPingSent := now
        pingsSinceLastResponse := x.pingsSinceLastResponse ++ [⟨id, now⟩] })
      fun _ ↦ rfl).toSameRequests.requestsOwned h).sendRequest env c id now
    have hstate := (settles_setConnState _ c .inProgress).toSameRequests.requestsOwned hsent
    exact (settles_modifyConn _ c (by exact fun _ ↦ rfl)).toSameRequests.requestsOwned hstate
  · exact fun d hd k r hk ↦ (h d hd k r hk).congr rfl

theorem onlyRequests_ping (env : IceEnv) (w : World) (c : ConnId) (id : ByteString) (now : ℤ) :
    OnlyRequests w (w.ping env c id now) :=
  across_ping (onlyRequests_modifyConn w c _) (fun _ w ↦ onlyRequests_sendRequest w c id now)
    (fun w ↦ onlyRequests_modifyConn w c _) (fun w ↦ onlyRequests_modifyConn w c _)
    (onlyRequests_fault w _)

end World

end XrtcServer
