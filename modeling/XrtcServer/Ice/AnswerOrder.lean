import XrtcServer.Ice.Selection
import XrtcServer.Ice.SignedAttributes

/-!
# The request or the answer first

A peer sends its answer and its connectivity checks at the same time, and either may come first. If
the answer is first, `_on_unknown_address` gives the new connection the password of the answer,
whoever the request is from. If the request is first, the connection gets whatever password there is
so far, and `maybe_set_remote_ice_params` fills in that of the answer only if the user names agree
and there was none.

## The passwords

The two orders give the connection the same password exactly if these rules do, and that is a
condition on the user name of the request, the credentials of the answer and those the channel had
before. It is the only difference: everything else of the connection comes out the same.

## The selection

Each of the two handlers ends with a round of sorting, and whether a connection is pingable depends
on the selection through `weak()`. The rounds see different lists: after the request alone the new
connection is there, after the answer alone it is not. A sort is therefore described by the keys of
the comparator alone (`Chosen`), and the round in between proposes nothing that the last one would
not, because a new connection cannot send and so hides none that can.
-/

namespace XrtcServer

open EventRun ByteString StableSort World

namespace World

/-! ## What a sort chooses

`Chosen` forgets the list after the sort and keeps the choice: the least connection, if it can send
and beats the selected one by the margin. It depends on the keys and on which connections are in the
list, not on their order; and of two lists with the same least connections among those that can send
it chooses the same. -/

/-- The key of the comparator. -/
abbrev Rank : Type := ℕ ×ₗ ℕ ×ₗ ℤ ×ₗ ℤ

namespace Rank

variable (k : Rank)

def writeState : ℕ := (ofLex k).1

def rtt : ℤ := (ofLex (ofLex (ofLex k).2).2).2

/-- `weak()` of a connection with this key. -/
def weak : Bool := !(k.writeState = 0 && (ofLex (ofLex k).2).1 = 0)

/-- `ready_to_send` of a connection with this key. -/
def Ready : Prop := k.writeState ≤ 1

end Rank

variable {env : IceEnv} {w w' : World} {c d t : ConnId} {now : ℤ}

section choice

variable {r r' : ConnId → Rank} {l l' : List ConnId} {s s' s'' : Option ConnId}

def Least (r : ConnId → Rank) (l : List ConnId) (t : ConnId) : Prop := t ∈ l ∧ ∀ u ∈ l, r t ≤ r u

/-- A connection of this rank beats the selected one by the margin. -/
def Beats (r : ConnId → Rank) (s : Option ConnId) (t : ConnId) : Prop :=
  ∀ u, s = some u → (r t).rtt ≤ (r u).rtt - kMinImprovement

/-- A sort of `l` changes the selection from `s` to `s'`. -/
inductive Chosen (r : ConnId → Rank) (l : List ConnId) (s s' : Option ConnId) : Prop
  | switch (t : ConnId) (hleast : Least r l t) (hready : (r t).Ready) (hbeats : Beats r s t)
      (heq : s' = some t)
  | stay (hnone : ∀ t, Least r l t → (r t).Ready → ¬Beats r s t) (heq : s' = s)

theorem Chosen.congr (h : Chosen r l s s') (hl : ∀ u ∈ l, r' u = r u)
    (hs : ∀ u, s = some u → r' u = r u) (hperm : ∀ u, u ∈ l' ↔ u ∈ l) : Chosen r' l' s s' := by
  have hleast (t : ConnId) : Least r' l' t ↔ Least r l t := by
    rw [Least, Least, hperm]
    refine and_congr_right fun ht ↦ forall_congr' fun u ↦ ?_
    rw [hperm]
    exact forall_congr' fun hu ↦ by rw [hl t ht, hl u hu]
  have hbeats (t : ConnId) (ht : t ∈ l) : Beats r' s t ↔ Beats r s t :=
    forall_congr' fun u ↦ forall_congr' fun hu ↦ by rw [hl t ht, hs u hu]
  cases h with
  | switch t ht hready hb heq =>
    exact .switch t ((hleast t).mpr ht) (hl t ht.1 ▸ hready) ((hbeats t ht.1).mpr hb) heq
  | stay hnone heq =>
    refine .stay (fun t ht hready hb ↦ ?_) heq
    have ht' := (hleast t).mp ht
    exact hnone t ht' (hl t ht'.1 ▸ hready) ((hbeats t ht'.1).mp hb)

/-- Among the connections that can send, the two lists have the same least ones. -/
def SameReady (r : ConnId → Rank) (l l' : List ConnId) : Prop :=
  ∀ t, (r t).Ready → (Least r l t ↔ Least r l' t)

/-- A connection that cannot send does not hide one that can. -/
theorem sameReady_append (hc : (r c).writeState = 2) (l : List ConnId) :
    SameReady r (l ++ [c]) l := by
  intro t hready
  have hwrite : (r t).writeState < (r c).writeState := by
    rw [hc]
    exact Nat.lt_succ_of_le hready
  have hlt : r t < r c := Prod.Lex.lt_iff.mpr (.inl hwrite)
  constructor
  · rintro ⟨hmem, hle⟩
    refine ⟨?_, fun u hu ↦ hle u (List.mem_append_left _ hu)⟩
    rcases List.mem_append.mp hmem with hmem | hmem
    · exact hmem
    · rw [List.mem_singleton.mp hmem] at hlt
      exact absurd hlt (lt_irrefl _)
  · rintro ⟨hmem, hle⟩
    refine ⟨List.mem_append_left _ hmem, fun u hu ↦ ?_⟩
    rcases List.mem_append.mp hu with hu | hu
    · exact hle u hu
    · rw [List.mem_singleton.mp hu]
      exact hlt.le

theorem Chosen.again (h : Chosen r l s s') (hsame : SameReady r l' l) (h' : Chosen r l' s' s'') :
    s'' = s' := by
  cases h' with
  | stay hnone heq => exact heq
  | switch u hleast hready hbeats heq =>
    have hu := (hsame u hready).mp hleast
    cases h with
    | stay hnone heq' => exact absurd (heq' ▸ hbeats) (hnone u hu hready)
    | switch t ht hready' hbeats' heq' =>
      -- it would have to beat a connection of its own rank
      have hrank : r t = r u := le_antisymm (ht.2 u hu.1) (hu.2 t ht.1)
      have hle := hbeats t heq'
      rw [hrank, kMinImprovement] at hle
      omega

/-- What is selected depends on the connections that can send. -/
theorem Chosen.map_eq (h : Chosen r l s s') (hsame : SameReady r l l') (h' : Chosen r l' s s'') :
    s'.map r = s''.map r := by
  cases h with
  | switch t ht hready hbeats heq =>
    have ht' := (hsame t hready).mp ht
    cases h' with
    | switch u hu hready' hbeats' heq' =>
      rw [heq, heq', Option.map_some, Option.map_some,
        le_antisymm (ht'.2 u hu.1) (hu.2 t ht'.1)]
    | stay hnone heq' => exact absurd hbeats (hnone t ht' hready)
  | stay hnone heq =>
    cases h' with
    | switch u hu hready hbeats heq' =>
      exact absurd hbeats (hnone u ((hsame u hready).mpr hu) hready)
    | stay hnone' heq' => rw [heq, heq']

end choice

theorem chosen_sortConnectionsAndUpdateState (w : World) (now : ℤ) :
    Chosen w.rank w.controller.connections w.controller.selectedConnection
      (w.sortConnectionsAndUpdateState now).controller.selectedConnection := by
  have hready (t : ConnId) : w.readyToSend (some t) = true ↔ Rank.Ready (w.rank t) :=
    readyToSend_iff w t
  rw [(selection_sortConnectionsAndUpdateState w now).2]
  rcases hswitch : w.sortAndSwitchConnection.2 with _ | t
  · refine .stay (fun t hleast hr hbeats ↦ ?_) rfl
    obtain ⟨u, hu⟩ := exists_switch_iff.mpr ⟨t, isBest_iff.mpr hleast, (hready t).mpr hr, hbeats⟩
    rw [hswitch] at hu
    cases hu
  · obtain ⟨hhead, hr, hrtt⟩ := sortAndSwitchConnection_snd_iff.mp hswitch
    exact .switch t (isBest_iff.mp (isBest_head hhead)) ((hready t).mp hr) hrtt rfl

theorem weak_eq (w : World) :
    w.weak = ((w.controller.selectedConnection.map w.rank).map Rank.weak).getD true := by
  rw [weak]
  rcases w.controller.selectedConnection with _ | s
  · rfl
  · dsimp only [Option.map_some, Option.getD_some]
    rw [IceConnection.weak, IceConnection.writable, Rank.weak, Rank.writeState, rank]
    rcases (w.conn s).writeState <;> rcases (w.conn s).receiving <;> rfl

/-! ## The parts of the two handlers

Both handlers are cut in front of their sort. What a sort and the two other parts do to a connection
commutes, up to the mark as selected and the remote password, which `visible` leaves out. -/

/-- What is seen of a connection apart from its mark as selected and the remote password. -/
def visible (x : IceConnection) : IceConnection :=
  { x with selected := false, remoteCandidate := { x.remoteCandidate with password := [] } }

theorem rank_congr (hport : ∀ q, (w'.port q).candidate = (w.port q).candidate)
    (h : visible (w'.conn c) = visible (w.conn c)) : w'.rank c = w.rank c := by
  have hwrite := congrArg IceConnection.writeState h
  have hreceiving := congrArg IceConnection.receiving h
  have hrtt := congrArg IceConnection.rtt h
  have hpriority := congrArg (·.remoteCandidate.priority) h
  have hconnPort := congrArg IceConnection.port h
  dsimp only [visible] at hwrite hreceiving hrtt hpriority hconnPort
  rw [rank, rank, priority, priority, localCandidate, localCandidate, hwrite, hreceiving, hrtt,
    hpriority, hconnPort, hport]

theorem visible_sort (w : World) (now : ℤ) (d : ConnId) :
    visible ((w.sortConnectionsAndUpdateState now).conn d) = visible (w.conn d) :=
  proj_conn_sortConnectionsAndUpdateState (fun _ _ ↦ rfl) w d now

/-- The channel has the same credentials of the peer, and is for the same component. -/
structure SameCredentials (w w' : World) : Prop where
  remoteIceParams : w'.channel.remoteIceParams = w.channel.remoteIceParams
  component : w'.channel.component = w.channel.component

instance : IsPreorder World SameCredentials where
  refl _ := ⟨rfl, rfl⟩
  trans _ _ _ h h' :=
    ⟨h'.remoteIceParams.trans h.remoteIceParams, h'.component.trans h.component⟩

theorem sameCredentials_sort (w : World) (now : ℤ) :
    SameCredentials w (w.sortConnectionsAndUpdateState now) := by
  have hswitch (w : World) (t : ConnId) :
      SameCredentials w (w.switchSelectedConnection (some t)) :=
    across_switchSelectedConnection ⟨rfl, rfl⟩ (fun _ _ _ ↦ ⟨rfl, rfl⟩) fun _ _ ↦ ⟨rfl, rfl⟩
  have hupdate (w : World) : SameCredentials w w.updateState :=
    across_updateState (fun _ ↦ ⟨rfl, rfl⟩) (fun _ _ ↦ ⟨rfl, rfl⟩) (fun _ _ ↦ ⟨rfl, rfl⟩)
      (fun _ ↦ ⟨rfl, rfl⟩) w
  exact across_sortConnectionsAndUpdateState ⟨rfl, rfl⟩ (fun t _ ↦ hswitch _ t) hupdate
    fun _ ↦ across_maybeStartPinging fun _ ↦ ⟨rfl, rfl⟩

/-- `set_remote_ice_params` up to the sort. -/
def answered (w : World) (params : IceParameters) : World :=
  { w with channel := { w.channel with remoteIceParams := params } }.maybeSetRemoteIceParams params

theorem answered_spec (w : World) (params : IceParameters) :
    (∀ d, (w.answered params).conn d = if d ∈ w.controller.connections then
      (w.conn d).maybeSetRemoteIceParams params else w.conn d) ∧
    (w.answered params).conns.next = w.conns.next ∧ (w.answered params).port = w.port ∧
    (w.answered params).controller = w.controller ∧
    (w.answered params).channel = { w.channel with remoteIceParams := params } := by
  have hfold (f : IceConnection → IceConnection) (cs : List ConnId) (w : World) :
      cs.foldl (fun w c ↦ w.modifyConn c f) w =
        { w with conns := cs.foldl (fun a c ↦ a.modify c f) w.conns } := by
    induction cs generalizing w with
    | nil => rfl
    | cons c cs ih => rw [List.foldl_cons, List.foldl_cons, ih, modifyConn]
  have hnext (f : IceConnection → IceConnection) (cs : List ConnId) (a : Arena IceConnection) :
      (cs.foldl (fun a c ↦ a.modify c f) a).next = a.next := by
    induction cs generalizing a with
    | nil => rfl
    | cons c cs ih => rw [List.foldl_cons, ih, Arena.modify]
  have htwice (x : IceConnection) :
      (x.maybeSetRemoteIceParams params).maybeSetRemoteIceParams params =
        x.maybeSetRemoteIceParams params := by
    simp only [IceConnection.maybeSetRemoteIceParams]
    split_ifs with h h' <;> rfl
  rw [answered, maybeSetRemoteIceParams, hfold]
  exact ⟨fun d ↦ Arena.cell_foldl_modify htwice _ _ d, hnext _ _ _, rfl, rfl, rfl⟩

theorem visible_answered (w : World) (params : IceParameters) (d : ConnId) :
    visible ((w.answered params).conn d) = visible (w.conn d) := by
  rw [(answered_spec w params).1]
  split_ifs
  · rw [IceConnection.maybeSetRemoteIceParams]
    split_ifs <;> rfl
  · rfl

/-- `_on_unknown_address` up to the sort, with the priority of the request. -/
def requested (env : IceEnv) (w : World) (p : PortId) (addr : SocketAddress) (msg : StunMessage)
    (ufrag : ByteString) (priority : ℕ) : World :=
  ((w.createConnection p (w.peerCandidate addr ufrag priority)).1.addConnection env
    w.conns.next).handleStunBindingRequest env w.conns.next msg

variable {p : PortId} {addr : SocketAddress} {msg : StunMessage} {ufrag : ByteString}
  {priority : ℕ}

theorem onUnknownAddress_eq (h : msg.getUInt32 stunAttrPriority = some priority) :
    w.onUnknownAddress env p addr msg ufrag now =
      (w.requested env p addr msg ufrag priority).sortConnectionsAndUpdateState now := by
  rw [onUnknownAddress, h]
  rfl

/-- The state but for the datagrams sent. -/
theorem requested_eq (env : IceEnv) (w : World) (p : PortId) (addr : SocketAddress)
    (msg : StunMessage) (ufrag : ByteString) (priority : ℕ) : ∃ sent,
      w.requested env p addr msg ufrag priority =
        { (w.createConnection p (w.peerCandidate addr ufrag priority)).1.addConnection env
            w.conns.next with sent := sent } := by
  rw [requested, handleStunBindingRequest]
  split_ifs
  · exact ⟨_, rfl⟩
  · dsimp only
    split
    · exact ⟨_, rfl⟩
    · exact ⟨_, rfl⟩

theorem requested_spec (env : IceEnv) (w : World) (p : PortId) (addr : SocketAddress)
    (msg : StunMessage) (ufrag : ByteString) (priority : ℕ) :
    (∀ d, (w.requested env p addr msg ufrag priority).conn d = if d = w.conns.next then
      { port := p, remoteCandidate := w.peerCandidate addr ufrag priority } else w.conn d) ∧
    (∀ q, ((w.requested env p addr msg ufrag priority).port q).candidate =
      (w.port q).candidate) ∧
    (w.requested env p addr msg ufrag priority).controller.connections =
      w.controller.connections ++ [w.conns.next] ∧
    (w.requested env p addr msg ufrag priority).controller.selectedConnection =
      w.controller.selectedConnection ∧
    (w.requested env p addr msg ufrag priority).getConnection p addr = some w.conns.next := by
  obtain ⟨sent, heq⟩ := requested_eq env w p addr msg ufrag priority
  rw [heq]
  refine ⟨fun d ↦ ?_, fun q ↦ ?_, rfl, rfl, ?_⟩
  · split_ifs with hd
    · rw [hd]
      exact Arena.cell_alloc_next
    · exact Arena.cell_alloc_of_ne hd
  · dsimp only [addConnection, addToController, createConnection]
    by_cases hq : q = p
    · rw [hq, Function.update_self]
    · rw [Function.update_of_ne hq]
  · rw [getConnection]
    dsimp only [addConnection, addToController, createConnection]
    rw [Function.update_self]
    exact Function.update_self ..

theorem writeState_rank_requested (env : IceEnv) (w : World) (p : PortId) (addr : SocketAddress)
    (msg : StunMessage) (ufrag : ByteString) (priority : ℕ) :
    Rank.writeState ((w.requested env p addr msg ufrag priority).rank w.conns.next) = 2 := by
  have hconn := (requested_spec env w p addr msg ufrag priority).1 w.conns.next
  rw [if_pos rfl] at hconn
  have hwrite := congrArg IceConnection.writeState hconn
  dsimp only at hwrite
  rw [Rank.writeState, rank, hwrite]
  rfl

/-! ## The controller's selection

The controller may point to a connection that is gone, but never to one that is still to be made. So
the number of the new connection is not the selected one, whatever has happened before. -/

/-- The selected connection may be gone, but it was there once. -/
def SelectionOld (w : World) : Prop :=
  ∀ s, w.controller.selectedConnection = some s → s < w.conns.next

theorem SameShape.selectionOld (hs : SameShape w w') (hw : WorldInv w) (h : SelectionOld w) :
    SelectionOld w' := by
  intro s hsel
  rw [hs.next]
  rcases hs.selection with ⟨hcontroller, -⟩ | ⟨t, ht, hcontroller, -⟩
  · exact h s (hcontroller ▸ hsel)
  · rw [hcontroller] at hsel
    exact Option.some.inj hsel ▸ w.conns.live_lt t (hw.live t ht)

theorem selectionOld_withoutConn (hw : WorldInv w) (h : SelectionOld w) (c : ConnId) (now : ℤ) :
    SelectionOld (w.withoutConn c now) := by
  have hnext : (w.withoutConn c now).conns.next = w.conns.next :=
    (sameRequests_failing w c now).next
  intro s hs
  rw [hnext]
  by_cases hsel : w.channel.selectedConnection = some c
  · have hselection := (selection_sortConnectionsAndUpdateState (w.unselected c) now).2
    obtain ⟨hconnections, hcontroller, -⟩ := unselected_containers w c
    rw [withoutConn_of_selected hsel] at hs
    dsimp only at hs
    rw [hselection, hcontroller] at hs
    rcases hswitch : (w.unselected c).sortAndSwitchConnection.2 with _ | t <;> rw [hswitch] at hs
    · exact h s hs
    · obtain rfl := Option.some.inj hs
      have hmem := List.mem_of_head? (sortAndSwitchConnection_snd_iff.mp hswitch).1
      rw [StableSort.mem_stableSort, hconnections] at hmem
      exact w.conns.live_lt t (hw.live t (List.mem_of_mem_erase hmem))
  · exact h s ((withoutConn_of_not_selected hsel now).1 ▸ hs)

theorem SelectionOld.step (hw : WorldInv w) (h : SelectionOld w) (e : IceEvent) :
    SelectionOld (w.step env e) := by
  cases (stepOutcome_step env hw.owned e).1 with
  | kept hs => exact hs.selectionOld hw h
  | created hs =>
    -- the new connection is not selected yet, but may become so
    intro s hsel
    rw [hs.next]
    rcases hs.selection with ⟨hcontroller, -⟩ | ⟨t, ht, hcontroller, -⟩
    · exact Nat.lt_succ_of_lt (h s (hcontroller ▸ hsel))
    · rw [hcontroller] at hsel
      obtain rfl := Option.some.inj hsel
      rcases List.mem_append.mp ht with ht | ht
      · exact Nat.lt_succ_of_lt (w.conns.live_lt t (hw.live t ht))
      · rw [List.mem_singleton.mp ht]
        exact Nat.lt_succ_self _
  | failed c now _ honly =>
    intro s hs
    rw [honly.controller] at hs
    rw [honly.next]
    exact selectionOld_withoutConn hw h c now s hs

theorem selectionOld_run (env : IceEnv) (component : IceCandidateComponent)
    (port : PortId → IceParameters × Candidate) (es : List IceEvent) :
    WorldInv (run env component port es) ∧ SelectionOld (run env component port es) :=
  exec_invariant (I := fun w ↦ WorldInv w ∧ SelectionOld w)
    (fun _ e h ↦ ⟨h.1.step e, h.2.step h.1 e⟩)
    ⟨worldInv_init component port, fun s hs ↦ by cases hs⟩ es

/-! ## The two orders

Both orders are brought to the same four parts: the answer, the request, and a sort after each. The
keys of the connections are those of the state after the request, in every state on the way, so that
all four sorts can be compared by `Chosen`. -/

/-- The datagram is a binding request that `_on_unknown_address` makes a connection for. -/
structure NewRequest (env : IceEnv) (w : World) (p : PortId) (addr : SocketAddress)
    (data : ByteString) (msg : StunMessage) (ufrag : ByteString) : Prop where
  unknown : w.getConnection p addr = none
  accepted : w.stunVerdict env p data = .accepted msg ufrag
  type : msg.type = stunBindingRequest
  priority : msg.getUInt32 stunAttrPriority ≠ none

/-- The connection has the same remote credentials in both states, is pingable at the same times,
and finds the same of every response. -/
structure SameConnection (env : IceEnv) (w w' : World) (c : ConnId) : Prop where
  username : (w.conn c).remoteCandidate.username = (w'.conn c).remoteCandidate.username
  password : (w.conn c).remoteCandidate.password = (w'.conn c).remoteCandidate.password
  pingable : ∀ now, w.isPingable c now = w'.isPingable c now
  verdict : ∀ msg : StunMessage,
    (msg.validateMessageIntegrity env (w.conn c).remoteCandidate.password).integrity =
      (msg.validateMessageIntegrity env (w'.conn c).remoteCandidate.password).integrity

/-- Both states have the same connection for the address. -/
def SameAt (env : IceEnv) (p : PortId) (addr : SocketAddress) (w w' : World) : Prop :=
  ∃ c, w.getConnection p addr = some c ∧ w'.getConnection p addr = some c ∧
    SameConnection env w w' c

theorem NewRequest.step {data : ByteString} (h : NewRequest env w p addr data msg ufrag)
    (hpriority : msg.getUInt32 stunAttrPriority = some priority) (ts now : ℤ) :
    w.step env (.datagram p addr data ts now) =
      (w.requested env p addr msg ufrag priority).sortConnectionsAndUpdateState now := by
  rw [World.step, onReadPacket, h.unknown]
  dsimp only
  rw [h.accepted]
  dsimp only
  rw [if_pos h.type, onUnknownAddress_eq hpriority]

/-- An answer before does not make the request another. -/
theorem NewRequest.after_answer {data : ByteString} (h : NewRequest env w p addr data msg ufrag)
    (params : IceParameters) (now : ℤ) :
    NewRequest env (w.setRemoteIceParams params now) p addr data msg ufrag where
  unknown := by
    rw [getConnection, (settles_setRemoteIceParams w params now).port]
    exact h.unknown
  accepted := by
    rw [stunVerdict, (settles_setRemoteIceParams w params now).port]
    exact h.accepted
  type := h.type
  priority := h.priority

/-- Pingable is what the fields of the connection and the weakness of the channel make it. -/
theorem isPingable_congr (hconn : visible (w.conn c) = visible (w'.conn c))
    (hpassword : (w.conn c).remoteCandidate.password = (w'.conn c).remoteCandidate.password)
    (hweak : w.weak = w'.weak) (now : ℤ) : w.isPingable c now = w'.isPingable c now := by
  have husername := congrArg (·.remoteCandidate.username) hconn
  have hpings := congrArg IceConnection.numPingsSent hconn
  have hsent := congrArg IceConnection.lastPingSent hconn
  have hstable := congrArg (IceConnection.stable · now) hconn
  dsimp only [visible, IceConnection.stable, IceConnection.missResponse] at husername hpings hsent
  have hstable' : (w.conn c).stable now = (w'.conn c).stable now := hstable
  rw [isPingable, isPingable, isConnectionPastPingInterval, isConnectionPastPingInterval,
    getConnectionPingInterval, getConnectionPingInterval, hweak, hpassword, husername, hpings,
    hsent, hstable']

theorem sameConnection_of (hconn : visible (w.conn c) = visible (w'.conn c))
    (hpassword : (w.conn c).remoteCandidate.password = (w'.conn c).remoteCandidate.password)
    (hweak : w.weak = w'.weak) : SameConnection env w w' c where
  username := by
    have h := congrArg (·.remoteCandidate.username) hconn
    exact h
  password := hpassword
  pingable := isPingable_congr hconn hpassword hweak
  verdict msg := congrArg (fun password ↦ (msg.validateMessageIntegrity env password).integrity)
    hpassword

section orders

variable {params : IceParameters} {t₁ t₂ t₃ t₄ : ℤ}

/-- The request, then the answer. -/
def requestFirst (env : IceEnv) (w : World) (p : PortId) (addr : SocketAddress) (msg : StunMessage)
    (ufrag : ByteString) (priority : ℕ) (params : IceParameters) (t₁ t₂ : ℤ) : World :=
  (((w.requested env p addr msg ufrag priority).sortConnectionsAndUpdateState t₁).answered
    params).sortConnectionsAndUpdateState t₂

/-- The answer, then the request. -/
def answerFirst (env : IceEnv) (w : World) (p : PortId) (addr : SocketAddress) (msg : StunMessage)
    (ufrag : ByteString) (priority : ℕ) (params : IceParameters) (t₃ t₄ : ℤ) : World :=
  (((w.answered params).sortConnectionsAndUpdateState t₃).requested env p addr msg ufrag
    priority).sortConnectionsAndUpdateState t₄

theorem next_answered_sort (w : World) (params : IceParameters) (now : ℤ) :
    ((w.answered params).sortConnectionsAndUpdateState now).conns.next = w.conns.next := by
  rw [(settles_sortConnectionsAndUpdateState _ now).toSameShape.next, (answered_spec w params).2.1]

theorem visible_orders (w : World) (d : ConnId) :
    visible ((w.requestFirst env p addr msg ufrag priority params t₁ t₂).conn d) =
      visible ((w.answerFirst env p addr msg ufrag priority params t₃ t₄).conn d) := by
  rw [requestFirst, answerFirst, visible_sort, visible_answered, visible_sort, visible_sort,
    (requested_spec ..).1, (requested_spec ..).1, next_answered_sort]
  by_cases hd : d = w.conns.next
  · rw [if_pos hd, if_pos hd, peerCandidate, peerCandidate]
    have hcomponent := (sameCredentials_sort (w.answered params) t₃).component
    rw [(answered_spec w params).2.2.2.2] at hcomponent
    simp only [visible, hcomponent]
  · rw [if_neg hd, if_neg hd, visible_sort, visible_answered]

theorem password_maybeSetRemoteIceParams (x : IceConnection) (params : IceParameters) :
    (x.maybeSetRemoteIceParams params).remoteCandidate.password =
      if x.remoteCandidate.username = params.iceUfrag ∧ x.remoteCandidate.password = [] then
        params.icePwd
      else x.remoteCandidate.password := by
  rw [IceConnection.maybeSetRemoteIceParams]
  split_ifs <;> rfl

theorem password_requestFirst (w : World) :
    ((w.requestFirst env p addr msg ufrag priority params t₁ t₂).conn
      w.conns.next).remoteCandidate.password =
      if ufrag = params.iceUfrag ∧ w.channel.remoteIceParams.icePwd = [] then params.icePwd
      else w.channel.remoteIceParams.icePwd := by
  obtain ⟨hconn, -, hlist, -⟩ := requested_spec env w p addr msg ufrag priority
  have hmem : w.conns.next ∈ ((w.requested env p addr msg ufrag
      priority).sortConnectionsAndUpdateState t₁).controller.connections := by
    rw [(settles_sortConnectionsAndUpdateState _ t₁).connections.mem_iff, hlist]
    exact List.mem_append_right _ (List.mem_singleton_self _)
  have hremote : (((w.requested env p addr msg ufrag priority).sortConnectionsAndUpdateState
      t₁).conn w.conns.next).remoteCandidate = w.peerCandidate addr ufrag priority := by
    rw [proj_conn_sortConnectionsAndUpdateState (p := IceConnection.remoteCandidate)
      (fun _ _ ↦ rfl), hconn, if_pos rfl]
  rw [requestFirst, proj_conn_sortConnectionsAndUpdateState
    (p := fun x ↦ x.remoteCandidate.password) (fun _ _ ↦ rfl), (answered_spec _ params).1,
    if_pos hmem, password_maybeSetRemoteIceParams, hremote]
  rfl

theorem password_answerFirst (w : World) :
    ((w.answerFirst env p addr msg ufrag priority params t₃ t₄).conn
      w.conns.next).remoteCandidate.password = params.icePwd := by
  have hparams := (sameCredentials_sort (w.answered params) t₃).remoteIceParams
  rw [(answered_spec w params).2.2.2.2] at hparams
  rw [answerFirst, proj_conn_sortConnectionsAndUpdateState
    (p := fun x ↦ x.remoteCandidate.password) (fun _ _ ↦ rfl), (requested_spec ..).1,
    next_answered_sort, if_pos rfl]
  exact congrArg IceParameters.icePwd hparams

/-- One key for all states: that of the state after the request. -/
theorem rank_sort (w : World) (now : ℤ) : (w.sortConnectionsAndUpdateState now).rank = w.rank :=
  funext fun d ↦ rank_congr
    (fun q ↦ by rw [(settles_sortConnectionsAndUpdateState w now).toSameShape.port])
    (visible_sort w now d)

theorem rank_answered (w : World) (params : IceParameters) : (w.answered params).rank = w.rank :=
  funext fun d ↦ rank_congr (fun q ↦ by rw [(answered_spec w params).2.2.1])
    (visible_answered w params d)

theorem rank_requested (w : World) (hd : d ≠ w.conns.next) :
    (w.requested env p addr msg ufrag priority).rank d = w.rank d := by
  obtain ⟨hconn, hcand, -⟩ := requested_spec env w p addr msg ufrag priority
  exact rank_congr hcand (by rw [hconn, if_neg hd])

theorem rank_orders (w : World) :
    (w.answerFirst env p addr msg ufrag priority params t₃ t₄).rank =
      (w.requestFirst env p addr msg ufrag priority params t₁ t₂).rank := by
  refine funext fun d ↦ rank_congr (fun q ↦ ?_) (visible_orders w d).symm
  rw [answerFirst, (settles_sortConnectionsAndUpdateState _ t₄).toSameShape.port,
    (requested_spec ..).2.1, (settles_sortConnectionsAndUpdateState _ t₃).toSameShape.port,
    (answered_spec w params).2.2.1, requestFirst,
    (settles_sortConnectionsAndUpdateState _ t₂).toSameShape.port, (answered_spec _ params).2.2.1,
    (settles_sortConnectionsAndUpdateState _ t₁).toSameShape.port, (requested_spec ..).2.1]

theorem chosen_requestFirst (w : World) :
    Chosen (w.requestFirst env p addr msg ufrag priority params t₁ t₂).rank
      (w.controller.connections ++ [w.conns.next]) w.controller.selectedConnection
      (w.requestFirst env p addr msg ufrag priority params t₁
        t₂).controller.selectedConnection := by
  obtain ⟨-, -, hlist, hsel, -⟩ := requested_spec env w p addr msg ufrag priority
  have hfirst := chosen_sortConnectionsAndUpdateState
    (w.requested env p addr msg ufrag priority) t₁
  have hsecond := chosen_sortConnectionsAndUpdateState
    (((w.requested env p addr msg ufrag priority).sortConnectionsAndUpdateState t₁).answered
      params) t₂
  have hperm := (settles_sortConnectionsAndUpdateState
    (w.requested env p addr msg ufrag priority) t₁).connections
  rw [hlist, hsel] at hfirst
  rw [rank_answered, rank_sort, (answered_spec _ params).2.2.2.1] at hsecond
  have hsame : SameReady (w.requested env p addr msg ufrag priority).rank
      ((w.requested env p addr msg ufrag priority).sortConnectionsAndUpdateState
        t₁).controller.connections (w.controller.connections ++ [w.conns.next]) := by
    intro t _
    simp only [Least, hperm.mem_iff, hlist]
  have heq := hfirst.again hsame hsecond
  rw [requestFirst, rank_sort, rank_answered, rank_sort, heq]
  exact hfirst

/-- After the answer and then the request, the selection is that of the first sort. -/
theorem chosen_answerFirst (hw : WorldInv w) (hold : SelectionOld w) :
    Chosen (w.answerFirst env p addr msg ufrag priority params t₃ t₄).rank
      w.controller.connections w.controller.selectedConnection
      (w.answerFirst env p addr msg ufrag priority params t₃ t₄).controller.selectedConnection := by
  have hnext := next_answered_sort w params t₃
  obtain ⟨-, -, hlist, hsel, -⟩ := requested_spec env
    ((w.answered params).sortConnectionsAndUpdateState t₃) p addr msg ufrag priority
  have hfirst := chosen_sortConnectionsAndUpdateState (w.answered params) t₃
  have hsecond := chosen_sortConnectionsAndUpdateState
    (((w.answered params).sortConnectionsAndUpdateState t₃).requested env p addr msg ufrag
      priority) t₄
  have hperm := (settles_sortConnectionsAndUpdateState (w.answered params) t₃).connections
  have hready := writeState_rank_requested env
    ((w.answered params).sortConnectionsAndUpdateState t₃) p addr msg ufrag priority
  rw [(answered_spec w params).2.2.2.1] at hfirst hperm
  rw [hlist, hsel] at hsecond
  have hrank (u : ConnId) (hu : u ≠ w.conns.next) :
      (((w.answered params).sortConnectionsAndUpdateState t₃).requested env p addr msg ufrag
        priority).rank u = (w.answered params).rank u := by
    rw [rank_requested _ (by rwa [hnext]), rank_sort]
  have hfirst' := hfirst.congr
    (fun u hu ↦ hrank u (Arena.ne_next_of_live (hw.live u hu)))
    (fun u hu ↦ hrank u (Nat.ne_of_lt (hold u hu))) fun _ ↦ Iff.rfl
  have hsame : SameReady (((w.answered params).sortConnectionsAndUpdateState t₃).requested env p
      addr msg ufrag priority).rank (((w.answered params).sortConnectionsAndUpdateState
        t₃).controller.connections ++
          [((w.answered params).sortConnectionsAndUpdateState t₃).conns.next])
      w.controller.connections := by
    intro t ht
    rw [sameReady_append hready _ t ht]
    simp only [Least, hperm.mem_iff]
  have heq := hfirst'.again hsame hsecond
  rw [answerFirst, rank_sort, heq]
  exact hfirst'

theorem weak_orders (hw : WorldInv w) (hold : SelectionOld w) :
    (w.requestFirst env p addr msg ufrag priority params t₁ t₂).weak =
      (w.answerFirst env p addr msg ufrag priority params t₃ t₄).weak := by
  have hready : Rank.writeState ((w.requestFirst env p addr msg ufrag priority params t₁
      t₂).rank w.conns.next) = 2 := by
    rw [requestFirst, rank_sort, rank_answered, rank_sort, writeState_rank_requested]
  have hrank : (w.answerFirst env p addr msg ufrag priority params t₃ t₄).rank =
      (w.requestFirst env p addr msg ufrag priority params t₁ t₂).rank := rank_orders w
  have hanswer : Chosen (w.answerFirst env p addr msg ufrag priority params t₃ t₄).rank _ _ _ :=
    chosen_answerFirst hw hold
  rw [hrank] at hanswer
  rw [weak_eq, weak_eq, hrank,
    (chosen_requestFirst w).map_eq (sameReady_append hready _) hanswer]

end orders

/-- **The request or the answer first**, in any state of a channel: the connection comes out the
same exactly if the request finds the password of the answer, or finds none and has the user name of
the answer. -/
theorem sameAt_iff (hw : WorldInv w) (hold : SelectionOld w) {data : ByteString}
    (h : NewRequest env w p addr data msg ufrag) (params : IceParameters) (ts t₁ t₂ t₃ t₄ : ℤ) :
    SameAt env p addr
        ((w.step env (.datagram p addr data ts t₁)).step env (.setRemoteIceParams params t₂))
        ((w.step env (.setRemoteIceParams params t₃)).step env (.datagram p addr data ts t₄)) ↔
      params.icePwd = w.channel.remoteIceParams.icePwd ∨
        ufrag = params.iceUfrag ∧ w.channel.remoteIceParams.icePwd = [] := by
  obtain ⟨priority, hpriority⟩ := Option.ne_none_iff_exists'.mp h.priority
  have hrequest : (w.step env (.datagram p addr data ts t₁)).step env
      (.setRemoteIceParams params t₂) =
        w.requestFirst env p addr msg ufrag priority params t₁ t₂ := by
    rw [h.step hpriority]
    rfl
  have hanswer : (w.step env (.setRemoteIceParams params t₃)).step env
      (.datagram p addr data ts t₄) =
        w.answerFirst env p addr msg ufrag priority params t₃ t₄ :=
    (h.after_answer params t₃).step hpriority ts t₄
  rw [hrequest, hanswer]
  have hconnA : (w.requestFirst env p addr msg ufrag priority params t₁ t₂).getConnection p addr =
      some w.conns.next := by
    rw [getConnection, requestFirst, (settles_sortConnectionsAndUpdateState _ t₂).toSameShape.port,
      (answered_spec _ params).2.2.1, (settles_sortConnectionsAndUpdateState _ t₁).toSameShape.port]
    exact (requested_spec env w p addr msg ufrag priority).2.2.2.2
  have hconnB : (w.answerFirst env p addr msg ufrag priority params t₃ t₄).getConnection p addr =
      some w.conns.next := by
    rw [getConnection, answerFirst, (settles_sortConnectionsAndUpdateState _ t₄).toSameShape.port,
      ← next_answered_sort w params t₃]
    exact (requested_spec env _ p addr msg ufrag priority).2.2.2.2
  have hA : ((w.requestFirst env p addr msg ufrag priority params t₁ t₂).conn
      w.conns.next).remoteCandidate.password = _ := password_requestFirst w
  have hB : ((w.answerFirst env p addr msg ufrag priority params t₃ t₄).conn
      w.conns.next).remoteCandidate.password = _ := password_answerFirst w
  constructor
  · rintro ⟨c, hc, -, hsame⟩
    rw [hconnA] at hc
    obtain rfl := Option.some.inj hc
    have hpassword := hsame.password
    rw [hA, hB] at hpassword
    split_ifs at hpassword with hrule
    · exact .inr hrule
    · exact .inl hpassword.symm
  · intro hrule
    have hpassword : ((w.requestFirst env p addr msg ufrag priority params t₁ t₂).conn
        w.conns.next).remoteCandidate.password =
        ((w.answerFirst env p addr msg ufrag priority params t₃ t₄).conn
          w.conns.next).remoteCandidate.password := by
      rw [hA, hB]
      split_ifs with hfresh
      · rfl
      · exact (hrule.resolve_right hfresh).symm
    exact ⟨w.conns.next, hconnA, hconnB,
      sameConnection_of (visible_orders w w.conns.next) hpassword (weak_orders hw hold)⟩

end World

/-- **The request or the answer first**, after any run. -/
theorem sameAt_run_iff (env : IceEnv) (component : IceCandidateComponent)
    (port : PortId → IceParameters × Candidate) (es : List IceEvent) {p : PortId}
    {addr : SocketAddress} {data : ByteString} {msg : StunMessage} {ufrag : ByteString}
    (h : NewRequest env (run env component port es) p addr data msg ufrag)
    (params : IceParameters) (ts t₁ t₂ t₃ t₄ : ℤ) :
    SameAt env p addr
        (run env component port
          (es ++ [.datagram p addr data ts t₁, .setRemoteIceParams params t₂]))
        (run env component port
          (es ++ [.setRemoteIceParams params t₃, .datagram p addr data ts t₄])) ↔
      params.icePwd = (run env component port es).channel.remoteIceParams.icePwd ∨
        ufrag = params.iceUfrag ∧
          (run env component port es).channel.remoteIceParams.icePwd = [] := by
  obtain ⟨hw, hold⟩ := selectionOld_run env component port es
  rw [run, run, exec_append, exec_append]
  exact sameAt_iff hw hold h params ts t₁ t₂ t₃ t₄

/-- The request of the first peer comes before or after its answer. -/
theorem sameAt_peerA :
    SameAt sampleEnv 0 peerA
        (run sampleEnv .rtp (fun _ ↦ samplePort)
          [.datagram 0 peerA bindingRequestA 10 10, .setRemoteIceParams peerParams 20])
        (run sampleEnv .rtp (fun _ ↦ samplePort)
          [.setRemoteIceParams peerParams 10, .datagram 0 peerA bindingRequestA 10 20]) :=
  have hnew : NewRequest sampleEnv (run sampleEnv .rtp (fun _ ↦ samplePort) []) 0 peerA
      bindingRequestA (acceptedRequest sampleEnv bindingRequestA) (lit "peer") :=
    ⟨by decide +kernel, by decide +kernel, by decide +kernel, by decide +kernel⟩
  have hfresh :
      (run sampleEnv .rtp (fun _ ↦ samplePort) []).channel.remoteIceParams.icePwd = [] := rfl
  (sameAt_run_iff sampleEnv .rtp (fun _ ↦ samplePort) [] hnew peerParams 10 10 20 10 20).mpr
    (.inr ⟨rfl, hfresh⟩)

/-- An answer with another user name than that of the request. -/
def otherParams : IceParameters :=
  { iceUfrag := lit "newp", icePwd := lit "newpassword0123456789012" }

/-- With the request first, the connection stays without a password; with the answer first, it gets
that of the answer. -/
theorem not_sameAt :
    ¬SameAt sampleEnv 0 peerA
        (run sampleEnv .rtp (fun _ ↦ samplePort)
          [.datagram 0 peerA bindingRequestA 10 10, .setRemoteIceParams otherParams 20])
        (run sampleEnv .rtp (fun _ ↦ samplePort)
          [.setRemoteIceParams otherParams 10, .datagram 0 peerA bindingRequestA 10 20]) := by
  rintro ⟨c, hc, -, hsame⟩
  have hzero : c = 0 := Option.some.inj (hc.symm.trans (by decide +kernel))
  rw [hzero] at hsame
  exact absurd hsame.password (by decide +kernel)

end XrtcServer
