import XrtcServer.Ice.ConnectionHistory
import XrtcServer.Ice.Selection
import XrtcServer.Lib.Rotation

/-!
# Who is pinged next

The controller keeps its connections in two sets, those that have been pinged in the current round
and those that have not. `_find_next_pingable_connection` takes the selected connection if that is
due. Otherwise it scans the second set for the connection whose last ping is longest ago, and starts
a new round first if no connection of that set is pingable.

## The rotation

That is a `Rotation` in the sense of `Lib/Rotation.lean`, with the shortcut as a bypass: the two
sets are the rounds, the time of the last ping is the stamp, and the scan is a selection. What is
left to be proved here is that the source keeps to it. As long as no connection is destroyed, the
two sets share the list of connections between them (`PoolInv`), every other event leaves the turns
alone or adds a member that waits, and only a tick stamps a ping.

## Fairness

A connection that is pingable whenever one is selected is pinged between any two pings of another,
if the second of these comes from the scan. The scan compares times, and the selected connection is
pinged out of turn, so this needs the times of the pings to increase: with equal times the scan
takes the one that comes first in the set.
-/

namespace XrtcServer

open EventRun ByteString World Rotation

namespace World

variable {env : IceEnv} {w w' : World} {c d : ConnId} {now : ℤ} {e : IceEvent}

/-! ## The two sets as lists

The source has a `std::set` of pointers for each of the two, which the model keeps as an ordered
list. Of the order only the scan knows; what is needed here is that it is a list without duplicates
and which members it has. -/

theorem mem_insertConn {s : List ConnId} : d ∈ insertConn env c s ↔ d = c ∨ d ∈ s := by
  rw [insertConn]
  split_ifs with hc
  · constructor
    · exact .inr
    · rintro (rfl | hd)
      · exact hc
      · exact hd
  · exact List.mem_orderedInsert _

theorem nodup_insertConn {s : List ConnId} (hs : s.Nodup) : (insertConn env c s).Nodup := by
  rw [insertConn]
  split_ifs with hc
  · exact hs
  · exact (List.perm_orderedInsert _ c s).nodup_iff.mpr (List.nodup_cons.mpr ⟨hc, hs⟩)

theorem mem_foldl_insertConn {cs s : List ConnId} :
    d ∈ cs.foldl (fun s c ↦ insertConn env c s) s ↔ d ∈ cs ∨ d ∈ s := by
  induction cs generalizing s with
  | nil => simp
  | cons c cs ih =>
    rw [List.foldl_cons, ih, mem_insertConn, List.mem_cons]
    tauto

theorem nodup_foldl_insertConn {s : List ConnId} (cs : List ConnId) (hs : s.Nodup) :
    (cs.foldl (fun s c ↦ insertConn env c s) s).Nodup := by
  induction cs generalizing s with
  | nil => exact hs
  | cons c cs ih => exact ih (nodup_insertConn hs)

/-! ## The two sets as a rotation -/

def rotation (w : World) : State ConnId ℤ where
  waiting := {c | c ∈ w.controller.unpingedConnections}
  served := {c | c ∈ w.controller.pingedConnections}
  last c := (w.conn c).lastPingSent

def members (w : World) : Set ConnId := {c | c ∈ w.controller.connections}

/-- The connections that are pingable now. -/
def pingable (w : World) (now : ℤ) : Set ConnId := {c | w.isPingable c now = true}

theorem rotation_eq (hpools : w'.pools = w.pools)
    (hlast : ∀ c, (w'.conn c).lastPingSent = (w.conn c).lastPingSent) :
    w'.rotation = w.rotation := by
  obtain ⟨hunpinged, hpinged⟩ := Prod.mk.inj hpools
  rw [rotation, rotation, hunpinged, hpinged]
  simp only [hlast]

theorem Quiet.rotation (h : Quiet w w') : w'.rotation = w.rotation :=
  rotation_eq h.pools fun c ↦ congrArg ConnStamps.lastPingSent (h.stamps c)

/-- The sets share the list of connections between them. -/
structure PoolInv (w : World) : Prop where
  nodup : w.controller.unpingedConnections.Nodup
  covers : w.rotation.Covers w.members

/-! ## The selection

`_find_next_pingable_connection` changes the sets only when it starts a new round. `refilled` is the
state after that, and the scan is a function of it. -/

/-- The selected connection, if it is writable and due. -/
def shortcut (w : World) (now : ℤ) : Option ConnId :=
  w.controller.selectedConnection.filter fun s ↦
    (w.conn s).writable && w.isConnectionPastPingInterval s now

/-- The state in which the scan takes place. -/
def refilled (env : IceEnv) (w : World) (now : ℤ) : World :=
  if w.controller.unpingedConnections.any fun c ↦ w.isPingable c now then w else w.restartPings env

theorem isPingable_refilled (env : IceEnv) (w : World) (now : ℤ) (c : ConnId) (t : ℤ) :
    (w.refilled env now).isPingable c t = w.isPingable c t := by
  rw [refilled]
  split_ifs <;> rfl

theorem conns_refilled (env : IceEnv) (w : World) (now : ℤ) :
    (w.refilled env now).conns = w.conns := by
  rw [refilled]
  split_ifs <;> rfl

theorem rotation_refilled (env : IceEnv) (w : World) (now : ℤ) :
    (w.refilled env now).rotation = w.rotation.refill (w.pingable now) := by
  rw [refilled]
  by_cases hany : (w.controller.unpingedConnections.any fun c ↦ w.isPingable c now) = true
  · obtain ⟨c, hc, hready⟩ := List.any_eq_true.mp hany
    rw [if_pos hany, State.refill_of_nonempty ⟨c, hc, hready⟩]
  · have hnone : ¬(w.rotation.waiting ∩ w.pingable now).Nonempty := by
      rintro ⟨c, hc, hready⟩
      exact hany (List.any_eq_true.mpr ⟨c, hc, hready⟩)
    rw [if_neg hany, State.refill_of_not_nonempty hnone]
    refine State.ext ?_ ?_ rfl
    · ext c
      exact mem_foldl_insertConn.trans or_comm
    · ext c
      simp [rotation, restartPings]

theorem PoolInv.refilled (h : PoolInv w) (env : IceEnv) (now : ℤ) :
    PoolInv (w.refilled env now) := by
  have hcovers := h.covers.refill (w.pingable now)
  rw [← rotation_refilled env] at hcovers
  rw [World.refilled] at hcovers ⊢
  split_ifs at hcovers ⊢
  · exact h
  · exact ⟨nodup_foldl_insertConn _ h.nodup, hcovers⟩

/-- What the scan chooses. -/
def scanned (env : IceEnv) (w : World) (now : ℤ) : Option ConnId :=
  leastReady (fun c ↦ w.isPingable c now) (fun c ↦ (w.conn c).lastPingSent)
    (w.refilled env now).controller.unpingedConnections

theorem findNextPingableConnection_eq (env : IceEnv) (w : World) (now : ℤ) :
    w.findNextPingableConnection env now =
      match w.shortcut now with
      | some s => (w, some s)
      | none => (w.refilled env now, w.scanned env now) := by
  have hfold : ((w.refilled env now).controller.unpingedConnections.foldl (fun findConn c ↦
      if (w.refilled env now).isPingable c now &&
        (w.refilled env now).morePingable c findConn then some c else findConn) none) =
      w.scanned env now := by
    rw [scanned, leastReady]
    congr 1
    funext findConn c
    rcases findConn with _ | b
    · rw [isPingable_refilled, morePingable]
      rfl
    · rw [isPingable_refilled, morePingable, conn, conn, conns_refilled]
      rfl
  rw [← hfold]
  rfl

theorem scans_of_scanned (h : w.scanned env now = some c) :
    w.rotation.Scans (w.pingable now) c := by
  obtain ⟨hmem, hready, hleast⟩ := leastReady_spec h
  have hwaiting : (w.rotation.refill (w.pingable now)).waiting =
      {c | c ∈ (w.refilled env now).controller.unpingedConnections} := by
    rw [← rotation_refilled env]
    rfl
  refine ⟨?_, hready, ?_⟩
  · rw [hwaiting]
    exact hmem
  · rw [hwaiting]
    exact hleast

/-! ## A tick

A tick updates the states of all connections, selects one and pings it. The first part touches
neither of the sets, the second may start a round, and the third is the turn. -/

theorem members_eq (h : w'.controller.connections.Perm w.controller.connections) :
    w'.members = w.members := by
  ext c
  exact h.mem_iff

theorem PoolInv.quiet (h : PoolInv w) (hquiet : Quiet w w')
    (hperm : w'.controller.connections.Perm w.controller.connections) : PoolInv w' where
  nodup := by
    rw [(Prod.mk.inj hquiet.pools).1]
    exact h.nodup
  covers := by
    rw [hquiet.rotation, members_eq hperm]
    exact h.covers

variable (env) in
theorem lastPingSent_ping (hc : w.conns.live c = true) (id : ByteString) (now : ℤ) (d : ConnId) :
    ((w.ping env c id now).conn d).lastPingSent =
      Function.update (fun d ↦ (w.conn d).lastPingSent) c now d := by
  have hstamps := congrArg ConnStamps.lastPingSent (records_ping env w c id now d)
  rw [if_pos hc] at hstamps
  by_cases hd : d = c
  · subst hd
    rw [if_pos rfl] at hstamps
    rw [Function.update_self]
    exact hstamps
  · rw [if_neg hd] at hstamps
    rw [Function.update_of_ne hd]
    exact hstamps

theorem rotation_pingConnection (h : PoolInv w) (hc : w.conns.live c = true) (id : ByteString)
    (now : ℤ) : (w.pingConnection env (some c) id now).rotation = w.rotation.turn c now := by
  set w₁ : World := { w with channel := { w.channel with lastPingSentMs := now } }
  have hcontroller : (w₁.ping env c id now).controller = w.controller :=
    (onlyRequests_ping env w₁ c id now).controller
  have hlast (d : ConnId) : ((w.pingConnection env (some c) id now).conn d).lastPingSent =
      (w.rotation.turn c now).last d := by
    refine Eq.trans ?_ (lastPingSent_ping env (w := w₁) hc id now d)
    rw [pingConnection, markConnectionPinged]
    split_ifs <;> rfl
  have hdisjoint : c ∈ w.controller.pingedConnections → c ∉ w.controller.unpingedConnections :=
    fun hpinged hunpinged ↦ Set.disjoint_left.mp h.covers.disjoint hunpinged hpinged
  refine State.ext ?_ ?_ (funext hlast)
  · ext d
    change d ∈ (World.markConnectionPinged env (w₁.ping env c id now)
      c).controller.unpingedConnections ↔ d ∈ w.controller.unpingedConnections ∧ d ≠ c
    rw [markConnectionPinged]
    split_ifs with hpinged
    · -- it is in the set already, and so not in the other one
      rw [hcontroller] at hpinged ⊢
      refine ⟨fun hd ↦ ⟨hd, ?_⟩, fun hd ↦ hd.1⟩
      rintro rfl
      exact hdisjoint hpinged hd
    · dsimp only
      rw [hcontroller, h.nodup.mem_erase_iff, and_comm]
  · ext d
    change d ∈ (World.markConnectionPinged env (w₁.ping env c id now)
      c).controller.pingedConnections ↔ d = c ∨ d ∈ w.controller.pingedConnections
    rw [markConnectionPinged]
    split_ifs with hpinged
    · rw [hcontroller] at hpinged ⊢
      refine ⟨.inr, ?_⟩
      rintro (rfl | hd)
      · exact hpinged
      · exact hd
    · dsimp only
      rw [hcontroller, mem_insertConn]

theorem PoolInv.pingConnection (h : PoolInv w) (hc : w.conns.live c = true)
    (hmem : c ∈ w.members) (env : IceEnv) (id : ByteString) (now : ℤ) :
    PoolInv (w.pingConnection env (some c) id now) where
  nodup := by
    have hcontroller := (onlyRequests_ping env
      { w with channel := { w.channel with lastPingSentMs := now } } c id now).controller
    rw [World.pingConnection, markConnectionPinged]
    split_ifs
    · rw [hcontroller]
      exact h.nodup
    · dsimp only
      rw [hcontroller]
      exact h.nodup.erase c
  covers := by
    have hmembers : (w.pingConnection env (some c) id now).members = w.members := by
      have hcontroller := (onlyRequests_ping env
        { w with channel := { w.channel with lastPingSentMs := now } } c id now).controller
      rw [World.pingConnection, markConnectionPinged, members, members]
      split_ifs
      · rw [hcontroller]
      · dsimp only
        rw [hcontroller]
    rw [rotation_pingConnection h hc, hmembers]
    exact h.covers.turn hmem now

/-- The ping interval of the channel has passed, so that the tick selects a connection. -/
def Selects (env : IceEnv) (w : World) (now : ℤ) : Prop :=
  let w := w.updateConnectionStates now
  let lastPingSentMs := w.channel.lastPingSentMs - pingIntervalDiff
  lastPingSentMs + (w.selectConnectionToPing env lastPingSentMs now).2.2 ≤ now

instance (env : IceEnv) (w : World) (now : ℤ) : Decidable (w.Selects env now) :=
  inferInstanceAs (Decidable (_ ≤ _))

theorem selectConnectionToPing_eq (env : IceEnv) (w : World) (lastPingSentMs now : ℤ) :
    w.selectConnectionToPing env lastPingSentMs now =
      if lastPingSentMs + (w.selectConnectionToPing env lastPingSentMs now).2.2 ≤ now then
        ((w.findNextPingableConnection env now).1, (w.findNextPingableConnection env now).2,
          (w.selectConnectionToPing env lastPingSentMs now).2.2)
      else (w, none, (w.selectConnectionToPing env lastPingSentMs now).2.2) := by
  set interval : ℤ :=
    if w.weak || w.controller.connections.any fun c ↦
      (w.conn c).numPingsSent < minPingsAtWeakPingInterval then weakPingInterval
    else strongPingInterval with hinterval
  have heq : w.selectConnectionToPing env lastPingSentMs now =
      if now ≥ lastPingSentMs + interval then
        ((w.findNextPingableConnection env now).1, (w.findNextPingableConnection env now).2,
          interval)
      else (w, none, interval) := rfl
  have hthird : (w.selectConnectionToPing env lastPingSentMs now).2.2 = interval := by
    rw [heq]
    split_ifs <;> rfl
  rw [hthird, heq]

/-- What a tick can do. -/
inductive TickOutcome (env : IceEnv) (w : World) (now : ℤ) : Option ConnId → World → Prop
  | idle (hnot : ¬w.Selects env now) : TickOutcome env w now none (w.updateConnectionStates now)
  | shortcut (hselects : w.Selects env now) (s : ConnId)
      (hs : (w.updateConnectionStates now).shortcut now = some s) :
      TickOutcome env w now (some s) (w.updateConnectionStates now)
  | scan (hselects : w.Selects env now)
      (hnone : (w.updateConnectionStates now).shortcut now = none) :
      TickOutcome env w now ((w.updateConnectionStates now).scanned env now)
        ((w.updateConnectionStates now).refilled env now)

theorem tickOutcome (env : IceEnv) (w : World) (now : ℤ) :
    TickOutcome env w now (w.connectionToPing env now) (w.selecting env now) := by
  have hselect := selectConnectionToPing_eq env (w.updateConnectionStates now)
    ((w.updateConnectionStates now).channel.lastPingSentMs - pingIntervalDiff) now
  have hfind := findNextPingableConnection_eq env (w.updateConnectionStates now) now
  by_cases hselects : w.Selects env now
  · rw [if_pos (by exact hselects)] at hselect
    have hping : w.connectionToPing env now =
      ((w.updateConnectionStates now).findNextPingableConnection env now).2 :=
        congrArg (·.2.1) hselect
    have hworld : w.selecting env now =
      ((w.updateConnectionStates now).findNextPingableConnection env now).1 :=
        congrArg (·.1) hselect
    rw [hping, hworld, hfind]
    rcases hs : (w.updateConnectionStates now).shortcut now with _ | s
    · exact .scan hselects hs
    · exact .shortcut hselects s hs
  · rw [if_neg (by exact hselects)] at hselect
    have hping : w.connectionToPing env now = none := congrArg (·.2.1) hselect
    have hworld : w.selecting env now = w.updateConnectionStates now := congrArg (·.1) hselect
    rw [hping, hworld]
    exact .idle hselects

/-! ## Runs in which no connection is destroyed

Connections are numbered as they are made, so none has been destroyed if all numbers are alive. This
can be asked of the end of a run alone: what was destroyed does not come back, and a condition on
the end gives one on every step. -/

/-- Every connection that was made is still there. -/
def NoneDestroyed (w : World) : Prop := ∀ c < w.conns.next, w.conns.live c = true

instance (w : World) : Decidable w.NoneDestroyed := Nat.decidableBallLT _ _

/-- The event destroys no connection. -/
def Spares (env : IceEnv) (w : World) (e : IceEvent) : Prop := ∀ c, ¬w.FailsConnection env e c

/-- What is there in the end was there all the time. -/
theorem noneDestroyed_of_step (h : WorldInv w) (hend : (w.step env e).NoneDestroyed) :
    w.Spares env e ∧ w.NoneDestroyed := by
  have hnext := next_le_step env h e
  have hspares : w.Spares env e := by
    intro c hf
    -- a connection that fails would not be there in the end
    obtain ⟨now, honly, -⟩ := step_of_failsConnection h.owned hf
    obtain ⟨-, -, -, -, -, -, -, -, -, hc, -⟩ := hf
    have hlive := hend c ((w.conns.live_lt c hc).trans_le hnext)
    rw [honly.live] at hlive
    exact (live_withoutConn_iff.mp hlive).1 rfl
  refine ⟨hspares, fun c hc ↦ ?_⟩
  have hlive := hend c (hc.trans_le hnext)
  obtain ⟨hs | ⟨p, candidate, hs⟩, -⟩ := step_of_not_failsConnection h.owned hspares
  · rwa [hs.live] at hlive
  · rw [hs.live] at hlive
    exact (Arena.live_alloc_iff.mp hlive).resolve_left (Nat.ne_of_lt hc)

theorem along_spares (h : WorldInv w) (es : List IceEvent)
    (hend : (exec (World.step env) w es).NoneDestroyed) :
    w.NoneDestroyed ∧ Along (World.step env) (Spares env) w es := by
  induction es generalizing w with
  | nil => exact ⟨hend, trivial⟩
  | cons e es ih =>
    obtain ⟨hstep, halong⟩ := ih (h.step e) hend
    obtain ⟨hspares, hnone⟩ := noneDestroyed_of_step h hstep
    exact ⟨hnone, hspares, halong⟩

/-! ## The sets along a run

Outside the ticks the sets only grow, by connections that are made. The lemmas here are those of
`Quiet` with this one exception. -/

structure FairInv (w : World) : Prop where
  history : HistoryInv w
  synced : Synced w
  pools : PoolInv w

theorem fairInv_init (component : IceCandidateComponent)
    (port : PortId → IceParameters × Candidate) : FairInv (init component port) where
  history := historyInv_init component port
  synced := synced_init component port
  pools :=
    ⟨List.nodup_nil, ⟨Set.disjoint_left.mpr fun _ hc ↦ (List.not_mem_nil hc).elim,
      Set.union_self _⟩⟩

/-- The members stay as they are, or there is a new one, which waits. -/
def Joins (env : IceEnv) (w w' : World) : Prop :=
  w'.pools = w.pools ∧ w'.controller.connections.Perm w.controller.connections ∨
    w'.pools = (insertConn env w.conns.next w.controller.unpingedConnections,
        w.controller.pingedConnections) ∧
      w'.controller.connections.Perm (w.controller.connections ++ [w.conns.next])

theorem joins_of_quiet (hquiet : Quiet w w') (hsettles : Settles w w') : Joins env w w' :=
  .inl ⟨hquiet.pools, hsettles.connections⟩

theorem pools_receivedPingResponse (w : World) (c : ConnId) (rtt now : ℤ) :
    (w.receivedPingResponse env c rtt now).pools = w.pools := by
  rw [receivedPingResponse, (quiet_setConnState _ c .succeeded).pools,
    (quiet_setWriteState _ c .writable now).pools, (quiet_updateReceiving _ c now).pools]
  rfl

theorem pools_checkResponse (h : RequestsOwned w) (hc : w.conns.live c = true)
    {msg : StunMessage} (hf : ¬w.FatalTo c msg) (now : ℤ) :
    (w.checkResponse env c msg now).1.pools = w.pools := by
  have houtcome := responseOutcome_checkResponse env now msg h hc
  generalize (w.checkResponse env c msg now).1 = w' at houtcome ⊢
  cases houtcome with
  | unknown hl => rfl
  | success r hl htype =>
    exact (quiet_deleteRequest _ r).pools.trans (pools_receivedPingResponse w c _ now)
  | dropped r hl htype hnot => exact (quiet_deleteRequest w r).pools
  | fatal r hl hfatal => exact absurd hfatal hf

theorem pools_onConnReadPacket (h : RequestsOwned w) {data : ByteString} (ts now : ℤ)
    (hf : ∀ msg remoteUfrag, w.conns.live c = true →
      w.stunVerdict env (w.conn c).port data = .accepted msg remoteUfrag →
      (msg.validateMessageIntegrity env (w.conn c).remoteCandidate.password).integrity
        = .integrityOk → ¬w.FatalTo c msg) :
    (w.onConnReadPacket env c data ts now).pools = w.pools := by
  rw [onConnReadPacket]
  split_ifs with hc
  · rcases hv : w.stunVerdict env (w.conn c).port data with _ | ⟨msg, errCode, reason⟩ |
      ⟨msg, remoteUfrag⟩
    · rfl
    · exact (quiet_sendBindingErrorResponse env w _ msg _ _ _).pools
    · dsimp only
      rw [onStunMessage]
      dsimp only
      split_ifs with _ _ _ hok
      · exact (quiet_sendBindingErrorResponse env w _ msg _ _ _).pools
      · exact (quiet_handleStunBindingRequest env w c msg).pools
      · exact pools_checkResponse h hc (hf msg remoteUfrag hc hv hok) now
      · rfl
      · rfl
  · rfl

theorem joins_onUnknownAddress (w : World) (p : PortId) (addr : SocketAddress) (msg : StunMessage)
    (remoteUfrag : ByteString) (now : ℤ) :
    Joins env w (w.onUnknownAddress env p addr msg remoteUfrag now) := by
  rw [onUnknownAddress]
  split
  · exact .inl ⟨rfl, .rfl⟩
  · next priority _ =>
    set w₁ : World := (w.createConnection p
      (w.peerCandidate addr remoteUfrag priority)).1.addConnection env w.conns.next
    have hquiet : Quiet w₁
        ((w₁.handleStunBindingRequest env w.conns.next msg).sortConnectionsAndUpdateState now) :=
      (quiet_handleStunBindingRequest env w₁ _ msg).trans
        (quiet_sortConnectionsAndUpdateState _ now)
    have hsettles : Settles w₁
        ((w₁.handleStunBindingRequest env w.conns.next msg).sortConnectionsAndUpdateState now) :=
      (settles_handleStunBindingRequest env w₁ _ msg).trans
        (settles_sortConnectionsAndUpdateState _ now)
    exact .inr ⟨hquiet.pools, hsettles.connections⟩

/-- Outside the ticks, members only join. -/
theorem joins_step (h : WorldInv w) (hspares : w.Spares env e)
    (htick : ∀ id now, e ≠ .checkAndPing id now) : Joins env w (w.step env e) := by
  cases e with
  | datagram p addr data ts now =>
    rw [step, onReadPacket]
    rcases hconn : w.getConnection p addr with _ | c
    · dsimp only
      rcases w.stunVerdict env p data with _ | ⟨msg, errCode, reason⟩ | ⟨msg, remoteUfrag⟩
      · exact .inl ⟨rfl, .rfl⟩
      · exact joins_of_quiet (quiet_sendBindingErrorResponse env w p msg addr _ reason)
          (settles_sendBindingErrorResponse env w p msg addr _ reason)
      · dsimp only
        split_ifs
        · exact joins_onUnknownAddress w p addr msg remoteUfrag now
        · exact .inl ⟨rfl, .rfl⟩
    · have hf (msg : StunMessage) (remoteUfrag : ByteString) (hc : w.conns.live c = true)
          (hv : w.stunVerdict env (w.conn c).port data = .accepted msg remoteUfrag)
          (hok : (msg.validateMessageIntegrity env (w.conn c).remoteCandidate.password).integrity
            = .integrityOk) : ¬w.FatalTo c msg := fun hfatal ↦ hspares c
        ⟨p, addr, data, ts, now, msg, remoteUfrag, rfl, hconn, hc, hv, hok,
          (fatalTo_iff_of_accepted hv).mp hfatal⟩
      exact .inl ⟨pools_onConnReadPacket h.owned ts now hf,
        (onConnReadPacket_of_not_fatalTo h.owned ts now hf).1.connections⟩
  | setRemoteIceParams iceParams now =>
    exact joins_of_quiet (quiet_setRemoteIceParams w iceParams now)
      (settles_setRemoteIceParams w iceParams now)
  | checkAndPing id now => exact absurd rfl (htick id now)
  | sendPacket data => exact joins_of_quiet (quiet_sendPacket w data) (settles_sendPacket w data)

theorem PoolInv.joins (h : PoolInv w) (hw : WorldInv w) (hj : Joins env w w') : PoolInv w' := by
  rcases hj with ⟨hpools, hperm⟩ | ⟨hpools, hperm⟩
  · obtain ⟨hunpinged, hpinged⟩ := Prod.mk.inj hpools
    refine ⟨hunpinged ▸ h.nodup, ?_⟩
    rw [members_eq hperm]
    exact h.covers.congr (by rw [rotation, hunpinged]; rfl) (by rw [rotation, hpinged]; rfl)
  · obtain ⟨hunpinged, hpinged⟩ := Prod.mk.inj hpools
    have hnew : w.conns.next ∉ w.members := fun hmem ↦ Arena.ne_next_of_live (hw.live _ hmem) rfl
    have hmembers : w'.members = insert w.conns.next w.members := by
      ext c
      exact hperm.mem_iff.trans (by simp [members, or_comm])
    refine ⟨hunpinged ▸ nodup_insertConn h.nodup, ?_⟩
    rw [hmembers]
    refine (h.covers.join hnew).congr ?_ (by rw [rotation, hpinged]; rfl)
    rw [rotation, hunpinged]
    ext c
    exact mem_insertConn

theorem selecting_spec (h : FairInv w) (env : IceEnv) (now : ℤ) :
    PoolInv (w.selecting env now) ∧ ∀ c, w.connectionToPing env now = some c →
      (w.selecting env now).conns.live c = true ∧ c ∈ (w.selecting env now).members := by
  have hsettles := settles_updateConnectionStates w now
  have hpools : PoolInv (w.updateConnectionStates now) :=
    h.pools.quiet (quiet_updateConnectionStates w now) hsettles.connections
  have hworld : WorldInv (w.updateConnectionStates now) :=
    hsettles.toSameShape.worldInv (hsettles.toSameRequests.requestsOwned h.history.owned)
      h.history.nodup h.history.live
  have hsynced := hsettles.toSameShape.synced h.history.live h.synced
  have houtcome := tickOutcome env w now
  generalize w.connectionToPing env now = conn at houtcome
  generalize w.selecting env now = w₂ at houtcome
  cases houtcome with
  | idle hnot => exact ⟨hpools, fun c hc ↦ by cases hc⟩
  | shortcut hselects s hs =>
    refine ⟨hpools, fun c hc ↦ ?_⟩
    obtain rfl := Option.some.inj hc
    have hsel : (w.updateConnectionStates now).controller.selectedConnection = some s :=
      (Option.filter_eq_some_iff.mp hs).1
    exact hsynced.alive s (hsynced.agree ▸ hsel)
  | scan hselects hnone =>
    refine ⟨hpools.refilled env now, fun c hc ↦ ?_⟩
    -- the scan chooses from a set, and the sets hold what is listed
    have hmem : c ∈ ((w.updateConnectionStates now).refilled env now).members := by
      rw [← (hpools.refilled env now).covers.union]
      exact .inl (leastReady_spec hc).1
    refine ⟨?_, hmem⟩
    rw [conns_refilled]
    refine hworld.live c ?_
    rw [members, refilled] at hmem
    split_ifs at hmem <;> exact hmem

/-! ## One event

The stamp of a `Rotation` is the time of the last ping as the connection has it, so one event may
only change it together with a turn. -/

/-- The connection that an event pings, and when. -/
def pingOf (env : IceEnv) (w : World) : IceEvent → Option (ConnId × ℤ)
  | .checkAndPing _ now => (w.connectionToPing env now).map (·, now)
  | .datagram _ _ _ _ _ => none
  | .setRemoteIceParams _ _ => none
  | .sendPacket _ => none

/-- The event is a tick that selects a connection. -/
def SelectsBy (env : IceEnv) (w : World) (e : IceEvent) (now : ℤ) : Prop :=
  ∃ id, e = .checkAndPing id now ∧ w.Selects env now

theorem rotation_selecting (env : IceEnv) (w : World) (now : ℤ) :
    (¬w.Selects env now ∧ w.connectionToPing env now = none ∧
      (w.selecting env now).rotation = w.rotation) ∨
    (w.Selects env now ∧ ((∃ s, w.connectionToPing env now = some s ∧
        (w.selecting env now).rotation = w.rotation) ∨
      (∀ c, w.connectionToPing env now = some c →
          w.rotation.Scans ((w.updateConnectionStates now).pingable now) c) ∧
        (w.selecting env now).rotation =
          w.rotation.refill ((w.updateConnectionStates now).pingable now))) := by
  have hsame := (quiet_updateConnectionStates w now).rotation
  have houtcome := tickOutcome env w now
  generalize w.connectionToPing env now = conn at houtcome ⊢
  generalize w.selecting env now = w₂ at houtcome ⊢
  cases houtcome with
  | idle hnot => exact .inl ⟨hnot, rfl, hsame⟩
  | shortcut hselects s hs => exact .inr ⟨hselects, .inl ⟨s, rfl, hsame⟩⟩
  | scan hselects hnone =>
    refine .inr ⟨hselects, .inr ⟨fun c hc ↦ ?_, ?_⟩⟩
    · rw [← hsame]
      exact scans_of_scanned hc
    · rw [rotation_refilled, hsame]

theorem rotation_onCheckAndPing (h : FairInv w) (env : IceEnv) (id : ByteString) (now : ℤ) :
    (w.onCheckAndPing env id now).rotation =
      match w.connectionToPing env now with
      | none => (w.selecting env now).rotation
      | some c => (w.selecting env now).rotation.turn c now := by
  obtain ⟨hpools, hlive⟩ := selecting_spec h env now
  rw [(quiet_onCheckAndPing env w id now).rotation]
  rcases hping : w.connectionToPing env now with _ | c
  · rfl
  · exact rotation_pingConnection hpools (hlive c hping).1 id now

theorem receivedKind_ne_pingSent (data : ByteString) :
    w.receivedKind env c data ≠ some .pingSent := by
  rw [receivedKind]
  rcases w.stunVerdict env (w.conn c).port data with _ | ⟨msg, errCode, reason⟩ |
    ⟨msg, remoteUfrag⟩
  · simp
  · simp
  · dsimp only
    rw [stunKind]
    split_ifs <;> simp

theorem lastPingSent_elim {kind : Option EntryKind} (hkind : kind ≠ some .pingSent)
    (s : ConnStamps) (now : ℤ) : ((kind.map fun k ↦ (⟨k, now⟩ : ConnEntry)).elim s
      s.record).lastPingSent = s.lastPingSent := by
  rcases kind with _ | k
  · rfl
  · cases k with
    | pingSent => exact absurd rfl hkind
    | requestReceived => rfl
    | responseReceived => rfl
    | dataReceived => rfl

/-- Only a tick stamps a ping. -/
theorem lastPingSent_step (h : FairInv w) (htick : ∀ id now, e ≠ .checkAndPing id now)
    (c : ConnId) : ((w.step env e).conn c).lastPingSent = (w.conn c).lastPingSent := by
  have hstamps := congrArg ConnStamps.lastPingSent
    (stamps_step env h.history.toWorldInv (h.history.new _ le_rfl) c e)
  refine hstamps.trans ?_
  cases e with
  | datagram p addr data ts now =>
    rw [entry]
    rcases w.getConnection p addr with _ | d
    · dsimp only
      split_ifs
      · exact congrArg ConnStamps.lastPingSent (elim_createdKind p data now _)
      · rfl
    · dsimp only
      split_ifs
      · exact lastPingSent_elim (receivedKind_ne_pingSent data) _ now
      · rfl
  | setRemoteIceParams iceParams now => rfl
  | checkAndPing id now => exact absurd rfl (htick id now)
  | sendPacket data => rfl

/-- **One event.** It leaves the turns alone, or it is a selection. -/
theorem rotation_step (h : FairInv w) (hspares : w.Spares env e) :
    (w.pingOf env e = none ∧ (w.step env e).rotation.served = w.rotation.served ∧
      (w.step env e).rotation.last = w.rotation.last) ∨
    ∃ now, w.SelectsBy env e now ∧ Select ((w.updateConnectionStates now).pingable now) w.rotation
      (w.pingOf env e) (w.step env e).rotation := by
  by_cases htick : ∃ id now, e = .checkAndPing id now
  · obtain ⟨id, now, rfl⟩ := htick
    have hrotation := rotation_onCheckAndPing h env id now
    rw [step, pingOf, hrotation]
    rcases rotation_selecting env w now with ⟨-, hping, hsame⟩ |
      ⟨hselects, ⟨s, hping, hsame⟩ | ⟨hscans, hsame⟩⟩
    · rw [hping, hsame]
      exact .inl ⟨rfl, rfl, rfl⟩
    · rw [hping, hsame]
      exact .inr ⟨now, ⟨id, rfl, hselects⟩, .bypass s now⟩
    · rw [hsame]
      refine .inr ⟨now, ⟨id, rfl, hselects⟩, ?_⟩
      rcases hping : w.connectionToPing env now with _ | c
      · exact .nobody
      · exact .scan c now (hscans c hping)
  · have htick' (id : ByteString) (now : ℤ) : e ≠ .checkAndPing id now :=
      fun heq ↦ htick ⟨id, now, heq⟩
    refine .inl ⟨?_, ?_, funext (lastPingSent_step h htick')⟩
    · cases e with
      | checkAndPing id now => exact absurd rfl (htick' id now)
      | datagram p addr data ts now => rfl
      | setRemoteIceParams iceParams now => rfl
      | sendPacket data => rfl
    · have hpinged : (w.step env e).controller.pingedConnections =
          w.controller.pingedConnections := by
        rcases joins_step h.history.toWorldInv hspares htick' with ⟨hpools, -⟩ | ⟨hpools, -⟩
        · exact (Prod.mk.inj hpools).2
        · exact (Prod.mk.inj hpools).2
      rw [rotation, hpinged]
      rfl

theorem FairInv.step (h : FairInv w) (hspares : w.Spares env e) : FairInv (w.step env e) where
  history := h.history.step e
  synced := synced_of_not_failsConnection h.history.toWorldInv h.synced hspares
  pools := by
    by_cases htick : ∃ id now, e = .checkAndPing id now
    · obtain ⟨id, now, rfl⟩ := htick
      obtain ⟨hpools, hlive⟩ := selecting_spec h env now
      have hpinged : PoolInv
          ((w.selecting env now).pingConnection env (w.connectionToPing env now) id now) := by
        rcases hping : w.connectionToPing env now with _ | c
        · exact hpools
        · exact hpools.pingConnection (hlive c hping).1 (hlive c hping).2 env id now
      exact hpinged.quiet (quiet_onCheckAndPing env w id now)
        (settles_setPingInterval _ _).connections
    · exact h.pools.joins h.history.toWorldInv
        (joins_step h.history.toWorldInv hspares fun id now heq ↦ htick ⟨id, now, heq⟩)

theorem FairInv.exec (h : FairInv w) {es : List IceEvent}
    (hspares : Along (World.step env) (Spares env) w es) :
    FairInv (exec (World.step env) w es) :=
  exec_invariant_along (fun _ _ hspares h ↦ FairInv.step h hspares) h hspares

/-! ## Between two pings

`Rotation` has the argument; here the steps of a run are matched with its selections. The stamp of a
member that has had its turn in this round is the time of a ping of the run (`served_exec`), which
is where the increasing times are used. -/

/-- If the event is a tick that selects a connection, `d` is there and pingable. -/
def Awaits (env : IceEnv) (d : ConnId) (w : World) (e : IceEvent) : Prop :=
  ∀ now, w.SelectsBy env e now →
    d ∈ w.controller.connections ∧ (w.updateConnectionStates now).isPingable d now = true

/-- The event pings `c`, and not because `c` is selected. -/
def PingsByScan (env : IceEnv) (w : World) (e : IceEvent) (c : ConnId) : Prop :=
  ∃ id now, e = .checkAndPing id now ∧ w.connectionToPing env now = some c ∧
    (w.updateConnectionStates now).shortcut now = none

/-- The pings of a run. -/
def pings (env : IceEnv) (w : World) (es : List IceEvent) : List (ConnId × ℤ) :=
  trail (World.step env) (pingOf env) w es

theorem ahead_step (h : FairInv w) (hspares : w.Spares env e) (hawaits : Awaits env d w e)
    (hother : ∀ x ∈ w.pingOf env e, x.1 ≠ c ∧ x.1 ≠ d) (ha : State.Ahead c d w.rotation) :
    State.Ahead c d (w.step env e).rotation := by
  rcases rotation_step h hspares with ⟨-, hserved, hlast⟩ | ⟨now, hselects, hselect⟩
  · exact ha.congr hserved hlast
  · obtain ⟨hmem, hready⟩ := hawaits now hselects
    exact hselect.ahead ha h.pools.covers hmem hready hother

theorem ahead_exec (h : FairInv w) {es : List IceEvent}
    (hspares : Along (World.step env) (Spares env) w es)
    (hawaits : Along (World.step env) (Awaits env d) w es)
    (hother : ∀ x ∈ w.pings env es, x.1 ≠ c ∧ x.1 ≠ d) (ha : State.Ahead c d w.rotation) :
    State.Ahead c d (exec (World.step env) w es).rotation := by
  induction es generalizing w with
  | nil => exact ha
  | cons e es ih =>
    have hfirst : ∀ x ∈ w.pingOf env e, x.1 ≠ c ∧ x.1 ≠ d := fun x hx ↦
      hother x (List.mem_append_left _ (Option.mem_toList.mpr hx))
    refine ih (h.step hspares.1) hspares.2 hawaits.2 (fun x hx ↦ ?_)
      (ahead_step h hspares.1 hawaits.1 hfirst ha)
    exact hother x (List.mem_append_right _ hx)

/-- Who has had a turn in this round was pinged, and its stamp tells when. -/
theorem served_exec (h : FairInv w) {es : List IceEvent}
    (hspares : Along (World.step env) (Spares env) w es)
    (hd : d ∈ (exec (World.step env) w es).rotation.served) :
    (d, (exec (World.step env) w es).rotation.last d) ∈ w.pings env es ∨
      d ∈ w.rotation.served ∧
        (exec (World.step env) w es).rotation.last d = w.rotation.last d := by
  induction es generalizing w with
  | nil => exact .inr ⟨hd, rfl⟩
  | cons e es ih =>
    rcases ih (h.step hspares.1) hspares.2 hd with hping | ⟨hserved, hlast⟩
    · exact .inl (List.mem_append_right _ hping)
    · have hlast' : (exec (World.step env) w (e :: es)).rotation.last d =
          (w.step env e).rotation.last d := hlast
      rw [hlast']
      rcases rotation_step h hspares.1 with ⟨-, hserved', hlast'⟩ | ⟨now, -, hselect⟩
      · rw [hserved'] at hserved
        rw [hlast']
        exact .inr ⟨hserved, rfl⟩
      · refine (hselect.served hserved).imp_left fun hping ↦ ?_
        exact List.mem_append_left _ (Option.mem_toList.mpr hping)

theorem PingsByScan.scans (h : w.PingsByScan env e c) : ∃ now, w.SelectsBy env e now ∧
    w.rotation.Scans ((w.updateConnectionStates now).pingable now) c := by
  obtain ⟨id, now, rfl, hping, hnone⟩ := h
  have houtcome := tickOutcome env w now
  generalize w.connectionToPing env now = conn at houtcome hping
  generalize w.selecting env now = w₂ at houtcome
  cases houtcome with
  | idle hnot => cases hping
  | shortcut hselects s hs =>
    rw [hnone] at hs
    cases hs
  | scan hselects hnone =>
    refine ⟨now, ⟨id, rfl, hselects⟩, ?_⟩
    rw [← (quiet_updateConnectionStates w now).rotation]
    exact scans_of_scanned hping

/-- After a ping, if the times of the pings increase, `c` is not to be pinged again before `d`. -/
theorem ahead_of_pingOf (h : FairInv w) (hnew : w.controller.pingedConnections = [])
    {fs : List IceEvent} {t : ℤ}
    (hspares : Along (World.step env) (Spares env) w (fs ++ [e]))
    (htimes : (w.pings env (fs ++ [e])).Pairwise fun x y ↦ x.2 < y.2)
    (hping : (exec (World.step env) w fs).pingOf env e = some (c, t)) (hdc : d ≠ c) :
    State.Ahead c d (exec (World.step env) w (fs ++ [e])).rotation := by
  obtain ⟨hspares₁, hspares₂⟩ := along_append.mp hspares
  rw [exec_append_singleton]
  rcases rotation_step (h.exec hspares₁) hspares₂.1 with ⟨hidle, -⟩ | ⟨now, -, hselect⟩
  · exact absurd (hping.symm.trans hidle) (by simp)
  · have hselect' : Select _ _ (some (c, t)) _ := hping ▸ hselect
    refine hselect'.ahead_of_turn hdc fun hd ↦ ?_
    rcases served_exec h hspares₁ hd with hmem | ⟨hserved, -⟩
    · rw [pings, trail_append] at htimes
      refine (List.pairwise_append.mp htimes).2.2 _ hmem (c, t) ?_
      exact List.mem_append_left _ (Option.mem_toList.mpr hping)
    · have hmem : d ∈ w.controller.pingedConnections := hserved
      rw [hnew] at hmem
      cases hmem

/-- If `c` is not to be pinged again before `d`, the scan does not choose it before. -/
theorem exists_ping_of_ahead (h : FairInv w) {es : List IceEvent}
    (hspares : Along (World.step env) (Spares env) w es)
    (hawaits : Along (World.step env) (Awaits env d) w (es ++ [e]))
    (hconsecutive : ∀ x ∈ w.pings env es, x.1 ≠ c)
    (hscan : (exec (World.step env) w es).PingsByScan env e c)
    (ha : State.Ahead c d w.rotation) : ∃ x ∈ w.pings env es, x.1 = d := by
  obtain ⟨hawaits₁, hawaits₂⟩ := along_append.mp hawaits
  by_contra hnever
  have hother : ∀ x ∈ w.pings env es, x.1 ≠ c ∧ x.1 ≠ d := fun x hx ↦
    ⟨hconsecutive x hx, fun hxd ↦ hnever ⟨x, hx, hxd⟩⟩
  have hlast := ahead_exec h hspares hawaits₁ hother ha
  obtain ⟨now, hselects, hscans⟩ := hscan.scans
  obtain ⟨hmem, hready⟩ := hawaits₂.1 now hselects
  exact hlast.not_scans (h.exec hspares).pools.covers hmem hready hscans

end World

/-- **Fairness.** In a run in which no connection is destroyed, the two sets share the connections
between them. If the pings of the run have increasing times, then between two consecutive pings of a
connection, the second of them by the scan, every other connection is pinged that is there and
pingable whenever one is selected, the second ping included. -/
theorem pings_fair (env : IceEnv) (component : IceCandidateComponent)
    (port : PortId → IceParameters × Candidate) (es : List IceEvent)
    (hnone : (run env component port es).NoneDestroyed) :
    (List.Disjoint (run env component port es).controller.unpingedConnections
        (run env component port es).controller.pingedConnections ∧
      ∀ c, c ∈ (run env component port es).controller.connections ↔
        c ∈ (run env component port es).controller.unpingedConnections ∨
          c ∈ (run env component port es).controller.pingedConnections) ∧
    (((init component port).pings env es).Pairwise (fun x y ↦ x.2 < y.2) →
      ∀ fs e₁ gs e₂ hs c d t, es = fs ++ e₁ :: (gs ++ e₂ :: hs) →
        (run env component port fs).pingOf env e₁ = some (c, t) →
        (∀ x ∈ (run env component port (fs ++ [e₁])).pings env gs, x.1 ≠ c) →
        (run env component port (fs ++ e₁ :: gs)).PingsByScan env e₂ c → d ≠ c →
        Along (World.step env) (Awaits env d) (run env component port (fs ++ [e₁]))
          (gs ++ [e₂]) →
        ∃ x ∈ (run env component port (fs ++ [e₁])).pings env gs, x.1 = d) := by
  obtain ⟨-, hspares⟩ := along_spares (worldInv_init component port) es hnone
  have hinit := fairInv_init component port
  refine ⟨?_, fun htimes fs e₁ gs e₂ hs c d t hes hping hconsecutive hscan hdc hawaits ↦ ?_⟩
  · have hcovers := (hinit.exec hspares).pools.covers
    refine ⟨fun c hunpinged hpinged ↦ Set.disjoint_left.mp hcovers.disjoint hunpinged hpinged, ?_⟩
    exact fun c ↦ (Set.ext_iff.mp hcovers.union c).symm
  · have happend : es = (fs ++ [e₁]) ++ (gs ++ e₂ :: hs) := by
      rw [hes, List.append_assoc]
      rfl
    subst happend
    obtain ⟨hspares₁, hspares₂⟩ := along_append.mp hspares
    have hahead : State.Ahead c d (run env component port (fs ++ [e₁])).rotation := by
      rw [pings, trail_append] at htimes
      exact ahead_of_pingOf hinit rfl hspares₁ (List.pairwise_append.mp htimes).1 hping hdc
    have hstate : run env component port (fs ++ e₁ :: gs) =
        exec (World.step env) (run env component port (fs ++ [e₁])) gs := by
      rw [run, run, ← exec_append, List.append_assoc]
      rfl
    rw [hstate] at hscan
    exact exists_ping_of_ahead (hinit.exec hspares₁) (along_append.mp hspares₂).1 hawaits
      hconsecutive hscan hahead

/-- The answer and both peers arrive, and the first peer is pinged. -/
def twoPeersRun : List IceEvent :=
  [.setRemoteIceParams peerParams 0, .datagram 0 peerA bindingRequestA 10 10,
    .datagram 0 peerB bindingRequestB 20 20]

/-- Between two pings of the first peer the second one is pinged. -/
theorem pings_fair_twoPeersRun :
    ∃ x ∈ (run sampleEnv .rtp (fun _ ↦ samplePort)
      (twoPeersRun ++ [.checkAndPing (lit "pingnumber01") 1000])).pings sampleEnv
        [.checkAndPing (lit "pingnumber02") 1100], x.1 = 1 := by
  have hnone : (run sampleEnv .rtp (fun _ ↦ samplePort) (twoPeersRun ++
      .checkAndPing (lit "pingnumber01") 1000 :: ([.checkAndPing (lit "pingnumber02") 1100] ++
        .checkAndPing (lit "pingnumber03") 1200 :: []))).NoneDestroyed := by decide +kernel
  refine (pings_fair sampleEnv .rtp (fun _ ↦ samplePort) _ hnone).2 (by decide +kernel)
    twoPeersRun _ _ _ [] 0 1 1000 rfl (by decide +kernel) (by decide +kernel)
    ⟨_, _, rfl, by decide +kernel, by decide +kernel⟩ (by decide) ?_
  refine ⟨?_, ?_, trivial⟩
  · rintro now ⟨id, heq, -⟩
    cases heq
    decide +kernel
  · rintro now ⟨id, heq, -⟩
    cases heq
    decide +kernel

end XrtcServer
