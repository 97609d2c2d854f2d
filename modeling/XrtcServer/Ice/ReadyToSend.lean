import Mathlib.Data.Prod.Lex
import XrtcServer.Ice.PortMap

/-!
# Whether the selected connection can send

`sort_and_switch_connection` puts the best connection first, but proposes to switch to it only if
its round trip time beats that of the controller's current selection by ten milliseconds. The rule
does not ask whether the current selection can still send, so a connection that timed out stays
selected for as long as nothing is faster.

## The comparator as a key

The comparator is ranked by the lexicographic key `rank`, whose first component is the write state:
if any connection can send, the best one can. A sort with it is stable, but which of several best
connections comes first does not matter: they have the same key, and so the same round trip time.
That gives the exact condition, `selectsReady_sort_iff`.
-/

namespace XrtcServer

open EventRun ByteString StableSort World

namespace World

variable {w w' w'' : World} {a b c s t : ConnId} {l : List ConnId} {now : ℤ}

/-! ## The comparator -/

/-- What the comparator compares, in this order and smallest first: the write state, the receiving
flag, the priority (largest first) and the round trip time. -/
def rank (w : World) (c : ConnId) : ℕ ×ₗ ℕ ×ₗ ℤ ×ₗ ℤ :=
  toLex ((w.conn c).writeState.toNat, toLex (if (w.conn c).receiving then 0 else 1,
    toLex (-((w.priority c).toNat : ℤ), (w.conn c).rtt)))

theorem writable_iff (x : IceConnection) : x.writable = true ↔ x.writeState.toNat = 0 := by
  rw [IceConnection.writable]
  rcases x.writeState <;> decide

theorem rank_lt_iff (w : World) (a b : ConnId) : w.rank a < w.rank b ↔
    (w.conn a).writeState.toNat < (w.conn b).writeState.toNat ∨
    (w.conn a).writeState.toNat = (w.conn b).writeState.toNat ∧
      ((w.conn a).receiving = true ∧ (w.conn b).receiving = false ∨
      (w.conn a).receiving = (w.conn b).receiving ∧
        (w.priority b < w.priority a ∨ w.priority b = w.priority a ∧
          (w.conn a).rtt < (w.conn b).rtt)) := by
  rw [rank, rank]
  simp only [Prod.Lex.toLex_lt_toLex, UInt64.lt_iff_toNat_lt, ← UInt64.toNat_inj]
  rcases (w.conn a).receiving <;> rcases (w.conn b).receiving <;> simp <;> omega

theorem compareConnections_of_lt
    (h : (w.conn a).writeState.toNat < (w.conn b).writeState.toNat) :
    w.compareConnections a b = 1 := by
  have hb : (w.conn b).writable = false := by
    rw [← Bool.not_eq_true, writable_iff]
    omega
  simp [compareConnections, hb, h]

theorem compareConnections_of_gt
    (h : (w.conn b).writeState.toNat < (w.conn a).writeState.toNat) :
    w.compareConnections a b = -1 := by
  have ha : (w.conn a).writable = false := by
    rw [← Bool.not_eq_true, writable_iff]
    omega
  simp [compareConnections, ha, h, Nat.lt_asymm h]

theorem compareConnections_of_eq
    (h : (w.conn a).writeState.toNat = (w.conn b).writeState.toNat) :
    w.compareConnections a b =
      if (w.conn a).receiving && !(w.conn b).receiving then 1
      else if !(w.conn a).receiving && (w.conn b).receiving then -1
      else if w.priority b < w.priority a then 1
      else if w.priority a < w.priority b then -1
      else 0 := by
  have hab : (w.conn a).writable = (w.conn b).writable := by
    rw [Bool.eq_iff_iff, writable_iff, writable_iff, h]
  simp [compareConnections, hab, h]

theorem rankedBy_goesBefore (w : World) : RankedBy w.goesBefore w.rank := by
  intro a b
  rw [rank_lt_iff, goesBefore]
  rcases lt_trichotomy (w.conn a).writeState.toNat (w.conn b).writeState.toNat with h | h | h
  · simp [compareConnections_of_lt h, h]
  · rw [compareConnections_of_eq h]
    simp only [UInt64.lt_iff_toNat_lt, ← UInt64.toNat_inj]
    rcases hra : (w.conn a).receiving <;> rcases hrb : (w.conn b).receiving <;>
      rcases lt_trichotomy (w.priority b).toNat (w.priority a).toNat with hp | hp | hp <;>
      simp [h, hp, Nat.lt_asymm, Nat.ne_of_gt]
  · simp [compareConnections_of_gt h, Nat.lt_asymm h, h.ne']

/-! ## The best connection -/

/-- `t` is in the list and no connection of the list goes before it. -/
def IsBest (w : World) (l : List ConnId) (t : ConnId) : Prop :=
  t ∈ l ∧ ∀ u ∈ l, w.goesBefore u t = false

instance (w : World) (l : List ConnId) (t : ConnId) : Decidable (w.IsBest l t) :=
  inferInstanceAs (Decidable (_ ∧ _))

theorem isBest_iff : w.IsBest l t ↔ t ∈ l ∧ ∀ u ∈ l, w.rank t ≤ w.rank u := by
  have hle (u : ConnId) : w.goesBefore u t = false ↔ w.rank t ≤ w.rank u := by
    rw [← Bool.not_eq_true, rankedBy_goesBefore w u t, not_lt]
  simp only [IsBest, hle]

theorem isBest_head (h : (stableSort w.goesBefore l).head? = some t) : w.IsBest l t :=
  isBest_iff.mpr ⟨mem_stableSort.mp (List.mem_of_head? h), rank_head_le (rankedBy_goesBefore w) h⟩

/-- Two best connections agree in everything that is compared. -/
theorem IsBest.eq_of_isBest (h : w.IsBest l s) (h' : w.IsBest l t) :
    (w.conn s).writeState.toNat = (w.conn t).writeState.toNat ∧
      (w.conn s).rtt = (w.conn t).rtt := by
  obtain ⟨hs, hsle⟩ := isBest_iff.mp h
  obtain ⟨ht, htle⟩ := isBest_iff.mp h'
  have hrank : w.rank s = w.rank t := le_antisymm (hsle t ht) (htle s hs)
  exact ⟨congrArg (fun k ↦ (ofLex k).1) hrank,
    congrArg (fun k ↦ (ofLex (ofLex (ofLex k).2).2).2) hrank⟩

theorem readyToSend_iff (w : World) (c : ConnId) :
    w.readyToSend (some c) = true ↔ (w.conn c).writeState.toNat ≤ 1 := by
  rw [readyToSend, IceConnection.writable]
  rcases (w.conn c).writeState <;> decide

theorem IsBest.readyToSend (h : w.IsBest l t) (hc : c ∈ l)
    (hready : w.readyToSend (some c) = true) :
    w.readyToSend (some t) = true := by
  rw [readyToSend_iff] at hready ⊢
  have hle := (isBest_iff.mp h).2 c hc
  by_contra hlt
  refine absurd hle (not_le.mpr ((rank_lt_iff w c t).mpr (.inl ?_)))
  omega

/-! ## The proposal of the controller -/

/-- `t` can send, and beats the controller's selection, if there is one, by the margin. -/
def MaySwitchTo (w : World) (t : ConnId) : Prop :=
  w.readyToSend (some t) = true ∧ ∀ s, w.controller.selectedConnection = some s →
    (w.conn t).rtt ≤ (w.conn s).rtt - kMinImprovement

theorem connectionToSwitchTo_iff : w.connectionToSwitchTo = some t ↔
    w.controller.connections.head? = some t ∧ w.MaySwitchTo t := by
  rcases htop : w.controller.connections.head? with _ | u
  · simp [connectionToSwitchTo, htop, World.readyToSend]
  by_cases hu : w.readyToSend (some u) = true
  · rcases hsel : w.controller.selectedConnection with _ | s
    · have hswitch : w.connectionToSwitchTo = some u := by
        simp [connectionToSwitchTo, htop, hsel, hu]
      rw [hswitch, Option.some.injEq, MaySwitchTo, hsel]
      refine ⟨?_, fun h ↦ h.1⟩
      rintro rfl
      exact ⟨rfl, hu, fun s hs ↦ by cases hs⟩
    · by_cases hsu : s = u
      · -- a connection is not faster than itself
        have hswitch : w.connectionToSwitchTo = none := by
          simp [connectionToSwitchTo, htop, hsel, hsu]
        rw [hswitch]
        refine iff_of_false (by simp) ?_
        rintro ⟨ht, -, hrtt⟩
        have := hrtt s hsel
        rw [← Option.some.inj ht, hsu, kMinImprovement] at this
        omega
      · have hswitch : w.connectionToSwitchTo =
            if (w.conn u).rtt ≤ (w.conn s).rtt - kMinImprovement then some u else none := by
          simp [connectionToSwitchTo, htop, hsel, hu, hsu]
        rw [hswitch, MaySwitchTo, hsel]
        split_ifs with hrtt
        · rw [Option.some.injEq]
          refine ⟨?_, fun h ↦ h.1⟩
          rintro rfl
          exact ⟨rfl, hu, fun s' hs' ↦ by rwa [← Option.some.inj hs']⟩
        · refine iff_of_false (by simp) ?_
          rintro ⟨ht, -, hle⟩
          rw [← Option.some.inj ht] at hle
          exact absurd (hle s rfl) hrtt
  · have hswitch : w.connectionToSwitchTo = none := by
      simp [connectionToSwitchTo, htop, hu]
    rw [hswitch]
    refine iff_of_false (by simp) ?_
    rintro ⟨ht, hready, -⟩
    rw [← Option.some.inj ht] at hready
    exact absurd hready hu

/-- The list is sorted first, which changes nothing that the proposal looks at. -/
theorem sortAndSwitchConnection_snd_iff : w.sortAndSwitchConnection.2 = some t ↔
    (stableSort w.goesBefore w.controller.connections).head? = some t ∧ w.MaySwitchTo t :=
  connectionToSwitchTo_iff

theorem exists_switch_iff : (∃ t, w.sortAndSwitchConnection.2 = some t) ↔
    ∃ t, w.IsBest w.controller.connections t ∧ w.MaySwitchTo t := by
  constructor
  · rintro ⟨t, ht⟩
    obtain ⟨hhead, hmay⟩ := sortAndSwitchConnection_snd_iff.mp ht
    exact ⟨t, isBest_head hhead, hmay⟩
  · rintro ⟨t, hbest, hready, hrtt⟩
    rcases hhead : (stableSort w.goesBefore w.controller.connections).head? with _ | u
    · rw [List.head?_eq_none_iff, stableSort_eq_nil] at hhead
      rw [IsBest, hhead] at hbest
      cases hbest.1
    · -- the first one agrees with `t` in all that matters
      have hu := isBest_head hhead
      refine ⟨u, sortAndSwitchConnection_snd_iff.mpr ⟨hhead, ?_, ?_⟩⟩
      · exact hu.readyToSend hbest.1 hready
      · rw [(hu.eq_of_isBest hbest).2]
        exact hrtt

/-! ## After the switch -/

/-- The channel's own state apart, nothing has changed. -/
structure SameSelection (w w' : World) : Prop where
  conns : w'.conns = w.conns
  port : w'.port = w.port
  controller : w'.controller = w.controller
  selected : w'.channel.selectedConnection = w.channel.selectedConnection

theorem SameSelection.trans (h : SameSelection w w') (h' : SameSelection w' w'') :
    SameSelection w w'' where
  conns := h'.conns.trans h.conns
  port := h'.port.trans h.port
  controller := h'.controller.trans h.controller
  selected := h'.selected.trans h.selected

instance : IsPreorder World SameSelection where
  refl _ := ⟨rfl, rfl, rfl, rfl⟩
  trans _ _ _ := .trans

theorem sameSelection_updateState (w : World) : SameSelection w w.updateState :=
  across_updateState (fun _ ↦ ⟨rfl, rfl, rfl, rfl⟩) (fun _ _ ↦ ⟨rfl, rfl, rfl, rfl⟩)
    (fun _ _ ↦ ⟨rfl, rfl, rfl, rfl⟩) (fun _ ↦ ⟨rfl, rfl, rfl, rfl⟩) w

theorem sameSelection_sortConnectionsAndUpdateState (w : World) (now : ℤ) :
    SameSelection (w.sortConnections.maybeSwitchSelectedConnection w.sortAndSwitchConnection.2)
      (w.sortConnectionsAndUpdateState now) :=
  (sameSelection_updateState _).trans (across_maybeStartPinging fun _ ↦ ⟨rfl, rfl, rfl, rfl⟩)

/-- Both copies of the selection after a sort: the proposal, if there is one. -/
theorem selection_sortConnectionsAndUpdateState (w : World) (now : ℤ) :
    (w.sortConnectionsAndUpdateState now).channel.selectedConnection =
        w.sortAndSwitchConnection.2.or w.channel.selectedConnection ∧
      (w.sortConnectionsAndUpdateState now).controller.selectedConnection =
        w.sortAndSwitchConnection.2.or w.controller.selectedConnection := by
  have hsame := sameSelection_sortConnectionsAndUpdateState w now
  rw [hsame.selected, hsame.controller]
  rcases w.sortAndSwitchConnection.2 with _ | t
  · exact ⟨rfl, rfl⟩
  · rw [maybeSwitchSelectedConnection, switchSelectedConnection]
    rcases w.sortConnections.channel.selectedConnection with _ | s <;> exact ⟨rfl, rfl⟩

/-- A property of the connections that `set_selected` does not touch survives a sort. -/
theorem proj_conn_sortConnectionsAndUpdateState {β : Type*} {p : IceConnection → β}
    (hp : ∀ x v, p { x with selected := v } = p x) (w : World) (c : ConnId) (now : ℤ) :
    p ((w.sortConnectionsAndUpdateState now).conn c) = p (w.conn c) := by
  have hset (w : World) (conn : Option ConnId) (value : Bool) :
      p ((w.setSelected conn value).conn c) = p (w.conn c) := by
    rcases conn with _ | d
    · rfl
    · exact Arena.proj_cell_modify (fun x ↦ hp x value) d c
  rw [conn, (sameSelection_sortConnectionsAndUpdateState w now).conns, ← conn]
  rcases w.sortAndSwitchConnection.2 with _ | t
  · rfl
  · rw [maybeSwitchSelectedConnection, switchSelectedConnection]
    exact (hset _ (some t) true).trans (hset _ w.channel.selectedConnection false)

theorem readyToSend_sortConnectionsAndUpdateState (w : World) (conn : Option ConnId) (now : ℤ) :
    (w.sortConnectionsAndUpdateState now).readyToSend conn = w.readyToSend conn := by
  rcases conn with _ | c
  · rfl
  · rw [Bool.eq_iff_iff, readyToSend_iff, readyToSend_iff,
      proj_conn_sortConnectionsAndUpdateState (p := fun x ↦ x.writeState.toNat) (fun _ _ ↦ rfl)]

/-! ## The selected connection can send

Either the controller has proposed the best connection, and that can send if any can, or it has not,
and then the margin decides: the old selection is kept whatever has become of it. -/

/-- If any connection can send, the selected one can. -/
def SelectsReady (w : World) : Prop :=
  (∃ c ∈ w.controller.connections, w.readyToSend (some c) = true) →
    w.readyToSend w.channel.selectedConnection = true

instance (w : World) : Decidable w.SelectsReady := inferInstanceAs (Decidable (_ → _))

end World

/-- **The selection after a sort.** From any state, the selected connection can send afterwards, if
any can, exactly when none can, or the selected one could before, or the best connection can and
beats the controller's selection, if there is one, by ten milliseconds. -/
theorem selectsReady_sort_iff (w : World) (now : ℤ) :
    (w.sortConnectionsAndUpdateState now).SelectsReady ↔
      (∀ c ∈ w.controller.connections, w.readyToSend (some c) = false) ∨
      w.readyToSend w.channel.selectedConnection = true ∨
      ∃ t, w.IsBest w.controller.connections t ∧ w.MaySwitchTo t := by
  have hperm := (settles_sortConnectionsAndUpdateState w now).connections
  rw [SelectsReady, readyToSend_sortConnectionsAndUpdateState,
    (selection_sortConnectionsAndUpdateState w now).1, ← exists_switch_iff]
  simp only [readyToSend_sortConnectionsAndUpdateState, hperm.mem_iff]
  rcases hswitch : w.sortAndSwitchConnection.2 with _ | t
  · -- the selection stays
    rw [Option.none_or]
    constructor
    · intro h
      by_cases hany : ∃ c ∈ w.controller.connections, w.readyToSend (some c) = true
      · exact .inr (.inl (h hany))
      · exact .inl fun c hc ↦ by simpa using fun hready ↦ hany ⟨c, hc, hready⟩
    · rintro (hnone | hselected | ⟨t, ht⟩)
      · rintro ⟨c, hc, hready⟩
        rw [hnone c hc] at hready
        cases hready
      · exact fun _ ↦ hselected
      · cases ht
  · -- the selection moves to a connection that can send
    rw [Option.some_or]
    have hmay := (sortAndSwitchConnection_snd_iff.mp hswitch).2
    exact ⟨fun _ ↦ .inr (.inr ⟨t, rfl⟩), fun _ _ ↦ hmay.1⟩

/-- Both peers answer a ping, the first one faster; then it falls silent. -/
def silentRun : List IceEvent :=
  [.setRemoteIceParams peerParams 0, .datagram 0 peerA bindingRequestA 10 10,
    .datagram 0 peerB bindingRequestB 20 20, .checkAndPing (lit "pingnumber01") 1000,
    .datagram 0 peerA bindingResponse1 1010 1010, .checkAndPing (lit "pingnumber02") 1045,
    .datagram 0 peerB bindingResponse2 1065 1065, .checkAndPing (lit "pingnumber03") 2000,
    .checkAndPing (lit "pingnumber04") 3000, .checkAndPing (lit "pingnumber05") 4000,
    .checkAndPing (lit "pingnumber06") 5000, .checkAndPing (lit "pingnumber07") 6000,
    .checkAndPing (lit "pingnumber08") 17001]

/-- The first connection timed out and stays selected, although the second one can send. -/
theorem not_selectsReady :
    ¬∀ (env : IceEnv) (component : IceCandidateComponent)
      (port : PortId → IceParameters × Candidate) (es : List IceEvent) (now : ℤ),
      ((run env component port es).sortConnectionsAndUpdateState now).SelectsReady := by
  intro h
  have hready := h sampleEnv .rtp (fun _ ↦ samplePort) silentRun 17001
  exact absurd hready (by decide +kernel)

end XrtcServer
