import XrtcServer.Ice.Calls
import XrtcServer.Lib.SignalLog

/-!
# What the channel shows

The owner of a channel asks three things of it: whether it is writable, whether it is receiving, and
its ICE state. The channel keeps the answers in fields and computes them anew in `_update_state`,
which a connection reaches only through the signals it gives when its own state changes.

## Two results

After every event the fields are what the connections say (`reflects_run`), so no path that changes
a connection has forgotten the signal. And the signals tell every change exactly once: the flags
alternate, and the ICE state goes through the life of a channel in one direction (`lifecycle_run`).
That life has no `k_completed` in it, and it turns with the first signal that the channel is
writable: `LifeSplit` cuts the log there.

## Steady calls

`Steady` says of a function that it keeps both. It is a relation in the sense of `Ice/Calls.lean`,
so a function that only calls others is `Steady` by the rule for it. What comes between a change of
a connection and the next `_update_state` keeps the second result alone; there the log must not have
changed (`SameLog`), and the update makes the fields right again, whatever they were.
-/

namespace XrtcServer

open EventRun SignalLog

namespace World

/-! ## The fields and the log

`Life` goes along with the field that the channel itself has for it: whether it was ever writable.
While it was not, the second part of the log is empty, and this is what ties the turn of the life to
the signal and not only to an order of the states. -/

/-- The fields are what the connections say. -/
structure Reflects (w : World) : Prop where
  writable : w.channel.writable = w.selectedWritable
  receiving : w.channel.receiving = w.controller.connections.any fun c ↦ (w.conn c).receiving
  state : w.channel.state = w.computeIceTransportState

/-- What the handlers of a signal found, each time it was given. -/
def told {τ : Type} (w : World) (s : ChannelSignal) (p : IceTransportChannel → τ) : List τ :=
  (w.signals.filter fun x ↦ x.signal = s).map fun x ↦ p x.channel

/-- The states before the channel was writable for the first time. -/
def EarlyState (x : IceTransportState) : Prop := x = .checking ∨ x = .failed

/-- The states after it was. -/
def LateState (x : IceTransportState) : Prop := x = .connected ∨ x = .disconnected ∨ x = .failed

/-- The signal tells that the channel is writable. -/
def TellsWritable (x : SentSignal) : Prop :=
  x.signal = .writableState ∧ x.channel.writable = true

/-- The log is cut in front of the first signal that the channel is writable, and the states told
before it are early, those after it late. -/
structure LifeSplit (before after : List SentSignal) : Prop where
  unwritable : ∀ x ∈ before, ¬TellsWritable x
  first : ∀ x ∈ after.head?, TellsWritable x
  early : ∀ x ∈ before, x.signal = .iceStateChanged → EarlyState x.channel.state
  late : ∀ x ∈ after, x.signal = .iceStateChanged → LateState x.channel.state

/-- A log whose states are those of a life; `been` says whether the channel was ever writable. -/
def Life (signals : List SentSignal) (been : Bool) : Prop :=
  ∃ before after, signals = before ++ after ∧ LifeSplit before after ∧ (after = [] ↔ been = false)

theorem life_nil : Life [] false :=
  ⟨[], [], rfl, ⟨by simp, by simp, by simp, by simp⟩, by simp⟩

theorem Life.snoc {signals : List SentSignal} {been : Bool} {x : SentSignal}
    (h : Life signals been) (hwritable : TellsWritable x → been = true)
    (hstate : x.signal = .iceStateChanged →
      (been = false ∧ EarlyState x.channel.state) ∨ (been = true ∧ LateState x.channel.state)) :
    Life (signals ++ [x]) been := by
  obtain ⟨before, after, rfl, hsplit, hbeen⟩ := h
  cases been with
  | false =>
    obtain rfl := hbeen.mpr rfl
    refine ⟨before ++ [x], [], by simp, ⟨?_, by simp, ?_, by simp⟩, by simp⟩
    · refine List.forall_mem_append.mpr ⟨hsplit.unwritable, List.forall_mem_singleton.mpr ?_⟩
      exact fun hx ↦ Bool.false_ne_true (hwritable hx)
    · refine List.forall_mem_append.mpr ⟨hsplit.early, List.forall_mem_singleton.mpr fun hx ↦ ?_⟩
      rcases hstate hx with ⟨-, hearly⟩ | ⟨hcase, -⟩
      · exact hearly
      · exact absurd hcase Bool.false_ne_true
  | true =>
    have hne : after ≠ [] := fun hnil ↦ Bool.false_ne_true (hbeen.mp hnil).symm
    refine ⟨before, after ++ [x], by simp, ⟨hsplit.unwritable, ?_, hsplit.early, ?_⟩, by simp⟩
    · rw [List.head?_append_of_ne_nil _ hne]
      exact hsplit.first
    · refine List.forall_mem_append.mpr ⟨hsplit.late, List.forall_mem_singleton.mpr fun hx ↦ ?_⟩
      rcases hstate hx with ⟨hcase, -⟩ | ⟨-, hlate⟩
      · exact absurd hcase.symm Bool.false_ne_true
      · exact hlate

/-- A signal that the channel is writable, the first one or another. -/
theorem Life.snoc_writable {signals : List SentSignal} {been : Bool} {x : SentSignal}
    (h : Life signals been) (hx : TellsWritable x) : Life (signals ++ [x]) true := by
  have hkind : x.signal ≠ .iceStateChanged := by
    rw [hx.1]
    simp
  cases been with
  | true => exact h.snoc (fun _ ↦ rfl) fun hstate ↦ absurd hstate hkind
  | false =>
    obtain ⟨before, after, rfl, hsplit, hbeen⟩ := h
    obtain rfl := hbeen.mpr rfl
    refine ⟨before, [x], by simp, ⟨hsplit.unwritable, ?_, hsplit.early, ?_⟩, by simp⟩
    · rintro y ⟨rfl⟩
      exact hx
    · exact List.forall_mem_singleton.mpr fun hstate ↦ absurd hstate hkind

/-- The signals tell every change once, and the states are those of a life. -/
structure Orderly (w : World) : Prop where
  writable : Exact false (w.told .writableState (·.writable)) w.channel.writable
  receiving : Exact false (w.told .receivingState (·.receiving)) w.channel.receiving
  state : Exact .new (w.told .iceStateChanged (·.state)) w.channel.state
  /-- Without a connection there was no change. -/
  unused : w.channel.hadConnection = false → w.controller.connections = [] ∧
    w.channel.selectedConnection = none ∧ w.channel.hasBeenConnection = false ∧
    w.told .iceStateChanged (·.state) = []
  been : w.channel.writable = true → w.channel.hasBeenConnection = true
  life : Life w.signals w.channel.hasBeenConnection

variable {env : IceEnv} {w w' w'' : World} {c : ConnId} {now : ℤ}

/-! ## What the log depends on -/

/-- Only what `Orderly` does not look at has changed. -/
structure SameLog (w w' : World) : Prop where
  signals : w'.signals = w.signals
  channel : (w'.channel.writable, w'.channel.receiving, w'.channel.state, w'.channel.hadConnection,
      w'.channel.hasBeenConnection) =
    (w.channel.writable, w.channel.receiving, w.channel.state, w.channel.hadConnection,
      w.channel.hasBeenConnection)
  empty : w.controller.connections = [] → w.channel.selectedConnection = none →
    w'.controller.connections = [] ∧ w'.channel.selectedConnection = none

theorem SameLog.refl (w : World) : SameLog w w := ⟨rfl, rfl, fun hc hs ↦ ⟨hc, hs⟩⟩

theorem SameLog.trans (h : SameLog w w') (h' : SameLog w' w'') : SameLog w w'' where
  signals := h'.signals.trans h.signals
  channel := h'.channel.trans h.channel
  empty hc hs := by
    obtain ⟨hc', hs'⟩ := h.empty hc hs
    exact h'.empty hc' hs'

instance : IsPreorder World SameLog where
  refl := .refl
  trans _ _ _ := .trans

theorem SameLog.orderly (hs : SameLog w w') (h : w.Orderly) : w'.Orderly := by
  obtain ⟨hsignals, hchannel, hempty⟩ := hs
  simp only [Prod.mk.injEq] at hchannel
  obtain ⟨hwritable, hreceiving, hstate, hhad, hbeen⟩ := hchannel
  have htold {τ : Type} (s : ChannelSignal) (p : IceTransportChannel → τ) :
      w'.told s p = w.told s p := by rw [told, told, hsignals]
  constructor
  · rw [htold, hwritable]
    exact h.writable
  · rw [htold, hreceiving]
    exact h.receiving
  · rw [htold, hstate]
    exact h.state
  · rw [htold, hhad, hbeen]
    intro hno
    obtain ⟨hconnections, hselected, hrest⟩ := h.unused hno
    obtain ⟨hconnections', hselected'⟩ := hempty hconnections hselected
    exact ⟨hconnections', hselected', hrest⟩
  · rw [hwritable, hbeen]
    exact h.been
  · rw [hsignals, hbeen]
    exact h.life

theorem sameLog_modifyConn (w : World) (c : ConnId) (f : IceConnection → IceConnection) :
    SameLog w (w.modifyConn c f) := ⟨rfl, rfl, fun hc hs ↦ ⟨hc, hs⟩⟩

theorem told_signal {τ : Type} (w : World) (s t : ChannelSignal) (p : IceTransportChannel → τ) :
    (w.signal s).told t p = w.told t p ++ if s = t then [p w.channel] else [] := by
  rw [told, told, signal, List.filter_append, List.map_append]
  congr 1
  split_ifs with hst
  · simp [hst]
  · simp [hst]

theorem told_signal_of_ne {τ : Type} (w : World) {s t : ChannelSignal} (hst : s ≠ t)
    (p : IceTransportChannel → τ) : (w.signal s).told t p = w.told t p := by
  rw [told_signal, if_neg hst, List.append_nil]

/-! ## The update

`_update_state` computes the three answers one after the other, stores each if it is new, and
signals. The ICE state is computed after the flag, so it belongs to the part of the life that the
channel is in by then. -/

theorem Orderly.readPacket (h : w.Orderly) (data : ByteString) (ts : ℤ) :
    (w.signal (.readPacket data ts)).Orderly := by
  constructor
  · rw [told_signal_of_ne _ (by simp)]
    exact h.writable
  · rw [told_signal_of_ne _ (by simp)]
    exact h.receiving
  · rw [told_signal_of_ne _ (by simp)]
    exact h.state
  · rw [told_signal_of_ne _ (by simp)]
    exact h.unused
  · exact h.been
  · exact h.life.snoc (fun hx ↦ by cases hx.1) fun hx ↦ by cases hx

theorem Orderly.setWritable (h : w.Orderly) {writable : Bool}
    (hhad : writable = true → w.channel.hadConnection = true) :
    (w.setWritable writable).Orderly := by
  rw [World.setWritable]
  split_ifs with heq htrue
  · exact h
  all_goals
    refine ⟨?_, ?_, ?_, ?_, ?_, ?_⟩
    · rw [told_signal]
      exact h.writable.snoc (Ne.symm heq)
    · rw [told_signal_of_ne _ (by simp)]
      exact h.receiving
    · rw [told_signal_of_ne _ (by simp)]
      exact h.state
  · exact fun hno ↦ absurd ((hhad htrue).symm.trans hno) (by decide)
  · exact fun _ ↦ rfl
  · exact h.life.snoc_writable ⟨rfl, htrue⟩
  · rw [told_signal_of_ne _ (by simp)]
    exact h.unused
  · exact fun hw ↦ absurd hw htrue
  · exact h.life.snoc (fun hx ↦ absurd hx.2 htrue) fun hx ↦ by cases hx

theorem Orderly.setReceiving (h : w.Orderly) (receiving : Bool) :
    (w.setReceiving receiving).Orderly := by
  rw [World.setReceiving]
  split_ifs with heq
  · exact h
  refine ⟨?_, ?_, ?_, ?_, h.been, ?_⟩
  · rw [told_signal_of_ne _ (by simp)]
    exact h.writable
  · rw [told_signal]
    exact h.receiving.snoc (Ne.symm heq)
  · rw [told_signal_of_ne _ (by simp)]
    exact h.state
  · rw [told_signal_of_ne _ (by simp)]
    exact h.unused
  · exact h.life.snoc (fun hx ↦ by cases hx.1) fun hx ↦ by cases hx

/-- A state that is computed belongs to the part of the life the channel is in. -/
theorem Orderly.computeIceTransportState_cases (h : w.Orderly) :
    (w.channel.hadConnection = false ∧ w.computeIceTransportState = .new) ∨
      w.channel.hadConnection = true ∧
        ((w.channel.hasBeenConnection = false ∧ EarlyState w.computeIceTransportState) ∨
          (w.channel.hasBeenConnection = true ∧ LateState w.computeIceTransportState)) := by
  rw [computeIceTransportState]
  rcases hhad : w.channel.hadConnection with _ | _
  · obtain ⟨hconnections, -, hbeen, -⟩ := h.unused hhad
    simp [hconnections, hbeen]
  · rcases hbeen : w.channel.hasBeenConnection with _ | _
    · have hwritable : w.channel.writable = false :=
        Bool.eq_false_iff.mpr fun hw ↦ by simp [h.been hw] at hbeen
      rcases w.controller.connections.any fun c ↦ (w.conn c).active with _ | _ <;>
        simp [hwritable, EarlyState]
    · rcases w.controller.connections.any fun c ↦ (w.conn c).active with _ | _ <;>
        rcases w.channel.writable with _ | _ <;> simp [LateState]

theorem Orderly.setIceTransportState (h : w.Orderly) :
    (w.setIceTransportState w.computeIceTransportState).Orderly := by
  rw [World.setIceTransportState]
  split_ifs with heq
  · exact h
  have hcases := h.computeIceTransportState_cases
  generalize w.computeIceTransportState = state at heq hcases ⊢
  refine ⟨?_, ?_, ?_, ?_, h.been, ?_⟩
  · rw [told_signal_of_ne _ (by simp)]
    exact h.writable
  · rw [told_signal_of_ne _ (by simp)]
    exact h.receiving
  · rw [told_signal]
    exact h.state.snoc heq
  · intro hno
    have hno : w.channel.hadConnection = false := hno
    rw [hno] at hcases
    -- without a connection the state is the first one still
    obtain ⟨-, hnew⟩ | ⟨hcase, -⟩ := hcases
    · have hstate := h.state
      rw [(h.unused hno).2.2.2] at hstate
      exact absurd (hnew.trans hstate) heq
    · cases hcase
  · refine h.life.snoc (fun hx ↦ by cases hx.1) fun _ ↦ ?_
    obtain ⟨hno, hnew⟩ | ⟨-, hlife⟩ := hcases
    · have hfirst := h.state
      rw [(h.unused hno).2.2.2] at hfirst
      exact absurd (hnew.trans hfirst) heq
    · exact hlife

theorem Orderly.updateState (h : w.Orderly) : w.updateState.Orderly := by
  have hwritable : (w.setWritable w.selectedWritable).Orderly := by
    refine h.setWritable fun hw ↦ ?_
    rcases hhad : w.channel.hadConnection with _ | _
    · rw [selectedWritable, (h.unused hhad).2.1] at hw
      cases hw
    · rfl
  rw [World.updateState]
  exact (hwritable.setReceiving _).setIceTransportState

/-- An update makes the fields what the connections say, whatever they were. -/
theorem reflects_updateState (w : World) : w.updateState.Reflects := by
  have hsetWritable (w : World) (writable : Bool) :
      (w.setWritable writable).conns = w.conns ∧
        (w.setWritable writable).controller = w.controller ∧
        (w.setWritable writable).channel.selectedConnection = w.channel.selectedConnection ∧
        (w.setWritable writable).channel.writable = writable := by
    rw [setWritable]
    split_ifs with heq
    · exact ⟨rfl, rfl, rfl, heq⟩
    · exact ⟨rfl, rfl, rfl, rfl⟩
    · exact ⟨rfl, rfl, rfl, rfl⟩
  have hsetReceiving (w : World) (receiving : Bool) :
      (w.setReceiving receiving).conns = w.conns ∧
        (w.setReceiving receiving).controller = w.controller ∧
        (w.setReceiving receiving).channel.selectedConnection = w.channel.selectedConnection ∧
        (w.setReceiving receiving).channel.writable = w.channel.writable ∧
        (w.setReceiving receiving).channel.receiving = receiving := by
    rw [setReceiving]
    split_ifs with heq
    · exact ⟨rfl, rfl, rfl, rfl, heq⟩
    · exact ⟨rfl, rfl, rfl, rfl, rfl⟩
  obtain ⟨hconns, hcontroller, hselected, hwritable⟩ := hsetWritable w w.selectedWritable
  rw [updateState]
  generalize w.setWritable w.selectedWritable = w₁ at *
  obtain ⟨hconns', hcontroller', hselected', hwritable', hreceiving⟩ :=
    hsetReceiving w₁ (w₁.controller.connections.any fun c ↦ (w₁.conn c).receiving)
  generalize w₁.setReceiving (w₁.controller.connections.any fun c ↦ (w₁.conn c).receiving) = w₂ at *
  have h₂ : w₂.channel.writable = w₂.selectedWritable ∧
      w₂.channel.receiving = w₂.controller.connections.any fun c ↦ (w₂.conn c).receiving := by
    constructor
    · rw [hwritable', hwritable, selectedWritable, selectedWritable, hselected', hselected]
      simp only [conn, hconns', hconns]
    · rw [hreceiving, hcontroller']
      simp only [conn, hconns']
  rw [setIceTransportState]
  split_ifs with heq
  · exact ⟨h₂.1, h₂.2, heq.symm⟩
  · exact ⟨h₂.1, h₂.2, rfl⟩

/-! ## What keeps both -/

structure Steady (w w' : World) : Prop where
  orderly : w.Orderly → w'.Orderly
  reflects : w.Reflects → w'.Reflects

theorem Steady.refl (w : World) : Steady w w := ⟨id, id⟩

theorem Steady.trans (h : Steady w w') (h' : Steady w' w'') : Steady w w'' :=
  ⟨h'.orderly ∘ h.orderly, h'.reflects ∘ h.reflects⟩

instance : IsPreorder World Steady where
  refl := .refl
  trans _ _ _ := .trans

theorem Steady.of_eq (hsignals : w'.signals = w.signals)
    (hcontroller : w'.controller.connections = w.controller.connections)
    (hchannel : (w'.channel.selectedConnection, w'.channel.writable, w'.channel.receiving,
        w'.channel.state, w'.channel.hadConnection, w'.channel.hasBeenConnection) =
      (w.channel.selectedConnection, w.channel.writable, w.channel.receiving, w.channel.state,
        w.channel.hadConnection, w.channel.hasBeenConnection))
    (hconn : ∀ c, ((w'.conn c).writeState, (w'.conn c).receiving) =
      ((w.conn c).writeState, (w.conn c).receiving)) : Steady w w' := by
  simp only [Prod.mk.injEq] at hchannel hconn
  obtain ⟨hselected, hchannel⟩ := hchannel
  constructor
  · refine SameLog.orderly ⟨hsignals, by simpa using hchannel, fun hc hs ↦ ?_⟩
    rw [hcontroller, hselected]
    exact ⟨hc, hs⟩
  · obtain ⟨hwritable, hreceiving, hstate, hhad, hbeen⟩ := hchannel
    have hactive (c : ConnId) : (w'.conn c).active = (w.conn c).active := by
      rw [IceConnection.active, IceConnection.active, (hconn c).1]
    have hwritable' (c : ConnId) : (w'.conn c).writable = (w.conn c).writable := by
      rw [IceConnection.writable, IceConnection.writable, (hconn c).1]
    rintro ⟨hw, hr, hst⟩
    constructor
    · rw [hwritable, hw, selectedWritable, selectedWritable, hselected]
      simp only [hwritable']
    · rw [hreceiving, hr, hcontroller]
      simp only [(hconn _).2]
    · rw [hstate, hst, computeIceTransportState, computeIceTransportState, hcontroller, hhad, hbeen,
        hwritable]
      simp only [hactive]

/-- An assignment to the fields of a connection that the channel does not look at. -/
theorem steady_modifyConn (w : World) (c : ConnId) {f : IceConnection → IceConnection}
    (hf : ∀ x, ((f x).writeState, (f x).receiving) = (x.writeState, x.receiving)) :
    Steady w (w.modifyConn c f) :=
  .of_eq rfl rfl rfl fun d ↦
    Arena.proj_cell_modify (p := fun x : IceConnection ↦ (x.writeState, x.receiving)) hf c d

theorem steady_sendTo (w : World) (p : PortId) (data : ByteString) (addr : SocketAddress) :
    Steady w (w.sendTo p data addr) := .of_eq rfl rfl rfl fun _ ↦ rfl

theorem steady_readPacket (w : World) (data : ByteString) (ts : ℤ) :
    Steady w (w.signal (.readPacket data ts)) :=
  ⟨fun h ↦ h.readPacket data ts, fun h ↦ ⟨h.writable, h.receiving, h.state⟩⟩

/-- After the connections have changed in any way, there is an update. -/
theorem steady_updateState (h : w.Orderly → w'.Orderly) : Steady w w'.updateState :=
  ⟨fun ho ↦ (h ho).updateState, fun _ ↦ reflects_updateState w'⟩

theorem steady_fault (w : World) (f : Fault) : Steady w (w.fault f) :=
  .of_eq rfl rfl rfl fun _ ↦ rfl

/-! ## The selection -/

theorem sameLog_switchSelectedConnection (conn : Option ConnId)
    (hconn : conn.isSome = true → w.controller.connections ≠ []) :
    SameLog w (w.switchSelectedConnection conn) := by
  have hchannel : SameLog w
      { w with channel := { w.channel with selectedConnection := conn } } := by
    refine ⟨rfl, rfl, fun hc _ ↦ ⟨hc, ?_⟩⟩
    rcases conn with _ | c
    · rfl
    · exact absurd hc (hconn rfl)
  exact across_switchSelectedConnection hchannel (fun w c _ ↦ sameLog_modifyConn w c _)
    fun _ _ ↦ ⟨rfl, rfl, fun hc hs ↦ ⟨hc, hs⟩⟩

theorem connections_ne_nil_of_connectionToSwitchTo (h : w.connectionToSwitchTo.isSome = true) :
    w.controller.connections ≠ [] := by
  intro hnil
  rw [connectionToSwitchTo, hnil] at h
  simp [readyToSend] at h

theorem sameLog_maybeSwitch (w : World) : SameLog w
    (w.sortAndSwitchConnection.1.maybeSwitchSelectedConnection w.sortAndSwitchConnection.2) := by
  have hsort : SameLog w w.sortConnections := by
    refine ⟨rfl, rfl, fun hc hs ↦ ⟨?_, hs⟩⟩
    exact List.perm_nil.mp (hc ▸ StableSort.perm_stableSort _ _)
  refine hsort.trans ?_
  rw [sortAndSwitchConnection]
  dsimp only
  rcases hswitch : w.sortConnections.connectionToSwitchTo with _ | t
  · exact .refl _
  · exact sameLog_switchSelectedConnection (some t) fun _ ↦
      connections_ne_nil_of_connectionToSwitchTo (by rw [hswitch]; rfl)

/-- **Every change of a connection comes here.** -/
theorem steady_sortConnectionsAndUpdateState (h : w.Orderly → w'.Orderly) (now : ℤ) :
    Steady w (w'.sortConnectionsAndUpdateState now) := by
  rw [sortConnectionsAndUpdateState]
  dsimp only
  refine Steady.trans ?_ (across_maybeStartPinging fun _ ↦ .of_eq rfl rfl rfl fun _ ↦ rfl)
  exact steady_updateState fun ho ↦ (sameLog_maybeSwitch w').orderly (h ho)

theorem steady_onConnectionDestroyed (w : World) (c : ConnId) (now : ℤ) :
    Steady w (w.onConnectionDestroyed c now) := by
  have hremove : SameLog w (w.removeFromController c) := by
    refine ⟨rfl, rfl, fun hc hs ↦ ⟨?_, hs⟩⟩
    rw [removeFromController, hc]
    rfl
  rw [onConnectionDestroyed]
  refine across_ite (fun _ ↦ ?_) fun _ ↦ steady_updateState hremove.orderly
  exact steady_sortConnectionsAndUpdateState
    (hremove.trans (sameLog_switchSelectedConnection none (by simp))).orderly now

/-! ## The connections -/

theorem steady_setConnState (w : World) (c : ConnId) (state : IceCandidatePairState) :
    Steady w (w.setConnState c state) := steady_modifyConn w c fun _ ↦ rfl

theorem steady_setWriteState (w : World) (c : ConnId) (state : WriteState) (now : ℤ) :
    Steady w (w.setWriteState c state now) := by
  rw [setWriteState]
  split_ifs with hne
  · exact steady_sortConnectionsAndUpdateState (sameLog_modifyConn w c _).orderly now
  · -- the state is the old one
    refine .of_eq rfl rfl rfl fun d ↦ ?_
    by_cases hd : d = c
    · rw [hd, conn, modifyConn, Arena.cell_modify_self, ← not_not.mp hne]
      rfl
    · rw [conn, modifyConn, Arena.cell_modify_of_ne hd]
      rfl

theorem steady_updateReceiving (w : World) (c : ConnId) (now : ℤ) :
    Steady w (w.updateReceiving c now) := by
  rw [updateReceiving]
  exact across_ite (fun _ ↦ .refl w) fun _ ↦
    steady_sortConnectionsAndUpdateState (sameLog_modifyConn w c _).orderly now

theorem steady_receivedPingResponse (env : IceEnv) (w : World) (c : ConnId) (rtt now : ℤ) :
    Steady w (w.receivedPingResponse env c rtt now) :=
  across_receivedPingResponse (steady_modifyConn w c fun _ ↦ rfl)
    (fun w ↦ steady_updateReceiving w c now) (fun w ↦ steady_setWriteState w c .writable now)
    fun w ↦ steady_setConnState w c .succeeded

theorem steady_updateConnState (w : World) (c : ConnId) (now : ℤ) :
    Steady w (w.updateConnState c now) :=
  across_updateConnState (fun _ ↦ steady_setWriteState w c .writeUnreliable now)
    (fun w ↦ steady_setWriteState w c .writeTimeout now) fun w ↦ steady_updateReceiving w c now

/-! ## The requests -/

theorem steady_modifyConn_requests (w : World) (c : ConnId)
    (requests : IceConnection → AList fun _ : ByteString ↦ RequestId) :
    Steady w (w.modifyConn c fun x ↦ { x with requests := requests x }) :=
  steady_modifyConn w c fun _ ↦ rfl

theorem steady_deleteRequest (w : World) (r : RequestId) : Steady w (w.deleteRequest r) :=
  across_deleteRequest steady_fault (fun w c _ ↦ steady_modifyConn_requests w c _)
    (fun _ _ ↦ .of_eq rfl rfl rfl fun _ ↦ rfl) w r

theorem steady_failAndDestroy (w : World) (c : ConnId) (now : ℤ) :
    Steady w (w.failAndDestroy c now) :=
  across_failAndDestroy (fun w ↦ steady_setConnState w c .failed)
    (fun w ↦ steady_onConnectionDestroyed w c now)
    (across_destroyRequests (fun w _ ↦ steady_modifyConn_requests w c _) steady_deleteRequest)
    (fun _ ↦ .of_eq rfl rfl rfl fun _ ↦ rfl) w

theorem steady_checkResponse (env : IceEnv) (w : World) (c : ConnId) (msg : StunMessage) (now : ℤ) :
    Steady w (w.checkResponse env c msg now).1 :=
  across_checkResponse steady_fault (fun w c rtt ↦ steady_receivedPingResponse env w c rtt now)
    (fun w c ↦ steady_failAndDestroy w c now) steady_deleteRequest w c msg

theorem steady_sendRequest (env : IceEnv) (w : World) (c : ConnId) (id : ByteString) (now : ℤ) :
    Steady w (w.sendRequest env c id now) :=
  across_sendRequest (fun _ _ ↦ .of_eq rfl rfl rfl fun _ ↦ rfl)
    (fun w _ ↦ steady_modifyConn_requests w c _) steady_sendTo w

theorem steady_ping (env : IceEnv) (w : World) (c : ConnId) (id : ByteString) (now : ℤ) :
    Steady w (w.ping env c id now) :=
  across_ping (steady_modifyConn w c fun _ ↦ rfl)
    (fun _ w ↦ steady_sendRequest env w c id now) (fun w ↦ steady_setConnState w c .inProgress)
    (fun w ↦ steady_modifyConn w c fun _ ↦ rfl) (steady_fault w _)

/-! ## The events -/

theorem steady_handleStunBindingRequest (env : IceEnv) (w : World) (c : ConnId)
    (msg : StunMessage) : Steady w (w.handleStunBindingRequest env c msg) :=
  across_handleStunBindingRequest (steady_sendTo w) c msg

theorem steady_onConnReadPacket (env : IceEnv) (w : World) (c : ConnId) (data : ByteString)
    (ts now : ℤ) : Steady w (w.onConnReadPacket env c data ts now) :=
  across_onConnReadPacket (steady_sendTo w) (steady_readPacket w data ts)
    (fun _ remoteUfrag _ _ ↦ across_onStunMessage (steady_sendTo w)
      (fun _ ↦ steady_checkResponse env w c _ now) remoteUfrag)
    (steady_fault w _)

/-- A new connection is listed before the next update, and from then on the channel has had one. -/
theorem steady_onUnknownAddress (env : IceEnv) (w : World) (p : PortId) (addr : SocketAddress)
    (msg : StunMessage) (remoteUfrag : ByteString) (now : ℤ) :
    Steady w (w.onUnknownAddress env p addr msg remoteUfrag now) := by
  rw [onUnknownAddress]
  split
  · exact .refl w
  · refine steady_sortConnectionsAndUpdateState (fun h ↦ ?_) now
    refine (steady_handleStunBindingRequest env _ _ msg).orderly ?_
    exact ⟨h.writable, h.receiving, h.state, (fun hno ↦ by cases hno), h.been, h.life⟩

theorem steady_setRemoteIceParams (w : World) (iceParams : IceParameters) (now : ℤ) :
    Steady w (w.setRemoteIceParams iceParams now) := by
  have hone (x : IceConnection) : ((x.maybeSetRemoteIceParams iceParams).writeState,
      (x.maybeSetRemoteIceParams iceParams).receiving) = (x.writeState, x.receiving) := by
    rw [IceConnection.maybeSetRemoteIceParams]
    split_ifs <;> rfl
  exact across_setRemoteIceParams (.of_eq rfl rfl rfl fun _ ↦ rfl)
    (fun w c ↦ steady_modifyConn w c hone)
    fun w ↦ steady_sortConnectionsAndUpdateState id now

theorem steady_selectConnectionToPing (env : IceEnv) (w : World) (lastPingSentMs now : ℤ) :
    Steady w (w.selectConnectionToPing env lastPingSentMs now).1 :=
  across_selectConnectionToPing (.of_eq rfl rfl rfl fun _ ↦ rfl) lastPingSentMs

theorem steady_pingConnection (env : IceEnv) (w : World) (conn : Option ConnId) (id : ByteString)
    (now : ℤ) : Steady w (w.pingConnection env conn id now) :=
  across_pingConnection (.of_eq rfl rfl rfl fun _ ↦ rfl) (fun c _ ↦ steady_ping env _ c id now)
    fun _ _ hconnections _ ↦ .of_eq rfl hconnections rfl fun _ ↦ rfl

theorem steady_onCheckAndPing (env : IceEnv) (w : World) (id : ByteString) (now : ℤ) :
    Steady w (w.onCheckAndPing env id now) := by
  have hupdate : Steady w (w.updateConnectionStates now) :=
    across_foldl (fun w c ↦ steady_updateConnState w c now) _ w
  have hselect := steady_selectConnectionToPing env (w.updateConnectionStates now)
    ((w.updateConnectionStates now).channel.lastPingSentMs - pingIntervalDiff) now
  have hinterval (w : World) (pingInterval : ℤ) : Steady w (w.setPingInterval pingInterval) :=
    across_setPingInterval (fun _ _ ↦ .of_eq rfl rfl rfl fun _ ↦ rfl) pingInterval
  exact ((hupdate.trans hselect).trans (steady_pingConnection env _ _ id now)).trans (hinterval _ _)

theorem steady_step (env : IceEnv) (w : World) (e : IceEvent) : Steady w (w.step env e) := by
  cases e with
  | datagram p addr data ts now =>
    exact across_onReadPacket (fun c _ ↦ steady_onConnReadPacket env w c data ts now)
      (fun data ↦ steady_sendTo w p data addr)
      fun msg remoteUfrag ↦ steady_onUnknownAddress env w p addr msg remoteUfrag now
  | setRemoteIceParams iceParams now => exact steady_setRemoteIceParams w iceParams now
  | checkAndPing id now => exact steady_onCheckAndPing env w id now
  | sendPacket data => exact across_sendPacket (steady_sendTo w) data

/-! ## Runs -/

theorem steady_run (env : IceEnv) (component : IceCandidateComponent)
    (port : PortId → IceParameters × Candidate) (es : List IceEvent) :
    (run env component port es).Orderly ∧ (run env component port es).Reflects := by
  refine exec_invariant (I := fun w : World ↦ w.Orderly ∧ w.Reflects)
    (fun w e h ↦ ⟨(steady_step env w e).orderly h.1, (steady_step env w e).reflects h.2⟩) ?_ es
  refine ⟨⟨rfl, rfl, rfl, fun _ ↦ ⟨rfl, rfl, rfl, rfl⟩, (fun h ↦ by cases h), ?_⟩, rfl, rfl, rfl⟩
  exact life_nil

/-- **The channel shows what its connections are.** After every event it is writable exactly when
the selected connection is, receiving exactly when some connection is, and in the ICE state that
`_compute_ice_transport_state` gives. -/
theorem reflects_run (env : IceEnv) (component : IceCandidateComponent)
    (port : PortId → IceParameters × Candidate) (es : List IceEvent) :
    (run env component port es).Reflects :=
  (steady_run env component port es).2

/-- The values of a flag that was told `n` times, `false` at first. -/
def alternating (n : ℕ) : List Bool := (List.range n).map fun k ↦ k % 2 == 0

/-- What the owner of a channel was told. -/
structure Lifecycle (w : World) : Prop where
  writable : ∃ n, w.told .writableState (·.writable) = alternating n ∧
    w.channel.writable = (n % 2 == 1)
  receiving : ∃ n, w.told .receivingState (·.receiving) = alternating n ∧
    w.channel.receiving = (n % 2 == 1)
  state : Exact .new (w.told .iceStateChanged (·.state)) w.channel.state
  life : ∃ before after, w.signals = before ++ after ∧ LifeSplit before after

/-- **The life of a channel.** No change goes untold, nothing is told twice, and the channel is
checking or has failed until it is told to be writable, and never checking again after that. -/
theorem lifecycle_run (env : IceEnv) (component : IceCandidateComponent)
    (port : PortId → IceParameters × Candidate) (es : List IceEvent) :
    (run env component port es).Lifecycle := by
  have h := (steady_run env component port es).1
  generalize run env component port es = w at h ⊢
  have hflag {l : List Bool} {b : Bool} (hexact : Exact false l b) :
      ∃ n, l = alternating n ∧ b = (n % 2 == 1) := by
    obtain ⟨hl, hb⟩ := hexact.flag
    refine ⟨l.length, hl.trans ?_, by simpa using hb⟩
    rw [alternating]
    exact List.map_congr_left fun k _ ↦ Bool.false_xor _
  obtain ⟨before, after, hsignals, hsplit, -⟩ := h.life
  exact ⟨hflag h.writable, hflag h.receiving, h.state, before, after, hsignals, hsplit⟩

end World

end XrtcServer
