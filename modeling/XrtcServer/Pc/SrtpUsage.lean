import Mathlib.Data.List.AList
import XrtcServer.Pc.SrtpHeap
import XrtcServer.Pc.TransportController

/-!
# What is left of a destroyed peer connection

All peer connections of a process, with the transports that their controllers own through two maps
of raw pointers. `~TransportController` (`pc/transport_controller.cpp`) deletes the DTLS transports,
which it finds in `_dtls_transport_by_name`; it does not look at `_dtls_srtp_transport_by_name`. So
the DTLS-SRTP transports of a destroyed connection are never destroyed, and neither are the
sessions that they hold at that time, which stay in the count of the users of libsrtp.

## The maps

Everywhere else the maps are kept well: a transport that is replaced is deleted, and a live
transport of a live connection is the entry under its name. That is the invariant, and it is what
makes the condition exact: if the map of a connection is empty, it has no transport at all.

## Orphans

Nothing is destroyed twice, and the counter is the number of live sessions with a key, in every
state of every run. What can go wrong is only that something stays, and only the end of a connection
makes it stay. With that the exact condition is `NothingLeft`: no connection goes that has a
DTLS-SRTP transport.
-/

namespace XrtcServer

open EventRun

variable {Ctx : Type}

/-- A `DtlsTransport` or a `DtlsSrtpTransport`, and the connection it was made for, which is not a
field of these classes. -/
structure OwnedTransport where
  pc : ℕ
  transportName : ByteString

/-- A `PeerConnection` with its `TransportController`. -/
structure PeerObject where
  dtlsTransportByName : AList fun _ : ByteString ↦ ℕ := ∅
  dtlsSrtpTransportByName : AList fun _ : ByteString ↦ ℕ := ∅

structure SrtpProcess (Ctx : Type) where
  heap : SrtpHeap Ctx := {}
  dtls : Lifetimes OwnedTransport := .empty ⟨0, []⟩
  dtlsSrtp : Lifetimes OwnedTransport := .empty ⟨0, []⟩
  pcs : Lifetimes PeerObject := .empty {}

/-- The calls that make, use and destroy the transports. -/
inductive SrtpProcessEvent
  | createPeerConnection
  /-- `TransportController::set_local_description`. -/
  | setLocalDescription (pc : ℕ) (desc : SessionDescription)
  /-- A DTLS transport reports its state. -/
  | dtlsState (pc : ℕ) (name : ByteString) (state : DtlsTransportState) (initOk : Bool)
      (rtp : DtlsTransportView)
  /-- `destroy_timer_cb`. -/
  | destroyTimer (pc : ℕ)

namespace SrtpProcess

variable (p : SrtpProcess Ctx)

/-- `~DtlsSrtpTransport`: its sessions go with it. -/
def deleteDtlsSrtp (t : ℕ) : SrtpProcess Ctx :=
  { p with heap := p.heap.resetParams t, dtlsSrtp := p.dtlsSrtp.delete t }

/-- `new DtlsTransport` and `_add_dtls_transport`. -/
def addDtlsTransport (pc : ℕ) (name : ByteString) : SrtpProcess Ctx :=
  let t := p.dtls.next
  let dtls := p.dtls.new ⟨pc, name⟩
  { p with
    dtls := match (p.pcs.cell pc).dtlsTransportByName.lookup name with
      | some old => dtls.delete old
      | none => dtls
    pcs := p.pcs.modify pc fun x ↦
      { x with dtlsTransportByName := x.dtlsTransportByName.insert name t } }

/-- `new DtlsSrtpTransport` and `_add_dtls_srtp_transport`. -/
def addDtlsSrtpTransport (pc : ℕ) (name : ByteString) : SrtpProcess Ctx :=
  let t := p.dtlsSrtp.next
  let p : SrtpProcess Ctx := { p with dtlsSrtp := p.dtlsSrtp.new ⟨pc, name⟩ }
  let p := match (p.pcs.cell pc).dtlsSrtpTransportByName.lookup name with
    | some old => p.deleteDtlsSrtp old
    | none => p
  { p with
    pcs := p.pcs.modify pc fun x ↦
      { x with dtlsSrtpTransportByName := x.dtlsSrtpTransportByName.insert name t } }

/-- The body of the loop of `set_local_description`. -/
def createTransport (pc : ℕ) (desc : SessionDescription) (p : SrtpProcess Ctx)
    (content : MediaContentDescription) : SrtpProcess Ctx :=
  if desc.ridesOnBundle content.mid then p
  else (p.addDtlsTransport pc content.mid).addDtlsSrtpTransport pc content.mid

/-- `~PeerConnection`, and with it `~TransportController`. -/
def deletePeerConnection (pc : ℕ) : SrtpProcess Ctx :=
  { p with
    dtls := (p.pcs.cell pc).dtlsTransportByName.entries.foldl (fun dtls entry ↦
      dtls.delete entry.2) p.dtls
    pcs := p.pcs.delete pc }

/-- The handler of one event. Nobody calls a connection that is gone. -/
def step (env : SrtpEnv Ctx) (p : SrtpProcess Ctx) : SrtpProcessEvent → SrtpProcess Ctx
  | .createPeerConnection => { p with pcs := p.pcs.new {} }
  | .setLocalDescription pc desc =>
    if p.pcs.live pc then desc.contents.foldl (createTransport pc desc) p else p
  | .dtlsState pc name state initOk rtp =>
    if p.pcs.live pc then
      match (p.pcs.cell pc).dtlsSrtpTransportByName.lookup name with
      | none => p
      | some t => { p with heap := p.heap.onDtlsState env t true state initOk rtp none }
    else p
  | .destroyTimer pc => if p.pcs.live pc then p.deletePeerConnection pc else p

/-- The state after a run. -/
def run (env : SrtpEnv Ctx) (es : List SrtpProcessEvent) : SrtpProcess Ctx :=
  exec (step env) {} es

/-! ## Cleaned up -/

/-- The connection for which a session was made. -/
def pcOfSession (s : SrtpSessionObject Ctx) : ℕ := (p.dtlsSrtp.cell s.transport).pc

/-- What was made for a connection that is gone was destroyed once, and the counter is the number of
initialised sessions of the connections that are left. -/
structure CleanedUp : Prop where
  transports : ∀ t, t < p.dtlsSrtp.next → p.pcs.live (p.dtlsSrtp.cell t).pc = false →
    p.dtlsSrtp.DestroyedOnce t
  sessions : ∀ i, i < p.heap.sessions.next →
    p.pcs.live (p.pcOfSession (p.heap.sessions.cell i)) = false → p.heap.sessions.DestroyedOnce i
  usage : p.heap.libsrtpUsageCount = p.heap.sessions.countLive fun s ↦
    s.session.inited && p.pcs.live (p.pcOfSession s)
  unused : (∀ pc, p.pcs.live pc = false) → p.heap.libsrtpUsageCount = 0

/-- The event does not destroy a connection that has a DTLS-SRTP transport. -/
def NothingLeft (p : SrtpProcess Ctx) (e : SrtpProcessEvent) : Prop :=
  ∀ pc, e = .destroyTimer pc → p.pcs.live pc = true →
    (p.pcs.cell pc).dtlsSrtpTransportByName.entries = []

/-! ## The invariant

The entries of a live connection's map are live transports of its own, and its live transports are
the entries of the map. By the first nothing is destroyed that is gone already, and by the second an
empty map means that the connection has no transport. -/

/-- The DTLS-SRTP transports of the live connections are the entries of their maps. -/
structure Inv : Prop where
  heap : p.heap.Inv
  exact : p.dtlsSrtp.Exact
  held : ∀ t, p.heap.held t ≠ none → p.dtlsSrtp.live t = true
  made : ∀ t, t < p.dtlsSrtp.next → (p.dtlsSrtp.cell t).pc < p.pcs.next
  entry : ∀ t, p.dtlsSrtp.live t = true → p.pcs.live (p.dtlsSrtp.cell t).pc = true →
    (p.pcs.cell (p.dtlsSrtp.cell t).pc).dtlsSrtpTransportByName.lookup
      (p.dtlsSrtp.cell t).transportName = some t
  sound : ∀ pc name t, p.pcs.live pc = true →
    (p.pcs.cell pc).dtlsSrtpTransportByName.lookup name = some t →
      p.dtlsSrtp.live t = true ∧ p.dtlsSrtp.cell t = ⟨pc, name⟩

/-- Every live DTLS-SRTP transport belongs to a live connection. -/
def NoOrphans : Prop :=
  ∀ t, p.dtlsSrtp.live t = true → p.pcs.live (p.dtlsSrtp.cell t).pc = true

variable {p} {env : SrtpEnv Ctx} {e : SrtpProcessEvent} {pc pc' t i : ℕ} {name : ByteString}

/-- The map of the DTLS-SRTP transports of a connection. -/
def srtpMap (p : SrtpProcess Ctx) (pc : ℕ) : AList fun _ : ByteString ↦ ℕ :=
  (p.pcs.cell pc).dtlsSrtpTransportByName

theorem inv_empty : ({} : SrtpProcess Ctx).Inv where
  heap := SrtpHeap.inv_empty
  exact := Lifetimes.exact_empty _
  held _ h := absurd rfl h
  made _ h := absurd h (Nat.not_lt_zero _)
  entry _ h := nomatch h
  sound _ _ _ h := nomatch h

theorem Inv.createPeerConnection (h : p.Inv) : ({ p with pcs := p.pcs.new {} }).Inv where
  heap := h.heap
  exact := h.exact
  held := h.held
  made t ht := Nat.lt_succ_of_lt (h.made t ht)
  entry t ht hlive := by
    have hne : (p.dtlsSrtp.cell t).pc ≠ p.pcs.next := (h.made t (p.dtlsSrtp.live_lt t ht)).ne
    have hcell : (p.pcs.new {}).cell (p.dtlsSrtp.cell t).pc = p.pcs.cell (p.dtlsSrtp.cell t).pc :=
      Arena.cell_alloc_of_ne hne
    have hold : p.pcs.live (p.dtlsSrtp.cell t).pc = true :=
      (Arena.live_alloc_of_ne hne).symm.trans hlive
    dsimp only
    rw [hcell]
    exact h.entry t ht hold
  sound pc name t hlive hentry := by
    dsimp only at hentry
    rcases Arena.live_alloc_iff.mp hlive with rfl | hold
    · have hcell : (p.pcs.new {}).cell p.pcs.next = {} := Arena.cell_alloc_next
      rw [hcell] at hentry
      cases hentry
    · have hcell : (p.pcs.new {}).cell pc = p.pcs.cell pc :=
        Arena.cell_alloc_of_ne (Arena.ne_next_of_live hold)
      rw [hcell] at hentry
      exact h.sound pc name t hold hentry

theorem Inv.deletePeerConnection (h : p.Inv) (pc : ℕ) : (p.deletePeerConnection pc).Inv where
  heap := h.heap
  exact := h.exact
  held := h.held
  made := h.made
  entry t ht hlive := h.entry t ht (Arena.live_free_iff.mp hlive).2
  sound pc' name t hlive hentry := h.sound pc' name t (Arena.live_free_iff.mp hlive).2 hentry

theorem Inv.dtlsState (h : p.Inv) {state : DtlsTransportState} {initOk : Bool}
    {rtp : DtlsTransportView} (ht : p.dtlsSrtp.live t = true) :
    ({ p with heap := p.heap.onDtlsState env t true state initOk rtp none }).Inv where
  heap := h.heap.onDtlsState t
  exact := h.exact
  held t' ht' := by
    by_cases hne : t' = t
    · rw [hne]
      exact ht
    · dsimp only at ht'
      rw [SrtpHeap.held_onDtlsState _ hne] at ht'
      exact h.held t' ht'
  made := h.made
  entry := h.entry
  sound := h.sound

theorem Inv.addDtlsTransport (h : p.Inv) (pc : ℕ) (name : ByteString) :
    (p.addDtlsTransport pc name).Inv := by
  have hmap (pc' : ℕ) : ((p.addDtlsTransport pc name).pcs.cell pc').dtlsSrtpTransportByName =
      (p.pcs.cell pc').dtlsSrtpTransportByName :=
    Lifetimes.proj_cell_modify (p := PeerObject.dtlsSrtpTransportByName) (by intro; rfl) pc pc'
  refine ⟨h.heap, h.exact, h.held, h.made, fun t ht hlive ↦ ?_, fun pc' name' t hlive hentry ↦ ?_⟩
  · exact (congrArg (AList.lookup _) (hmap _)).trans (h.entry t ht hlive)
  · rw [hmap] at hentry
    exact h.sound pc' name' t hlive hentry

/-! ## One transport more

`_add_dtls_srtp_transport` replaces an entry of the same name: the old transport is deleted with its
sessions, and the new one has none. The lemmas say, for each of the tables, what is there
afterwards, and the two halves of the invariant are read off from them. -/

theorem addDtlsSrtpTransport_eq (p : SrtpProcess Ctx) (pc : ℕ) (name : ByteString) :
    p.addDtlsSrtpTransport pc name = {
      heap := ((p.srtpMap pc).lookup name).elim p.heap p.heap.resetParams
      dtls := p.dtls
      dtlsSrtp := ((p.srtpMap pc).lookup name).elim (p.dtlsSrtp.new ⟨pc, name⟩)
        (p.dtlsSrtp.new ⟨pc, name⟩).delete
      pcs := p.pcs.modify pc fun x ↦ { x with
        dtlsSrtpTransportByName := x.dtlsSrtpTransportByName.insert name p.dtlsSrtp.next } } := by
  rw [addDtlsSrtpTransport, srtpMap]
  dsimp only
  rcases (p.pcs.cell pc).dtlsSrtpTransportByName.lookup name with _ | old <;> rfl

theorem live_addDtlsSrtpTransport (h : p.Inv) (hpc : p.pcs.live pc = true) (name : ByteString) :
    (p.addDtlsSrtpTransport pc name).dtlsSrtp.live i = true ↔
      i = p.dtlsSrtp.next ∨ p.dtlsSrtp.live i = true ∧ (p.srtpMap pc).lookup name ≠ some i := by
  rw [addDtlsSrtpTransport_eq]
  rcases hold : (p.srtpMap pc).lookup name with _ | old
  · refine Arena.live_alloc_iff.trans (or_congr_right ⟨fun hi ↦ ⟨hi, nofun⟩, And.left⟩)
  · have hne : old ≠ p.dtlsSrtp.next := Arena.ne_next_of_live (h.sound pc name old hpc hold).1
    refine (Arena.live_free_iff.trans (and_congr_right fun _ ↦ Arena.live_alloc_iff)).trans ?_
    rw [ne_eq, ne_eq, Option.some.injEq]
    constructor
    · rintro ⟨hi, rfl | hlive⟩
      · exact .inl rfl
      · exact .inr ⟨hlive, fun heq ↦ hi heq.symm⟩
    · rintro (rfl | ⟨hlive, hi⟩)
      · exact ⟨hne.symm, .inl rfl⟩
      · exact ⟨fun heq ↦ hi heq.symm, .inr hlive⟩

theorem cell_addDtlsSrtpTransport (p : SrtpProcess Ctx) (pc : ℕ) (name : ByteString) :
    (p.addDtlsSrtpTransport pc name).dtlsSrtp.cell = (p.dtlsSrtp.new ⟨pc, name⟩).cell ∧
      (p.addDtlsSrtpTransport pc name).dtlsSrtp.next = p.dtlsSrtp.next + 1 := by
  rw [addDtlsSrtpTransport_eq]
  rcases (p.srtpMap pc).lookup name with _ | old <;> exact ⟨rfl, rfl⟩

theorem srtpMap_addDtlsSrtpTransport (p : SrtpProcess Ctx) (pc pc' : ℕ) (name : ByteString) :
    (p.addDtlsSrtpTransport pc name).srtpMap pc' =
      if pc' = pc then (p.srtpMap pc).insert name p.dtlsSrtp.next else p.srtpMap pc' := by
  have hpcs : (p.addDtlsSrtpTransport pc name).pcs = p.pcs.modify pc fun x ↦ { x with
      dtlsSrtpTransportByName := x.dtlsSrtpTransportByName.insert name p.dtlsSrtp.next } := by
    rw [addDtlsSrtpTransport_eq]
  rw [srtpMap, hpcs]
  split_ifs with heq
  · subst heq
    rw [Lifetimes.cell_modify_self]
    rfl
  · rw [Lifetimes.cell_modify_of_ne heq]
    rfl

theorem cell_addDtlsSrtpTransport_next (p : SrtpProcess Ctx) (pc : ℕ) (name : ByteString) :
    (p.addDtlsSrtpTransport pc name).dtlsSrtp.cell p.dtlsSrtp.next = ⟨pc, name⟩ :=
  (congrFun (p.cell_addDtlsSrtpTransport pc name).1 _).trans Arena.cell_alloc_next

theorem cell_addDtlsSrtpTransport_of_ne (pc : ℕ) (name : ByteString) (hi : i ≠ p.dtlsSrtp.next) :
    (p.addDtlsSrtpTransport pc name).dtlsSrtp.cell i = p.dtlsSrtp.cell i :=
  (congrFun (p.cell_addDtlsSrtpTransport pc name).1 _).trans (Arena.cell_alloc_of_ne hi)

theorem pcs_addDtlsSrtpTransport (p : SrtpProcess Ctx) (pc : ℕ) (name : ByteString) :
    (p.addDtlsSrtpTransport pc name).pcs.live = p.pcs.live ∧
      (p.addDtlsSrtpTransport pc name).pcs.next = p.pcs.next := by
  rw [addDtlsSrtpTransport_eq]
  exact ⟨rfl, rfl⟩

theorem Inv.held_addDtlsSrtpTransport (h : p.Inv) (hpc : p.pcs.live pc = true) (name : ByteString)
    (hi : (p.addDtlsSrtpTransport pc name).heap.held i ≠ none) :
    (p.addDtlsSrtpTransport pc name).dtlsSrtp.live i = true := by
  refine (live_addDtlsSrtpTransport h hpc name).mpr (.inr ?_)
  rw [addDtlsSrtpTransport_eq] at hi
  rcases hold : (p.srtpMap pc).lookup name with _ | old
  · rw [hold] at hi
    exact ⟨h.held i hi, nofun⟩
  · rw [hold] at hi
    dsimp only [Option.elim] at hi
    rw [SrtpHeap.held_resetParams] at hi
    by_cases heq : i = old
    · rw [heq, Function.update_self] at hi
      exact absurd rfl hi
    · rw [Function.update_of_ne heq] at hi
      exact ⟨h.held i hi, fun hsome ↦ heq (Option.some.inj hsome).symm⟩

/-- A transport of a live connection is under its name in the map of the connection. -/
theorem Inv.entry_addDtlsSrtpTransport (h : p.Inv) (hpc : p.pcs.live pc = true) (name : ByteString)
    (hi : (p.addDtlsSrtpTransport pc name).dtlsSrtp.live i = true)
    (hpclive : p.pcs.live ((p.addDtlsSrtpTransport pc name).dtlsSrtp.cell i).pc = true) :
    ((p.addDtlsSrtpTransport pc name).srtpMap
      ((p.addDtlsSrtpTransport pc name).dtlsSrtp.cell i).pc).lookup
        ((p.addDtlsSrtpTransport pc name).dtlsSrtp.cell i).transportName = some i := by
  rcases (live_addDtlsSrtpTransport h hpc name).mp hi with rfl | ⟨hlive, hold⟩
  · rw [cell_addDtlsSrtpTransport_next, srtpMap_addDtlsSrtpTransport, if_pos rfl,
      AList.lookup_insert]
  · have hcell := cell_addDtlsSrtpTransport_of_ne pc name (Arena.ne_next_of_live hlive)
    rw [hcell] at hpclive ⊢
    have hentry := h.entry i hlive hpclive
    rw [srtpMap_addDtlsSrtpTransport]
    split_ifs with heq
    · -- the name is another one, or it would be the old entry
      have hname : (p.dtlsSrtp.cell i).transportName ≠ name := by
        intro hname
        rw [heq, hname] at hentry
        exact hold hentry
      rw [AList.lookup_insert_ne hname, ← heq]
      exact hentry
    · exact hentry

/-- What is in the map of a live connection is alive and its own, under its name. -/
theorem Inv.sound_addDtlsSrtpTransport (h : p.Inv) (hpc : p.pcs.live pc = true) (name : ByteString)
    {name' : ByteString} (hpclive : p.pcs.live pc' = true)
    (hentry : ((p.addDtlsSrtpTransport pc name).srtpMap pc').lookup name' = some i) :
    (p.addDtlsSrtpTransport pc name).dtlsSrtp.live i = true ∧
      (p.addDtlsSrtpTransport pc name).dtlsSrtp.cell i = ⟨pc', name'⟩ := by
  -- another entry than the replaced one was sound before
  have hstays (hentry : (p.srtpMap pc').lookup name' = some i)
      (hne : (⟨pc', name'⟩ : OwnedTransport) ≠ ⟨pc, name⟩) :
      (p.addDtlsSrtpTransport pc name).dtlsSrtp.live i = true ∧
        (p.addDtlsSrtpTransport pc name).dtlsSrtp.cell i = ⟨pc', name'⟩ := by
    obtain ⟨hlive, hcell⟩ := h.sound pc' name' i hpclive hentry
    constructor
    · refine (live_addDtlsSrtpTransport h hpc name).mpr (.inr ⟨hlive, fun hold ↦ hne ?_⟩)
      exact hcell.symm.trans (h.sound pc name i hpc hold).2
    · rw [cell_addDtlsSrtpTransport_of_ne pc name (Arena.ne_next_of_live hlive), hcell]
  rw [srtpMap_addDtlsSrtpTransport] at hentry
  split_ifs at hentry with heq
  · subst heq
    by_cases hname : name' = name
    · rw [hname, AList.lookup_insert] at hentry
      obtain rfl := Option.some.inj hentry
      rw [hname]
      exact ⟨(live_addDtlsSrtpTransport h hpc name).mpr (.inl rfl),
        p.cell_addDtlsSrtpTransport_next pc' name⟩
    · rw [AList.lookup_insert_ne hname] at hentry
      exact hstays hentry fun h ↦ hname (congrArg OwnedTransport.transportName h)
  · exact hstays hentry fun h ↦ heq (congrArg OwnedTransport.pc h)

theorem Inv.addDtlsSrtpTransport (h : p.Inv) (hpc : p.pcs.live pc = true) (name : ByteString) :
    (p.addDtlsSrtpTransport pc name).Inv where
  heap := by
    rw [addDtlsSrtpTransport_eq]
    rcases (p.srtpMap pc).lookup name with _ | old
    · exact h.heap
    · exact h.heap.resetParams old
  exact := by
    rw [addDtlsSrtpTransport_eq]
    rcases hold : (p.srtpMap pc).lookup name with _ | old
    · exact h.exact.new _
    · exact (h.exact.new _).delete
        (Arena.live_alloc_iff.mpr (.inr (h.sound pc name old hpc hold).1))
  held _ hi := h.held_addDtlsSrtpTransport hpc name hi
  made i hi := by
    rw [(p.pcs_addDtlsSrtpTransport pc name).2]
    rw [(p.cell_addDtlsSrtpTransport pc name).2] at hi
    by_cases heq : i = p.dtlsSrtp.next
    · rw [heq, cell_addDtlsSrtpTransport_next]
      exact p.pcs.live_lt pc hpc
    · rw [cell_addDtlsSrtpTransport_of_ne pc name heq]
      exact h.made i (by omega)
  entry i hi hpclive := by
    rw [(p.pcs_addDtlsSrtpTransport pc name).1] at hpclive
    exact h.entry_addDtlsSrtpTransport hpc name hi hpclive
  sound pc' name' i hpclive hentry := by
    rw [(p.pcs_addDtlsSrtpTransport pc name).1] at hpclive
    exact h.sound_addDtlsSrtpTransport hpc name hpclive hentry

theorem Inv.createTransport (h : p.Inv) (hpc : p.pcs.live pc = true) (desc : SessionDescription)
    (content : MediaContentDescription) : (createTransport pc desc p content).Inv ∧
      (createTransport pc desc p content).pcs.live = p.pcs.live := by
  rw [SrtpProcess.createTransport]
  split_ifs
  · exact ⟨h, rfl⟩
  · refine ⟨(h.addDtlsTransport pc content.mid).addDtlsSrtpTransport hpc content.mid, ?_⟩
    rw [addDtlsSrtpTransport_eq]
    rfl

theorem Inv.setLocalDescription (h : p.Inv) (hpc : p.pcs.live pc = true) (desc : SessionDescription)
    (contents : List MediaContentDescription) :
    (contents.foldl (SrtpProcess.createTransport pc desc) p).Inv ∧
      (contents.foldl (SrtpProcess.createTransport pc desc) p).pcs.live = p.pcs.live := by
  induction contents generalizing p with
  | nil => exact ⟨h, rfl⟩
  | cons content contents ih =>
    obtain ⟨hinv, hlive⟩ := h.createTransport hpc desc content
    obtain ⟨hinv', hlive'⟩ := ih hinv ((congrFun hlive pc).trans hpc)
    exact ⟨hinv', hlive'.trans hlive⟩

/-- **Every event keeps the invariant.** -/
theorem Inv.step (h : p.Inv) (env : SrtpEnv Ctx) (e : SrtpProcessEvent) :
    (p.step env e).Inv := by
  cases e with
  | createPeerConnection => exact h.createPeerConnection
  | setLocalDescription pc desc =>
    rw [SrtpProcess.step]
    split_ifs with hpc
    · exact (h.setLocalDescription hpc desc desc.contents).1
    · exact h
  | dtlsState pc name state initOk rtp =>
    rw [SrtpProcess.step]
    split_ifs with hpc
    · split
      · exact h
      · rename_i t ht
        exact h.dtlsState (h.sound pc name t hpc ht).1
    · exact h
  | destroyTimer pc =>
    rw [SrtpProcess.step]
    split_ifs
    · exact h.deletePeerConnection pc
    · exact h

/-! ## Orphans

The heap of `Pc/SrtpHeap.lean` gives the half about sessions, since a session lives as long as the
transport that made it. So one question is left: whether every live transport has a live
connection. -/

/-- **Cleaned up means no orphans.** That nothing is destroyed twice, and that the counter is the
number of live sessions, is part of the invariant. -/
theorem cleanedUp_iff_noOrphans (h : p.Inv) : p.CleanedUp ↔ p.NoOrphans := by
  constructor
  · intro hclean t ht
    by_contra hpc
    rw [Bool.not_eq_true] at hpc
    obtain ⟨hdead, -⟩ := hclean.transports t (p.dtlsSrtp.live_lt t ht) hpc
    cases hdead.symm.trans ht
  · intro hno
    have hsession (i : ℕ) (hi : p.heap.sessions.live i = true) :
        p.pcs.live (p.pcOfSession (p.heap.sessions.cell i)) = true := by
      obtain ⟨send, recv, hheld, -⟩ := h.heap.owned i hi
      refine hno _ (h.held _ ?_)
      rw [hheld]
      exact Option.some_ne_none _
    have husage : p.heap.libsrtpUsageCount = p.heap.sessions.countLive fun s ↦
        s.session.inited && p.pcs.live (p.pcOfSession s) := by
      rw [h.heap.usage]
      refine congrArg Nat.cast (Arena.countLive_congr fun i hi ↦ ?_)
      rw [hsession i hi, Bool.and_true]
    refine ⟨fun t ht hpc ↦ ?_, fun i hi hpc ↦ ?_, husage, fun hnone ↦ ?_⟩
    · refine (h.exact.destroyedOnce_iff ht).mpr (Bool.eq_false_iff.mpr fun hlive ↦ ?_)
      cases hpc.symm.trans (hno t hlive)
    · refine (h.heap.exact.destroyedOnce_iff hi).mpr (Bool.eq_false_iff.mpr fun hlive ↦ ?_)
      cases hpc.symm.trans (hsession i hlive)
    · rw [husage]
      refine congrArg Nat.cast (Arena.countLive_eq_zero fun i _ ↦ ?_)
      rw [hnone, Bool.and_false]

/-- A connection leaves no orphans exactly when its map is empty. -/
theorem noOrphans_deletePeerConnection (h : p.Inv) (hno : p.NoOrphans)
    (hpc : p.pcs.live pc = true) :
    (p.deletePeerConnection pc).NoOrphans ↔
      (p.pcs.cell pc).dtlsSrtpTransportByName.entries = [] := by
  constructor
  · intro hno'
    by_contra hne
    obtain ⟨⟨name, t⟩, rest, hentries⟩ := List.exists_cons_of_ne_nil hne
    have hmem : (⟨name, t⟩ : Sigma fun _ : ByteString ↦ ℕ) ∈
        (p.pcs.cell pc).dtlsSrtpTransportByName.entries := hentries ▸ List.mem_cons_self
    obtain ⟨hlive, hcell⟩ := h.sound pc name t hpc (AList.mem_lookup_iff.mpr hmem)
    have hgone := (Arena.live_free_iff.mp (hno' t hlive)).1
    have howner : (p.dtlsSrtp.cell t).pc = pc := congrArg OwnedTransport.pc hcell
    exact hgone howner
  · intro hnil t ht
    refine Arena.live_free_iff.mpr ⟨fun howner ↦ ?_, hno t ht⟩
    have howner : (p.dtlsSrtp.cell t).pc = pc := howner
    have hentry := AList.mem_lookup_iff.mp (h.entry t ht (hno t ht))
    rw [howner, hnil] at hentry
    cases hentry

theorem NoOrphans.setLocalDescription (hno : p.NoOrphans) (h : p.Inv) (hpc : p.pcs.live pc = true)
    (desc : SessionDescription) (contents : List MediaContentDescription) :
    (contents.foldl (createTransport pc desc) p).NoOrphans := by
  induction contents generalizing p with
  | nil => exact hno
  | cons content contents ih =>
    obtain ⟨hinv, hlive⟩ := h.createTransport hpc desc content
    refine ih ?_ hinv ((congrFun hlive pc).trans hpc)
    intro t ht
    rw [hlive]
    rw [createTransport] at ht ⊢
    split_ifs at ht ⊢
    · exact hno t ht
    · have hadded := h.addDtlsTransport pc content.mid
      obtain ⟨hcell, -⟩ :=
        (p.addDtlsTransport pc content.mid).cell_addDtlsSrtpTransport pc content.mid
      rw [hcell]
      rcases (live_addDtlsSrtpTransport hadded hpc content.mid).mp ht with rfl | ⟨ht, -⟩
      · have hnew : ((p.addDtlsTransport pc content.mid).dtlsSrtp.new ⟨pc, content.mid⟩).cell
            (p.addDtlsTransport pc content.mid).dtlsSrtp.next = ⟨pc, content.mid⟩ :=
          Arena.cell_alloc_next
        rw [hnew]
        exact hpc
      · have hold : ((p.addDtlsTransport pc content.mid).dtlsSrtp.new ⟨pc, content.mid⟩).cell t =
            p.dtlsSrtp.cell t := Arena.cell_alloc_of_ne (Arena.ne_next_of_live ht)
        rw [hold]
        exact hno t ht

/-- **Only the end of a connection makes orphans.** -/
theorem noOrphans_step (h : p.Inv) (hno : p.NoOrphans) (env : SrtpEnv Ctx) (e : SrtpProcessEvent) :
    (p.step env e).NoOrphans ↔ p.NothingLeft e := by
  cases e with
  | createPeerConnection =>
    refine iff_of_true (fun t ht ↦ ?_) nofun
    exact Arena.live_alloc_iff.mpr (.inr (hno t ht))
  | setLocalDescription pc desc =>
    refine iff_of_true ?_ nofun
    rw [step]
    split_ifs with hpc
    · exact hno.setLocalDescription h hpc desc desc.contents
    · exact hno
  | dtlsState pc name state initOk rtp =>
    refine iff_of_true ?_ nofun
    rw [step]
    split_ifs
    · split <;> exact hno
    · exact hno
  | destroyTimer pc =>
    rw [step]
    split_ifs with hpc
    · rw [noOrphans_deletePeerConnection h hno hpc]
      constructor
      · intro hnil pc' heq _
        obtain rfl := SrtpProcessEvent.destroyTimer.inj heq
        exact hnil
      · intro hleft
        exact hleft pc rfl hpc
    · refine iff_of_true hno fun pc' heq hpc' ↦ ?_
      obtain rfl := SrtpProcessEvent.destroyTimer.inj heq
      exact absurd hpc' hpc

/-- **What is left of destroyed connections.** Along a run everything is cleaned up exactly when no
connection is destroyed that has a DTLS-SRTP transport. -/
theorem cleanedUp_run_iff (env : SrtpEnv Ctx) (es : List SrtpProcessEvent) :
    (∀ fs, fs <+: es → (run env fs).CleanedUp) ↔ Along (step env) NothingLeft {} es := by
  refine forall_prefix_iff_along (I := Inv) (fun p e h ↦ h.step env e) (fun p e h hclean ↦ ?_)
    inv_empty ?_ es
  · have hno := (cleanedUp_iff_noOrphans h).mp hclean
    exact (cleanedUp_iff_noOrphans (h.step env e)).trans (noOrphans_step h hno env e)
  · exact (cleanedUp_iff_noOrphans inv_empty).mpr nofun

/-! ### A stream that connects and goes -/

/-- libsrtp with the profile `SRTP_AES128_CM_SHA1_80` only, whose packets are of no interest. -/
def aes128Env : SrtpEnv Unit where
  policyForRtp cs := if cs = 1 then some ⟨30, 10⟩ else none
  policyForRtcp cs := if cs = 1 then some ⟨30, 10⟩ else none
  create _ := some ()
  update ctx _ := (ctx, true)
  protect ctx data := ⟨ctx, true, data⟩
  protectRtcp ctx data := ⟨ctx, true, data⟩
  unprotect ctx data := ⟨ctx, true, data⟩
  unprotectRtcp ctx data := ⟨ctx, true, data⟩
  srtpKeyAndSaltLengths cs := if cs = 1 then some (16, 14) else none

/-- One section, which connects before the stream is destroyed. -/
def connectedStream : List SrtpProcessEvent :=
  [.createPeerConnection,
    .setLocalDescription 0 { sdpType := .offer, contents := [{ type := .audio }] },
    .dtlsState 0 (lit "audio") .connected true
      { writable := true
        isDtlsActive := true
        srtpCryptoSuite := some 1
        exportKeyingMaterial := fun n ↦ some (List.replicate n 0) },
    .destroyTimer 0]

/-- Two sessions are still counted, and no connection is left. -/
theorem not_cleanedUp_connectedStream :
    ¬∀ fs, fs <+: connectedStream → (run aes128Env fs).CleanedUp := by
  intro h
  have hclean := h connectedStream (List.prefix_refl _)
  have hnone : ∀ pc, (run aes128Env connectedStream).pcs.live pc = false := by
    intro pc
    by_contra hlive
    rw [Bool.not_eq_false] at hlive
    have hlt := (run aes128Env connectedStream).pcs.live_lt pc hlive
    have hnext : (run aes128Env connectedStream).pcs.next = 1 := by decide
    obtain rfl : pc = 0 := by omega
    revert hlive
    decide
  have hzero := hclean.unused hnone
  have htwo : (run aes128Env connectedStream).heap.libsrtpUsageCount = 2 := by decide
  omega

end SrtpProcess

end XrtcServer
