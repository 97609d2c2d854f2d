import XrtcServer.Lib.Lifetimes
import XrtcServer.Pc.DtlsSrtpTransport

/-!
# The SRTP sessions of a process

libsrtp is initialised for the whole process, and `SrtpSession` (`pc/srtp_session.cpp`) keeps count
of its users: a session that is given a key steps `g_libsrtp_usage_count` up, and the destructor of
a session that did so steps it down. Here the sessions of all transports lie on one heap beside this
counter, and a transport holds its two sessions by identifier.

## The heap and the transports

`view` forgets the identifiers: what is left is the transport of `Pc/DtlsSrtpTransport.lean`, whose
`initOk` is now the answer of the counter. Packets neither make nor destroy a session, so the only
call that matters is the one that reports the state of the DTLS transport, and `view_onDtlsState`
says that on the heap it does what it does on the transport.

## The count

The invariant is that a live session is held by the transport that made it, and the counter is the
number of live sessions with `_inited`. A session has that mark from its first key on, even if
libsrtp then makes no session of it, so the count goes up and down by the mark and not by what
libsrtp has.
-/

namespace XrtcServer

variable {Ctx : Type}

/-- A session, and the transport that made it, which is not a field of the class. -/
structure SrtpSessionObject (Ctx : Type) where
  transport : ℕ
  session : SrtpSession Ctx := {}

structure SrtpHeap (Ctx : Type) where
  /-- `g_libsrtp_usage_count`. -/
  libsrtpUsageCount : ℤ := 0
  sessions : Lifetimes (SrtpSessionObject Ctx) := .empty { transport := 0 }
  /-- `_send_session` and `_recv_session` of each transport, which are set and cleared together. -/
  held : ℕ → Option (ℕ × ℕ) := fun _ ↦ none

namespace SrtpHeap

variable (h : SrtpHeap Ctx)

def session (i : ℕ) : SrtpSession Ctx := (h.sessions.cell i).session

/-- `_increment_libsrtp_usage_count_and_maybe_init`; `initOk` says whether `srtp_init` and
`srtp_install_event_handler` succeed. -/
def incrementLibsrtpUsageCountAndMaybeInit (initOk : Bool) : SrtpHeap Ctx × Bool :=
  if h.libsrtpUsageCount = 0 ∧ initOk = false then (h, false)
  else ({ h with libsrtpUsageCount := h.libsrtpUsageCount + 1 }, true)

/-- `_decrement_libsrtp_usage_and_maybe_deinit`. -/
def decrementLibsrtpUsageAndMaybeDeinit : SrtpHeap Ctx :=
  { h with libsrtpUsageCount := h.libsrtpUsageCount - 1 }

/-- `~SrtpSession`. -/
def deleteSession (i : ℕ) : SrtpHeap Ctx :=
  let h' := if (h.session i).inited then h.decrementLibsrtpUsageAndMaybeDeinit else h
  { h' with sessions := h'.sessions.delete i }

def assignSession (i : ℕ) (s : SrtpSession Ctx) : SrtpHeap Ctx :=
  { h with sessions := h.sessions.modify i fun o ↦ { o with session := s } }

variable (lib : Libsrtp Ctx)

/-- `_set_key` of the session `i`. -/
def setKey (i : ℕ) (initOk : Bool) (type : SrtpSsrcType) (cs : ℤ) (key : ByteString) :
    SrtpHeap Ctx × Bool :=
  if (h.session i).session.isSome then (h, false)
  else
    let (h, ok) := h.incrementLibsrtpUsageCountAndMaybeInit initOk
    let (s, done) := (h.session i).setKey lib ok type cs key
    (h.assignSession i s, done)

/-- `_update_key` of the session `i`. -/
def updateKey (i : ℕ) (type : SrtpSsrcType) (cs : ℤ) (key : ByteString) : SrtpHeap Ctx × Bool :=
  let (s, done) := (h.session i).updateKey lib type cs key
  (h.assignSession i s, done)

/-! ## The sessions of a transport

A transport makes its two sessions together and gives both a key before anything else may happen.
`setKeys` is written once for the first keys and for new ones, which differ in the call alone. -/

/-- `_create_srtp_session`. -/
def createSrtpSession (t : ℕ) : SrtpHeap Ctx :=
  { h with
    sessions := (h.sessions.new { transport := t }).new { transport := t }
    held := Function.update h.held t (some (h.sessions.next, h.sessions.next + 1)) }

/-- `reset_params`. -/
def resetParams (t : ℕ) : SrtpHeap Ctx :=
  match h.held t with
  | none => h
  | some (send, recv) =>
    let h := (h.deleteSession send).deleteSession recv
    { h with held := Function.update h.held t none }

/-- The second half of `set_rtp_params`, where `set` is what both sessions get their keys from. -/
def setKeys (t send recv : ℕ) (set : SrtpHeap Ctx → ℕ → ByteString → SrtpHeap Ctx × Bool)
    (sendKey recvKey : ByteString) : SrtpHeap Ctx × Bool :=
  let (h, sendOk) := set h send sendKey
  if sendOk then
    let (h, recvOk) := set h recv recvKey
    if recvOk then (h, true) else (h.resetParams t, false)
  else (h.resetParams t, false)

/-- `set_rtp_params`. -/
def setRtpParams (t : ℕ) (initOk : Bool) (cs : ℤ) (sendKey recvKey : ByteString) :
    SrtpHeap Ctx × Bool :=
  match h.held t with
  | none =>
    (h.createSrtpSession t).setKeys t h.sessions.next (h.sessions.next + 1)
      (fun h i key ↦ h.setKey lib i initOk .anyOutbound cs key) sendKey recvKey
  | some (send, recv) =>
    h.setKeys t send recv (fun h i key ↦ h.updateKey lib i .anyInbound cs key) sendKey recvKey

/-- The transport `t`, without the identifiers of its sessions. -/
def view (t : ℕ) (rtcpMuxEnabled : Bool) : DtlsSrtpTransport Ctx where
  rtcpMuxEnabled := rtcpMuxEnabled
  sessions := (h.held t).map fun ids ↦ (h.session ids.1, h.session ids.2)

/-- `_on_dtls_state` of the transport `t`. -/
def onDtlsState (env : SrtpEnv Ctx) (t : ℕ) (rtcpMuxEnabled : Bool) (state : DtlsTransportState)
    (initOk : Bool) (rtp : DtlsTransportView) (rtcp : Option DtlsTransportView) : SrtpHeap Ctx :=
  if state = .connected then
    if (h.held t).isSome || !(h.view t rtcpMuxEnabled).isDtlsWritable rtp rtcp then h
    else
      match DtlsSrtpTransport.extractParams env rtp with
      | none => h
      | some (suite, sendKey, recvKey) =>
        (h.setRtpParams env.toLibsrtp t initOk suite sendKey recvKey).1
  else h.resetParams t

/-! ## The invariant

A session that is destroyed gives back what it has counted. With several transports on one heap it
must be known whose sessions are whose, so the invariant ties a live session to its transport in
both directions. -/

/-- Live sessions are held by the transport that made them, and the counter counts those that were
given a key. -/
structure Inv : Prop where
  exact : h.sessions.Exact
  usage : h.libsrtpUsageCount = h.sessions.countLive (·.session.inited)
  held : ∀ t send recv, h.held t = some (send, recv) →
    send ≠ recv ∧ ∀ i, i = send ∨ i = recv →
      h.sessions.live i = true ∧ (h.sessions.cell i).transport = t
  owned : ∀ i, h.sessions.live i = true →
    ∃ send recv, h.held (h.sessions.cell i).transport = some (send, recv) ∧ (i = send ∨ i = recv)

variable {h} {lib} {t t' i send recv : ℕ} {initOk : Bool} {type : SrtpSsrcType} {cs : ℤ}
  {key : ByteString} {s : SrtpSession Ctx}

theorem inv_empty : ({} : SrtpHeap Ctx).Inv where
  exact := Lifetimes.exact_empty _
  usage := rfl
  held _ _ _ h := nomatch h
  owned _ h := nomatch h

theorem Inv.assign (hinv : h.Inv) (hi : h.sessions.live i = true) {count : ℤ}
    (hcount : count + (h.session i).inited.toNat = h.libsrtpUsageCount + s.inited.toNat) :
    ({ h.assignSession i s with libsrtpUsageCount := count } : SrtpHeap Ctx).Inv := by
  have htransport (j : ℕ) : ((h.assignSession i s).sessions.cell j).transport =
      (h.sessions.cell j).transport :=
    Arena.proj_cell_modify (p := fun o : SrtpSessionObject Ctx ↦ o.transport)
      (f := fun o : SrtpSessionObject Ctx ↦ { o with session := s }) (fun _ ↦ rfl) i j
  have hlive := Arena.countLive_modify (p := fun o : SrtpSessionObject Ctx ↦ o.session.inited)
    (f := fun o ↦ { o with session := s }) hi
  refine ⟨hinv.exact.modify i _, ?_, fun t send recv hheld ↦ ?_, fun j hj ↦ ?_⟩
  · have husage := hinv.usage
    have hstep : ((h.assignSession i s).sessions.countLive (·.session.inited) : ℤ) +
        (h.session i).inited.toNat =
        h.sessions.countLive (·.session.inited) + s.inited.toNat := by exact_mod_cast hlive
    change count = ((h.assignSession i s).sessions.countLive (·.session.inited) : ℤ)
    omega
  · obtain ⟨hne, hboth⟩ := hinv.held t send recv hheld
    refine ⟨hne, fun j hj ↦ ?_⟩
    exact ⟨(hboth j hj).1, (htransport j).trans (hboth j hj).2⟩
  · obtain ⟨send, recv, hheld, hor⟩ := hinv.owned j hj
    refine ⟨send, recv, ?_, hor⟩
    exact (congrArg h.held (htransport j)).trans hheld

theorem Inv.assignSession (hinv : h.Inv) (hi : h.sessions.live i = true)
    (hs : s.inited = (h.session i).inited) : (h.assignSession i s).Inv := by
  have hcount : h.libsrtpUsageCount + (h.session i).inited.toNat =
      h.libsrtpUsageCount + s.inited.toNat := by rw [hs]
  exact hinv.assign hi hcount

theorem inited_doSetKey (lib : Libsrtp Ctx) (s : SrtpSession Ctx) (type : SrtpSsrcType) (cs : ℤ)
    (key : ByteString) : (s.doSetKey lib type cs key).1.inited = s.inited := by
  rw [SrtpSession.doSetKey]
  split
  · split_ifs
    · rfl
    · dsimp only
      rcases s.session with _ | ctx
      · dsimp only
        rcases lib.create _ with _ | ctx <;> rfl
      · dsimp only
        split_ifs <;> rfl
  · rfl

theorem Inv.setKey (hinv : h.Inv) (hi : h.sessions.live i = true)
    (hs : (h.session i).inited = false) : (h.setKey lib i initOk type cs key).1.Inv := by
  rw [SrtpHeap.setKey]
  split_ifs with hsome
  · exact hinv
  · rw [incrementLibsrtpUsageCountAndMaybeInit]
    split_ifs
    · refine hinv.assignSession hi ?_
      rw [SrtpSession.setKey, if_neg hsome, if_neg Bool.false_ne_true]
    · have hnew : ((h.session i).setKey lib true type cs key).1.inited = true := by
        rw [SrtpSession.setKey, if_neg hsome, if_pos rfl, inited_doSetKey]
      have hcount : h.libsrtpUsageCount + 1 + (h.session i).inited.toNat = h.libsrtpUsageCount +
          ((h.session i).setKey lib true type cs key).1.inited.toNat := by
        rw [hs, hnew]
        exact add_zero _
      exact hinv.assign hi hcount

theorem Inv.updateKey (hinv : h.Inv) (hi : h.sessions.live i = true) :
    (h.updateKey lib i type cs key).1.Inv := by
  have hs : ((h.session i).updateKey lib type cs key).1.inited = (h.session i).inited := by
    rw [SrtpSession.updateKey]
    split_ifs
    · exact inited_doSetKey ..
    · rfl
  exact hinv.assignSession hi hs

theorem session_deleteSession (h : SrtpHeap Ctx) (i : ℕ) :
    (h.deleteSession i).sessions = h.sessions.delete i ∧
      (h.deleteSession i).libsrtpUsageCount =
        h.libsrtpUsageCount - (h.session i).inited.toNat := by
  rw [deleteSession]
  dsimp only
  split_ifs with hs
  · rw [hs]
    exact ⟨rfl, rfl⟩
  · rw [Bool.not_eq_true] at hs
    rw [hs]
    exact ⟨rfl, (sub_zero _).symm⟩

theorem resetParams_of_held (hheld : h.held t = some (send, recv)) :
    (h.resetParams t).sessions = (h.sessions.delete send).delete recv ∧
      (h.resetParams t).held = Function.update h.held t none ∧
      (h.resetParams t).libsrtpUsageCount = h.libsrtpUsageCount -
        (h.session send).inited.toNat - (h.session recv).inited.toNat := by
  obtain ⟨hsend, hcount⟩ := session_deleteSession h send
  obtain ⟨hrecv, hcount'⟩ := session_deleteSession (h.deleteSession send) recv
  have hsession : (h.deleteSession send).session recv = h.session recv := by
    rw [session, hsend]
    rfl
  have hsame : ((h.deleteSession send).deleteSession recv).held = h.held := by
    rw [deleteSession, deleteSession]
    split_ifs <;> rfl
  rw [resetParams, hheld]
  dsimp only
  refine ⟨hrecv.trans (congrArg (Lifetimes.delete · recv) hsend),
    congrArg (Function.update · t none) hsame, ?_⟩
  rw [hcount', hcount, hsession]

/-- **Both sessions go at once.** -/
theorem Inv.resetParams (hinv : h.Inv) (t : ℕ) : (h.resetParams t).Inv := by
  rcases hheld : h.held t with _ | ⟨send, recv⟩
  · rw [SrtpHeap.resetParams, hheld]
    exact hinv
  · obtain ⟨hne, hboth⟩ := hinv.held t send recv hheld
    obtain ⟨hsessions, hheld', hcount⟩ := resetParams_of_held hheld
    obtain ⟨hsend, hsend'⟩ := hboth send (.inl rfl)
    obtain ⟨hrecv, hrecv'⟩ := hboth recv (.inr rfl)
    have hrecv₁ : (h.sessions.delete send).live recv = true :=
      Arena.live_free_iff.mpr ⟨hne.symm, hrecv⟩
    have hlive (i : ℕ) : (h.resetParams t).sessions.live i = true ↔
        i ≠ recv ∧ i ≠ send ∧ h.sessions.live i = true := by
      rw [hsessions]
      exact Arena.live_free_iff.trans (and_congr_right fun _ ↦ Arena.live_free_iff)
    have hcell (i : ℕ) : (h.resetParams t).sessions.cell i = h.sessions.cell i := by
      rw [hsessions]
      rfl
    constructor
    · rw [hsessions]
      exact (hinv.exact.delete hsend).delete hrecv₁
    · have hfirst := Arena.countLive_free
        (p := fun o : SrtpSessionObject Ctx ↦ o.session.inited) hsend
      have hsecond := Arena.countLive_free
        (p := fun o : SrtpSessionObject Ctx ↦ o.session.inited) hrecv₁
      have husage := hinv.usage
      have hcountLive : (h.resetParams t).sessions.countLive (·.session.inited) +
          (h.session recv).inited.toNat + (h.session send).inited.toNat =
          h.sessions.countLive (·.session.inited) := by
        rw [hsessions]
        exact (congrArg (· + (h.session send).inited.toNat) hsecond).trans hfirst
      omega
    · intro t' send' recv' hheld₁
      rw [hheld'] at hheld₁
      by_cases ht : t' = t
      · rw [ht, Function.update_self] at hheld₁
        cases hheld₁
      · rw [Function.update_of_ne ht] at hheld₁
        obtain ⟨hne', hboth'⟩ := hinv.held t' send' recv' hheld₁
        refine ⟨hne', fun i hi ↦ ?_⟩
        obtain ⟨hi, hti⟩ := hboth' i hi
        rw [hcell]
        refine ⟨(hlive i).mpr ⟨?_, ?_, hi⟩, hti⟩
        · rintro rfl
          exact ht (hti.symm.trans hrecv')
        · rintro rfl
          exact ht (hti.symm.trans hsend')
    · intro i hi
      obtain ⟨hir, his, hi⟩ := (hlive i).mp hi
      obtain ⟨send', recv', hheld₁, hor⟩ := hinv.owned i hi
      have ht : (h.sessions.cell i).transport ≠ t := by
        intro ht
        rw [ht, hheld] at hheld₁
        obtain ⟨rfl, rfl⟩ := Prod.mk.inj (Option.some.inj hheld₁)
        exact hor.elim his hir
      rw [hcell, hheld', Function.update_of_ne ht]
      exact ⟨send', recv', hheld₁, hor⟩

theorem session_assignSession_of_ne (h : SrtpHeap Ctx) (s : SrtpSession Ctx) {j : ℕ} (hj : j ≠ i) :
    (h.assignSession i s).session j = h.session j := by
  have hcell : (h.assignSession i s).sessions.cell j = h.sessions.cell j :=
    Arena.cell_modify_of_ne (a := h.sessions.toArena) (f := fun o ↦ { o with session := s }) hj
  rw [session, session, hcell]

theorem setKey_keeps (lib : Libsrtp Ctx) (h : SrtpHeap Ctx) (i : ℕ) (initOk : Bool)
    (type : SrtpSsrcType) (cs : ℤ) (key : ByteString) :
    (h.setKey lib i initOk type cs key).1.held = h.held ∧
      (h.setKey lib i initOk type cs key).1.sessions.live = h.sessions.live ∧
      ∀ j, j ≠ i → (h.setKey lib i initOk type cs key).1.session j = h.session j := by
  rw [SrtpHeap.setKey]
  split_ifs
  · exact ⟨rfl, rfl, fun _ _ ↦ rfl⟩
  · rw [incrementLibsrtpUsageCountAndMaybeInit]
    split_ifs
    · exact ⟨rfl, rfl, fun j hj ↦ session_assignSession_of_ne _ _ hj⟩
    · exact ⟨rfl, rfl, fun j hj ↦ session_assignSession_of_ne _ _ hj⟩

theorem held_resetParams (h : SrtpHeap Ctx) (t : ℕ) :
    (h.resetParams t).held = Function.update h.held t none := by
  rcases hheld : h.held t with _ | ⟨send, recv⟩
  · rw [SrtpHeap.resetParams, hheld]
    exact (Function.update_eq_self_iff.mpr hheld.symm).symm
  · exact (resetParams_of_held hheld).2.1

section SetKeys

variable {set : SrtpHeap Ctx → ℕ → ByteString → SrtpHeap Ctx × Bool} {sendKey recvKey : ByteString}

theorem Inv.setKeys (hsend : (set h send sendKey).1.Inv)
    (hrecv : (set (set h send sendKey).1 recv recvKey).1.Inv) :
    (h.setKeys t send recv set sendKey recvKey).1.Inv := by
  rw [SrtpHeap.setKeys]
  dsimp only
  split_ifs
  · exact hrecv
  · exact hrecv.resetParams t
  · exact hsend.resetParams t

theorem held_setKeys (hset : ∀ h i key, (set h i key).1.held = h.held) (ht : t' ≠ t) :
    (h.setKeys t send recv set sendKey recvKey).1.held t' = h.held t' := by
  rw [SrtpHeap.setKeys]
  dsimp only
  split_ifs
  · rw [hset, hset]
  · rw [held_resetParams, Function.update_of_ne ht, hset, hset]
  · rw [held_resetParams, Function.update_of_ne ht, hset]

end SetKeys

theorem createSrtpSession_new (h : SrtpHeap Ctx) (t : ℕ) :
    ∀ i, i = h.sessions.next ∨ i = h.sessions.next + 1 →
      (h.createSrtpSession t).sessions.live i = true ∧
        (h.createSrtpSession t).sessions.cell i = { transport := t } := by
  rintro i (rfl | rfl)
  · have hne : h.sessions.next ≠ h.sessions.next + 1 := by omega
    exact ⟨(Arena.live_alloc_of_ne hne).trans Arena.live_alloc_next,
      (Arena.cell_alloc_of_ne hne).trans Arena.cell_alloc_next⟩
  · exact ⟨Arena.live_alloc_next, Arena.cell_alloc_next⟩

/-- A session that was there before stays as it is. -/
theorem createSrtpSession_old (h : SrtpHeap Ctx) (t : ℕ) (hi : h.sessions.live i = true) :
    (h.createSrtpSession t).sessions.live i = true ∧
      (h.createSrtpSession t).sessions.cell i = h.sessions.cell i := by
  have hlt := h.sessions.live_lt i hi
  have hne : i ≠ h.sessions.next := by omega
  have hne' : i ≠ h.sessions.next + 1 := by omega
  exact ⟨(Arena.live_alloc_of_ne hne').trans ((Arena.live_alloc_of_ne hne).trans hi),
    (Arena.cell_alloc_of_ne hne').trans (Arena.cell_alloc_of_ne hne)⟩

/-- **Two new sessions**, which have no key yet. -/
theorem Inv.createSrtpSession (hinv : h.Inv) (hheld : h.held t = none) :
    (h.createSrtpSession t).Inv := by
  have hnew := h.createSrtpSession_new t
  have hheld' : (h.createSrtpSession t).held =
      Function.update h.held t (some (h.sessions.next, h.sessions.next + 1)) := rfl
  constructor
  · exact (hinv.exact.new _).new _
  · have hfirst := Arena.countLive_alloc (a := h.sessions.toArena)
      (x := ({ transport := t } : SrtpSessionObject Ctx)) (p := fun o ↦ o.session.inited)
    have hsecond := Arena.countLive_alloc
      (a := h.sessions.toArena.alloc ({ transport := t } : SrtpSessionObject Ctx))
      (x := ({ transport := t } : SrtpSessionObject Ctx)) (p := fun o ↦ o.session.inited)
    exact hinv.usage.trans (congrArg Nat.cast (hsecond.trans hfirst).symm)
  · intro t' send recv hheld₁
    rw [hheld'] at hheld₁
    by_cases ht : t' = t
    · subst ht
      rw [Function.update_self] at hheld₁
      obtain ⟨rfl, rfl⟩ := Prod.mk.inj (Option.some.inj hheld₁)
      refine ⟨by omega, fun i hi ↦ ?_⟩
      rw [(hnew i hi).2]
      exact ⟨(hnew i hi).1, rfl⟩
    · rw [Function.update_of_ne ht] at hheld₁
      obtain ⟨hne, hboth⟩ := hinv.held t' send recv hheld₁
      refine ⟨hne, fun i hi ↦ ?_⟩
      obtain ⟨hlive, hcell⟩ := h.createSrtpSession_old t (hboth i hi).1
      rw [hcell]
      exact ⟨hlive, (hboth i hi).2⟩
  · intro i hi
    rw [hheld']
    by_cases hi' : i = h.sessions.next ∨ i = h.sessions.next + 1
    · rw [(hnew i hi').2, Function.update_self]
      exact ⟨_, _, rfl, hi'⟩
    · obtain ⟨hne, hne'⟩ := not_or.mp hi'
      have hold : h.sessions.live i = true :=
        (Arena.live_alloc_of_ne hne).symm.trans ((Arena.live_alloc_of_ne hne').symm.trans hi)
      obtain ⟨send, recv, hheld₁, hor⟩ := hinv.owned i hold
      rw [(h.createSrtpSession_old t hold).2]
      have ht : (h.sessions.cell i).transport ≠ t := by
        intro ht
        rw [ht, hheld] at hheld₁
        cases hheld₁
      rw [Function.update_of_ne ht]
      exact ⟨send, recv, hheld₁, hor⟩

theorem Inv.setRtpParams (hinv : h.Inv) (sendKey recvKey : ByteString) :
    (h.setRtpParams lib t initOk cs sendKey recvKey).1.Inv := by
  rcases hheld : h.held t with _ | ⟨send, recv⟩
  · rw [SrtpHeap.setRtpParams, hheld]
    have hinv' := hinv.createSrtpSession hheld
    obtain ⟨hsend, hsend'⟩ := h.createSrtpSession_new t _ (.inl rfl)
    obtain ⟨hrecv, hrecv'⟩ := h.createSrtpSession_new t _ (.inr rfl)
    have hinited {i : ℕ} (hi : (h.createSrtpSession t).sessions.cell i = { transport := t }) :
        ((h.createSrtpSession t).session i).inited = false := by
      rw [session, hi]
    have hfirst : ((h.createSrtpSession t).setKey lib h.sessions.next initOk .anyOutbound cs
        sendKey).1.Inv := hinv'.setKey hsend (hinited hsend')
    obtain ⟨-, hlive, hother⟩ := setKey_keeps lib (h.createSrtpSession t) h.sessions.next initOk
      .anyOutbound cs sendKey
    refine Inv.setKeys hfirst (hfirst.setKey ((congrFun hlive _).trans hrecv) ?_)
    rw [hother _ (by omega)]
    exact hinited hrecv'
  · rw [SrtpHeap.setRtpParams, hheld]
    obtain ⟨-, hboth⟩ := hinv.held t send recv hheld
    have hsend : (h.updateKey lib send .anyInbound cs sendKey).1.Inv :=
      hinv.updateKey (hboth send (.inl rfl)).1
    have hrecv : ((h.updateKey lib send .anyInbound cs sendKey).1.updateKey lib recv .anyInbound cs
        recvKey).1.Inv := hsend.updateKey (hboth recv (.inr rfl)).1
    exact Inv.setKeys hsend hrecv

theorem held_setRtpParams (h : SrtpHeap Ctx) (sendKey recvKey : ByteString) (ht : t' ≠ t) :
    (h.setRtpParams lib t initOk cs sendKey recvKey).1.held t' = h.held t' := by
  rw [SrtpHeap.setRtpParams]
  split
  · have hset (h : SrtpHeap Ctx) (i : ℕ) (key : ByteString) :
        (h.setKey lib i initOk .anyOutbound cs key).1.held = h.held :=
      (setKey_keeps lib h i initOk .anyOutbound cs key).1
    exact (held_setKeys hset ht).trans (Function.update_of_ne ht ..)
  · exact held_setKeys (fun _ _ _ ↦ rfl) ht

variable {env : SrtpEnv Ctx} {rtcpMuxEnabled : Bool} {state : DtlsTransportState}
  {rtp : DtlsTransportView} {rtcp : Option DtlsTransportView}

/-- **A report keeps the invariant.** -/
theorem Inv.onDtlsState (hinv : h.Inv) (t : ℕ) :
    (h.onDtlsState env t rtcpMuxEnabled state initOk rtp rtcp).Inv := by
  rw [SrtpHeap.onDtlsState]
  split_ifs
  · exact hinv
  · split
    · exact hinv
    · exact hinv.setRtpParams _ _
  · exact hinv.resetParams t

theorem held_onDtlsState (h : SrtpHeap Ctx) (ht : t' ≠ t) :
    (h.onDtlsState env t rtcpMuxEnabled state initOk rtp rtcp).held t' = h.held t' := by
  rw [SrtpHeap.onDtlsState]
  split_ifs
  · rfl
  · split
    · rfl
    · exact held_setRtpParams h _ _ ht
  · rw [held_resetParams, Function.update_of_ne ht]

/-! ## Without the identifiers

`srtp_init` is asked only while the counter is zero. So of the two sessions of a transport only the
first may have to ask, and if it was told that libsrtp is there, so is the second. -/

/-- What the counter answers. -/
def initAnswer (h : SrtpHeap Ctx) (initOk : Bool) : Bool := h.libsrtpUsageCount ≠ 0 || initOk

theorem session_assignSession_self (h : SrtpHeap Ctx) (i : ℕ) (s : SrtpSession Ctx) :
    (h.assignSession i s).session i = s := by
  have hcell : (h.assignSession i s).sessions.cell i = { h.sessions.cell i with session := s } :=
    Arena.cell_modify_self (a := h.sessions.toArena) (f := fun o ↦ { o with session := s })
  rw [session, hcell]

theorem setKey_view (lib : Libsrtp Ctx) (h : SrtpHeap Ctx) (i : ℕ) (initOk : Bool)
    (type : SrtpSsrcType) (cs : ℤ) (key : ByteString) :
    (h.setKey lib i initOk type cs key).1.session i =
        ((h.session i).setKey lib (h.initAnswer initOk) type cs key).1 ∧
      (h.setKey lib i initOk type cs key).2 =
        ((h.session i).setKey lib (h.initAnswer initOk) type cs key).2 := by
  rw [SrtpHeap.setKey]
  split_ifs with hsome
  · rw [SrtpSession.setKey, if_pos hsome]
    exact ⟨rfl, rfl⟩
  · rw [incrementLibsrtpUsageCountAndMaybeInit, initAnswer]
    split_ifs with hfail
    · obtain ⟨hzero, hinit⟩ := hfail
      have hanswer : (decide (h.libsrtpUsageCount ≠ 0) || initOk) = false := by simp [hzero, hinit]
      rw [hanswer]
      exact ⟨session_assignSession_self .., rfl⟩
    · have hanswer : (decide (h.libsrtpUsageCount ≠ 0) || initOk) = true := by
        simpa [imp_iff_not_or] using hfail
      rw [hanswer]
      exact ⟨session_assignSession_self .., rfl⟩

theorem initAnswer_setKey (hinv : h.Inv) (hok : (h.setKey lib i initOk type cs key).2 = true) :
    h.initAnswer initOk = true ∧
      (h.setKey lib i initOk type cs key).1.initAnswer initOk = true := by
  have hnonneg : 0 ≤ h.libsrtpUsageCount := hinv.usage ▸ Int.natCast_nonneg _
  rw [SrtpHeap.setKey] at hok ⊢
  split_ifs at hok ⊢ with hsome
  rw [incrementLibsrtpUsageCountAndMaybeInit] at hok ⊢
  split_ifs at hok ⊢ with hfail
  · have hrefused : ((h.session i).setKey lib false type cs key).2 = false := by
      rw [SrtpSession.setKey, if_neg hsome, if_neg Bool.false_ne_true]
    cases hrefused.symm.trans hok
  · constructor
    · simpa [initAnswer, imp_iff_not_or] using hfail
    · have hne : h.libsrtpUsageCount + 1 ≠ 0 := by omega
      have hdecide : decide (h.libsrtpUsageCount + 1 ≠ 0) = true := decide_eq_true hne
      exact Bool.or_eq_true_iff.mpr (.inl hdecide)

theorem view_resetParams (h : SrtpHeap Ctx) (t : ℕ) (rtcpMuxEnabled : Bool) :
    ((h.resetParams t).view t rtcpMuxEnabled).sessions = none := by
  rw [view, held_resetParams, Function.update_self]
  rfl

theorem sessions_setRtpParams_new (x : SrtpTransport Ctx) (hnone : x.sessions = none)
    (initOk : Bool) (sendKey recvKey : ByteString) :
    (x.setRtpParams lib initOk cs sendKey recvKey).1.sessions =
      if (SrtpSession.setSend lib {} initOk cs sendKey).2 = true then
        if (SrtpSession.setRecv lib {} initOk cs recvKey).2 = true then
          some ((SrtpSession.setSend lib {} initOk cs sendKey).1,
            (SrtpSession.setRecv lib {} initOk cs recvKey).1)
        else none
      else none := by
  rw [SrtpTransport.setRtpParams, hnone]
  dsimp only [Option.isNone_none, Option.getD_none]
  rw [if_pos rfl, if_pos rfl]
  split_ifs <;> rfl

/-- New sessions get the keys that those of a transport without sessions get. -/
theorem view_setRtpParams (hinv : h.Inv) (hnone : h.held t = none) (sendKey recvKey : ByteString) :
    ((h.setRtpParams lib t initOk cs sendKey recvKey).1.view t rtcpMuxEnabled).sessions =
      (((h.view t rtcpMuxEnabled).toSrtpTransport.setRtpParams lib (h.initAnswer initOk) cs sendKey
        recvKey).1).sessions := by
  have hinv' := hinv.createSrtpSession hnone
  have hsession {i : ℕ} (hi : i = h.sessions.next ∨ i = h.sessions.next + 1) :
      (h.createSrtpSession t).session i = {} := by
    rw [session, (h.createSrtpSession_new t i hi).2]
  have hheld : (h.createSrtpSession t).held t = some (h.sessions.next, h.sessions.next + 1) :=
    Function.update_self ..
  have hsessions : (h.view t rtcpMuxEnabled).sessions = none := by
    rw [view, hnone]
    rfl
  rw [sessions_setRtpParams_new _ hsessions, SrtpHeap.setRtpParams, hnone, SrtpHeap.setKeys]
  -- the key of the first session
  obtain ⟨hsend, hsendOk⟩ := setKey_view lib (h.createSrtpSession t) h.sessions.next initOk
    .anyOutbound cs sendKey
  obtain ⟨hheld₁, -, hother₁⟩ := setKey_keeps lib (h.createSrtpSession t) h.sessions.next initOk
    .anyOutbound cs sendKey
  have hinit : ((h.createSrtpSession t).setKey lib h.sessions.next initOk .anyOutbound cs
      sendKey).2 = true → _ := initAnswer_setKey hinv'
  rw [hsession (.inl rfl)] at hsend hsendOk
  generalize (h.createSrtpSession t).setKey lib h.sessions.next initOk .anyOutbound cs sendKey =
    first at *
  obtain ⟨h₁, ok₁⟩ := first
  dsimp only at *
  rw [SrtpSession.setSend, ← show (h.createSrtpSession t).initAnswer initOk = h.initAnswer initOk
    from rfl, ← hsend, ← hsendOk]
  cases ok₁ with
  | false => exact view_resetParams ..
  | true =>
    rw [if_pos rfl, if_pos rfl]
    obtain ⟨hanswer, hanswer₁⟩ := hinit rfl
    -- the key of the second one
    obtain ⟨hrecv, hrecvOk⟩ := setKey_view lib h₁ (h.sessions.next + 1) initOk .anyOutbound cs
      recvKey
    obtain ⟨hheld₂, -, hother₂⟩ := setKey_keeps lib h₁ (h.sessions.next + 1) initOk .anyOutbound
      cs recvKey
    rw [hother₁ _ (by omega), hsession (.inr rfl), hanswer₁, ← hanswer] at hrecv hrecvOk
    generalize h₁.setKey lib (h.sessions.next + 1) initOk .anyOutbound cs recvKey = second at *
    obtain ⟨h₂, ok₂⟩ := second
    dsimp only at *
    rw [SrtpSession.setRecv, ← hrecv, ← hrecvOk]
    cases ok₂ with
    | false => exact view_resetParams ..
    | true =>
      rw [if_pos rfl, if_pos rfl, view, hheld₂, hheld₁, hheld, ← hother₂ _ (by omega)]
      rfl

theorem rtcpMuxEnabled_setRtpParams (x : SrtpTransport Ctx) (initOk : Bool)
    (sendKey recvKey : ByteString) :
    (x.setRtpParams lib initOk cs sendKey recvKey).1.rtcpMuxEnabled = x.rtcpMuxEnabled := by
  rw [SrtpTransport.setRtpParams]
  dsimp only
  split_ifs <;> rfl

theorem view_eq {h' : SrtpHeap Ctx} {x : SrtpTransport Ctx}
    (hmux : x.rtcpMuxEnabled = rtcpMuxEnabled)
    (hsessions : (h'.view t rtcpMuxEnabled).sessions = x.sessions) :
    h'.view t rtcpMuxEnabled = { h.view t rtcpMuxEnabled with toSrtpTransport := x } := by
  obtain ⟨mux, sessions⟩ := x
  obtain rfl : mux = rtcpMuxEnabled := hmux
  obtain rfl : (h'.view t mux).sessions = sessions := hsessions
  rfl

/-- **The report on the heap is the report on the transport.** -/
theorem view_onDtlsState (hinv : h.Inv) :
    (h.onDtlsState env t rtcpMuxEnabled state initOk rtp rtcp).view t rtcpMuxEnabled =
      (h.view t rtcpMuxEnabled).onDtlsState env state (h.initAnswer initOk) rtp rtcp := by
  have hactive : (h.view t rtcpMuxEnabled).isSrtpActive = (h.held t).isSome :=
    Option.isSome_map
  rw [SrtpHeap.onDtlsState, DtlsSrtpTransport.onDtlsState, DtlsSrtpTransport.maybeSetupDtlsSrtp,
    hactive]
  split_ifs with hstate hskip
  · rfl
  · have hnone : h.held t = none := by
      have hor := (Bool.or_eq_false_iff.mp (Bool.eq_false_iff.mpr hskip)).1
      simpa using hor
    rw [DtlsSrtpTransport.setupDtlsSrtp]
    rcases DtlsSrtpTransport.extractParams env rtp with _ | ⟨suite, sendKey, recvKey⟩
    · rfl
    · exact view_eq (rtcpMuxEnabled_setRtpParams ..) (view_setRtpParams hinv hnone sendKey recvKey)
  · exact view_eq rfl (view_resetParams ..)

end SrtpHeap

end XrtcServer
