import XrtcServer.Ice.ConnectionHistory
import XrtcServer.Lib.TimedLog

/-!
# When a connection stops being writable

`update_state` compares the clock with the time by which the fifth outstanding ping should have been
answered. The clock has 64 bits, that sum is stored in an `int`: a host whose clock has passed
`2 ^ 31` milliseconds, less than twenty-five days, gives up on a connection after five seconds and
five pings, however long the round trip is.

## A rounding as a parameter

`nextWriteState` is the decision with the rounding of that sum as a parameter. With `toInt` it is
the one of the code, with `id` the exact one, and `writeState_eq_exact_iff` says when the two agree.
To add a constant to all times is a third way to round, so that it can only matter where the code
is not exact.

The other sums have 64 bits and are taken as exact, and so is twice the round trip time.
-/

namespace XrtcServer

open EventRun ByteString TimedLog World

/-! ## Outstanding pings -/

/-- When the pings since the last response were sent. -/
def outstandingPings (h : List ConnEntry) : List ℤ :=
  ((since ConnEntry.isResponse h).filter ConnEntry.isPing).map ConnEntry.time

theorem foldl_record_outstanding (h : List ConnEntry) :
    (h.foldl ConnStamps.record {}).outstanding = outstandingPings h := by
  induction h using List.reverseRecOn with
  | nil => rfl
  | append_singleton h x ih =>
    rw [List.foldl_append, outstandingPings, since_concat]
    rw [outstandingPings] at ih
    rcases x with ⟨kind, t⟩
    cases kind with
    | pingSent => simpa [ConnStamps.record, ConnEntry.isPing, ConnEntry.isResponse] using ih
    | requestReceived => simpa [ConnStamps.record, ConnEntry.isPing, ConnEntry.isResponse] using ih
    | responseReceived => rfl
    | dataReceived => simpa [ConnStamps.record, ConnEntry.isPing, ConnEntry.isResponse] using ih

/-! ## The decision -/

/-- Twice the round trip time, between `MIN_RTT` and `MAX_RTT`. -/
def responseTime (rtt : ℤ) : ℤ := max minRtt (min (2 * rtt) maxRtt)

/-- The fifth ping should have been answered by now, where `sum` is what becomes of the time. -/
def FifthOverdue (sum : ℤ → ℤ) (rtt : ℤ) (pings : List ℤ) (now : ℤ) : Prop :=
  ∃ t ∈ pings[connectionWriteConnectFails - 1]?, sum (t + responseTime rtt) < now

/-- The first ping was sent more than `timeout` ago. -/
def FirstOlderThan (timeout : ℤ) (pings : List ℤ) (now : ℤ) : Prop :=
  ∃ t ∈ pings.head?, t + timeout < now

instance (sum : ℤ → ℤ) (rtt : ℤ) (pings : List ℤ) (now : ℤ) :
    Decidable (FifthOverdue sum rtt pings now) := inferInstanceAs (Decidable (∃ t ∈ _, _))

instance (timeout : ℤ) (pings : List ℤ) (now : ℤ) : Decidable (FirstOlderThan timeout pings now) :=
  inferInstanceAs (Decidable (∃ t ∈ _, _))

/-- The two transitions of `update_state`, which may both happen in one call. -/
def nextWriteState (sum : ℤ → ℤ) (state : WriteState) (rtt : ℤ) (pings : List ℤ) (now : ℤ) :
    WriteState :=
  let state :=
    if state = .writable ∧ FifthOverdue sum rtt pings now ∧
      FirstOlderThan connectionWriteConnectTimeout pings now then .writeUnreliable
    else state
  if (state = .writeUnreliable ∨ state = .writeInit) ∧
    FirstOlderThan connectionWriteTimeout pings now then .writeTimeout
  else state

theorem tooManyPingFails_iff (w : World) (c : ConnId) (rtt now : ℤ) :
    w.tooManyPingFails c connectionWriteConnectFails (responseTime rtt) now = true ↔
      FifthOverdue toInt rtt (w.conn c).stamps.outstanding now := by
  rw [tooManyPingFails, IceConnection.stamps, FifthOverdue, List.getElem?_map]
  rcases (w.conn c).pingsSinceLastResponse[connectionWriteConnectFails - 1]? with _ | ping <;> simp

theorem tooLongWithoutResponse_iff (w : World) (c : ConnId) (timeout now : ℤ) :
    w.tooLongWithoutResponse c timeout now = true ↔
      FirstOlderThan timeout (w.conn c).stamps.outstanding now := by
  rw [tooLongWithoutResponse, IceConnection.stamps, FirstOlderThan, List.head?_map]
  rcases (w.conn c).pingsSinceLastResponse with _ | ⟨ping, pings⟩ <;> simp

theorem writeState_setWriteState (w : World) (c : ConnId) (state : WriteState) (now : ℤ) :
    ((w.setWriteState c state now).conn c).writeState = state := by
  have hassign : ((w.modifyConn c fun x ↦ { x with writeState := state }).conn c).writeState =
      state := by rw [conn, modifyConn, Arena.cell_modify_self]
  rw [setWriteState]
  split_ifs
  · rw [proj_conn_sortConnectionsAndUpdateState (p := IceConnection.writeState) (fun _ _ ↦ rfl)]
    exact hassign
  · exact hassign

theorem writeState_updateReceiving (w : World) (c : ConnId) (now : ℤ) :
    ((w.updateReceiving c now).conn c).writeState = (w.conn c).writeState := by
  have hassign (receiving : Bool) : (((w.modifyConn c fun x ↦ { x with
      receiving }).sortConnectionsAndUpdateState now).conn c).writeState =
        (w.conn c).writeState := by
    rw [proj_conn_sortConnectionsAndUpdateState (p := IceConnection.writeState) (fun _ _ ↦ rfl),
      conn, modifyConn, Arena.cell_modify_self]
    rfl
  rw [updateReceiving]
  split_ifs
  · rfl
  · exact hassign true
  · rfl
  · exact hassign _

theorem clamp_eq_responseTime (rtt : ℤ) :
    (if 2 * rtt < minRtt then minRtt else if 2 * rtt > maxRtt then maxRtt else 2 * rtt) =
      responseTime rtt := by
  rw [responseTime, minRtt, maxRtt]
  split_ifs <;> omega

theorem writeState_ite (w : World) (c : ConnId) (state : WriteState) (now : ℤ) (p : Prop)
    [Decidable p] : ((if p then w.setWriteState c state now else w).conn c).writeState =
      if p then state else (w.conn c).writeState := by
  split_ifs
  · exact writeState_setWriteState w c state now
  · rfl

/-- **What `update_state` does** to the write state. -/
theorem writeState_updateConnState (w : World) (c : ConnId) (now : ℤ) :
    ((w.updateConnState c now).conn c).writeState =
      nextWriteState toInt (w.conn c).writeState (w.conn c).rtt (w.conn c).stamps.outstanding
        now := by
  rw [updateConnState, writeState_updateReceiving, clamp_eq_responseTime, writeState_ite]
  set w₁ : World := if (w.conn c).writeState = .writable ∧
      w.tooManyPingFails c connectionWriteConnectFails (responseTime (w.conn c).rtt) now = true ∧
      w.tooLongWithoutResponse c connectionWriteConnectTimeout now = true then
    w.setWriteState c .writeUnreliable now else w with hw₁
  have hquiet : Quiet w w₁ :=
    across_ite (fun _ ↦ quiet_setWriteState w c .writeUnreliable now) fun _ ↦ .refl w
  have hfirst : (w₁.conn c).writeState =
      if (w.conn c).writeState = .writable ∧
          FifthOverdue toInt (w.conn c).rtt (w.conn c).stamps.outstanding now ∧
          FirstOlderThan connectionWriteConnectTimeout (w.conn c).stamps.outstanding now then
        .writeUnreliable
      else (w.conn c).writeState := by
    rw [hw₁, writeState_ite]
    exact if_congr (and_congr_right fun _ ↦ and_congr (tooManyPingFails_iff w c _ now)
      (tooLongWithoutResponse_iff w c _ now)) rfl rfl
  -- the second transition looks at the state that the first one has left
  rw [nextWriteState, ← hfirst]
  refine if_congr (and_congr_right fun _ ↦ ?_) rfl rfl
  rw [tooLongWithoutResponse_iff, hquiet.stamps c]

/-! ## The exact decision

The rounding matters in one comparison only, and only when the two other tests have passed. There
`toInt` can make the sum smaller and never larger, so an exact decision is missed in one way: the
ping is taken for overdue. -/

variable {state : WriteState} {rtt now : ℤ} {pings : List ℤ}

/-- Rounding matters only where it turns the one comparison around, with all else in place. -/
theorem nextWriteState_eq_iff (sum sum' : ℤ → ℤ) :
    nextWriteState sum state rtt pings now = nextWriteState sum' state rtt pings now ↔
      (state = .writable → FirstOlderThan connectionWriteConnectTimeout pings now →
        (FifthOverdue sum rtt pings now ↔ FifthOverdue sum' rtt pings now)) := by
  by_cases hstate : state = .writable
  · by_cases holder : FirstOlderThan connectionWriteConnectTimeout pings now
    · subst hstate
      -- the outcome tells whether the first transition took place, whatever the second one does
      have hne : (if FirstOlderThan connectionWriteTimeout pings now then WriteState.writeTimeout
          else .writeUnreliable) ≠ .writable := by split_ifs <;> decide
      by_cases hs : FifthOverdue sum rtt pings now <;>
        by_cases hs' : FifthOverdue sum' rtt pings now <;>
        simp [nextWriteState, holder, hs, hs', hne, hne.symm]
    · simp [nextWriteState, holder]
  · simp [nextWriteState, hstate]

/-- The time `s` fits into an `int`, or has passed, or is not reached even as what `int` makes of
it. The last can only happen if the clock is behind the ping. -/
def RoundingHarmless (s now : ℤ) : Prop := s < 2 ^ 31 ∨ s < now ∨ now ≤ toInt s

instance (s now : ℤ) : Decidable (RoundingHarmless s now) :=
  inferInstanceAs (Decidable (_ ∨ _ ∨ _))

/-- A clock that is not behind the ping is never behind what `int` makes of the time. -/
theorem roundingHarmless_iff {t : ℤ} (ht : 0 ≤ t) (hnow : t ≤ now) (rtt : ℤ) :
    RoundingHarmless (t + responseTime rtt) now ↔
      t + responseTime rtt < 2 ^ 31 ∨ t + responseTime rtt < now := by
  have hmax : responseTime rtt ≤ 60000 := max_le (by decide) (min_le_right _ _)
  have hmin : 0 ≤ responseTime rtt := le_max_of_le_left (by decide)
  rw [RoundingHarmless, toInt, Int.bmod_def]
  omega

/-- Rounding is harmless to a writable connection whose first outstanding ping is five seconds old;
for any other connection there is nothing to round. -/
def HarmlessFor (state : WriteState) (rtt : ℤ) (pings : List ℤ) (now : ℤ) : Prop :=
  state = .writable → FirstOlderThan connectionWriteConnectTimeout pings now →
    ∀ t ∈ pings[connectionWriteConnectFails - 1]?, RoundingHarmless (t + responseTime rtt) now

theorem toInt_lt_iff_lt_iff {s : ℤ} (hs : 0 ≤ s) :
    (toInt s < now ↔ s < now) ↔ RoundingHarmless s now := by
  rw [RoundingHarmless, toInt]
  by_cases hfits : s < 2 ^ 31
  · have heq : s.bmod (2 ^ 32) = s := Int.bmod_eq_of_le_mul_two (by omega) (by omega)
    rw [heq]
    tauto
  · -- a time that does not fit becomes an earlier one
    have hlt : s.bmod (2 ^ 32) < 2 ^ 31 := by
      have := Int.bmod_lt (x := s) (m := 2 ^ 32) (by decide)
      omega
    omega

theorem fifthOverdue_toInt_iff (hpings : ∀ t ∈ pings, 0 ≤ t) :
    (FifthOverdue toInt rtt pings now ↔ FifthOverdue id rtt pings now) ↔
      ∀ t ∈ pings[connectionWriteConnectFails - 1]?,
        RoundingHarmless (t + responseTime rtt) now := by
  rw [FifthOverdue, FifthOverdue]
  rcases hfifth : pings[connectionWriteConnectFails - 1]? with _ | t
  · simp
  · have hnonneg : 0 ≤ t + responseTime rtt :=
      add_nonneg (hpings t (List.mem_of_getElem? hfifth)) (le_max_of_le_left (by decide))
    simpa using toInt_lt_iff_lt_iff hnonneg

theorem nextWriteState_toInt_iff (hpings : ∀ t ∈ pings, 0 ≤ t) :
    nextWriteState toInt state rtt pings now = nextWriteState id state rtt pings now ↔
      HarmlessFor state rtt pings now := by
  rw [nextWriteState_eq_iff, fifthOverdue_toInt_iff hpings, HarmlessFor]

/-- Of three ways to round, two that differ from the third agree. -/
theorem nextWriteState_eq_of_ne {sum sum' sum'' : ℤ → ℤ}
    (h : nextWriteState sum state rtt pings now ≠ nextWriteState sum'' state rtt pings now)
    (h' : nextWriteState sum' state rtt pings now ≠ nextWriteState sum'' state rtt pings now) :
    nextWriteState sum state rtt pings now = nextWriteState sum' state rtt pings now := by
  rw [ne_eq, nextWriteState_eq_iff] at h h'
  rw [nextWriteState_eq_iff]
  tauto

/-- To add a constant to all times is to round differently. -/
theorem nextWriteState_shift (sum : ℤ → ℤ) (k : ℤ) :
    nextWriteState sum state rtt (pings.map (· + k)) (now + k) =
      nextWriteState (fun s ↦ sum (s + k) - k) state rtt pings now := by
  have hfirst (timeout : ℤ) : FirstOlderThan timeout (pings.map (· + k)) (now + k) ↔
      FirstOlderThan timeout pings now := by
    rw [FirstOlderThan, FirstOlderThan, List.head?_map]
    rcases pings.head? with _ | t
    · simp
    · simp; omega
  have hfifth : FifthOverdue sum rtt (pings.map (· + k)) (now + k) ↔
      FifthOverdue (fun s ↦ sum (s + k) - k) rtt pings now := by
    rw [FifthOverdue, FifthOverdue, List.getElem?_map]
    rcases pings[connectionWriteConnectFails - 1]? with _ | t
    · simp
    · simp [sub_lt_iff_lt_add, add_right_comm]
  simp only [nextWriteState, hfirst, hfifth]

theorem nextWriteState_id_shift (k : ℤ) :
    nextWriteState id state rtt (pings.map (· + k)) (now + k) =
      nextWriteState id state rtt pings now := by
  have hid : (fun s : ℤ ↦ id (s + k) - k) = id := funext fun s ↦ Int.add_sub_cancel s k
  rw [nextWriteState_shift, hid]

/-- The constant makes a difference if it makes one to whether rounding is harmless. -/
theorem nextWriteState_toInt_shift_iff (hpings : ∀ t ∈ pings, 0 ≤ t) {k : ℤ}
    (hshift : ∀ t ∈ pings, 0 ≤ t + k) :
    nextWriteState toInt state rtt (pings.map (· + k)) (now + k) =
        nextWriteState toInt state rtt pings now ↔
      (HarmlessFor state rtt pings now ↔
        HarmlessFor state rtt (pings.map (· + k)) (now + k)) := by
  have hshifted : ∀ t ∈ pings.map (· + k), 0 ≤ t := by
    intro t ht
    obtain ⟨s, hs, rfl⟩ := List.mem_map.mp ht
    exact hshift s hs
  rw [← nextWriteState_toInt_iff hpings, ← nextWriteState_toInt_iff hshifted,
    nextWriteState_id_shift]
  constructor
  · intro heq
    rw [heq]
  · intro hiff
    by_cases hexact : nextWriteState toInt state rtt pings now =
        nextWriteState id state rtt pings now
    · exact (hiff.mp hexact).trans hexact.symm
    · have hexact' := mt hiff.mpr hexact
      rw [nextWriteState_shift] at hexact' ⊢
      exact nextWriteState_eq_of_ne hexact' hexact

/-! ## Along a run -/

/-- **When a connection stops being writable.** After any run, and for any time, `update_state`
decides as exact arithmetic does exactly when rounding is harmless. A constant that is added to all
times leaves the decision alone exactly when rounding is harmless both with and without it, or
neither. -/
theorem writeState_eq_exact_iff (env : IceEnv) (component : IceCandidateComponent)
    (port : PortId → IceParameters × Candidate) (es : List IceEvent) (c : ConnId)
    (hnonneg : ∀ x ∈ history env component port es c, 0 ≤ x.time) (now : ℤ) :
    ((((run env component port es).updateConnState c now).conn c).writeState =
        nextWriteState id ((run env component port es).conn c).writeState
          ((run env component port es).conn c).rtt
          (outstandingPings (history env component port es c)) now ↔
      HarmlessFor ((run env component port es).conn c).writeState
        ((run env component port es).conn c).rtt
        (outstandingPings (history env component port es c)) now) ∧
    ∀ k, (∀ t ∈ outstandingPings (history env component port es c), 0 ≤ t + k) →
      (nextWriteState toInt ((run env component port es).conn c).writeState
          ((run env component port es).conn c).rtt
          ((outstandingPings (history env component port es c)).map (· + k)) (now + k) =
        (((run env component port es).updateConnState c now).conn c).writeState ↔
      (HarmlessFor ((run env component port es).conn c).writeState
          ((run env component port es).conn c).rtt
          (outstandingPings (history env component port es c)) now ↔
        HarmlessFor ((run env component port es).conn c).writeState
          ((run env component port es).conn c).rtt
          ((outstandingPings (history env component port es c)).map (· + k)) (now + k))) := by
  have hpings : ∀ t ∈ outstandingPings (history env component port es c), 0 ≤ t := by
    intro t ht
    obtain ⟨x, hx, rfl⟩ := List.mem_map.mp ht
    exact hnonneg x (mem_of_mem_since (List.mem_filter.mp hx).1)
  rw [writeState_updateConnState, stamps_run, foldl_record_outstanding]
  exact ⟨nextWriteState_toInt_iff hpings, fun k hshift ↦
    nextWriteState_toInt_shift_iff hpings hshift⟩

/-- The peer answers one ping and falls silent, on a host that has been up since the time `start`;
the fifth of the pings that follow is the last event. -/
def fadingRun (start : ℤ) : List IceEvent :=
  [.setRemoteIceParams peerParams start,
    .datagram 0 peerA bindingRequestA (start + 10) (start + 10),
    .checkAndPing (lit "pingnumber01") (start + 1000),
    .datagram 0 peerA bindingResponse1 (start + 1010) (start + 1010),
    .checkAndPing (lit "pingnumber02") (start + 2000),
    .checkAndPing (lit "pingnumber03") (start + 3000),
    .checkAndPing (lit "pingnumber04") (start + 4000),
    .checkAndPing (lit "pingnumber05") (start + 5000),
    .checkAndPing (lit "pingnumber06") (start + 7050)]

/-- Soon after the start of the clock, the connection stays writable as long as it should. -/
theorem writeState_fadingRun :
    (((run sampleEnv .rtp (fun _ ↦ samplePort) (fadingRun 0)).updateConnState 0 7100).conn
        0).writeState = .writable := by
  have hnonneg : ∀ x ∈ history sampleEnv .rtp (fun _ ↦ samplePort) (fadingRun 0) 0,
      0 ≤ x.time := by decide +kernel
  rw [(writeState_eq_exact_iff sampleEnv .rtp (fun _ ↦ samplePort) (fadingRun 0) 0 hnonneg
    7100).1.mpr fun _ _ ↦ by decide +kernel]
  decide +kernel

/-- After twenty-five days it is given up on fifty milliseconds too early. -/
theorem not_writeState_eq_exact :
    ¬∀ (env : IceEnv) (component : IceCandidateComponent)
      (port : PortId → IceParameters × Candidate) (es : List IceEvent) (c : ConnId) (now : ℤ),
      (∀ x ∈ history env component port es c, 0 ≤ x.time ∧ x.time ≤ now) →
      (0 ≤ ((run env component port es).conn c).rtt ∧
        ((run env component port es).conn c).rtt ≤ 10 ^ 6) →
      (((run env component port es).updateConnState c now).conn c).writeState =
        nextWriteState id ((run env component port es).conn c).writeState
          ((run env component port es).conn c).rtt
          (outstandingPings (history env component port es c)) now := by
  intro h
  have hlate := h sampleEnv .rtp (fun _ ↦ samplePort) (fadingRun (2 ^ 31)) 0 (2 ^ 31 + 7100)
    (by decide +kernel) (by decide +kernel)
  exact absurd hlate (by decide +kernel)

end XrtcServer
