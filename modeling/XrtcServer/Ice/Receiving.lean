import XrtcServer.Ice.ConnectionHistory
import XrtcServer.Lib.TimedLog

/-!
# Whether a connection is receiving

`update_receiving` is meant to tell a connection that has heard of its peer lately, by a request, by
data or by a response, from one that has not. `last_received` takes the latest of three stamps for
it. Only `received_ping_response` writes one of the three, so a peer that sends requests and media
all the time counts as silent until it answers a ping, and again as soon as its last answer is old.

What the decision of the code comes to is `StampCounts`, a condition on the responses of the
history. It is never wrong when it holds; `receiving_iff` says when it is wrong otherwise.
-/

namespace XrtcServer

open EventRun ByteString TimedLog World

/-! ## What the fields record -/

/-- The two stamps that are written are the times of the last ping and the last response. -/
theorem foldl_record_written (h : List ConnEntry) (s : ConnStamps) :
    (h.foldl ConnStamps.record s).lastPingSent =
        lastTime ConnEntry.time ConnEntry.isPing s.lastPingSent h ∧
      (h.foldl ConnStamps.record s).lastPingResponseReceived =
        lastTime ConnEntry.time ConnEntry.isResponse s.lastPingResponseReceived h := by
  refine ⟨lastTime_eq_foldl (fun s x ↦ ?_) s h, lastTime_eq_foldl (fun s x ↦ ?_) s h⟩
  · rcases x with ⟨_ | _, t⟩ <;> rfl
  · rcases x with ⟨_ | _, t⟩ <;> rfl

/-- The two stamps that are never written. -/
theorem foldl_record_unwritten (h : List ConnEntry) (s : ConnStamps) :
    (h.foldl ConnStamps.record s).lastPingRecevied = s.lastPingRecevied ∧
      (h.foldl ConnStamps.record s).lastDataRecevied = s.lastDataRecevied := by
  induction h generalizing s with
  | nil => exact ⟨rfl, rfl⟩
  | cons x h ih =>
    rw [List.foldl_cons, (ih _).1, (ih _).2]
    rcases x with ⟨_ | _, t⟩ <;> exact ⟨rfl, rfl⟩

/-! ## The decision -/

/-- What `update_receiving` computes from the stamps. -/
def ConnStamps.receiving (s : ConnStamps) (now : ℤ) : Bool :=
  let lastReceived := max (max s.lastPingRecevied s.lastPingResponseReceived) s.lastDataRecevied
  if s.lastPingSent < s.lastPingResponseReceived then true
  else lastReceived > 0 && now < lastReceived + weakConnectionReceiveTimeout

theorem receiving_updateReceiving (w : World) (c : ConnId) (now : ℤ) :
    ((w.updateReceiving c now).conn c).receiving = (w.conn c).stamps.receiving now := by
  have heq : w.updateReceiving c now =
      if (w.conn c).receiving = (w.conn c).stamps.receiving now then w
      else (w.modifyConn c fun x ↦ { x with
        receiving := (w.conn c).stamps.receiving now }).sortConnectionsAndUpdateState now := rfl
  rw [heq]
  split_ifs with hsame
  · exact hsame
  · rw [proj_conn_sortConnectionsAndUpdateState (p := IceConnection.receiving) (fun _ _ ↦ rfl),
      conn, modifyConn, Arena.cell_modify_self]

/-- Some response counts by its stamp: it is later than all pings, or not too old. A stamp of zero
does not count, as it stands for no response. -/
def StampCounts (h : List ConnEntry) (now : ℤ) : Prop :=
  ∃ x ∈ h, x.isResponse = true ∧ 0 < x.time ∧
    ((∀ y ∈ h, y.isPing = true → y.time < x.time) ∨
      now < x.time + weakConnectionReceiveTimeout)

instance (h : List ConnEntry) (now : ℤ) : Decidable (StampCounts h now) :=
  inferInstanceAs (Decidable (∃ x ∈ h, _))

/-- The clock counts up from zero, as `rtc::TimeMillis` does. -/
structure Timed (h : List ConnEntry) : Prop where
  chronological : Chronological ConnEntry.time h
  nonneg : ∀ x ∈ h, 0 ≤ x.time

instance (h : List ConnEntry) : Decidable (Timed h) :=
  decidable_of_iff (Chronological ConnEntry.time h ∧ ∀ x ∈ h, 0 ≤ x.time)
    ⟨fun hh ↦ ⟨hh.1, hh.2⟩, fun hh ↦ ⟨hh.1, hh.2⟩⟩

variable {h : List ConnEntry} {now : ℤ}

theorem receiving_stamps_iff (hh : Timed h) :
    (h.foldl ConnStamps.record {}).receiving now = true ↔ StampCounts h now := by
  have hstart (p : ConnEntry → Bool) : 0 ≤ lastTime ConnEntry.time p 0 h := by
    rw [← not_lt, lastTime_lt_iff hh.chronological hh.nonneg]
    exact fun hlt ↦ lt_irrefl _ hlt.1
  have hcode : (h.foldl ConnStamps.record {}).receiving now = true ↔
      lastTime ConnEntry.time ConnEntry.isPing 0 h <
        lastTime ConnEntry.time ConnEntry.isResponse 0 h ∨
      max 0 (now - weakConnectionReceiveTimeout) <
        lastTime ConnEntry.time ConnEntry.isResponse 0 h := by
    -- the stamps of requests and of data are still zero
    rw [ConnStamps.receiving, (foldl_record_written h {}).1, (foldl_record_written h {}).2,
      (foldl_record_unwritten h {}).1, (foldl_record_unwritten h {}).2]
    dsimp only
    rw [max_eq_right (hstart _), max_eq_left (hstart _)]
    split_ifs with hlt
    · simp [hlt]
    · rw [Bool.and_eq_true, decide_eq_true_iff, decide_eq_true_iff]
      omega
  rw [hcode, lt_lastTime_iff hh.chronological (hstart _),
    lt_lastTime_iff hh.chronological (le_max_left _ _)]
  simp only [lastTime_lt_iff hh.chronological hh.nonneg, max_lt_iff]
  constructor
  · rintro (⟨x, hx, hresponse, hpos, hpings⟩ | ⟨x, hx, hresponse, hpos, hrecent⟩)
    · exact ⟨x, hx, hresponse, hpos, .inl hpings⟩
    · exact ⟨x, hx, hresponse, hpos, .inr (by omega)⟩
  · rintro ⟨x, hx, hresponse, hpos, hpings | hrecent⟩
    · exact .inl ⟨x, hx, hresponse, hpos, hpings⟩
    · exact .inr ⟨x, hx, hresponse, hpos, by omega⟩

/-! ## What it is meant to be -/

/-- A response came after the last ping, or something was received within the timeout. -/
def Receives (h : List ConnEntry) (now : ℤ) : Prop :=
  (∃ x ∈ since ConnEntry.isPing h, x.isResponse = true) ∨
    ∃ x ∈ h, x.isPing = false ∧ now < x.time + weakConnectionReceiveTimeout

instance (h : List ConnEntry) (now : ℤ) : Decidable (Receives h now) :=
  inferInstanceAs (Decidable (_ ∨ ∃ x ∈ h, _))

theorem StampCounts.receives (hh : Timed h) (hcounts : StampCounts h now) : Receives h now := by
  obtain ⟨x, hx, hresponse, -, hpings | hrecent⟩ := hcounts
  · exact .inl ⟨x, mem_since_of_lt hh.chronological hx hpings, hresponse⟩
  · refine .inr ⟨x, hx, ?_, hrecent⟩
    rw [ConnEntry.isResponse, decide_eq_true_iff] at hresponse
    rw [ConnEntry.isPing, hresponse]
    rfl

/-- What counts and no stamp tells: a request or data within the timeout, a response in the
millisecond of the last ping, and a response at time zero. -/
def Overlooked (h : List ConnEntry) (now : ℤ) : Prop :=
  (∃ x ∈ h, (x.kind = .requestReceived ∨ x.kind = .dataReceived) ∧
      now < x.time + weakConnectionReceiveTimeout) ∨
    (∃ x ∈ since ConnEntry.isPing h, x.isResponse = true ∧
      ∃ y ∈ h, y.isPing = true ∧ y.time = x.time) ∨
    ∃ x ∈ h, x.isResponse = true ∧ x.time = 0 ∧
      (x ∈ since ConnEntry.isPing h ∨ now < weakConnectionReceiveTimeout)

instance (h : List ConnEntry) (now : ℤ) : Decidable (Overlooked h now) :=
  inferInstanceAs (Decidable ((∃ x ∈ h, _) ∨ (∃ x ∈ since ConnEntry.isPing h, _ ∧ ∃ y ∈ h, _) ∨
    ∃ x ∈ h, _))

theorem receives_iff (hh : Timed h) :
    Receives h now ↔ StampCounts h now ∨ Overlooked h now := by
  constructor
  · rintro (⟨x, hx, hresponse⟩ | ⟨x, hx, hping, hrecent⟩)
    · have hxh := mem_of_mem_since hx
      rcases (hh.nonneg x hxh).eq_or_lt with hzero | hpos
      · exact .inr (.inr (.inr ⟨x, hxh, hresponse, hzero.symm, .inl hx⟩))
      · by_cases htie : ∃ y ∈ h, y.isPing = true ∧ y.time = x.time
        · exact .inr (.inr (.inl ⟨x, hx, hresponse, htie⟩))
        · -- without a tie, the response is later than all pings
          refine .inl ⟨x, hxh, hresponse, hpos, .inl fun y hy hping ↦ ?_⟩
          refine lt_of_le_of_ne (le_of_mem_since hh.chronological hx hy hping) fun heq ↦ ?_
          exact htie ⟨y, hy, hping, heq⟩
    · rcases hkind : x.kind with _ | _ | _ | _
      · rw [ConnEntry.isPing, hkind] at hping
        cases hping
      · exact .inr (.inl ⟨x, hx, .inl hkind, hrecent⟩)
      · have hresponse : x.isResponse = true := by rw [ConnEntry.isResponse, hkind]; rfl
        rcases (hh.nonneg x hx).eq_or_lt with hzero | hpos
        · exact .inr (.inr (.inr ⟨x, hx, hresponse, hzero.symm, .inr (by omega)⟩))
        · exact .inl ⟨x, hx, hresponse, hpos, .inr hrecent⟩
      · exact .inr (.inl ⟨x, hx, .inr hkind, hrecent⟩)
  · rintro (hcounts | ⟨x, hx, hkind, hrecent⟩ | ⟨x, hx, hresponse, -⟩ |
      ⟨x, hx, hresponse, hzero, hx' | hrecent⟩)
    · exact hcounts.receives hh
    · refine .inr ⟨x, hx, ?_, hrecent⟩
      rcases hkind with hkind | hkind <;> (rw [ConnEntry.isPing, hkind]; rfl)
    · exact .inl ⟨x, hx, hresponse⟩
    · exact .inl ⟨x, hx', hresponse⟩
    · refine .inr ⟨x, hx, ?_, by omega⟩
      rw [ConnEntry.isResponse, decide_eq_true_iff] at hresponse
      rw [ConnEntry.isPing, hresponse]
      rfl

/-! ## Along a run -/

/-- **Whether a connection is receiving.** After any run whose clock never goes back, and for any
time, `update_receiving` decides as it is meant to exactly when a stamp tells what is overlooked. -/
theorem receiving_iff (env : IceEnv) (component : IceCandidateComponent)
    (port : PortId → IceParameters × Candidate) (es : List IceEvent) (c : ConnId)
    (hh : Timed (history env component port es c)) (now : ℤ) :
    ((((run env component port es).updateReceiving c now).conn c).receiving = true ↔
        Receives (history env component port es c) now) ↔
      (Overlooked (history env component port es c) now →
        StampCounts (history env component port es c) now) := by
  rw [receiving_updateReceiving, stamps_run, receiving_stamps_iff hh, receives_iff hh]
  tauto

/-- The first peer answers the ping. -/
def answeredRun : List IceEvent := pingedRun ++ [.datagram 0 peerA bindingResponse2 1010 1010]

/-- The answer counts until two and a half seconds later. -/
theorem receiving_answeredRun :
    (((run sampleEnv .rtp (fun _ ↦ samplePort) answeredRun).updateReceiving 0 3000).conn
        0).receiving = true ↔
      Receives (history sampleEnv .rtp (fun _ ↦ samplePort) answeredRun 0) 3000 := by
  have htimed : Timed (history sampleEnv .rtp (fun _ ↦ samplePort) answeredRun 0) := by
    decide +kernel
  have hcounts : StampCounts (history sampleEnv .rtp (fun _ ↦ samplePort) answeredRun 0) 3000 := by
    decide +kernel
  exact (receiving_iff sampleEnv .rtp (fun _ ↦ samplePort) answeredRun 0 htimed 3000).mpr
    fun _ ↦ hcounts

/-- A request was received ten milliseconds ago, and the connection is not receiving. -/
theorem not_receiving_iff_receives :
    ¬∀ (env : IceEnv) (component : IceCandidateComponent)
      (port : PortId → IceParameters × Candidate) (es : List IceEvent) (c : ConnId) (now : ℤ),
      Timed (history env component port es c) →
      (∀ x ∈ history env component port es c, x.time ≤ now) →
      ((((run env component port es).updateReceiving c now).conn c).receiving = true ↔
        Receives (history env component port es c) now) := by
  intro h
  have hrequest := h sampleEnv .rtp (fun _ ↦ samplePort)
    [.setRemoteIceParams peerParams 0, .datagram 0 peerA bindingRequestA 10 10] 0 20
    (by decide +kernel) (by decide +kernel)
  exact absurd (hrequest.mpr (by decide +kernel)) (by decide +kernel)

end XrtcServer
