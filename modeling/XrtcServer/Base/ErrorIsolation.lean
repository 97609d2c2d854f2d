import XrtcServer.Base.AsyncUdpSocket

/-!
# Whose error a call of `send_to` reports

`_add_udp_packet` first sends what is in the list, to whatever peers, and returns from that loop at
the first datagram that cannot be sent. After an error there the new datagram is neither sent nor
queued, and its sender is told of an error that was not its own. An empty datagram that was sent
counts as an error too, and so, to the caller, does a datagram whose size is `-1` as an `int`.

## How far the loop gets

That depends on the list and on the outcomes only, and is counted by `flushed`. The loop ends at the
end of the list, where there is no room, or at an error, and a call of `send_to` is one of three
things accordingly: it tries the new datagram, it queues it, or it returns the error. The exact
condition is read off from the three.
-/

namespace XrtcServer

variable {Addr : Type}

namespace AsyncUdpSocket

variable (s : AsyncUdpSocket Addr) (results : ℕ → SendResult) (data : ByteString) (addr : Addr)

/-- The datagram of the next call of `send_to`. -/
def nextPacket : UdpPacketData Addr := ⟨data, addr, s.calls.length⟩

/-- The calls of `sendto` in a call of `send_to`. -/
def sendToAttempts : List (SendAttempt Addr) :=
  (s.sendTo results data addr).1.attempts.drop s.attempts.length

/-- In a call of `send_to`, `sendto` reported an error for the datagram of this call. -/
def OwnError : Prop :=
  ∃ x ∈ s.sendToAttempts results data addr, x.packet = s.nextPacket data addr ∧ x.result = .error

/-- A call of `send_to` returns `-1` only for an error of its own datagram, and without one the
datagram is sent or queued. -/
structure IsolatesErrors : Prop where
  own : (s.sendTo results data addr).2 = -1 → s.OwnError results data addr
  kept : ¬s.OwnError results data addr →
    s.nextPacket data addr ∈ accepted (s.sendToAttempts results data addr) ∨
      s.nextPacket data addr ∈ (s.sendTo results data addr).1.udpPacketList

end AsyncUdpSocket

/-- How many datagrams at the head of a list are sent, when `results` are the outcomes of `sendto`
from the `n`-th on. -/
def flushed (results : ℕ → SendResult) : List (UdpPacketData Addr) → ℕ → ℕ
  | [], _ => 0
  | packet :: packets, n =>
    if results n = .sent ∧ packet.data ≠ [] then flushed results packets (n + 1) + 1 else 0

/-- No error but its own reaches the sender of `data`: the list goes out up to a datagram for which
there is no room, or as a whole; after that, `data` is not an empty datagram that is sent; and a
datagram that is queued has a size that is not `-1` as an `int`. -/
structure NoForeignError (results : ℕ → SendResult) (queue : List (UdpPacketData Addr))
    (data : ByteString) : Prop where
  backlog : flushed results queue 0 < queue.length →
    results (flushed results queue 0) = .wouldBlock
  nonempty : flushed results queue 0 = queue.length → results queue.length = .sent → data ≠ []
  size : results (flushed results queue 0) = .wouldBlock → (data.length : ℤ).bmod (2 ^ 32) ≠ -1

/-! ### How far the loop gets -/

theorem sockSendTo_pos_iff (size : ℕ) (result : SendResult) :
    0 < sockSendTo size result ↔ result = .sent ∧ size ≠ 0 := by
  cases result with
  | sent =>
    by_cases hsize : size = 0
    · simp [sockSendTo, hsize]
    · simpa [sockSendTo, hsize] using Nat.pos_of_ne_zero hsize
  | wouldBlock => simp [sockSendTo]
  | error => simp [sockSendTo]

theorem sockSendTo_eq_zero_iff (size : ℕ) (result : SendResult) :
    sockSendTo size result = 0 ↔ result = .wouldBlock := by
  refine ⟨wouldBlock_of_sockSendTo, ?_⟩
  rintro rfl
  rfl

theorem flushed_le (results : ℕ → SendResult) (packets : List (UdpPacketData Addr)) (n : ℕ) :
    flushed results packets n ≤ packets.length := by
  induction packets generalizing n with
  | nil => exact le_rfl
  | cons packet packets ih =>
    rw [flushed]
    split
    · exact Nat.succ_le_succ (ih (n + 1))
    · exact Nat.zero_le _

/-- The loop over a list ends as `flushed` says: after the whole list, or at the first datagram that
does not go out. -/
structure EndsAt (results : ℕ → SendResult) (packets : List (UdpPacketData Addr)) (n : ℕ)
    (attempts : List (SendAttempt Addr)) (how : DrainEnd) : Prop where
  whole : flushed results packets n = packets.length →
    how = .empty ∧ attempts.length = packets.length
  blocked : flushed results packets n < packets.length →
    results (n + flushed results packets n) = .wouldBlock → how = .blocked
  failed : flushed results packets n < packets.length →
    results (n + flushed results packets n) ≠ .wouldBlock → how = .failed

theorem endsAt_drain (results : ℕ → SendResult) (packets : List (UdpPacketData Addr)) (n : ℕ) :
    EndsAt results packets n (drain results packets n).2.1 (drain results packets n).2.2 := by
  induction packets generalizing n with
  | nil =>
    refine ⟨fun _ ↦ ⟨rfl, rfl⟩, ?_, ?_⟩
    · intro h
      exact absurd h (Nat.not_lt_zero _)
    · intro h
      exact absurd h (Nat.not_lt_zero _)
  | cons packet packets ih =>
    by_cases hout : results n = .sent ∧ packet.data ≠ []
    · -- the first datagram goes out, and the rest decides
      have hflushed : flushed results (packet :: packets) n =
          flushed results packets (n + 1) + 1 := by
        rw [flushed, if_pos hout]
      have hpos : 0 < sockSendTo packet.data.length (results n) :=
        (sockSendTo_pos_iff _ _).mpr ⟨hout.1, fun h ↦ hout.2 (List.length_eq_zero_iff.mp h)⟩
      have hindex : n + (flushed results packets (n + 1) + 1) =
          n + 1 + flushed results packets (n + 1) := by omega
      obtain ⟨hwhole, hblocked, hfailed⟩ := ih (n + 1)
      rw [drain, if_neg (not_lt.mpr hpos.le), if_neg hpos.ne']
      refine ⟨?_, ?_, ?_⟩
      · intro h
        rw [hflushed] at h
        obtain ⟨hhow, hlength⟩ := hwhole (Nat.succ_injective h)
        exact ⟨hhow, congrArg Nat.succ hlength⟩
      · intro hlt hresult
        rw [hflushed] at hlt hresult
        exact hblocked (Nat.lt_of_succ_lt_succ hlt) (hindex ▸ hresult)
      · intro hlt hresult
        rw [hflushed] at hlt hresult
        exact hfailed (Nat.lt_of_succ_lt_succ hlt) (hindex ▸ hresult)
    · -- the loop ends here, and the outcome says how
      have hflushed : flushed results (packet :: packets) n = 0 := by rw [flushed, if_neg hout]
      have hnonpos : ¬0 < sockSendTo packet.data.length (results n) := by
        rw [sockSendTo_pos_iff]
        rintro ⟨hsent, hsize⟩
        exact hout ⟨hsent, fun h ↦ hsize (congrArg List.length h)⟩
      refine ⟨?_, ?_, ?_⟩
      · intro h
        rw [hflushed] at h
        exact absurd h (Nat.succ_ne_zero _).symm
      · intro _ hresult
        rw [hflushed, Nat.add_zero] at hresult
        have hzero : sockSendTo packet.data.length (results n) = 0 := by
          rw [hresult]
          rfl
        rw [drain, hzero, if_neg (lt_irrefl 0), if_pos rfl]
      · intro _ hresult
        rw [hflushed, Nat.add_zero] at hresult
        have hzero : sockSendTo packet.data.length (results n) ≠ 0 :=
          fun h ↦ hresult (wouldBlock_of_sockSendTo h)
        rw [drain, if_pos (lt_of_le_of_ne (not_lt.mp hnonpos) hzero)]

/-! ### The three ends of a call -/

namespace AsyncUdpSocket

variable {s : AsyncUdpSocket Addr} {results : ℕ → SendResult} {data : ByteString} {addr : Addr}

variable (data addr) in
/-- After an error in the list, the call only returns. -/
theorem sendTo_failed (h : (drain results s.udpPacketList 0).2.2 = .failed) :
    (s.sendTo results data addr).2 = -1 ∧
      s.sendToAttempts results data addr = (drain results s.udpPacketList 0).2.1 ∧
      (s.sendTo results data addr).1.udpPacketList = (drain results s.udpPacketList 0).1 := by
  rw [sendToAttempts, sendTo, addUdpPacket]
  generalize drain results s.udpPacketList 0 = r at *
  obtain ⟨rest, attempts, how⟩ := r
  obtain rfl : how = .failed := h
  exact ⟨rfl, List.drop_left, rfl⟩

variable (data addr) in
theorem sendTo_blocked (h : (drain results s.udpPacketList 0).2.2 = .blocked) :
    (s.sendTo results data addr).2 = (s.nextPacket data addr).returnedSize ∧
      s.sendToAttempts results data addr = (drain results s.udpPacketList 0).2.1 ∧
      (s.sendTo results data addr).1.udpPacketList =
        (drain results s.udpPacketList 0).1 ++ [s.nextPacket data addr] := by
  rw [sendToAttempts, sendTo, addUdpPacket]
  generalize drain results s.udpPacketList 0 = r at *
  obtain ⟨rest, attempts, how⟩ := r
  obtain rfl : how = .blocked := h
  dsimp only [nextPacket]
  exact ⟨rfl, List.drop_left, rfl⟩

variable (data addr) in
theorem sendTo_empty (h : (drain results s.udpPacketList 0).2.2 = .empty) :
    let attempts := (drain results s.udpPacketList 0).2.1
    let result := results attempts.length
    let sent := sockSendTo data.length result
    s.sendToAttempts results data addr = attempts ++ [⟨s.nextPacket data addr, [], result⟩] ∧
      (s.sendTo results data addr).2 =
        (if sent < 0 then -1
          else if sent = 0 then (s.nextPacket data addr).returnedSize else sent) ∧
      (sent = 0 → s.nextPacket data addr ∈ (s.sendTo results data addr).1.udpPacketList) := by
  have hrest := (drained_drain results s.udpPacketList 0).empty h
  dsimp only
  rw [sendToAttempts, sendTo, addUdpPacket]
  generalize drain results s.udpPacketList 0 = r at *
  obtain ⟨rest, attempts, how⟩ := r
  obtain rfl : how = .empty := h
  obtain rfl : rest = [] := hrest
  dsimp only [nextPacket]
  by_cases hneg : sockSendTo data.length (results attempts.length) < 0
  · rw [if_pos hneg, if_pos hneg, List.append_assoc, List.drop_left]
    refine ⟨rfl, rfl, fun hzero ↦ ?_⟩
    exact absurd hzero hneg.ne
  · rw [if_neg hneg, if_neg hneg]
    by_cases hzero : sockSendTo data.length (results attempts.length) = 0
    · rw [if_pos hzero, if_pos hzero, sendAgain, List.append_assoc, List.drop_left]
      dsimp only
      exact ⟨rfl, rfl, fun _ ↦ List.mem_append_right _ (List.mem_singleton_self _)⟩
    · rw [if_neg hzero, if_neg hzero, List.append_assoc, List.drop_left]
      exact ⟨rfl, rfl, fun h ↦ absurd h hzero⟩

/-- The loop over the list is not about the datagram of the call. -/
theorem packet_ne_nextPacket (hnew : s.nextPacket data addr ∉ s.udpPacketList)
    {x : SendAttempt Addr} (hx : x ∈ (drain results s.udpPacketList 0).2.1) :
    x.packet ≠ s.nextPacket data addr := by
  obtain ⟨packets', hqueue, hsuffix⟩ := (drained_drain results s.udpPacketList 0).heads x hx
  intro heq
  apply hnew
  rw [← heq]
  apply hsuffix.subset
  rw [hqueue]
  exact List.mem_cons_self

/-! ### The exact condition -/

theorem not_ownError (hnew : s.nextPacket data addr ∉ s.udpPacketList)
    (h : s.sendToAttempts results data addr = (drain results s.udpPacketList 0).2.1) :
    ¬s.OwnError results data addr := by
  rintro ⟨x, hx, hpacket, -⟩
  rw [h] at hx
  exact packet_ne_nextPacket hnew hx hpacket

theorem ownError_iff_of_empty (hnew : s.nextPacket data addr ∉ s.udpPacketList)
    (h : (drain results s.udpPacketList 0).2.2 = .empty) :
    s.OwnError results data addr ↔
      results (drain results s.udpPacketList 0).2.1.length = .error := by
  rw [OwnError, (sendTo_empty data addr h).1]
  constructor
  · rintro ⟨x, hx, hpacket, herror⟩
    rcases List.mem_append.mp hx with hx | hx
    · exact absurd hpacket (packet_ne_nextPacket hnew hx)
    · rw [List.mem_singleton.mp hx] at herror
      exact herror
  · intro herror
    exact ⟨_, List.mem_append_right _ (List.mem_singleton_self _), rfl, herror⟩

theorem isolatesErrors_iff_of_blocked (hnew : s.nextPacket data addr ∉ s.udpPacketList)
    (h : (drain results s.udpPacketList 0).2.2 = .blocked) :
    s.IsolatesErrors results data addr ↔ (data.length : ℤ).bmod (2 ^ 32) ≠ -1 := by
  obtain ⟨hvalue, hattempts, hqueue⟩ := sendTo_blocked data addr h
  constructor
  · intro hisolates hsize
    exact not_ownError hnew hattempts (hisolates.own (hvalue.trans hsize))
  · intro hsize
    refine ⟨fun hminus ↦ absurd (hvalue.symm.trans hminus) hsize, fun _ ↦ .inr ?_⟩
    rw [hqueue]
    exact List.mem_append_right _ (List.mem_singleton_self _)

theorem isolatesErrors_iff_of_empty (hnew : s.nextPacket data addr ∉ s.udpPacketList)
    (h : (drain results s.udpPacketList 0).2.2 = .empty)
    (hlength : (drain results s.udpPacketList 0).2.1.length = s.udpPacketList.length) :
    s.IsolatesErrors results data addr ↔
      (results s.udpPacketList.length = .sent → data ≠ []) ∧
        (results s.udpPacketList.length = .wouldBlock →
          (data.length : ℤ).bmod (2 ^ 32) ≠ -1) := by
  obtain ⟨hattempts, hvalue, hqueue⟩ := sendTo_empty data addr h
  rw [hlength] at hattempts hvalue hqueue
  have hown := ownError_iff_of_empty hnew h
  rw [hlength] at hown
  rcases hresult : results s.udpPacketList.length with _ | _ | _
  · -- sent: only the empty datagram counts as an error
    rw [hresult] at hvalue hattempts hown
    have hsent : s.nextPacket data addr ∈ accepted (s.sendToAttempts results data addr) := by
      rw [hattempts, accepted_append]
      exact List.mem_append_right _ (List.mem_singleton_self _)
    have hno : ¬s.OwnError results data addr := by
      intro herror
      cases hown.mp herror
    constructor
    · intro hisolates
      refine ⟨fun _ hdata ↦ ?_, fun hblock ↦ (by cases hblock)⟩
      apply hno
      apply hisolates.own
      rw [hvalue, hdata]
      rfl
    · intro hcondition
      refine ⟨fun hminus ↦ ?_, fun _ ↦ .inl hsent⟩
      have hpos := (sockSendTo_pos_iff data.length .sent).mpr
        ⟨rfl, fun hzero ↦ hcondition.1 rfl (List.length_eq_zero_iff.mp hzero)⟩
      rw [hvalue, if_neg hpos.le.not_gt, if_neg hpos.ne'] at hminus
      rw [hminus] at hpos
      exact absurd hpos (by decide)
  · rw [hresult] at hvalue hqueue
    have hsize : (s.sendTo results data addr).2 = (s.nextPacket data addr).returnedSize := by
      rw [hvalue, (sockSendTo_eq_zero_iff data.length .wouldBlock).mpr rfl, if_neg (lt_irrefl 0),
        if_pos rfl]
    have hno : ¬s.OwnError results data addr := by
      intro herror
      cases hresult.symm.trans (hown.mp herror)
    constructor
    · intro hisolates
      refine ⟨fun hsent ↦ (by cases hsent), fun _ hminus ↦ ?_⟩
      exact hno (hisolates.own (hsize.trans hminus))
    · intro hcondition
      refine ⟨fun hminus ↦ ?_, fun _ ↦ .inr (hqueue rfl)⟩
      exact absurd (hsize.symm.trans hminus) (hcondition.2 rfl)
  · have herror := hown.mpr hresult
    constructor
    · intro _
      exact ⟨fun hsent ↦ (by cases hsent), fun hblock ↦ (by cases hblock)⟩
    · intro _
      exact ⟨fun _ ↦ herror, fun hno ↦ absurd herror hno⟩

theorem isolatesErrors_iff_of_new (hnew : s.nextPacket data addr ∉ s.udpPacketList) :
    s.IsolatesErrors results data addr ↔ NoForeignError results s.udpPacketList data := by
  obtain ⟨hwhole, hblocked, hfailed⟩ := endsAt_drain results s.udpPacketList 0
  rw [Nat.zero_add] at hblocked hfailed
  rcases (flushed_le results s.udpPacketList 0).lt_or_eq with hlt | heq
  · by_cases hresult : results (flushed results s.udpPacketList 0) = .wouldBlock
    · rw [isolatesErrors_iff_of_blocked hnew (hblocked hlt hresult)]
      constructor
      · intro hsize
        exact ⟨fun _ ↦ hresult, fun heq ↦ absurd heq hlt.ne, fun _ ↦ hsize⟩
      · intro h
        exact h.size hresult
    · -- an error of an older datagram
      obtain ⟨hvalue, hattempts, -⟩ := sendTo_failed data addr (hfailed hlt hresult)
      constructor
      · intro hisolates
        exact absurd (hisolates.own hvalue) (not_ownError hnew hattempts)
      · intro h
        exact absurd (h.backlog hlt) hresult
  · obtain ⟨hempty, hlength⟩ := hwhole heq
    rw [isolatesErrors_iff_of_empty hnew hempty hlength]
    constructor
    · rintro ⟨hnonempty, hsize⟩
      refine ⟨fun hlt ↦ absurd heq hlt.ne, fun _ ↦ hnonempty, fun hresult ↦ ?_⟩
      rw [heq] at hresult
      exact hsize hresult
    · intro h
      refine ⟨h.nonempty heq, fun hresult ↦ h.size ?_⟩
      rw [heq]
      exact hresult

/-- A socket in use has no datagram in its list with the number of the next call. -/
theorem nextPacket_not_mem (es : List (AsyncUdpSocketEvent Addr)) (data : ByteString)
    (addr : Addr) :
    (EventRun.exec step {} es).nextPacket data addr ∉ (EventRun.exec step {} es).udpPacketList := by
  have hinv := socketInv_exec es
  intro hmem
  have hcalled : (EventRun.exec step {} es).nextPacket data addr ∈ callsOf es :=
    hinv.sublist.subset (List.mem_append_right _ hmem)
  rw [nextPacket, hinv.calls_eq] at hcalled
  exact absurd (call_lt_of_mem_callsOf hcalled) (lt_irrefl _)

/-- After every run of a socket, whatever is in its list, and for all outcomes of `sendto`. -/
theorem isolatesErrors_iff (es : List (AsyncUdpSocketEvent Addr)) (results : ℕ → SendResult)
    (data : ByteString) (addr : Addr) :
    (EventRun.exec step {} es).IsolatesErrors results data addr ↔
      NoForeignError results (EventRun.exec step {} es).udpPacketList data :=
  isolatesErrors_iff_of_new (nextPacket_not_mem es data addr)

/-- A datagram of one peer waits for room; the error that its next try meets is reported for the
datagram of another peer, which is neither sent nor queued. -/
theorem not_isolatesErrors_example :
    ¬(EventRun.exec step ({} : AsyncUdpSocket Bool)
        [.sendTo [1] false fun _ ↦ .wouldBlock]).IsolatesErrors (fun _ ↦ .error) [2] true := by
  rw [isolatesErrors_iff_of_new (by decide)]
  intro h
  exact absurd (h.backlog (by decide)) (by decide)

/-- Every list of datagrams is the list of some socket in use. -/
theorem exists_backlog (packets : List (ByteString × Addr)) :
    ∃ es, ((EventRun.exec step ({} : AsyncUdpSocket Addr) es).udpPacketList.map fun packet ↦
      (packet.data, packet.addr)) = packets := by
  refine ⟨packets.map fun x ↦ .sendTo x.1 x.2 fun _ ↦ .wouldBlock, ?_⟩
  induction packets using List.reverseRecOn with
  | nil => rfl
  | append_singleton packets x ih =>
    rw [List.map_append, List.map_singleton, EventRun.exec_append_singleton]
    generalize EventRun.exec step ({} : AsyncUdpSocket Addr) _ = s at ih ⊢
    rw [← ih, step, sendTo, addUdpPacket]
    rcases hqueue : s.udpPacketList with _ | ⟨packet, queue⟩
    · simp [drain, sockSendTo, sendAgain]
    · simp [drain, sockSendTo, sendAgain]

end AsyncUdpSocket

end XrtcServer
