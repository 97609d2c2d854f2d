import Mathlib.Data.List.Sublists
import XrtcServer.Base.ByteString
import XrtcServer.Base.EventLoop
import XrtcServer.Lib.EventRun

/-!
# Sending datagrams

`AsyncUdpSocket` (`base/async_udp_socket.cpp`) keeps datagrams for which there was no room in a
list. The list is drained when the loop reports WRITE, and also at the head of every `send_to`,
before the new datagram is sent. A datagram that cannot be sent because of an error is dropped, and
so is the new one when that happens at the head of its `send_to`.

## Numbers and attempts

Datagrams are numbered by their calls of `send_to`; the program does not keep the numbers. Every
call of `sendto` is recorded with the list as it is then.

## What both loops keep

That what the kernel accepted and what is in the list are, one after the other, a subsequence of the
calls is kept by both loops; the three properties of the socket are read off from it. A subsequence
and not the calls themselves, since a datagram may be dropped; but nothing is sent twice, and
nothing overtakes.
-/

namespace XrtcServer

open IoMask
open scoped List

variable {Addr : Type}

/-- `UdpPacketData`, with the number of its call of `send_to`. -/
structure UdpPacketData (Addr : Type) where
  data : ByteString
  addr : Addr
  call : ℕ
deriving DecidableEq

/-- What `sendto` does with a datagram. -/
inductive SendResult
  | sent
  | wouldBlock
  | error
deriving DecidableEq

/-- `sock_send_to` of `size` bytes. An empty datagram that was sent counts as an error. -/
def sockSendTo (size : ℕ) : SendResult → ℤ
  | .sent => if size = 0 then -1 else size
  | .wouldBlock => 0
  | .error => -1

/-- A call of `sendto`, with the list at that time. -/
structure SendAttempt (Addr : Type) where
  packet : UdpPacketData Addr
  queue : List (UdpPacketData Addr)
  result : SendResult
deriving DecidableEq

/-- The datagrams that the kernel accepted in these calls. -/
def accepted (attempts : List (SendAttempt Addr)) : List (UdpPacketData Addr) :=
  (attempts.filter fun x ↦ x.result = .sent).map SendAttempt.packet

/-- How the loop over the list ends. -/
inductive DrainEnd
  | empty
  | blocked
  | failed
deriving DecidableEq

/-- The loop over the list, which is the same in `send_data` and in `_add_udp_packet`. It leaves the
rest of the list and the calls of `sendto`; `results` is what these do. -/
def drain (results : ℕ → SendResult) :
    List (UdpPacketData Addr) → ℕ → List (UdpPacketData Addr) × List (SendAttempt Addr) × DrainEnd
  | [], _ => ([], [], .empty)
  | packet :: packets, n =>
    let attempt : SendAttempt Addr := ⟨packet, packet :: packets, results n⟩
    let sent := sockSendTo packet.data.length (results n)
    if sent < 0 then (packets, [attempt], .failed)
    else if sent = 0 then (packet :: packets, [attempt], .blocked)
    else
      let (rest, attempts, how) := drain results packets (n + 1)
      (rest, attempt :: attempts, how)

/-- `return size`: the size of a datagram, in an `int`. -/
def UdpPacketData.returnedSize (packet : UdpPacketData Addr) : ℤ :=
  (packet.data.length : ℤ).bmod (2 ^ 32)

structure AsyncUdpSocket (Addr : Type) where
  udpPacketList : List (UdpPacketData Addr) := []
  socketWatcher : IoWatcher := IoWatcher.start {} ioRead
  /-- The calls of `send_to`. -/
  calls : List (UdpPacketData Addr) := []
  /-- The calls of `sendto`. -/
  attempts : List (SendAttempt Addr) := []

namespace AsyncUdpSocket

variable (s : AsyncUdpSocket Addr) (results : ℕ → SendResult)

/-- `send_data`. -/
def sendData : AsyncUdpSocket Addr :=
  let (rest, attempts, how) := drain results s.udpPacketList 0
  { s with
    udpPacketList := rest
    attempts := s.attempts ++ attempts
    socketWatcher := if how = .empty then s.socketWatcher.stop ioWrite else s.socketWatcher }

/-- The label `SEND_AGAIN`. -/
def sendAgain (packet : UdpPacketData Addr) : AsyncUdpSocket Addr :=
  { s with
    udpPacketList := s.udpPacketList ++ [packet]
    socketWatcher := s.socketWatcher.start ioWrite }

/-- `_add_udp_packet`. -/
def addUdpPacket (packet : UdpPacketData Addr) : AsyncUdpSocket Addr × ℤ :=
  let (rest, attempts, how) := drain results s.udpPacketList 0
  let s := { s with udpPacketList := rest, attempts := s.attempts ++ attempts }
  match how with
  | .failed => (s, -1)
  | .blocked => (s.sendAgain packet, packet.returnedSize)
  | .empty =>
    let result := results attempts.length
    let s := { s with attempts := s.attempts ++ [⟨packet, s.udpPacketList, result⟩] }
    let sent := sockSendTo packet.data.length result
    if sent < 0 then (s, -1)
    else if sent = 0 then (s.sendAgain packet, packet.returnedSize)
    else (s, sent)

/-- `send_to`. -/
def sendTo (data : ByteString) (addr : Addr) : AsyncUdpSocket Addr × ℤ :=
  let packet : UdpPacketData Addr := ⟨data, addr, s.calls.length⟩
  { s with calls := s.calls ++ [packet] }.addUdpPacket results packet

end AsyncUdpSocket

inductive AsyncUdpSocketEvent (Addr : Type)
  | sendTo (data : ByteString) (addr : Addr) (results : ℕ → SendResult)
  | writable (results : ℕ → SendResult)

namespace AsyncUdpSocket

def step (s : AsyncUdpSocket Addr) : AsyncUdpSocketEvent Addr → AsyncUdpSocket Addr
  | .sendTo data addr results => (s.sendTo results data addr).1
  | .writable results => s.sendData results

end AsyncUdpSocket

/-- The call of `send_to` that an event is. -/
def AsyncUdpSocketEvent.call? : AsyncUdpSocketEvent Addr → Option (ByteString × Addr)
  | .sendTo data addr _ => some (data, addr)
  | .writable _ => none

/-- The datagrams of the calls of `send_to`, numbered. -/
def callsOf (es : List (AsyncUdpSocketEvent Addr)) : List (UdpPacketData Addr) :=
  (es.filterMap AsyncUdpSocketEvent.call?).mapIdx fun i x ↦ ⟨x.1, x.2, i⟩

/-- The socket after `es` sends in order: the kernel accepted a subsequence of the calls, and each
at most once; `sendto` was never called with a datagram while an earlier one was in the list; and
the loop waits for WRITE when there is a datagram in the list. -/
structure SendsInOrder (es : List (AsyncUdpSocketEvent Addr)) (s : AsyncUdpSocket Addr) :
    Prop where
  sublist : accepted s.attempts <+ callsOf es
  nodup : (accepted s.attempts).Nodup
  first : ∀ x ∈ s.attempts, ∀ packet ∈ x.queue, ¬packet.call < x.packet.call
  interest : s.udpPacketList ≠ [] → s.socketWatcher.interest.write = true

/-! ### The numbers -/

theorem length_callsOf (es : List (AsyncUdpSocketEvent Addr)) :
    (callsOf es).length = (es.filterMap AsyncUdpSocketEvent.call?).length := List.length_mapIdx

theorem callsOf_sendTo (es : List (AsyncUdpSocketEvent Addr)) (data : ByteString) (addr : Addr)
    (results : ℕ → SendResult) :
    callsOf (es ++ [.sendTo data addr results]) =
      callsOf es ++ [⟨data, addr, (callsOf es).length⟩] := by
  rw [callsOf, List.filterMap_append, length_callsOf]
  exact List.mapIdx_concat

theorem callsOf_writable (es : List (AsyncUdpSocketEvent Addr)) (results : ℕ → SendResult) :
    callsOf (es ++ [.writable results]) = callsOf es := by
  rw [callsOf, List.filterMap_append]
  exact congrArg (List.mapIdx _) (List.append_nil _)

theorem pairwise_callsOf (es : List (AsyncUdpSocketEvent Addr)) :
    (callsOf es).Pairwise fun a b ↦ a.call < b.call := by
  rw [List.pairwise_iff_getElem]
  intro i j hi hj hij
  simpa [callsOf] using hij

theorem call_lt_of_mem_callsOf {es : List (AsyncUdpSocketEvent Addr)} {packet : UdpPacketData Addr}
    (h : packet ∈ callsOf es) : packet.call < (callsOf es).length := by
  obtain ⟨i, hi, rfl⟩ := List.mem_iff_getElem.mp h
  simpa [callsOf] using hi

/-! ### The loop over the list -/

theorem accepted_append (xs ys : List (SendAttempt Addr)) :
    accepted (xs ++ ys) = accepted xs ++ accepted ys := by
  rw [accepted, List.filter_append, List.map_append]
  rfl

theorem accepted_singleton_sublist (x : SendAttempt Addr) : accepted [x] <+ [x.packet] := by
  exact (List.filter_sublist (p := fun x : SendAttempt Addr ↦ x.result = .sent)).map _

/-- What a loop over the list `packets` does: what it sends and what it leaves are a subsequence of
the list, and it only sends the first datagram. -/
structure Drained (packets rest : List (UdpPacketData Addr)) (attempts : List (SendAttempt Addr))
    (how : DrainEnd) : Prop where
  sublist : accepted attempts ++ rest <+ packets
  heads : ∀ x ∈ attempts, ∃ packets', x.queue = x.packet :: packets' ∧ x.queue <:+ packets
  empty : how = .empty → rest = []

theorem wouldBlock_of_sockSendTo {size : ℕ} {result : SendResult} (h : sockSendTo size result = 0) :
    result = .wouldBlock := by
  cases result with
  | wouldBlock => rfl
  | error => cases h
  | sent =>
    rw [sockSendTo] at h
    split at h
    · exact absurd h (by decide)
    · next hsize => exact absurd (Int.natCast_eq_zero.mp h) hsize

theorem accepted_of_sockSendTo {packet : UdpPacketData Addr} {queue : List (UdpPacketData Addr)}
    {result : SendResult} (h : sockSendTo packet.data.length result = 0) :
    accepted [⟨packet, queue, result⟩] = [] := by
  rw [wouldBlock_of_sockSendTo h]
  rfl

theorem drained_drain (results : ℕ → SendResult) (packets : List (UdpPacketData Addr)) (n : ℕ) :
    Drained packets (drain results packets n).1 (drain results packets n).2.1
      (drain results packets n).2.2 := by
  induction packets generalizing n with
  | nil =>
    exact
      { sublist := List.Sublist.refl _
        heads := by
          intro x hx
          exact absurd hx List.not_mem_nil
        empty := fun _ ↦ rfl }
  | cons packet packets ih =>
    -- the first call, for all three outcomes
    have hhead : ∀ x ∈ [(⟨packet, packet :: packets, results n⟩ : SendAttempt Addr)],
        ∃ packets', x.queue = x.packet :: packets' ∧ x.queue <:+ packet :: packets := by
      intro x hx
      rw [List.mem_singleton.mp hx]
      exact ⟨packets, rfl, List.suffix_refl _⟩
    rw [drain]
    split
    · -- an error: the datagram is dropped
      exact
        { sublist := (accepted_singleton_sublist _).append (List.Sublist.refl packets)
          heads := hhead
          empty := by
            intro h
            cases h }
    · split
      · next hzero =>
        exact
          { sublist := by
              rw [accepted_of_sockSendTo hzero]
              exact List.Sublist.refl _
            heads := hhead
            empty := by
              intro h
              cases h }
      · obtain ⟨hsublist, hheads, hempty⟩ := ih (n + 1)
        refine ⟨?_, ?_, hempty⟩
        · have h := (accepted_singleton_sublist
            (⟨packet, packet :: packets, results n⟩ : SendAttempt Addr)).append hsublist
          rwa [← List.append_assoc, ← accepted_append] at h
        · intro x hx
          rcases List.mem_cons.mp hx with hx | hx
          · exact hhead x (List.mem_singleton.mpr hx)
          · obtain ⟨packets', hqueue, hsuffix⟩ := hheads x hx
            exact ⟨packets', hqueue, hsuffix.trans (List.suffix_cons packet packets)⟩

/-! ### Runs -/

/-- What every event keeps. The first property is the one that both loops need: what was accepted,
and then what is in the list. -/
structure SocketInv (calls : List (UdpPacketData Addr)) (s : AsyncUdpSocket Addr) : Prop where
  calls_eq : s.calls = calls
  sublist : accepted s.attempts ++ s.udpPacketList <+ calls
  first : ∀ x ∈ s.attempts, ∀ packet ∈ x.queue, x.packet.call ≤ packet.call
  watched : s.socketWatcher.interest.read = true
  interest : s.udpPacketList ≠ [] → s.socketWatcher.interest.write = true

namespace SocketInv

variable {calls : List (UdpPacketData Addr)} {s : AsyncUdpSocket Addr}

theorem init : SocketInv [] ({} : AsyncUdpSocket Addr) where
  calls_eq := rfl
  sublist := List.Sublist.refl _
  first := by
    intro x hx
    exact absurd hx List.not_mem_nil
  watched := rfl
  interest := fun h ↦ absurd rfl h

theorem active (h : SocketInv calls s) : s.socketWatcher.active = true := by
  apply IoWatcher.active_of_interest
  intro hnone
  have hread := h.watched
  rw [hnone] at hread
  exact absurd hread (by decide)

/-- In a loop over a part of the calls, the datagram that is sent is the earliest of the list. -/
theorem first_of_drained {packets rest : List (UdpPacketData Addr)}
    {attempts : List (SendAttempt Addr)} {how : DrainEnd} (h : Drained packets rest attempts how)
    (hsorted : packets.Pairwise fun a b ↦ a.call < b.call) :
    ∀ x ∈ attempts, ∀ packet ∈ x.queue, x.packet.call ≤ packet.call := by
  intro x hx packet hpacket
  obtain ⟨packets', hqueue, hsuffix⟩ := h.heads x hx
  have hqueued : x.queue.Pairwise fun a b ↦ a.call < b.call := hsorted.sublist hsuffix.sublist
  rw [hqueue] at hqueued hpacket
  rcases List.mem_cons.mp hpacket with rfl | hlater
  · exact le_rfl
  · exact (List.rel_of_pairwise_cons hqueued hlater).le

theorem drained (h : SocketInv calls s) (hsorted : calls.Pairwise fun a b ↦ a.call < b.call)
    {rest : List (UdpPacketData Addr)} {attempts : List (SendAttempt Addr)} {how : DrainEnd}
    (hdrained : Drained s.udpPacketList rest attempts how) :
    accepted (s.attempts ++ attempts) ++ rest <+ calls ∧
      ∀ x ∈ s.attempts ++ attempts, ∀ packet ∈ x.queue, x.packet.call ≤ packet.call := by
  constructor
  · rw [accepted_append, List.append_assoc]
    exact ((List.Sublist.refl _).append hdrained.sublist).trans h.sublist
  · intro x hx
    rcases List.mem_append.mp hx with hx | hx
    · exact h.first x hx
    · refine first_of_drained hdrained ?_ x hx
      exact hsorted.sublist ((List.sublist_append_right _ _).trans h.sublist)

/-- The interest is kept as long as no more is in the list than before. -/
theorem interest_of_drained (h : SocketInv calls s) {rest : List (UdpPacketData Addr)}
    {attempts : List (SendAttempt Addr)} {how : DrainEnd}
    (hdrained : Drained s.udpPacketList rest attempts how) (hrest : rest ≠ []) :
    s.socketWatcher.interest.write = true := by
  apply h.interest
  intro hnil
  have hsublist := (List.sublist_append_right (accepted attempts) rest).trans hdrained.sublist
  rw [hnil] at hsublist
  exact hrest (List.sublist_nil.mp hsublist)

theorem sendData (h : SocketInv calls s) (hsorted : calls.Pairwise fun a b ↦ a.call < b.call)
    (results : ℕ → SendResult) : SocketInv calls (s.sendData results) := by
  have hdrained := drained_drain results s.udpPacketList 0
  obtain ⟨hsublist, hfirst⟩ := h.drained hsorted hdrained
  have hinterest := h.interest_of_drained hdrained
  rw [AsyncUdpSocket.sendData]
  generalize drain results s.udpPacketList 0 = r at *
  obtain ⟨rest, attempts, how⟩ := r
  have hstop := s.socketWatcher.interest_stop ioWrite h.active
  refine ⟨h.calls_eq, hsublist, hfirst, ?_, ?_⟩
  · -- stopping WRITE leaves READ
    show (if how = .empty then s.socketWatcher.stop ioWrite else _).interest.read = true
    split
    · rw [hstop, IoMask.diff, h.watched]
      rfl
    · exact h.watched
  · intro hrest
    show (if how = .empty then s.socketWatcher.stop ioWrite else _).interest.write = true
    rw [if_neg fun hempty ↦ hrest (hdrained.empty hempty)]
    exact hinterest hrest

/-- The label `SEND_AGAIN`: the datagram of the last call goes to the end of the list. -/
theorem sendAgain {packet : UdpPacketData Addr} (hcalls : s.calls = calls ++ [packet])
    (hsublist : accepted s.attempts ++ s.udpPacketList <+ calls)
    (hfirst : ∀ x ∈ s.attempts, ∀ packet ∈ x.queue, x.packet.call ≤ packet.call)
    (hwatched : s.socketWatcher.interest.read = true) :
    SocketInv (calls ++ [packet]) (s.sendAgain packet) where
  calls_eq := hcalls
  sublist := by
    rw [AsyncUdpSocket.sendAgain, ← List.append_assoc]
    exact hsublist.append (List.Sublist.refl _)
  first := hfirst
  watched := by
    show (s.socketWatcher.start ioWrite).interest.read = true
    rw [IoWatcher.interest_start, IoMask.union, hwatched]
    rfl
  interest := by
    intro _
    show (s.socketWatcher.start ioWrite).interest.write = true
    rw [IoWatcher.interest_start, IoMask.union]
    exact Bool.or_true _

/-- `_add_udp_packet`, at the three ends of its loop. -/
theorem addUdpPacket (h : SocketInv calls s) (hsorted : calls.Pairwise fun a b ↦ a.call < b.call)
    (results : ℕ → SendResult) (packet : UdpPacketData Addr) :
    SocketInv (calls ++ [packet])
      ({ s with calls := s.calls ++ [packet] }.addUdpPacket results packet).1 := by
  have hdrained := drained_drain results s.udpPacketList 0
  obtain ⟨hsublist, hfirst⟩ := h.drained hsorted hdrained
  have hinterest := h.interest_of_drained hdrained
  have hcalls : s.calls ++ [packet] = calls ++ [packet] := congrArg (· ++ [packet]) h.calls_eq
  rw [AsyncUdpSocket.addUdpPacket]
  generalize drain results s.udpPacketList 0 = r at *
  obtain ⟨rest, attempts, how⟩ := r
  cases how with
  | failed =>
    -- the new datagram is dropped too
    refine ⟨hcalls, hsublist.trans (List.sublist_append_left _ _), hfirst, h.watched, hinterest⟩
  | blocked => exact sendAgain hcalls hsublist hfirst h.watched
  | empty =>
    obtain rfl : rest = [] := hdrained.empty rfl
    have hfirst' : ∀ x ∈ s.attempts ++ attempts ++ [⟨packet, [], results attempts.length⟩],
        ∀ packet ∈ x.queue, x.packet.call ≤ packet.call := by
      intro x hx
      rcases List.mem_append.mp hx with hx | hx
      · exact hfirst x hx
      · rw [List.mem_singleton.mp hx]
        intro packet hpacket
        exact absurd hpacket List.not_mem_nil
    have hsublist' : accepted (s.attempts ++ attempts ++
        [⟨packet, [], results attempts.length⟩]) ++ [] <+ calls ++ [packet] := by
      rw [List.append_nil, accepted_append]
      rw [List.append_nil] at hsublist
      exact hsublist.append (accepted_singleton_sublist _)
    show SocketInv _ (Prod.fst (if _ then _ else _))
    split
    · exact ⟨hcalls, hsublist', hfirst', h.watched, fun hnil ↦ absurd rfl hnil⟩
    · split
      · next hzero =>
        refine sendAgain hcalls ?_ hfirst' h.watched
        show accepted (s.attempts ++ attempts ++ _) ++ [] <+ calls
        rw [accepted_append, accepted_of_sockSendTo hzero, List.append_nil]
        exact hsublist
      · exact ⟨hcalls, hsublist', hfirst', h.watched, fun hnil ↦ absurd rfl hnil⟩

theorem sendsInOrder {es : List (AsyncUdpSocketEvent Addr)} (h : SocketInv (callsOf es) s) :
    SendsInOrder es s where
  sublist := (List.sublist_append_left _ _).trans h.sublist
  nodup := by
    have hsublist := (List.sublist_append_left _ _).trans h.sublist
    refine (List.Pairwise.imp ?_ (pairwise_callsOf es)).sublist hsublist
    intro a b hab heq
    exact absurd (congrArg UdpPacketData.call heq) hab.ne
  first := fun x hx packet hpacket ↦ (h.first x hx packet hpacket).not_gt
  interest := h.interest

end SocketInv

namespace AsyncUdpSocket

theorem socketInv_exec (es : List (AsyncUdpSocketEvent Addr)) :
    SocketInv (callsOf es) (EventRun.exec step ({} : AsyncUdpSocket Addr) es) := by
  refine EventRun.exec_induction (J := fun es s ↦ SocketInv (callsOf es) s) SocketInv.init ?_ es
  intro es e ih
  cases e with
  | sendTo data addr results =>
    have hnumber := congrArg List.length ih.calls_eq
    rw [callsOf_sendTo, ← hnumber]
    exact ih.addUdpPacket (pairwise_callsOf es) results _
  | writable results =>
    rw [callsOf_writable]
    exact ih.sendData (pairwise_callsOf es) results

/-- Whatever the calls of `send_to`, the WRITE events and the outcomes of `sendto`, the socket
sends in order. -/
theorem sendsInOrder_exec (es : List (AsyncUdpSocketEvent Addr)) :
    SendsInOrder es (EventRun.exec step ({} : AsyncUdpSocket Addr) es) :=
  (socketInv_exec es).sendsInOrder

end AsyncUdpSocket

end XrtcServer
