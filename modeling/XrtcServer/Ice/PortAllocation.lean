import Mathlib.Data.List.Nodup
import Mathlib.Data.List.Perm.Subperm
import XrtcServer.Ice.PairPriority
import XrtcServer.Pc.SdpText

/-!
# Ports for local candidates

A channel gathers one candidate for each network interface: it makes a `UDPPort`, and this makes a
socket and binds it to the first port of the configured range that is free (`ice/udp_port.cpp`,
`ice/port_allocator.cpp`, `base/socket.cpp`). What is free depends on all sockets of the machine, so
the subject here is the whole process: all channels of all streams of all workers, which come and
go, and the addresses that their sockets are bound to.

## Sockets stay

A socket is never closed: neither `~UDPPort` nor `~AsyncUdpSocket` does it. So an address is given
out once in the life of the process, to one candidate at most (`distinct_run`), and a range of ports
is used up after as many candidates as it has ports, however many of their streams are still there
(`exhausted_run`).

## What the system may answer

The answers of the system are arguments: whether a socket can be made, which addresses are busy
though nobody in the process has them, and which port is taken when none is asked for. One thing is
fixed, that an address has one socket at a time.
-/

namespace XrtcServer

open EventRun ByteString

/-! ## Sockets -/

/-- What the calls of the system answer while a socket is made. -/
structure SocketAnswers where
  socket : Bool := true
  setNonblock : Bool := true
  getAddress : Bool := true
  /-- The addresses that `bind` refuses because of others. -/
  busy : SocketAddress → Bool := fun _ ↦ false
  /-- The port that `bind` takes for the port 0. -/
  ephemeral : ℕ := 0
  /-- What is in `sin_port`, to which nothing was assigned. -/
  sinPort : ℕ := 0

/-- The sockets of the process, by the addresses that they are bound to. -/
abbrev BoundSockets := List SocketAddress

/-- `bind`: the address that the socket gets. -/
def SocketAnswers.bind (x : SocketAnswers) (bound : BoundSockets) (addr : SocketAddress) :
    Option SocketAddress :=
  let addr := if addr.port = 0 then { addr with port := x.ephemeral } else addr
  if addr ∈ bound ∨ x.busy addr = true then none else some addr

/-- `sock_bind`. -/
def sockBind (x : SocketAnswers) (bound : BoundSockets) (ip : IPAddress) (minPort maxPort : ℕ) :
    Option SocketAddress :=
  if minPort = 0 ∧ maxPort = 0 then x.bind bound ⟨ip, x.sinPort⟩
  else
    (List.range' minPort (maxPort + 1 - minPort)).findSome? fun port ↦
      x.bind bound ⟨ip, port % 2 ^ 16⟩

/-! ## Candidates -/

/-- The functions of the library that make up a candidate. -/
structure CandidateEnv where
  /-- `rtc::IPAddressPrecedence`. -/
  ipAddressPrecedence : IPAddress → ℕ
  hostAsURIString : IPAddress → ByteString
  computeCrc32 : ByteString → UInt32

def computeFoundation (env : CandidateEnv) (type protocol relayProtocol : ByteString)
    (base : SocketAddress) : ByteString :=
  decimal (env.computeCrc32
    (type ++ env.hostAsURIString base.ip ++ protocol ++ relayProtocol)).toNat

/-- The candidate that `UDPPort::create_ice_candidate` fills in. -/
def hostCandidate (env : CandidateEnv) (component : IceCandidateComponent)
    (iceParams : IceParameters) (localAddr : SocketAddress) : Candidate :=
  let c := createIceCandidate env.ipAddressPrecedence component iceParams localAddr
  { c with foundation := computeFoundation env c.type c.protocol [] c.address }

/-- `PortAllocator`. -/
structure PortAllocator where
  minPort : ℕ := 0
  maxPort : ℕ := 0

/-- `set_port_range`. -/
def PortAllocator.setPortRange (a : PortAllocator) (minPort maxPort : ℤ) : PortAllocator where
  minPort := if 0 < minPort then minPort.toNat else a.minPort
  maxPort := if 0 < maxPort then maxPort.toNat else a.maxPort

/-! ## Gathering -/

/-- The fields of an `IceTransportChannel` that gathering uses. -/
structure GatheringChannel where
  component : IceCandidateComponent
  iceParams : IceParameters := {}
  localCandidates : List Candidate := []

/-- The process: its sockets, the channels that exist, and the candidates ever made. -/
structure Gathering where
  bound : BoundSockets := []
  channels : ℕ → Option GatheringChannel := fun _ ↦ none
  gathered : List Candidate := []

namespace Gathering

variable (env : CandidateEnv) (allocator : PortAllocator) (networks : List IPAddress)
  (s : Gathering) (i : ℕ)

def setChannel (ch : Option GatheringChannel) : Gathering :=
  { s with channels := Function.update s.channels i ch }

/-- `UDPPort::create_ice_candidate` of the channel `ch` on an interface. -/
def createIceCandidate (ch : GatheringChannel) (x : SocketAnswers) (ip : IPAddress) :
    BoundSockets × Option Candidate :=
  if !x.socket || !x.setNonblock then (s.bound, none)
  else
    match sockBind x s.bound ip allocator.minPort allocator.maxPort with
    | none => (s.bound, none)
    | some addr =>
      (s.bound ++ [addr],
        if x.getAddress then some (hostCandidate env ch.component ch.iceParams addr) else none)

/-- The body of the loop of `gathering_candidate`, for the interface `network`. -/
def gatherOn (ch : GatheringChannel) (answers : ℕ → SocketAnswers) (s : Gathering)
    (network : IPAddress × ℕ) : Gathering :=
  let (bound, c) := s.createIceCandidate env allocator ch (answers network.2) network.1
  { s with
    bound
    gathered := s.gathered ++ c.toList
    channels := Function.update s.channels i ((s.channels i).map fun ch ↦
      { ch with localCandidates := ch.localCandidates ++ c.toList }) }

/-- `gathering_candidate`; the answers are those for the interfaces in turn. -/
def gatheringCandidate (answers : ℕ → SocketAnswers) : Gathering :=
  match s.channels i with
  | none => s
  | some ch =>
    if ch.iceParams.iceUfrag = [] ∨ ch.iceParams.icePwd = [] then s
    else networks.zipIdx.foldl (gatherOn env allocator i ch answers) s

end Gathering

inductive GatheringEvent
  | create (i : ℕ) (component : IceCandidateComponent)
  | setIceParams (i : ℕ) (iceParams : IceParameters)
  | gather (i : ℕ) (answers : ℕ → SocketAnswers)
  /-- `~IceTransportChannel`, which deletes the ports. -/
  | destroy (i : ℕ)

namespace Gathering

variable (env : CandidateEnv) (allocator : PortAllocator) (networks : List IPAddress)

def step (s : Gathering) : GatheringEvent → Gathering
  | .create i component =>
    if (s.channels i).isNone then s.setChannel i (some { component }) else s
  | .setIceParams i iceParams =>
    s.setChannel i ((s.channels i).map fun ch ↦ { ch with iceParams })
  | .gather i answers => s.gatheringCandidate env allocator networks i answers
  | .destroy i => s.setChannel i none

/-- The state after a run of a process with the configured range of ports. -/
def run (minPort maxPort : ℤ) (es : List GatheringEvent) : Gathering :=
  exec (step env (PortAllocator.setPortRange {} minPort maxPort) networks) {} es

end Gathering

/-! ## What a socket is bound to

Two invariants, one about the sockets and one about the candidates of the channels that exist. The
first is not touched when a channel is destroyed, which is the point. -/

section
variable {x : SocketAnswers} {bound : BoundSockets} {ip : IPAddress} {minPort maxPort : ℕ}
  {addr addr' : SocketAddress}

theorem SocketAnswers.bind_eq_some (h : x.bind bound addr = some addr') :
    addr' ∉ bound ∧ addr'.ip = addr.ip ∧ (addr.port ≠ 0 → addr' = addr) := by
  rw [SocketAnswers.bind] at h
  split_ifs at h with hport hfree hfree
  · obtain rfl := Option.some.inj h
    exact ⟨fun hmem ↦ hfree (.inl hmem), rfl, fun hne ↦ absurd hport hne⟩
  · obtain rfl := Option.some.inj h
    exact ⟨fun hmem ↦ hfree (.inl hmem), rfl, fun _ ↦ rfl⟩

theorem sockBind_eq_some (h : sockBind x bound ip minPort maxPort = some addr) :
    addr ∉ bound ∧ addr.ip = ip ∧
      (0 < minPort → maxPort < 2 ^ 16 → minPort ≤ addr.port ∧ addr.port ≤ maxPort) := by
  rw [sockBind] at h
  split_ifs at h with hnone
  · obtain ⟨hnew, hip, -⟩ := SocketAnswers.bind_eq_some h
    exact ⟨hnew, hip, fun hpos ↦ absurd hnone.1 (Nat.ne_of_gt hpos)⟩
  · obtain ⟨port, hport, hbind⟩ := List.exists_of_findSome?_eq_some h
    obtain ⟨hnew, hip, haddr⟩ := SocketAnswers.bind_eq_some hbind
    refine ⟨hnew, hip, fun hpos hmax ↦ ?_⟩
    obtain ⟨hlow, hhigh⟩ := List.mem_range'_1.mp hport
    -- the port is not cut off
    have hmod : port % 2 ^ 16 = port := Nat.mod_eq_of_lt (by omega)
    rw [hmod] at haddr
    rw [haddr (by omega : port ≠ 0)]
    exact ⟨hlow, by dsimp only; omega⟩

end

namespace Gathering

variable {env : CandidateEnv} {allocator : PortAllocator} {networks : List IPAddress}
  {s : Gathering} {i j : ℕ} {ch : GatheringChannel}

/-- The sockets, and the candidates that were made from some of them. -/
structure SocketsInv (allocator : PortAllocator) (s : Gathering) : Prop where
  nodup : s.bound.Nodup
  gathered : (s.gathered.map (·.address)).Sublist s.bound
  port : ∀ c ∈ s.gathered, c.port = c.address.port
  inRange : 0 < allocator.minPort → allocator.maxPort < 2 ^ 16 →
    ∀ a ∈ s.bound, allocator.minPort ≤ a.port ∧ a.port ≤ allocator.maxPort

/-- The candidates of the channels that exist. -/
structure ChannelsInv (s : Gathering) : Prop where
  gathered : ∀ i ch, s.channels i = some ch → ∀ c ∈ ch.localCandidates, c ∈ s.gathered
  nodup : ∀ i ch, s.channels i = some ch → (ch.localCandidates.map (·.address)).Nodup
  apart : ∀ i j ch ch', i ≠ j → s.channels i = some ch → s.channels j = some ch' →
    ∀ c ∈ ch.localCandidates, ∀ d ∈ ch'.localCandidates, c.address ≠ d.address

/-- What one interface brings: nothing, or a new socket, and perhaps a candidate. -/
inductive CreateOutcome (s : Gathering) (allocator : PortAllocator) :
    BoundSockets × Option Candidate → Prop
  | failed : CreateOutcome s allocator (s.bound, none)
  | made (addr : SocketAddress) (c : Option Candidate) (hnew : addr ∉ s.bound)
      (hrange : 0 < allocator.minPort → allocator.maxPort < 2 ^ 16 →
        allocator.minPort ≤ addr.port ∧ addr.port ≤ allocator.maxPort)
      (hc : ∀ c' ∈ c, c'.address = addr ∧ c'.port = addr.port) :
      CreateOutcome s allocator (s.bound ++ [addr], c)

theorem createOutcome (env : CandidateEnv) (allocator : PortAllocator) (s : Gathering)
    (ch : GatheringChannel) (x : SocketAnswers) (ip : IPAddress) :
    CreateOutcome s allocator (s.createIceCandidate env allocator ch x ip) := by
  rw [createIceCandidate]
  split
  · exact .failed
  split
  · exact .failed
  · next addr hbind =>
    obtain ⟨hnew, -, hrange⟩ := sockBind_eq_some hbind
    refine .made addr _ hnew hrange ?_
    split_ifs
    · intro c' hc'
      obtain rfl := Option.mem_some_iff.mp hc'
      exact ⟨rfl, rfl⟩
    · intro c' hc'
      cases hc'

theorem SocketsInv.gatherOn (h : SocketsInv allocator s) (answers : ℕ → SocketAnswers)
    (network : IPAddress × ℕ) :
    SocketsInv allocator (s.gatherOn env allocator i ch answers network) := by
  rw [Gathering.gatherOn]
  have houtcome := createOutcome env allocator s ch (answers network.2) network.1
  generalize s.createIceCandidate env allocator ch (answers network.2) network.1 = r at houtcome ⊢
  cases houtcome with
  | failed =>
    dsimp only
    rw [Option.toList_none, List.append_nil]
    exact ⟨h.nodup, h.gathered, h.port, h.inRange⟩
  | made addr c hnew hrange hc =>
    constructor
    · exact List.nodup_append.mpr ⟨h.nodup, List.nodup_singleton addr, fun a ha b hb heq ↦
        hnew (List.mem_singleton.mp hb ▸ heq ▸ ha)⟩
    · dsimp only
      rw [List.map_append]
      refine h.gathered.append ?_
      rcases c with _ | c
      · exact List.nil_sublist _
      · rw [Option.toList_some, List.map_singleton, (hc c rfl).1]
    · intro c' hc'
      rcases List.mem_append.mp hc' with hc' | hc'
      · exact h.port c' hc'
      · obtain ⟨haddr, hport⟩ := hc c' (Option.mem_toList.mp hc')
        rw [hport, haddr]
    · intro hmin hmax a ha
      rcases List.mem_append.mp ha with ha | ha
      · exact h.inRange hmin hmax a ha
      · rw [List.mem_singleton.mp ha]
        exact hrange hmin hmax

theorem ChannelsInv.setChannel (h : s.ChannelsInv) {ch : Option GatheringChannel}
    (hch : ∀ ch', ch = some ch' → ch'.localCandidates = [] ∨
      ∃ old, s.channels i = some old ∧ ch'.localCandidates = old.localCandidates) :
    (s.setChannel i ch).ChannelsInv := by
  have hlookup (j : ℕ) (ch' : GatheringChannel) (hj : (s.setChannel i ch).channels j = some ch') :
      ch'.localCandidates = [] ∨
        ∃ old, s.channels j = some old ∧ ch'.localCandidates = old.localCandidates := by
    rw [Gathering.setChannel] at hj
    dsimp only at hj
    by_cases hji : j = i
    · rw [hji] at hj ⊢
      rw [Function.update_self] at hj
      exact hch ch' hj
    · rw [Function.update_of_ne hji] at hj
      exact .inr ⟨ch', hj, rfl⟩
  constructor
  · intro j ch' hj c hc
    rcases hlookup j ch' hj with hnil | ⟨old, hold, heq⟩
    · rw [hnil] at hc
      cases hc
    · exact h.gathered j old hold c (heq ▸ hc)
  · intro j ch' hj
    rcases hlookup j ch' hj with hnil | ⟨old, hold, heq⟩
    · rw [hnil]
      exact List.nodup_nil
    · rw [heq]
      exact h.nodup j old hold
  · intro j k chj chk hjk hj hk c hc d hd
    rcases hlookup j chj hj with hnil | ⟨oldj, holdj, heqj⟩
    · rw [hnil] at hc
      cases hc
    rcases hlookup k chk hk with hnil | ⟨oldk, holdk, heqk⟩
    · rw [hnil] at hd
      cases hd
    exact h.apart j k oldj oldk hjk holdj holdk c (heqj ▸ hc) d (heqk ▸ hd)

/-- A new candidate has an address that no candidate had before. -/
theorem ChannelsInv.gatherOn (h : s.ChannelsInv) (hsockets : SocketsInv allocator s)
    (answers : ℕ → SocketAnswers) (network : IPAddress × ℕ) :
    (s.gatherOn env allocator i ch answers network).ChannelsInv := by
  have houtcome := createOutcome env allocator s ch (answers network.2) network.1
  rw [Gathering.gatherOn]
  generalize s.createIceCandidate env allocator ch (answers network.2) network.1 = r at houtcome ⊢
  obtain ⟨bound, c⟩ := r
  have hfresh : ∀ c' ∈ c, ∀ d ∈ s.gathered, c'.address ≠ d.address := by
    intro c' hc' d hd heq
    cases houtcome with
    | failed => cases hc'
    | made addr c hnew hrange hc =>
      obtain ⟨haddr, -⟩ := hc c' hc'
      refine hnew ?_
      rw [← haddr, heq]
      exact hsockets.gathered.mem (List.mem_map_of_mem hd)
  dsimp only
  -- the candidates of a channel are the old ones, and for this channel the new one
  have hlookup (j : ℕ) (ch' : GatheringChannel)
      (hj : Function.update s.channels i ((s.channels i).map fun ch ↦
        { ch with localCandidates := ch.localCandidates ++ c.toList }) j = some ch') :
      ∃ old, s.channels j = some old ∧
        ch'.localCandidates = old.localCandidates ++ if j = i then c.toList else [] := by
    by_cases hji : j = i
    · rw [hji] at hj ⊢
      rw [Function.update_self] at hj
      obtain ⟨old, hold, rfl⟩ := Option.map_eq_some_iff.mp hj
      exact ⟨old, hold, by rw [if_pos rfl]⟩
    · rw [Function.update_of_ne hji] at hj
      exact ⟨ch', hj, by rw [if_neg hji, List.append_nil]⟩
  have hmem {j : ℕ} {old : GatheringChannel} {d : Candidate}
      (hd : d ∈ old.localCandidates ++ if j = i then c.toList else []) :
      d ∈ old.localCandidates ∨ j = i ∧ d ∈ c := by
    rcases List.mem_append.mp hd with hd | hd
    · exact .inl hd
    · split_ifs at hd with hji
      · exact .inr ⟨hji, Option.mem_toList.mp hd⟩
      · cases hd
  constructor
  · intro j ch' hj d hd
    obtain ⟨old, hold, heq⟩ := hlookup j ch' hj
    rcases hmem (heq ▸ hd) with hd | ⟨-, hd⟩
    · exact List.mem_append_left _ (h.gathered j old hold d hd)
    · exact List.mem_append_right _ (Option.mem_toList.mpr hd)
  · intro j ch' hj
    obtain ⟨old, hold, heq⟩ := hlookup j ch' hj
    rw [heq, List.map_append]
    refine List.nodup_append.mpr ⟨h.nodup j old hold, ?_, ?_⟩
    · split_ifs
      · rcases c with _ | c
        · exact List.nodup_nil
        · exact List.nodup_singleton _
      · exact List.nodup_nil
    · rintro a ha b hb rfl
      obtain ⟨d, hd, rfl⟩ := List.mem_map.mp ha
      obtain ⟨c', hc', heq'⟩ := List.mem_map.mp hb
      split_ifs at hc'
      · exact hfresh c' (Option.mem_toList.mp hc') d (h.gathered j old hold d hd) heq'
      · cases hc'
  · intro j k chj chk hjk hj hk d hd d' hd'
    obtain ⟨oldj, holdj, heqj⟩ := hlookup j chj hj
    obtain ⟨oldk, holdk, heqk⟩ := hlookup k chk hk
    rcases hmem (heqj ▸ hd) with hd | ⟨hji, hd⟩
    · rcases hmem (heqk ▸ hd') with hd' | ⟨-, hd'⟩
      · exact h.apart j k oldj oldk hjk holdj holdk d hd d' hd'
      · exact (hfresh d' hd' d (h.gathered j oldj holdj d hd)).symm
    · rcases hmem (heqk ▸ hd') with hd' | ⟨hki, -⟩
      · exact hfresh d hd d' (h.gathered k oldk holdk d' hd')
      · exact absurd (hji.trans hki.symm) hjk

/-! ## Runs

Both theorems are read off one invariant, about all candidates that were ever made: their addresses
are among the sockets, each once, and in the range. -/

def GatheringInv (allocator : PortAllocator) (s : Gathering) : Prop :=
  SocketsInv allocator s ∧ s.ChannelsInv

theorem GatheringInv.gatherOn (h : GatheringInv allocator s) (answers : ℕ → SocketAnswers)
    (network : IPAddress × ℕ) :
    GatheringInv allocator (s.gatherOn env allocator i ch answers network) :=
  ⟨h.1.gatherOn answers network, h.2.gatherOn h.1 answers network⟩

theorem GatheringInv.gatherAll (h : GatheringInv allocator s) (answers : ℕ → SocketAnswers)
    (interfaces : List (IPAddress × ℕ)) :
    GatheringInv allocator
      (interfaces.foldl (Gathering.gatherOn env allocator i ch answers) s) := by
  induction interfaces generalizing s with
  | nil => exact h
  | cons network interfaces ih => exact ih (h.gatherOn answers network)

theorem GatheringInv.setChannel (h : GatheringInv allocator s) {ch : Option GatheringChannel}
    (hch : ∀ ch', ch = some ch' → ch'.localCandidates = [] ∨
      ∃ old, s.channels i = some old ∧ ch'.localCandidates = old.localCandidates) :
    GatheringInv allocator (s.setChannel i ch) :=
  ⟨⟨h.1.nodup, h.1.gathered, h.1.port, h.1.inRange⟩, h.2.setChannel hch⟩

theorem GatheringInv.step (h : GatheringInv allocator s) (e : GatheringEvent) :
    GatheringInv allocator (s.step env allocator networks e) := by
  cases e with
  | create i component =>
    rw [Gathering.step]
    split_ifs
    · exact h.setChannel fun ch' hch' ↦ .inl (by rw [← Option.some.inj hch'])
    · exact h
  | setIceParams i iceParams =>
    refine h.setChannel fun ch' hch' ↦ .inr ?_
    obtain ⟨old, hold, rfl⟩ := Option.map_eq_some_iff.mp hch'
    exact ⟨old, hold, rfl⟩
  | gather i answers =>
    rw [Gathering.step, gatheringCandidate]
    split
    · exact h
    · next ch _ =>
      split_ifs
      · exact h
      · exact h.gatherAll answers networks.zipIdx
  | destroy i => exact h.setChannel fun ch' hch' ↦ by cases hch'

theorem gatheringInv_empty (allocator : PortAllocator) : GatheringInv allocator {} := by
  refine ⟨⟨List.nodup_nil, List.nil_sublist _, by simp, by simp⟩, ?_, ?_, ?_⟩
  · intro i ch hi
    cases hi
  · intro i ch hi
    cases hi
  · intro i j ch ch' _ hi
    cases hi

theorem gatheringInv_run (env : CandidateEnv) (networks : List IPAddress) (minPort maxPort : ℤ)
    (es : List GatheringEvent) :
    GatheringInv (PortAllocator.setPortRange {} minPort maxPort)
      (run env networks minPort maxPort es) :=
  exec_invariant (I := GatheringInv (PortAllocator.setPortRange {} minPort maxPort))
    (fun _ e h ↦ h.step e) (gatheringInv_empty _) es

/-- No address is given out twice. -/
structure Distinct (s : Gathering) : Prop where
  /-- Of all candidates ever made, no two have one address. -/
  gathered : (s.gathered.map (·.address)).Nodup
  /-- Each was made for a socket that is bound to its address, and names its port. -/
  bound : ∀ c ∈ s.gathered, c.address ∈ s.bound ∧ c.port = c.address.port
  /-- The channels that exist have candidates of their own. -/
  channels : ∀ i ch, s.channels i = some ch → ∀ c ∈ ch.localCandidates, c ∈ s.gathered
  apart : ∀ i j ch ch', i ≠ j → s.channels i = some ch → s.channels j = some ch' →
    ∀ c ∈ ch.localCandidates, ∀ d ∈ ch'.localCandidates, c.address ≠ d.address

/-- **Every candidate has an address of its own**, whatever the system answers. -/
theorem distinct_run (env : CandidateEnv) (networks : List IPAddress) (minPort maxPort : ℤ)
    (es : List GatheringEvent) : (run env networks minPort maxPort es).Distinct := by
  obtain ⟨hsockets, hchannels⟩ := gatheringInv_run env networks minPort maxPort es
  refine ⟨hsockets.gathered.nodup hsockets.nodup, fun c hc ↦ ?_, hchannels.gathered,
    hchannels.apart⟩
  exact ⟨hsockets.gathered.mem (List.mem_map_of_mem hc), hsockets.port c hc⟩

theorem length_le_of_inRange {addrs : List SocketAddress} (hnodup : addrs.Nodup) {ip : IPAddress}
    (hip : ∀ a ∈ addrs, a.ip = ip) {low high : ℕ}
    (hrange : ∀ a ∈ addrs, low ≤ a.port ∧ a.port ≤ high) : addrs.length ≤ high + 1 - low := by
  have hports : (addrs.map (·.port)).Nodup := by
    refine hnodup.map_on fun a ha b hb hab ↦ ?_
    have hhost := (hip a ha).trans (hip b hb).symm
    cases a
    cases b
    exact congrArg₂ SocketAddress.mk hhost hab
  have hsubset : addrs.map (·.port) ⊆ List.range' low (high + 1 - low) := by
    intro p hp
    obtain ⟨a, ha, rfl⟩ := List.mem_map.mp hp
    obtain ⟨hlow, hhigh⟩ := hrange a ha
    exact List.mem_range'_1.mpr ⟨hlow, by omega⟩
  have hlength := (List.subperm_of_subset hports hsubset).length_le
  rwa [List.length_map, List.length_range'] at hlength

/-- **The range of ports is used up.** On each interface the process makes no more candidates in
its life than the range has ports; that their channels were destroyed does not count. -/
theorem exhausted_run (env : CandidateEnv) (networks : List IPAddress) {minPort maxPort : ℤ}
    (hmin : 0 < minPort) (hmax : maxPort < 2 ^ 16) (es : List GatheringEvent) :
    (∀ c ∈ (run env networks minPort maxPort es).gathered,
        minPort ≤ c.port ∧ (c.port : ℤ) ≤ maxPort) ∧
      ∀ ip, (((run env networks minPort maxPort es).gathered.filter
        fun c ↦ c.address.ip = ip).length : ℤ) ≤ max 0 (maxPort + 1 - minPort) := by
  obtain ⟨hsockets, -⟩ := gatheringInv_run env networks minPort maxPort es
  have hrange := hsockets.inRange (by simp [PortAllocator.setPortRange, hmin])
    (by simp only [PortAllocator.setPortRange]; split_ifs <;> omega)
  have hlow : ((PortAllocator.setPortRange {} minPort maxPort).minPort : ℤ) = minPort := by
    simp [PortAllocator.setPortRange, hmin, hmin.le]
  have hhigh : ((PortAllocator.setPortRange {} minPort maxPort).maxPort : ℤ) = max 0 maxPort := by
    simp only [PortAllocator.setPortRange]
    split_ifs <;> omega
  generalize PortAllocator.setPortRange {} minPort maxPort = allocator at hsockets hrange hlow hhigh
  generalize run env networks minPort maxPort es = s at hsockets hrange ⊢
  have hcandidate (c : Candidate) (hc : c ∈ s.gathered) :
      allocator.minPort ≤ c.address.port ∧ c.address.port ≤ allocator.maxPort :=
    hrange c.address (hsockets.gathered.mem (List.mem_map_of_mem hc))
  refine ⟨fun c hc ↦ ?_, fun ip ↦ ?_⟩
  · obtain ⟨h₁, h₂⟩ := hcandidate c hc
    rw [hsockets.port c hc]
    omega
  · have hnodup : ((s.gathered.filter fun c ↦ c.address.ip = ip).map (·.address)).Nodup :=
      (hsockets.gathered.nodup hsockets.nodup).sublist (List.filter_sublist.map _)
    have hlength := @length_le_of_inRange _ hnodup ip ?_ allocator.minPort allocator.maxPort ?_
    · rw [List.length_map] at hlength
      omega
    · intro a ha
      obtain ⟨c, hc, rfl⟩ := List.mem_map.mp ha
      simpa using (List.mem_filter.mp hc).2
    · intro a ha
      obtain ⟨c, hc, rfl⟩ := List.mem_map.mp ha
      exact hcandidate c (List.mem_filter.mp hc).1

/-! ## A stream after another -/

def sampleCandidateEnv : CandidateEnv where
  ipAddressPrecedence _ := 30
  hostAsURIString _ := []
  computeCrc32 _ := 0

/-- One channel gathers and is destroyed, then another one gathers. -/
def oneAfterAnother : List GatheringEvent :=
  [.create 0 .rtp, .setIceParams 0 ⟨lit "aaaa", lit "bbbb"⟩, .gather 0 fun _ ↦ {}, .destroy 0,
    .create 1 .rtp, .setIceParams 1 ⟨lit "cccc", lit "dddd"⟩, .gather 1 fun _ ↦ {}]

/-- The second channel finds no port in a range of one. -/
theorem exhausted_oneAfterAnother :
    (run sampleCandidateEnv [.inet 1] 5000 5000 oneAfterAnother).gathered.length = 1 ∧
      ((∀ c ∈ (run sampleCandidateEnv [.inet 1] 5000 5000 oneAfterAnother).gathered,
          (5000 : ℤ) ≤ c.port ∧ (c.port : ℤ) ≤ 5000) ∧
        ∀ ip, (((run sampleCandidateEnv [.inet 1] 5000 5000 oneAfterAnother).gathered.filter
          fun c ↦ c.address.ip = ip).length : ℤ) ≤ max 0 (5000 + 1 - 5000)) :=
  ⟨by decide, exhausted_run sampleCandidateEnv [.inet 1] (by decide) (by decide) oneAfterAnother⟩

end Gathering

end XrtcServer
