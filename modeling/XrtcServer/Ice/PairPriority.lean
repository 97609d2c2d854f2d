import XrtcServer.Ice.ReadyToSend

/-!
# The priority of a connection

`IceConnection::priority` computes the formula of RFC 5245 from the priority of the local candidate
and the one that a peer put into its binding request. The first summand has 64 bits; the second is
computed in 32, so it wraps when one of the two priorities is `2 ^ 31` or more. That of a host
candidate never is, since its type preference is 126, but a peer may send any.

`rtc::IPAddressPrecedence`, the part of a priority that depends on the address, is not part of the
repository; it returns a rank of RFC 3484, at most 60.
-/

namespace XrtcServer

open EventRun World

/-! ## Host candidates -/

def iceTypePreferenceHost : UInt32 := 126

/-- `LOCAL_PORT_TYPE`. -/
def localPortType : ByteString := lit "host"

/-- `Candidate::get_priority`; the bits of an `int` are those of the `uint32_t`. -/
def Candidate.getPriority (ipAddressPrecedence : IPAddress → ℕ) (c : Candidate)
    (typePreference networkAdapterPreference relayPreference : UInt32) : UInt32 :=
  let addrRef := (ipAddressPrecedence c.address.ip).toUInt32
  let localPref := (networkAdapterPreference <<< 8 ||| addrRef) + relayPreference
  typePreference <<< 24 ||| localPref <<< 8 ||| (256 - c.component.toNat.toUInt32)

/-- `create_ice_candidate`, on a socket that is bound to `localAddr`. -/
def createIceCandidate (ipAddressPrecedence : IPAddress → ℕ) (component : IceCandidateComponent)
    (iceParams : IceParameters) (localAddr : SocketAddress) : Candidate :=
  let c : Candidate :=
    { component
      protocol := lit "udp"
      address := localAddr
      port := localAddr.port
      priority := 0
      username := iceParams.iceUfrag
      password := iceParams.icePwd
      type := localPortType }
  { c with priority := c.getPriority ipAddressPrecedence iceTypePreferenceHost 0 0 }

/-- The ports of a channel with their host candidates. -/
def hostPorts (ipAddressPrecedence : IPAddress → ℕ) (component : IceCandidateComponent)
    (hosts : PortId → IceParameters × SocketAddress) (p : PortId) : IceParameters × Candidate :=
  ((hosts p).1, createIceCandidate ipAddressPrecedence component (hosts p).1 (hosts p).2)

theorem toNat_or_lt {a b : UInt32} {n : ℕ} (ha : a.toNat < 2 ^ n) (hb : b.toNat < 2 ^ n) :
    (a ||| b).toNat < 2 ^ n := by
  rw [UInt32.toNat_or]
  exact Nat.or_lt_two_pow ha hb

theorem getPriority_host_lt {ipAddressPrecedence : IPAddress → ℕ}
    (hprecedence : ∀ ip, ipAddressPrecedence ip ≤ 60) (c : Candidate) :
    (c.getPriority ipAddressPrecedence iceTypePreferenceHost 0 0).toNat < 2 ^ 31 := by
  have hsmall := hprecedence c.address.ip
  rw [Candidate.getPriority]
  apply toNat_or_lt
  · apply toNat_or_lt
    · decide
    · -- the local preference of a host candidate is the rank of its address
      have hlocal : ((0 : UInt32) <<< 8 ||| (ipAddressPrecedence c.address.ip).toUInt32) + 0 =
          (ipAddressPrecedence c.address.ip).toUInt32 := by simp
      have hrank : (ipAddressPrecedence c.address.ip).toUInt32.toNat =
          ipAddressPrecedence c.address.ip := Nat.mod_eq_of_lt (by omega)
      have hshift : (8 : UInt32).toNat % 32 = 8 := by decide
      rw [hlocal, UInt32.toNat_shiftLeft, hrank, hshift, Nat.shiftLeft_eq]
      omega
  · cases c.component with
    | rtp => decide
    | rtcp => decide

/-! ## The formula

The code and the formula differ in the second summand alone. It wraps when one of the two priorities
is `2 ^ 31` or more, and is then too small by exactly `2 ^ 32`, so they agree nowhere else. -/

/-- The priority of a pair, exactly. -/
def pairPriority (g d : ℕ) : ℕ := 2 ^ 32 * min g d + 2 * max g d + if g > d then 1 else 0

/-- A larger remote priority never makes a pair less important. -/
theorem pairPriority_le {g d d' : ℕ} (h : d ≤ d') : pairPriority g d ≤ pairPriority g d' := by
  rw [pairPriority, pairPriority]
  split_ifs <;> omega

namespace World

variable (w : World) (c a b : ConnId)

/-- The formula for a connection. -/
def exactPriority : ℕ :=
  pairPriority (w.localCandidate c).priority.toNat (w.conn c).remoteCandidate.priority.toNat

/-- Everything that `_compare_connections` looks at before the priorities. -/
structure OtherwiseEqual : Prop where
  writeState : (w.conn a).writeState = (w.conn b).writeState
  receiving : (w.conn a).receiving = (w.conn b).receiving

/-- `priority` is the formula for both connections; with the same local candidate, the larger remote
priority does not give the smaller priority; and of two connections that are equal otherwise, the
one is better for which the formula is larger. -/
structure RanksByFormula : Prop where
  left : (w.priority a).toNat = w.exactPriority a
  right : (w.priority b).toNat = w.exactPriority b
  mono : w.localCandidate a = w.localCandidate b →
    (w.conn a).remoteCandidate.priority ≤ (w.conn b).remoteCandidate.priority →
      w.priority a ≤ w.priority b
  rank : w.OtherwiseEqual a b → w.compareConnections a b =
    if w.exactPriority a > w.exactPriority b then 1
    else if w.exactPriority a < w.exactPriority b then -1
    else 0

theorem toNat_min (x y : UInt32) : (min x y).toNat = min x.toNat y.toNat := by
  show (if x ≤ y then x else y).toNat = _
  rw [apply_ite UInt32.toNat, min_def]
  rfl

theorem toNat_max (x y : UInt32) : (max x y).toNat = max x.toNat y.toNat := by
  show (if x ≤ y then y else x).toNat = _
  rw [apply_ite UInt32.toNat, max_def]
  rfl

/-- What the code computes: the second summand is taken modulo `2 ^ 32`. -/
theorem toNat_priority :
    let g := (w.localCandidate c).priority.toNat
    let d := (w.conn c).remoteCandidate.priority.toNat
    (w.priority c).toNat = 2 ^ 32 * min g d + 2 * max g d % 2 ^ 32 + if g > d then 1 else 0 := by
  rw [priority]
  generalize (w.localCandidate c).priority = g
  generalize (w.conn c).remoteCandidate.priority = d
  dsimp only
  have hg := g.toNat_lt
  have hd := d.toNat_lt
  have hshift : ((min g d).toUInt64 <<< 32).toNat = 2 ^ 32 * min g.toNat d.toNat := by
    have hamount : (32 : UInt64).toNat % 64 = 32 := by decide
    rw [UInt64.toNat_shiftLeft, UInt32.toNat_toUInt64, toNat_min, hamount, Nat.shiftLeft_eq,
      Nat.mul_comm]
    exact Nat.mod_eq_of_lt (by omega)
  -- an `int` times a `uint32_t` is a `uint32_t`
  have hdouble : (2 * max g d).toUInt64.toNat = 2 * max g.toNat d.toNat % 2 ^ 32 := by
    rw [UInt32.toNat_toUInt64, UInt32.toNat_mul, toNat_max]
    rfl
  have hlast : (if g > d then (1 : UInt64) else 0).toNat = if g.toNat > d.toNat then 1 else 0 := by
    rw [apply_ite UInt64.toNat]
    rfl
  rw [UInt64.toNat_add, UInt64.toNat_add, hshift, hdouble, hlast]
  split_ifs <;> omega

/-- The code computes the formula exactly when both priorities are below `2 ^ 31`. -/
theorem toNat_priority_eq_iff : (w.priority c).toNat = w.exactPriority c ↔
    (w.localCandidate c).priority.toNat < 2 ^ 31 ∧
      (w.conn c).remoteCandidate.priority.toNat < 2 ^ 31 := by
  have h := w.toNat_priority c
  have hg := (w.localCandidate c).priority.toNat_lt
  have hd := (w.conn c).remoteCandidate.priority.toNat_lt
  rw [exactPriority, pairPriority, h]
  omega

variable {w a b}

theorem exactPriority_le (hlocal : w.localCandidate a = w.localCandidate b)
    (h : (w.conn a).remoteCandidate.priority ≤ (w.conn b).remoteCandidate.priority) :
    w.exactPriority a ≤ w.exactPriority b := by
  rw [exactPriority, exactPriority, hlocal]
  exact pairPriority_le (UInt32.le_iff_toNat_le.mp h)

theorem OtherwiseEqual.compareConnections (h : w.OtherwiseEqual a b) :
    w.compareConnections a b =
      if w.priority b < w.priority a then 1
      else if w.priority a < w.priority b then -1
      else 0 := by
  rw [compareConnections_of_eq (congrArg WriteState.toNat h.writeState), h.receiving]
  cases (w.conn b).receiving with
  | false => rfl
  | true => rfl

theorem ranksByFormula_iff_remote
    (hlocal : ∀ c, (w.localCandidate c).priority.toNat < 2 ^ 31) :
    w.RanksByFormula a b ↔ (w.conn a).remoteCandidate.priority.toNat < 2 ^ 31 ∧
      (w.conn b).remoteCandidate.priority.toNat < 2 ^ 31 := by
  constructor
  · intro h
    exact ⟨((w.toNat_priority_eq_iff a).mp h.left).2, ((w.toNat_priority_eq_iff b).mp h.right).2⟩
  · rintro ⟨ha, hb⟩
    have hleft := (w.toNat_priority_eq_iff a).mpr ⟨hlocal a, ha⟩
    have hright := (w.toNat_priority_eq_iff b).mpr ⟨hlocal b, hb⟩
    refine ⟨hleft, hright, fun hsame hle ↦ ?_, fun hequal ↦ ?_⟩
    · rw [UInt64.le_iff_toNat_le, hleft, hright]
      exact exactPriority_le hsame hle
    · rw [hequal.compareConnections]
      simp only [UInt64.lt_iff_toNat_lt, hleft, hright, gt_iff_lt]

/-! ## In a run

A candidate is never replaced, so the local priority is that of the host candidate in every state of
a run, and only the remote one can be too large. -/

variable {env : IceEnv} {e : IceEvent} {component : IceCandidateComponent}
  {port : PortId → IceParameters × Candidate} {w' : World}

/-- The ports keep their candidates. -/
def SameCandidates (w w' : World) : Prop := ∀ p, (w'.port p).candidate = (w.port p).candidate

theorem sameCandidates_of_port (h : w'.port = w.port) : SameCandidates w w' :=
  fun p ↦ congrArg UDPPort.candidate (congrFun h p)

theorem sameCandidates_createConnection (w : World) (p : PortId) (candidate : Candidate) :
    SameCandidates w (w.createConnection p candidate).1 := by
  intro q
  rw [createConnection]
  dsimp only
  by_cases hq : q = p
  · rw [hq, Function.update_self]
  · rw [Function.update_of_ne hq]

theorem sameCandidates_step (h : WorldInv w) (e : IceEvent) : SameCandidates w (w.step env e) := by
  cases (stepOutcome_step env h.owned e).1 with
  | kept hs => exact sameCandidates_of_port hs.port
  | created hs =>
    intro q
    rw [hs.port]
    exact sameCandidates_createConnection w _ _ q
  | failed c now _ honly =>
    apply sameCandidates_of_port
    rw [honly.port]
    exact (sameRequests_failing w c now).port

theorem candidate_run (env : IceEnv) (component : IceCandidateComponent)
    (port : PortId → IceParameters × Candidate) (es : List IceEvent) (p : PortId) :
    ((run env component port es).port p).candidate = (port p).2 := by
  have hstep (w : World) (e : IceEvent) (h : WorldInv w ∧ SameCandidates (init component port) w) :
      WorldInv (w.step env e) ∧ SameCandidates (init component port) (w.step env e) :=
    ⟨h.1.step e, fun p ↦ (sameCandidates_step h.1 e p).trans (h.2 p)⟩
  have hinit : WorldInv (init component port) ∧
      SameCandidates (init component port) (init component port) :=
    ⟨worldInv_init component port, fun _ ↦ rfl⟩
  exact (exec_invariant hstep hinit es).2 p

/-- Whatever priority a request carries, the new connection has it. -/
theorem priority_onUnknownAddress (w : World) (p : PortId) (addr : SocketAddress)
    (msg : StunMessage) (remoteUfrag : ByteString) (now : ℤ) {d : ℕ}
    (hd : msg.getUInt32 stunAttrPriority = some d) :
    ((w.onUnknownAddress env p addr msg remoteUfrag now).conn
      w.conns.next).remoteCandidate.priority = d.toUInt32 := by
  rw [onUnknownAddress, hd]
  dsimp only
  rw [proj_conn_sortConnectionsAndUpdateState (p := fun x ↦ x.remoteCandidate.priority)
    fun _ _ ↦ rfl]
  have hhandled (w : World) (c : ConnId) :
      (w.handleStunBindingRequest env c msg).conns = w.conns := by
    rw [handleStunBindingRequest]
    split
    · rfl
    · dsimp only
      split <;> rfl
  have hcreated : ((w.createConnection p (w.peerCandidate addr remoteUfrag d)).1.addConnection env
      w.conns.next).conn w.conns.next =
      { port := p, remoteCandidate := w.peerCandidate addr remoteUfrag d } :=
    Arena.cell_alloc_next
  rw [conn, hhandled, ← conn]
  exact congrArg (fun x ↦ x.remoteCandidate.priority) hcreated

end World

/-- **The priority of connections.** In every state of a run on host candidates, the priorities of
two connections are as the formula has them, and are ranked by it, exactly when both peers sent
priorities below `2 ^ 31`. -/
theorem ranksByFormula_iff (ipAddressPrecedence : IPAddress → ℕ)
    (hprecedence : ∀ ip, ipAddressPrecedence ip ≤ 60) (env : IceEnv)
    (component : IceCandidateComponent) (hosts : PortId → IceParameters × SocketAddress)
    (es : List IceEvent) (a b : ConnId) :
    let w := run env component (hostPorts ipAddressPrecedence component hosts) es
    w.RanksByFormula a b ↔ (w.conn a).remoteCandidate.priority.toNat < 2 ^ 31 ∧
      (w.conn b).remoteCandidate.priority.toNat < 2 ^ 31 := by
  intro w
  apply ranksByFormula_iff_remote
  intro c
  rw [localCandidate, candidate_run]
  exact getPriority_host_lt hprecedence _

/-- The precedence of an address of version 4, of a local one of version 6, and of another one. -/
def samplePrecedence : IPAddress → ℕ
  | .unspec => 0
  | .inet _ => 30
  | .inet6 addr => if addr = 1 then 60 else 40

theorem samplePrecedence_le (ip : IPAddress) : samplePrecedence ip ≤ 60 := by
  cases ip with
  | unspec => exact Nat.zero_le _
  | inet addr => exact (by decide : 30 ≤ 60)
  | inet6 addr =>
    rw [samplePrecedence]
    split_ifs
    · exact le_rfl
    · exact (by decide : 40 ≤ 60)

def sampleHosts (_ : PortId) : IceParameters × SocketAddress :=
  (samplePort.1, samplePort.2.address)

/-- A binding request with the priority `d`; `peer` is the last word of its transaction id. -/
def requestWithPriority (peer d : ℕ) (digest : List ℕ) (fingerprint : ℕ) : ByteString :=
  words ([0x00010038, 0x2112A442, 0x72657175, 0x65737466, peer, 0x00060009, 0x73727631, 0x3A706565,
    0x72000000, 0x00240004, d, 0x00080014] ++ digest ++ [0x80280004, fingerprint])

def smallRequest : ByteString :=
  requestWithPriority 0x726F6D43 0x6E0001FF
    [0x2E8793E1, 0x9F38BF56, 0x7F428811, 0x6FAA7C7F, 0x5A035ACE] 0x90C8AAAF

def largerRequest : ByteString :=
  requestWithPriority 0x726F6D44 0x6E0002FF
    [0x206FF025, 0xE413231D, 0x5BED382D, 0x434AD23B, 0x1FBB7D10] 0x86366152

/-- With the priority `2 ^ 31 - 1`. -/
def largeRequest : ByteString :=
  requestWithPriority 0x726F6D43 0x7FFFFFFF
    [0x909EA649, 0xEAE46169, 0x24038CB1, 0x8E75832B, 0xCDDB3E2D] 0x456775A2

/-- With the priority `2 ^ 31`. -/
def overlargeRequest : ByteString :=
  requestWithPriority 0x726F6D44 0x80000000
    [0xFBCC8AEE, 0xF9BF7A1F, 0xD77B1A13, 0xE5D6B2BC, 0x8DEECD13] 0x2F82F9F1

def rankedEnv : IceEnv := { sampleEnv with
  computeHmac := digestIn [smallRequest, largerRequest, largeRequest, overlargeRequest] }

/-- Two peers connect, by a request each. -/
def rankedRun (request request' : ByteString) : List IceEvent :=
  [.datagram 0 peerA request 10 10, .datagram 0 peerB request' 20 20]

theorem ranksByFormula_rankedRun :
    (run rankedEnv .rtp (hostPorts samplePrecedence .rtp sampleHosts)
      (rankedRun smallRequest largerRequest)).RanksByFormula 0 1 :=
  (ranksByFormula_iff samplePrecedence samplePrecedence_le rankedEnv .rtp sampleHosts
    (rankedRun smallRequest largerRequest) 0 1).mpr (by decide +kernel)

/-- The priorities `2 ^ 31 - 1` and `2 ^ 31`: the larger one makes the less important pair. -/
theorem not_ranksByFormula :
    ¬(run rankedEnv .rtp (hostPorts samplePrecedence .rtp sampleHosts)
      (rankedRun largeRequest overlargeRequest)).RanksByFormula 0 1 := by
  intro h
  exact absurd (h.mono (by decide +kernel) (by decide +kernel)) (by decide +kernel)

end XrtcServer
