import XrtcServer.Ice.PortMap
import XrtcServer.Ice.StunCodec
import XrtcServer.Ice.Trace

/-!
# What an unauthenticated peer can do

Two sides of one coin. A connection only ever carries data after its peer has answered a ping of its
own, with a message integrity under the remote password (`handsTo_validated`): whatever moves the
write state, the sorting and the selection, the first step to being able to send is an authenticated
response to an outstanding request. And a STUN message whose message integrity is missing or wrong
changes nothing but the log of sent datagrams, by at most an error response
(`unauthenticated_step`).
-/

namespace XrtcServer

open EventRun ByteString World

/-! ## Answers -/

namespace World

variable {env : IceEnv} {w w' : World} {e : IceEvent} {c : ConnId} {id : ByteString} {now : ℤ}
  {msg : StunMessage}

/-- The event `e` brings the connection `c` an answer to the ping with the id `id`. -/
def SeesAnswer (env : IceEnv) (w : World) (e : IceEvent) (c : ConnId) (id : ByteString) : Prop :=
  ∃ msg, w.Authenticated env e c msg ∧
    (msg.type = stunBindingResponse ∨ msg.type = stunBindingErrorResponse) ∧ msg.transactionId = id

/-- A handled response leaves no request with its id in a connection that survives. -/
theorem not_mem_requests_checkResponse (h : RequestsOwned w) (hc : w.conns.live c = true)
    (hlive : (w.checkResponse env c msg now).1.conns.live c = true) :
    msg.transactionId ∉ ((w.checkResponse env c msg now).1.conn c).requests := by
  by_cases hf : w.FatalTo c msg
  · obtain ⟨r, -, hcheck⟩ := checkResponse_of_fatalTo env now msg h hc hf
    rw [hcheck, (onlyRequests_deleteRequest _ r).live, (h.failAndDestroy hc now).2.2.2] at hlive
    cases hlive
  · exact (checkResponse_of_not_fatalTo env now msg h hc hf).2.2.2

theorem SeesAnswer.not_mem_requests (ha : w.SeesAnswer env e c id) (h : RequestsOwned w)
    (hlive : (w.step env e).conns.live c = true) : id ∉ ((w.step env e).conn c).requests := by
  obtain ⟨msg, hmsg, htype, rfl⟩ := ha
  obtain ⟨p, addr, data, ts, now, remoteUfrag, rfl, hconn, hv⟩ := hmsg.received
  have hrequest : msg.type ≠ stunBindingRequest := by
    rcases htype with htype | htype <;> rw [htype] <;> decide
  have hstep : w.step env (.datagram p addr data ts now) = (w.checkResponse env c
      (msg.validateMessageIntegrity env (w.conn c).remoteCandidate.password) now).1 := by
    rw [step, onReadPacket, hconn]
    dsimp only
    rw [onConnReadPacket, if_pos hmsg.live, hv]
    dsimp only
    rw [onStunMessage]
    dsimp only
    rw [if_neg hrequest, if_pos htype, if_pos hmsg.integrity]
  rw [hstep] at hlive ⊢
  exact not_mem_requests_checkResponse h hmsg.live hlive

end World

/-! ## Who may be sent to

`Outstanding` and `Validated` are told by the events, not by the requests and the write states. The
proof goes along with `Traced`: a connection can only come to be able to send by a response to one
of its requests, and a request can only be made by a ping. -/

section

variable (env : IceEnv) (component : IceCandidateComponent)
  (port : PortId → IceParameters × Candidate) (c : ConnId)

/-- The connection `c` has sent a ping with the id `id` and not seen an answer to it since. -/
def Outstanding (id : ByteString) : List IceEvent → Prop :=
  Since (fun fs e ↦ (run env component port fs).SendsPing env e c id)
    fun fs e ↦ (run env component port fs).SeesAnswer env e c id

/-- The connection `c` has received a success response to an outstanding ping, with a message
integrity that is right under its remote password. -/
def Validated : List IceEvent → Prop :=
  Once fun fs e ↦ ∃ msg, (run env component port fs).Authenticated env e c msg ∧
    msg.type = stunBindingResponse ∧ Outstanding env component port c msg.transactionId fs

/-- The requests of a connection are pings it has sent and not yet seen answered. -/
theorem outstanding_of_mem_requests (es : List IceEvent) :
    ∀ c id, (run env component port es).conns.live c = true →
      id ∈ ((run env component port es).conn c).requests →
      Outstanding env component port c id es := by
  refine exec_induction (s := World.init component port)
    (J := fun es w ↦ ∀ c id, w.conns.live c = true → id ∈ (w.conn c).requests →
      Outstanding env component port c id es) ?_ ?_ es
  · intro c id hlive
    cases hlive
  · intro es e ih c id hlive hid
    have howned := (worldInv_run env component port es).owned
    rcases (traced_step env howned e).requests c id hlive hid with ⟨hlive', hid'⟩ | hping
    · exact (ih c id hlive' hid').snoc fun ha ↦ ha.not_mem_requests howned hlive hid
    · exact .last hping

/-- A connection that can send, now or inside a signal, was validated before. -/
theorem validated_of_canSend (es : List IceEvent) :
    (∀ c, CanSend (run env component port es).conns c → Validated env component port c es) ∧
    ∀ s ∈ (run env component port es).signals, ∀ c, CanSend s.conns c →
      Validated env component port c es := by
  refine exec_induction (s := World.init component port)
    (J := fun es w ↦ (∀ c, CanSend w.conns c → Validated env component port c es) ∧
      ∀ s ∈ w.signals, ∀ c, CanSend s.conns c → Validated env component port c es) ?_ ?_ es
  · refine ⟨fun c hc ↦ ?_, fun s hs ↦ by cases hs⟩
    exact absurd hc (by decide : ¬2 ≤ 1)
  · rintro es e ⟨hnow, hsignals⟩
    have htraced := traced_step env (worldInv_run env component port es).owned e
    have hstep (c : ConnId) (hc : CanSend (run env component port es).conns c ∨
        ∃ msg, (run env component port es).Authenticated env e c msg ∧
          msg.type = stunBindingResponse ∧
          msg.transactionId ∈ ((run env component port es).conn c).requests) :
        Validated env component port c (es ++ [e]) := by
      rcases hc with hc | ⟨msg, hmsg, htype, hid⟩
      · exact (hnow c hc).snoc e
      · exact .last ⟨msg, hmsg, htype,
          outstanding_of_mem_requests env component port es c _ hmsg.live hid⟩
    refine ⟨fun c hc ↦ hstep c (htraced.canSend c hc), fun s hs c hc ↦ ?_⟩
    rcases htraced.signals s hs with hs | hs
    · exact (hsignals s hs c hc).snoc e
    · exact hstep c (hs c hc)

end

/-- The selection of a channel and the connections are such that `send_packet` hands data to `c`. -/
def HandsTo (channel : IceTransportChannel) (conns : Arena IceConnection) (c : ConnId) : Prop :=
  channel.selectedConnection = some c ∧ CanSend conns c

instance (channel : IceTransportChannel) (conns : Arena IceConnection) (c : ConnId) :
    Decidable (HandsTo channel conns c) := inferInstanceAs (Decidable (_ ∧ _))

/-- What `send_packet` does is that it hands the data to this connection, if there is one. -/
theorem sendPacket_of_handsTo {w : World} {c : ConnId} (h : HandsTo w.channel w.conns c)
    (data : ByteString) :
    w.sendPacket data = w.sendTo (w.conn c).port data (w.conn c).remoteCandidate.address := by
  have hready : w.readyToSend (some c) = true := by
    have hwrite : (w.conn c).writeState.toNat ≤ 1 := h.2
    rw [readyToSend, IceConnection.writable]
    revert hwrite
    rcases (w.conn c).writeState <;> decide
  rw [sendPacket, h.1]
  exact if_pos hready

theorem sendPacket_of_not_handsTo {w : World} (h : ∀ c, ¬HandsTo w.channel w.conns c)
    (data : ByteString) : w.sendPacket data = w := by
  rw [sendPacket]
  rcases hs : w.channel.selectedConnection with _ | c
  · rfl
  · have hwrite : ¬(w.conn c).writeState.toNat ≤ 1 := fun hc ↦ h c ⟨hs, hc⟩
    refine if_neg ?_
    rw [readyToSend, IceConnection.writable]
    revert hwrite
    rcases (w.conn c).writeState <;> decide

/-- **Data only goes to validated peers**: whenever `send_packet` is called, between the events of a
run or by a handler of a signal, the connection it hands the data to has been validated. -/
theorem handsTo_validated (env : IceEnv) (component : IceCandidateComponent)
    (port : PortId → IceParameters × Candidate) (es : List IceEvent) (c : ConnId)
    (h : HandsTo (run env component port es).channel (run env component port es).conns c ∨
      ∃ s ∈ (run env component port es).signals, HandsTo s.channel s.conns c) :
    Validated env component port c es := by
  obtain ⟨hnow, hsignals⟩ := validated_of_canSend env component port es
  rcases h with ⟨-, hc⟩ | ⟨s, hs, -, hc⟩
  · exact hnow c hc
  · exact hsignals s hs c hc

/-- The first peer answers a ping, and data goes to it. -/
theorem handsTo_validated_peerA : Validated sampleEnv .rtp (fun _ ↦ samplePort) 0
    (pingedRun ++ [.datagram 0 peerA bindingResponse2 1010 1010]) :=
  handsTo_validated sampleEnv .rtp (fun _ ↦ samplePort)
    (pingedRun ++ [.datagram 0 peerA bindingResponse2 1010 1010]) 0 (.inl (by decide +kernel))

/-! ## Messages without authority

A binding request is checked by the port, under the local password, and a response by the
connection that it is for, under the remote one. In both cases the message goes no further, so that
all fields can be listed that stay as they are; only the socket may have one datagram more. -/

namespace World

variable {env : IceEnv} {w w' : World} {p : PortId} {addr : SocketAddress} {data : ByteString}
  {msg : StunMessage}

/-- The datagram is a STUN message whose message integrity is missing or wrong: a binding request
under the local password, a response under the remote password of the connection it is for. -/
structure Unauthenticated (env : IceEnv) (w : World) (p : PortId) (addr : SocketAddress)
    (data : ByteString) (msg : StunMessage) : Prop where
  fingerprint : validateFingerprint env data = true
  read : ∃ rest, StunMessage.read data = some (msg, rest)
  request : msg.type = stunBindingRequest →
    (msg.validateMessageIntegrity env (w.port p).iceParams.icePwd).integrity ≠ .integrityOk
  response : ∀ c, w.getConnection p addr = some c →
    msg.type = stunBindingResponse ∨ msg.type = stunBindingErrorResponse →
    (msg.validateMessageIntegrity env (w.conn c).remoteCandidate.password).integrity ≠ .integrityOk

/-- Nothing but the sent datagrams differs, and these by at most an error response to the sender. -/
structure AtMostErrorResponse (env : IceEnv) (p : PortId) (addr : SocketAddress) (msg : StunMessage)
    (w w' : World) : Prop where
  conns : w'.conns = w.conns
  requests : w'.requests = w.requests
  port : w'.port = w.port
  controller : w'.controller = w.controller
  channel : w'.channel = w.channel
  pingTimer : w'.pingTimer = w.pingTimer
  signals : w'.signals = w.signals
  faults : w.faults = [] → w'.faults = []
  sent : w'.sent = w.sent ∨ ∃ errCode reason data,
    (UDPPort.bindingErrorResponse env (w.port p).iceParams.icePwd msg errCode reason).write
        = some data ∧ w'.sent = w.sent ++ [⟨p, addr, data⟩]

theorem AtMostErrorResponse.refl (w : World) : AtMostErrorResponse env p addr msg w w :=
  ⟨rfl, rfl, rfl, rfl, rfl, rfl, rfl, fun h ↦ h, .inl rfl⟩

theorem atMostErrorResponse_sendBindingErrorResponse (w : World) {msg' : StunMessage}
    (htid : msg'.transactionId = msg.transactionId) (errCode : ℤ) (reason : ByteString) :
    AtMostErrorResponse env p addr msg w
      (w.sendBindingErrorResponse env p msg' addr errCode reason) := by
  -- of the request only the transaction id is looked at
  have hresponse :
      UDPPort.bindingErrorResponse env (w.port p).iceParams.icePwd msg' errCode reason =
      UDPPort.bindingErrorResponse env (w.port p).iceParams.icePwd msg errCode reason := by
    rw [UDPPort.bindingErrorResponse, htid]
    rfl
  rw [sendBindingErrorResponse, hresponse]
  rcases hwrite : (UDPPort.bindingErrorResponse env (w.port p).iceParams.icePwd msg errCode
    reason).write with _ | buf
  · exact .refl w
  · exact ⟨rfl, rfl, rfl, rfl, rfl, rfl, rfl, fun h ↦ h, .inr ⟨errCode, reason, buf, hwrite, rfl⟩⟩

/-- `get_stun_message` rejects such a request, and has nothing against the other messages. -/
theorem Unauthenticated.stunVerdict (h : w.Unauthenticated env p addr data msg) :
    (∃ msg' errCode reason, w.stunVerdict env p data = .rejected msg' errCode reason ∧
      msg'.transactionId = msg.transactionId) ∨
    w.stunVerdict env p data = .accepted msg [] ∧ msg.type ≠ stunBindingRequest := by
  obtain ⟨rest, hread⟩ := h.read
  obtain ⟨-, -, hattrs⟩ := attrs_of_read hread
  rw [World.stunVerdict, UDPPort.getStunMessage, h.fingerprint, hread,
    rest_of_readAttributes hattrs]
  simp only [Bool.not_true, Bool.false_eq_true, if_false, ne_eq, not_true_eq_false]
  split_ifs with htype
  · left
    rw [UDPPort.checkRequest]
    split_ifs
    · exact ⟨msg, _, _, rfl, rfl⟩
    · rcases UDPPort.parseStunUsername msg with _ | ⟨localUfrag, remoteUfrag⟩
      · exact ⟨msg, _, _, rfl, rfl⟩
      · dsimp only
        split_ifs with _ hintegrity
        · exact ⟨msg, _, _, rfl, rfl⟩
        · exact ⟨_, _, _, rfl, rfl⟩
        · exact absurd (not_not.mp hintegrity) (h.request htype)
  · exact .inr ⟨rfl, htype⟩

theorem Unauthenticated.onReadPacket (h : w.Unauthenticated env p addr data msg)
    (hentries : EntriesOk w) (hmap : w.faults = [] → PortMapOk w) (ts now : ℤ) :
    AtMostErrorResponse env p addr msg w (w.onReadPacket env p addr data ts now) := by
  rw [World.onReadPacket]
  rcases hconn : w.getConnection p addr with _ | c
  · dsimp only
    rcases h.stunVerdict with ⟨msg', errCode, reason, hv, htid⟩ | ⟨hv, htype⟩
    · rw [hv]
      exact atMostErrorResponse_sendBindingErrorResponse w htid _ reason
    · rw [hv]
      dsimp only
      rw [if_neg htype]
      exact .refl w
  · obtain ⟨-, hport, haddr⟩ := hentries p addr c hconn
    dsimp only
    rw [onConnReadPacket]
    split_ifs with hlive
    · rw [hport]
      rcases h.stunVerdict with ⟨msg', errCode, reason, hv, htid⟩ | ⟨hv, htype⟩
      · rw [hv, haddr]
        exact atMostErrorResponse_sendBindingErrorResponse w htid _ reason
      · rw [hv]
        dsimp only
        rw [onStunMessage]
        dsimp only
        rw [if_neg htype]
        split_ifs with hresponse hok
        · exact absurd hok (h.response c hconn hresponse)
        · exact .refl w
        · exact .refl w
    · -- as long as nothing was misused, the entry is good
      refine ⟨rfl, rfl, rfl, rfl, rfl, rfl, rfl, fun hfaults ↦ ?_, .inl rfl⟩
      exact absurd (hmap hfaults p addr c hconn).1 hlive

/-- The address maps are true to the connections, and as long as nothing was misused they only hold
live ones. -/
theorem entriesOk_run (env : IceEnv) (component : IceCandidateComponent)
    (port : PortId → IceParameters × Candidate) (es : List IceEvent) :
    EntriesOk (run env component port es) ∧
      ((run env component port es).faults = [] → PortMapOk (run env component port es)) := by
  have hinv : WorldInv (run env component port es) ∧ EntriesOk (run env component port es) ∧
      ((run env component port es).faults = [] → PortMapOk (run env component port es)) := by
    refine exec_invariant
      (I := fun w ↦ WorldInv w ∧ EntriesOk w ∧ (w.faults = [] → PortMapOk w)) ?_ ?_ es
    · rintro w e ⟨hw, hentries, hmap⟩
      have htraced := traced_step env hw.owned e
      refine ⟨hw.step e, htraced.entries hentries, fun hfaults ↦ ?_⟩
      have hbefore : w.faults = [] := List.length_eq_zero_iff.mp
        (Nat.le_zero.mp (htraced.faults.trans (Nat.le_of_eq (List.length_eq_zero_iff.mpr hfaults))))
      refine (portMapOk_step_iff hw (hmap hbefore) e).mpr fun c hfails ↦ ?_
      -- a connection that fails takes a request down twice
      obtain ⟨now, -, -, hlt⟩ := step_of_failsConnection hw.owned hfails
      rw [hfaults] at hlt
      exact absurd hlt (Nat.not_lt_zero _)
    · exact ⟨worldInv_init component port, fun p addr c hc ↦ (by cases hc),
        fun _ ↦ portMapOk_init component port⟩
  exact hinv.2

end World

/-- **Unauthenticated messages** change nothing, in any state of a run, and are answered by at most
an error response. -/
theorem unauthenticated_step (env : IceEnv) (component : IceCandidateComponent)
    (port : PortId → IceParameters × Candidate) (es : List IceEvent) {p : PortId}
    {addr : SocketAddress} {data : ByteString} {msg : StunMessage}
    (h : (run env component port es).Unauthenticated env p addr data msg) (ts now : ℤ) :
    AtMostErrorResponse env p addr msg (run env component port es)
      ((run env component port es).step env (.datagram p addr data ts now)) := by
  obtain ⟨hentries, hmap⟩ := entriesOk_run env component port es
  exact h.onReadPacket hentries hmap ts now

/-- The request of the first peer, without its HMAC. -/
def forgedRequest : ByteString :=
  words [0x00010038, 0x2112A442, 0x72657175, 0x65737466, 0x726F6D41, 0x00060009, 0x73727631,
    0x3A706565, 0x72000000, 0x00240004, 0x6E0001FF, 0x00080014, 0, 0, 0, 0, 0, 0x80280004,
    0xA37C8AE2]

/-- What `read` makes of it. -/
def forgedMessage : StunMessage := ((StunMessage.read forgedRequest).map Prod.fst).getD {}

/-- The forged request does nothing to a connection that waits for an answer. -/
theorem unauthenticated_step_forged :
    AtMostErrorResponse sampleEnv 0 peerA forgedMessage
      (run sampleEnv .rtp (fun _ ↦ samplePort) pingedRun)
      ((run sampleEnv .rtp (fun _ ↦ samplePort) pingedRun).step sampleEnv
        (.datagram 0 peerA forgedRequest 1010 1010)) := by
  refine unauthenticated_step sampleEnv .rtp (fun _ ↦ samplePort) pingedRun ⟨?_, ⟨[], ?_⟩, ?_, ?_⟩
    1010 1010
  · decide +kernel
  · decide +kernel
  · decide +kernel
  · have htype : ¬(forgedMessage.type = stunBindingResponse ∨
        forgedMessage.type = stunBindingErrorResponse) := by decide +kernel
    exact fun c _ hresponse ↦ absurd hresponse htype

end XrtcServer
