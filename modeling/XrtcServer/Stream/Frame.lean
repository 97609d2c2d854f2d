import XrtcServer.Stream.RtcStreamManager

/-!
# What the handlers of the manager are made of

Creating a stream aside, a handler assigns to fields of a stream, removes the entry of a stream, and
sends packets. A property of managers that these three keep is kept by every answer, report, timer
and datagram; `ManagerInvariant` is the rule, and the invariants of this component are instances of
it.
-/

namespace XrtcServer

variable {Ctx : Type}

/-- What is assigned to a stream that exists. -/
inductive RtcStream.Updated (env : StreamEnv Ctx) (s : RtcStream Ctx) : RtcStream Ctx → Prop
  | unchanged : Updated env s s
  | setState (state : PeerConnectionState) : Updated env s (s.setState state)
  | stopTimer : Updated env s { s with iceTimeoutWatcher := false }
  | setRemoteSdp (sdp : ByteString) : Updated env s (s.setRemoteSdp env.toSdpEnv sdp)
  | setTransport {name : ByteString} (h : (s.dtlsSrtpTransportByName name).isSome = true)
    (t : DtlsSrtpTransport Ctx) : Updated env s (s.setTransport name t)

namespace RtcStreamManager

section modifyStream

variable (m : RtcStreamManager Ctx) (i : StreamId) (f : RtcStream Ctx → RtcStream Ctx)
  (hf : ∀ s, (f s).key = s.key)

@[simp] theorem stream_modifyStream_self : (m.modifyStream i f hf).stream i = f (m.stream i) :=
  Arena.cell_modify_self

theorem stream_modifyStream_of_ne {j : StreamId} (h : j ≠ i) :
    (m.modifyStream i f hf).stream j = m.stream j := Arena.cell_modify_of_ne h

theorem key_modifyStream (j : StreamId) :
    ((m.modifyStream i f hf).stream j).key = (m.stream j).key := Arena.proj_cell_modify hf i j

end modifyStream

/-- Assignments, removals and sent packets keep `I`. -/
structure ManagerInvariant (env : StreamEnv Ctx) (I : RtcStreamManager Ctx → Prop) : Prop where
  modify : ∀ (m : RtcStreamManager Ctx) (i : StreamId) (f : RtcStream Ctx → RtcStream Ctx)
    (hf : ∀ s, (f s).key = s.key), I m → (m.stream i).Updated env (f (m.stream i)) →
    I (m.modifyStream i f hf)
  remove : ∀ (m : RtcStreamManager Ctx) (type : RtcStreamType) (uid : UInt64) (name : ByteString),
    I m → I (m.removeStream type uid name)
  handoff : ∀ (m : RtcStreamManager Ctx) (h : Handoff),
    I m → I { m with handoffs := m.handoffs ++ [h] }

theorem removeSelf_eq (m : RtcStreamManager Ctx) (i : StreamId) :
    m.removeSelf i =
      m.removeStream (m.stream i).streamType (m.stream i).uid (m.stream i).streamName := by
  rw [removeSelf]
  rcases (m.stream i).streamType with _ | _ <;> rfl

namespace ManagerInvariant

variable {env : StreamEnv Ctx} {I : RtcStreamManager Ctx → Prop} {m : RtcStreamManager Ctx}

theorem foldl {α : Type} {f : RtcStreamManager Ctx → α → RtcStreamManager Ctx}
    (hf : ∀ m a, I m → I (f m a)) (as : List α) (m : RtcStreamManager Ctx) (h : I m) :
    I (as.foldl f m) := by
  induction as generalizing m with
  | nil => exact h
  | cons a as ih => exact ih _ (hf m a h)

theorem removeSelf (hI : ManagerInvariant env I) (h : I m) (i : StreamId) :
    I (m.removeSelf i) := by
  rw [removeSelf_eq]
  exact hI.remove m _ _ _ h

theorem reportState (hI : ManagerInvariant env I) (h : I m) (i : StreamId)
    (state : PeerConnectionState) : I (m.reportState i state) := by
  have hmodify : I (m.modifyStream i (fun s ↦ s.setState state) fun _ ↦ rfl) :=
    hI.modify m i _ _ h (.setState state)
  rw [RtcStreamManager.reportState]
  split_ifs
  · exact h
  · rw [onConnectionState]
    split_ifs
    · exact hI.removeSelf hmodify i
    · exact hmodify
  · exact h

theorem iceTimeoutCb (hI : ManagerInvariant env I) (h : I m) (i : StreamId) :
    I (m.iceTimeoutCb i) := by
  have hmodify : I (m.modifyStream i (fun s ↦ { s with iceTimeoutWatcher := false }) fun _ ↦ rfl) :=
    hI.modify m i _ _ h .stopTimer
  rw [RtcStreamManager.iceTimeoutCb]
  dsimp only
  split_ifs
  · exact hI.removeSelf hmodify i
  · exact hmodify
  · exact h

theorem answerStream (hI : ManagerInvariant env I) (h : I m) (type : RtcStreamType) (uid : UInt64)
    (name answer : ByteString) (states : List PeerConnectionState) :
    I (m.answerStream env type uid name answer states).1 := by
  rw [RtcStreamManager.answerStream]
  split
  · exact h
  · next i _ =>
    split_ifs
    · exact h
    · have hmodify : I (m.modifyStream i (fun s ↦ s.setRemoteSdp env.toSdpEnv answer)
          fun _ ↦ rfl) := hI.modify m i _ _ h (.setRemoteSdp answer)
      have hfold := foldl (fun m state (h : I m) ↦ hI.reportState h i state) states _ hmodify
      exact hfold

theorem setAnswer (hI : ManagerInvariant env I) (h : I m) (uid : UInt64)
    (name answer type : ByteString) (states : List PeerConnectionState) :
    I (m.setAnswer env uid name answer type states).1 := by
  rw [RtcStreamManager.setAnswer]
  split_ifs
  · exact hI.answerStream h _ _ _ _ _
  · exact hI.answerStream h _ _ _ _ _
  · exact h

theorem updated_sendOn (s : RtcStream Ctx) (name : ByteString) (packet : MediaPacket) :
    s.Updated env (s.sendOn env.toSrtpEnv name packet).1 := by
  rw [RtcStream.sendOn]
  rcases ht : s.dtlsSrtpTransportByName name with _ | t
  · exact .unchanged
  · exact .setTransport (by rw [ht]; rfl) _

theorem send (hI : ManagerInvariant env I) (h : I m) (i : StreamId) (packet : MediaPacket) :
    I (m.send env i packet) := by
  have hmodify : I (m.modifyStream i
      (fun s ↦ (s.sendOn env.toSrtpEnv RtcStream.sendTransportName packet).1)
      fun s ↦ key_sendOn _ s _ packet) := hI.modify m i _ _ h (updated_sendOn _ _ packet)
  rw [RtcStreamManager.send]
  split
  · exact hmodify
  · exact hI.handoff _ _ hmodify

theorem sendTo (hI : ManagerInvariant env I) (h : I m) (type : RtcStreamType) (name : ByteString)
    (packet : MediaPacket) : I (m.sendTo env type name packet) := by
  rw [RtcStreamManager.sendTo]
  split
  · exact h
  · exact hI.send h _ _

theorem onMediaOutput (hI : ManagerInvariant env I) (h : I m) (i : StreamId)
    (output : MediaOutput) : I (m.onMediaOutput env i output) := by
  cases output with
  | rtpPacketReceived packet ts =>
    rw [RtcStreamManager.onMediaOutput, onPacketReceived, onRtpPacketReceived]
    split
    · exact hI.sendTo h _ _ _
    · exact h
  | rtcpPacketReceived packet ts =>
    rw [RtcStreamManager.onMediaOutput, onPacketReceived, onRtcpPacketReceived]
    split <;> exact hI.sendTo h _ _ _
  | sendPacket packet => exact h

theorem onTransport (hI : ManagerInvariant env I) (h : I m) (i : StreamId) (name : ByteString)
    (e : MediaEvent) : I (m.onTransport env i name e) := by
  rw [RtcStreamManager.onTransport]
  split_ifs
  · split
    · exact h
    · next t ht =>
      have hmodify : I (m.modifyStream i (fun s ↦ s.setTransport name (t.handle env.toSrtpEnv e).1)
          fun _ ↦ rfl) := hI.modify m i _ _ h (.setTransport (by rw [ht]; rfl) _)
      have hfold := foldl (fun m output (h : I m) ↦ hI.onMediaOutput h i output)
        (t.handle env.toSrtpEnv e).2 _ hmodify
      exact hfold
  · exact h

end ManagerInvariant

end RtcStreamManager

end XrtcServer
