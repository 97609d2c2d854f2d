import XrtcServer.Pc.SessionDescription

/-!
# The transport controller

`TransportController` (`pc/transport_controller.cpp`) turns descriptions into transports. The local
description decides which DTLS transports there are: one for each section that does not ride on
the transport of another one. The remote description is then applied section by section, and every
section that has a transport gets its fingerprint from `*td->identify_fingerprint`, without a look
at whether the pointer is set.

`setRemoteDescription` returns the calls it makes on the ICE agent and on the DTLS transports, and
`none` when it follows the null pointer.
-/

namespace XrtcServer

inductive PeerConnectionState
  | new
  | connecting
  | connected
  | disconnected
  | failed
  | closed
deriving DecidableEq

/-- The calls `set_remote_description` makes on other objects. -/
inductive RemoteCall
  /-- `_ice_agent->set_remote_ice_params`. -/
  | setRemoteIceParams (mid : ByteString) (params : IceParameters)
  /-- `dtls->set_remote_fingerprint` on the transport `mid`. -/
  | setRemoteFingerprint (mid algorithm digest : ByteString)
deriving DecidableEq

structure TransportController where
  /-- The keys of `_dtls_transport_by_name`. -/
  dtlsTransportByName : List ByteString := []
deriving DecidableEq

namespace TransportController

/-- `_add_dtls_transport`: a transport of the same name is replaced. -/
def addDtlsTransport (ctl : TransportController) (name : ByteString) : TransportController :=
  if name ∈ ctl.dtlsTransportByName then ctl
  else { dtlsTransportByName := ctl.dtlsTransportByName ++ [name] }

/-- The body of the loop of `set_local_description`. -/
def createTransport (desc : SessionDescription) (ctl : TransportController)
    (content : MediaContentDescription) : TransportController :=
  if desc.ridesOnBundle content.mid then ctl else ctl.addDtlsTransport content.mid

def setLocalDescription (ctl : TransportController) (desc : SessionDescription) :
    TransportController :=
  desc.contents.foldl (createTransport desc) ctl

/-- The body of the loop of `set_remote_description`. -/
def applyContent (ctl : TransportController) (desc : SessionDescription)
    (content : MediaContentDescription) : Option (List RemoteCall) :=
  if desc.ridesOnBundle content.mid then some []
  else
    match desc.getTransportInfo content.mid with
    | none => some []
    | some td =>
      let iceCall := .setRemoteIceParams content.mid ⟨td.iceUfrag, td.icePwd⟩
      if content.mid ∈ ctl.dtlsTransportByName then
        td.identifyFingerprint.map fun fp ↦
          [iceCall, .setRemoteFingerprint content.mid fp.algorithm fp.digest]
      else some [iceCall]

def setRemoteDescription (ctl : TransportController) (desc : SessionDescription) :
    Option (List RemoteCall) :=
  (desc.contents.mapM (ctl.applyContent desc)).map List.flatten

variable {ctl : TransportController} {desc : SessionDescription} {mid : ByteString}

/-! ## The transports of a local description -/

theorem mem_addDtlsTransport {name : ByteString} :
    mid ∈ (ctl.addDtlsTransport name).dtlsTransportByName ↔
      mid ∈ ctl.dtlsTransportByName ∨ mid = name := by
  rw [addDtlsTransport]
  split_ifs with h
  · refine ⟨.inl, ?_⟩
    rintro (hm | rfl)
    · exact hm
    · exact h
  · simp

theorem mem_createTransport {content : MediaContentDescription} :
    mid ∈ (createTransport desc ctl content).dtlsTransportByName ↔
      mid ∈ ctl.dtlsTransportByName ∨
        content.mid = mid ∧ desc.ridesOnBundle mid = false := by
  rw [createTransport]
  split_ifs with h
  · refine ⟨.inl, ?_⟩
    rintro (hm | ⟨rfl, hr⟩)
    · exact hm
    · rw [h] at hr
      cases hr
  · rw [mem_addDtlsTransport]
    refine or_congr_right ⟨?_, fun hm ↦ hm.1.symm⟩
    rintro rfl
    exact ⟨rfl, by simpa using h⟩

/-- A section of the local description has a transport of its own unless it rides on a bundle. -/
theorem mem_setLocalDescription :
    mid ∈ (ctl.setLocalDescription desc).dtlsTransportByName ↔
      mid ∈ ctl.dtlsTransportByName ∨
        (∃ content ∈ desc.contents, content.mid = mid) ∧ desc.ridesOnBundle mid = false := by
  have hfold : ∀ contents : List MediaContentDescription, ∀ ctl : TransportController,
      mid ∈ (contents.foldl (createTransport desc) ctl).dtlsTransportByName ↔
        mid ∈ ctl.dtlsTransportByName ∨
          (∃ content ∈ contents, content.mid = mid) ∧ desc.ridesOnBundle mid = false := by
    intro contents
    induction contents with
    | nil => simp
    | cons content contents ih =>
      intro ctl
      rw [List.foldl_cons, ih, mem_createTransport, List.exists_mem_cons_iff, or_assoc,
        or_and_right]
  exact hfold desc.contents ctl

/-! ## The null fingerprint -/

theorem applyContent_eq_none {content : MediaContentDescription} :
    ctl.applyContent desc content = none ↔
      desc.ridesOnBundle content.mid = false ∧ content.mid ∈ ctl.dtlsTransportByName ∧
        ∃ td, desc.getTransportInfo content.mid = some td ∧ td.identifyFingerprint = none := by
  rw [applyContent]
  by_cases hr : desc.ridesOnBundle content.mid = true
  · simp [hr]
  rcases ht : desc.getTransportInfo content.mid with _ | td
  · simp [hr]
  by_cases hm : content.mid ∈ ctl.dtlsTransportByName
  · simp [hr, hm]
  · simp [hr, hm]

/-- `set_remote_description` follows the null pointer exactly when a section that is applied, has a
transport and has transport parameters, has no fingerprint. -/
theorem setRemoteDescription_eq_none :
    ctl.setRemoteDescription desc = none ↔
      ∃ content ∈ desc.contents, desc.ridesOnBundle content.mid = false ∧
        content.mid ∈ ctl.dtlsTransportByName ∧
        ∃ td, desc.getTransportInfo content.mid = some td ∧ td.identifyFingerprint = none := by
  rw [setRemoteDescription, Option.map_eq_none_iff, mapM_eq_none]
  simp only [applyContent_eq_none]

end TransportController

end XrtcServer
