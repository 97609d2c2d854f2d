import XrtcServer.Lib.EventRun
import XrtcServer.Pc.FingerprintSetup

/-!
# When a DTLS transport is writable

A transport is to be writable when its handshake is complete and the ICE channel is writable.
`DtlsTransport` follows the channel while it is connected, and sets the flag on its own when the
adapter reports that the handshake is complete. It does not look at the channel then, and while it
is connecting it ignores what the channel says; so a channel that has become unwritable during the
handshake is forgotten.

## Reports

The adapter may say several things in one event, and it says them from inside the calls that are
made to it. Of all this only the last word counts: the state and the flag are always set together,
`k_connected` with `true` and the other states with `false`, and a later pair replaces an earlier
one. `report` is the last word and `reported` is what it makes of the transport, so that every
handler has a closed form on the fields of the transport, without the SRTP sessions behind it.

## The exact condition

With the closed forms, `Faithful` can be read off handler by handler: a report that the handshake is
complete must come while the channel is writable. In two places the state and the flag come apart
although the channel has not changed. `k_failed` after a digest that is not accepted leaves the flag
as it was (`exact_failed`), and the end of `_maybe_start_dtls` sets `k_connecting` over what was
reported during `StartSSL` (`StartSound`).
-/

namespace XrtcServer

open EventRun ByteString

/-! ## What the adapter reports

A loop of `Read` ends with the first result that is not a success, and only the end of the stream
and an error say something about the association. `_on_dtls_event` looks for an open, then for a
read, then for a close, each with its own pair of setters. -/

/-- What the calls of `Read` say about the association. -/
def readReport : List StreamResult → Option DtlsTransportState
  | [] => none
  | .success :: results => readReport results
  | .eos :: _ => some .closed
  | .error :: _ => some .failed
  | .block :: _ => none

/-- The last word of an event. -/
def AdapterEvent.report (e : AdapterEvent) : Option DtlsTransportState :=
  if e.seClose then some (if e.error = 0 then .closed else .failed)
  else (if e.seRead then readReport e.reads else none).or
    (if e.seOpen then some .connected else none)

/-- The last word of several events. -/
def report : List AdapterEvent → Option DtlsTransportState
  | [] => none
  | e :: es => (report es).or e.report

/-- The transport after a report. -/
def DtlsTransport.reported (t : DtlsTransport) : Option DtlsTransportState → DtlsTransport
  | none => t
  | some state => { t with dtlsState := state, writable := state = .connected }

namespace DtlsTransport

variable (t : DtlsTransport) (r r' : Option DtlsTransportState)

theorem reported_reported : (t.reported r).reported r' = t.reported (r'.or r) := by
  cases r' <;> cases r <;> rfl

@[simp] theorem dtlsActive_reported : (t.reported r).dtlsActive = t.dtlsActive := by
  cases r <;> rfl

@[simp] theorem dtls_reported : (t.reported r).dtls = t.dtls := by
  cases r <;> rfl

@[simp] theorem cachedClientHello_reported :
    (t.reported r).cachedClientHello = t.cachedClientHello := by
  cases r <;> rfl

/-- The transport after `StartSSL` and the kept `ClientHello`. -/
def started (answers : AdapterAnswers) : DtlsTransport :=
  let t := t.reported (report answers.duringStart)
  if answers.startSsl ≠ 0 then { t with dtlsState := .failed }
  else if t.cachedClientHello = [] then { t with dtlsState := .connecting }
  else if dtlsRecords t.cachedClientHello then
    { { t with dtlsState := .connecting }.reported (report answers.duringPacket) with
      cachedClientHello := [] }
  else { t with dtlsState := .failed, cachedClientHello := [] }

end DtlsTransport

namespace DtlsPair

variable {Ctx : Type} (env : DtlsEnv Ctx) (s : DtlsPair Ctx)

@[simp] theorem transport_setDtlsState (state : DtlsTransportState) (answers : SrtpAnswers) :
    (s.setDtlsState env state answers).transport = { s.transport with dtlsState := state } := by
  rw [setDtlsState]
  split_ifs with h
  · rw [← h]
  · rfl

@[simp] theorem transport_setWritableState (writable : Bool) :
    (s.setWritableState writable).transport = { s.transport with writable } := by
  rw [setWritableState]
  split_ifs with h
  · rw [← h]
  · rfl

@[simp] theorem transport_setReceiving (receiving : Bool) :
    (s.setReceiving receiving).transport = { s.transport with receiving } := by
  rw [setReceiving]
  split_ifs with h
  · rw [← h]
  · rfl

/-- The two setters together make a report. -/
theorem transport_setBoth (state : DtlsTransportState) (answers : SrtpAnswers) :
    ((s.setWritableState (state = .connected)).setDtlsState env state answers).transport =
      s.transport.reported (some state) := by
  rw [transport_setDtlsState, transport_setWritableState]
  rfl

theorem transport_readLoop (results : List StreamResult) :
    (readLoop env results s).transport = s.transport.reported (readReport results) := by
  induction results with
  | nil => rfl
  | cons result results ih =>
    cases result with
    | success => exact ih
    | eos => exact s.transport_setBoth env .closed {}
    | error => exact s.transport_setBoth env .failed {}
    | block => rfl

theorem transport_onDtlsEvent (e : AdapterEvent) :
    (s.onDtlsEvent env e).transport = s.transport.reported e.report := by
  have hopen : (if e.seOpen then (s.setWritableState true).setDtlsState env .connected e.srtp
      else s).transport = s.transport.reported (if e.seOpen then some .connected else none) := by
    split_ifs
    · exact s.transport_setBoth env .connected e.srtp
    · rfl
  rw [onDtlsEvent]
  generalize (if e.seOpen then (s.setWritableState true).setDtlsState env .connected e.srtp
    else s) = s₁ at hopen
  have hread : (if e.seRead then readLoop env e.reads s₁ else s₁).transport =
      s.transport.reported ((if e.seRead then readReport e.reads else none).or
        (if e.seOpen then some .connected else none)) := by
    by_cases hseRead : e.seRead = true
    · rw [if_pos hseRead, if_pos hseRead, transport_readLoop, hopen,
        DtlsTransport.reported_reported]
    · rw [if_neg hseRead, if_neg hseRead, hopen]
      rfl
  generalize (if e.seRead then readLoop env e.reads s₁ else s₁) = s₂ at hread
  rw [AdapterEvent.report]
  by_cases hclose : e.seClose = true
  · rw [if_pos hclose, if_pos hclose]
    have hclosed (state : DtlsTransportState) :
        (s₂.transport.reported (some state)) = s.transport.reported (some state) := by
      rw [hread, DtlsTransport.reported_reported]
      rfl
    split_ifs
    · exact (s₂.transport_setBoth env .closed {}).trans (hclosed .closed)
    · exact (s₂.transport_setBoth env .failed {}).trans (hclosed .failed)
  · rw [if_neg hclose, if_neg hclose]
    exact hread

theorem transport_adapter (e : AdapterEvent) : (s.step env (.adapter e)).transport =
    if s.transport.dtls.isSome then s.transport.reported e.report else s.transport := by
  rw [step]
  split_ifs
  · exact s.transport_onDtlsEvent env e
  · rfl

theorem transport_onDtlsEvents (es : List AdapterEvent) :
    (s.onDtlsEvents env es).transport = s.transport.reported (report es) := by
  rw [onDtlsEvents]
  induction es generalizing s with
  | nil => rfl
  | cons e es ih =>
    rw [List.foldl_cons, ih, transport_onDtlsEvent, DtlsTransport.reported_reported]
    rfl

theorem transport_handleDtlsPacket (data : ByteString) (answers : AdapterAnswers) :
    (s.handleDtlsPacket env data answers).1.transport =
      if dtlsRecords data then s.transport.reported (report answers.duringPacket)
      else s.transport := by
  rw [handleDtlsPacket]
  split_ifs
  · exact s.transport_onDtlsEvents env _
  · rfl

theorem transport_maybeStartDtls (iceWritable : Bool) (answers : AdapterAnswers) :
    (s.maybeStartDtls env iceWritable answers).transport =
      if s.transport.dtls.isSome && iceWritable then s.transport.started answers
      else s.transport := by
  by_cases hready : (s.transport.dtls.isSome && iceWritable) = true
  · rw [maybeStartDtls, if_pos hready, if_pos hready, DtlsTransport.started,
      ← transport_onDtlsEvents env]
    dsimp only
    generalize s.onDtlsEvents env answers.duringStart = s₁
    by_cases hfailed : answers.startSsl ≠ 0
    · rw [if_pos hfailed, if_pos hfailed, transport_setDtlsState]
    · rw [if_neg hfailed, if_neg hfailed]
      have hconnecting := s₁.transport_setDtlsState env .connecting {}
      generalize s₁.setDtlsState env .connecting {} = s₂ at hconnecting
      have hkept : s₂.transport.cachedClientHello = s₁.transport.cachedClientHello := by
        rw [hconnecting]
      rw [hkept]
      by_cases hcached : s₁.transport.cachedClientHello = []
      · rw [if_pos hcached, if_neg (not_not.mpr hcached), hconnecting]
      · rw [if_neg hcached, if_pos hcached, handleDtlsPacket]
        by_cases hrecords : dtlsRecords s₁.transport.cachedClientHello = true
        · rw [if_pos hrecords, if_pos hrecords, ← hconnecting,
            ← transport_onDtlsEvents env]
          rfl
        · rw [if_neg hrecords, if_neg hrecords]
          dsimp only
          rw [if_neg Bool.false_ne_true, modify, transport_setDtlsState, hconnecting]
  · rw [maybeStartDtls, if_neg hready, if_neg hready]

/-- The set-up goes on to `_maybe_start_dtls`. -/
def SetsUp (answers : AdapterAnswers) : Prop :=
  answers.create = true ∧
    ¬(s.transport.remoteFingerprintValue.length % 2 = 1 ∧
      (!answers.setPeerCertificateDigest) = true) ∧
    ¬(s.transport.srtpCiphers ≠ [] ∧ (!answers.setDtlsSrtpCryptoSuites) = true)

variable {env s}

theorem setupDtls_of_setsUp {answers : AdapterAnswers} (h : s.SetsUp answers)
    (iceWritable : Bool) : s.setupDtls env iceWritable answers =
      ((s.createAdapter true).maybeStartDtls env iceWritable answers, true) := by
  obtain ⟨hcreate, hdigest, hsuites⟩ := h
  rw [setupDtls, hcreate]
  exact (if_neg hdigest).trans (if_neg hsuites)

theorem setupDtls_of_not_setsUp {answers : AdapterAnswers} (h : ¬s.SetsUp answers)
    (iceWritable : Bool) : s.setupDtls env iceWritable answers =
      (s.createAdapter answers.create, false) := by
  rw [setupDtls]
  by_cases hcreate : answers.create = true
  · rw [hcreate]
    split_ifs with hfalse hdigest hsuites
    · rfl
    · rfl
    · rfl
    · exact absurd ⟨hcreate, hdigest, hsuites⟩ h
  · rw [Bool.eq_false_of_not_eq_true hcreate]
    rfl

end DtlsPair

/-! ## The flag and the state

Nothing is said of a transport on which DTLS has been turned off, and it is never turned on again.
`Attached` goes beside `Exact` in the induction: what the adapter reports only reaches a transport
that has an adapter, and without one it is neither connecting nor connected. -/

namespace DtlsTransport

variable {t : DtlsTransport} {iceWritable : Bool} {answers : AdapterAnswers}

/-- A transport with DTLS active is writable exactly when it is connected on a writable channel. -/
def Exact (t : DtlsTransport) (iceWritable : Bool) : Prop :=
  t.dtlsActive = true → (t.writable = true ↔ t.dtlsState = .connected ∧ iceWritable = true)

/-- A handshake that is complete when `StartSSL` returns is forgotten, unless the call fails or
the kept `ClientHello` is what completes it. -/
def StartSound (t : DtlsTransport) (answers : AdapterAnswers) : Prop :=
  report answers.duringStart = some .connected →
    answers.startSsl = 0 ∧ t.cachedClientHello ≠ [] ∧
      dtlsRecords t.cachedClientHello = true ∧ (report answers.duringPacket).isSome

/-- Neither connecting nor connected. -/
def Idle (t : DtlsTransport) : Prop := t.dtlsState ≠ .connecting ∧ t.dtlsState ≠ .connected

instance : Decidable t.Idle := inferInstanceAs (Decidable (_ ∧ _))

theorem Idle.of_eq (state : DtlsTransportState) (h : t.dtlsState = state)
    (hconnecting : state ≠ .connecting) (hconnected : state ≠ .connected) : t.Idle :=
  ⟨h ▸ hconnecting, h ▸ hconnected⟩

/-- Only a transport with an adapter is connecting or connected. -/
def Attached (t : DtlsTransport) : Prop := t.Idle ∨ t.dtls.isSome

theorem exact_iff_of_ne (h : t.dtlsState ≠ .connected) (hactive : t.dtlsActive = true) :
    t.Exact iceWritable ↔ t.writable = false := by
  rw [← Bool.not_eq_true, Exact]
  exact ⟨fun hexact hw ↦ h ((hexact hactive).mp hw).1,
    fun hw _ ↦ ⟨fun hw' ↦ absurd hw' hw, fun hconnected ↦ absurd hconnected.1 h⟩⟩

/-- A report is right, unless it says that the handshake on an unwritable channel is complete. -/
theorem exact_reported (hactive : t.dtlsActive = true) (h : t.Exact iceWritable)
    (r : Option DtlsTransportState) : (t.reported r).Exact iceWritable ↔
      (r = some .connected → iceWritable = true) := by
  rcases r with _ | state
  · exact ⟨fun _ hnone ↦ (Option.some_ne_none _ hnone.symm).elim, fun _ ↦ h⟩
  · have hwritable : (t.reported (some state)).writable = true ↔ state = .connected :=
      decide_eq_true_iff
    rw [Exact, dtlsActive_reported, hwritable, Option.some_inj]
    exact ⟨fun hexact hconnected ↦ ((hexact hactive).mp hconnected).2,
      fun hice _ ↦ ⟨fun hconnected ↦ ⟨hconnected, hice hconnected⟩, fun hboth ↦ hboth.1⟩⟩

theorem writable_reported (h : t.writable = false) (r : Option DtlsTransportState) :
    (t.reported r).writable = false ↔ r ≠ some .connected := by
  rcases r with _ | state
  · exact ⟨fun _ hnone ↦ Option.some_ne_none _ hnone.symm, fun _ ↦ h⟩
  · rw [Ne, Option.some_inj]
    exact decide_eq_false_iff_not

/-- `k_failed` does not reset the flag. -/
theorem exact_failed (hactive : t.dtlsActive = true) (h : t.Exact iceWritable)
    (r : Option DtlsTransportState) :
    { t.reported r with dtlsState := .failed }.Exact iceWritable ↔
      r ≠ some .connected ∧
        (r = none → ¬(t.dtlsState = .connected ∧ iceWritable = true)) := by
  refine (exact_iff_of_ne (fun heq ↦ ?_) ?_).trans ?_
  · cases heq
  · exact (t.dtlsActive_reported r).trans hactive
  · rcases r with _ | state
    · rw [← h hactive, Bool.not_eq_true]
      exact ⟨fun hw ↦ ⟨(Option.some_ne_none _).symm, fun _ ↦ hw⟩, fun hw ↦ hw.2 rfl⟩
    · rw [Ne, Option.some_inj]
      refine decide_eq_false_iff_not.trans ⟨fun hne ↦ ⟨hne, fun hnone ↦ ?_⟩, And.left⟩
      cases hnone

/-- As long as the transport is not connected, only the report of `StartSSL` counts. -/
theorem exact_iff_startSound {t' : DtlsTransport} (hactive : t'.dtlsActive = true)
    (hstate : t'.dtlsState ≠ .connected) (h : t.writable = false)
    (hwritable : t'.writable = (t.reported (report answers.duringStart)).writable)
    (hlost : ¬(answers.startSsl = 0 ∧ t.cachedClientHello ≠ [] ∧
      dtlsRecords t.cachedClientHello = true ∧ (report answers.duringPacket).isSome)) :
    t'.Exact iceWritable ↔ t.StartSound answers := by
  rw [exact_iff_of_ne hstate hactive, hwritable, writable_reported h]
  exact ⟨fun hne heq ↦ absurd heq hne, fun hsound heq ↦ hlost (hsound heq)⟩

theorem exact_started (hactive : t.dtlsActive = true) (h : t.writable = false) :
    (t.started answers).Exact true ↔ t.StartSound answers := by
  have hactive' := (t.dtlsActive_reported (report answers.duringStart)).trans hactive
  rw [started]
  dsimp only
  rw [cachedClientHello_reported]
  by_cases hfailed : answers.startSsl ≠ 0
  · rw [if_pos hfailed]
    exact exact_iff_startSound hactive' (fun hconnected ↦ by cases hconnected) h rfl
      fun hsound ↦ hfailed hsound.1
  rw [if_neg hfailed]
  by_cases hcached : t.cachedClientHello = []
  · rw [if_pos hcached]
    exact exact_iff_startSound hactive' (fun hconnected ↦ by cases hconnected) h rfl
      fun hsound ↦ hsound.2.1 hcached
  rw [if_neg hcached]
  by_cases hrecords : dtlsRecords t.cachedClientHello = true
  · rw [if_pos hrecords]
    rcases hreport : report answers.duringPacket with _ | state
    · refine exact_iff_startSound hactive' (fun hconnected ↦ by cases hconnected) h rfl ?_
      rw [hreport]
      exact fun hsound ↦ Bool.false_ne_true hsound.2.2.2
    · refine ⟨fun _ _ ↦ ⟨not_not.mp hfailed, hcached, hrecords, by rw [hreport]; rfl⟩, ?_⟩
      exact fun _ _ ↦ decide_eq_true_iff.trans (and_iff_left rfl).symm
  · rw [if_neg hrecords]
    exact exact_iff_startSound hactive' (fun hconnected ↦ by cases hconnected) h rfl
      fun hsound ↦ hrecords hsound.2.2.1

theorem dtls_started : (t.started answers).dtls = t.dtls := by
  rw [started]
  dsimp only
  split_ifs
  · exact t.dtls_reported _
  · exact t.dtls_reported _
  · exact (dtls_reported _ _).trans (t.dtls_reported _)
  · exact t.dtls_reported _

theorem dtlsActive_started : (t.started answers).dtlsActive = t.dtlsActive := by
  rw [started]
  dsimp only
  split_ifs
  · exact t.dtlsActive_reported _
  · exact t.dtlsActive_reported _
  · exact (dtlsActive_reported _ _).trans (t.dtlsActive_reported _)
  · exact t.dtlsActive_reported _

end DtlsTransport

namespace DtlsPair

variable {Ctx : Type} {env : DtlsEnv Ctx} {s : DtlsPair Ctx} {iceWritable : Bool}
  {answers : AdapterAnswers}

theorem exact_maybeStartDtls (hactive : s.transport.dtlsActive = true)
    (hstate : s.transport.dtlsState ≠ .connected) (h : s.transport.writable = false) :
    (s.maybeStartDtls env iceWritable answers).transport.Exact iceWritable ↔
      (s.transport.dtls.isSome = true → iceWritable = true → s.transport.StartSound answers) := by
  rw [transport_maybeStartDtls]
  by_cases hready : (s.transport.dtls.isSome && iceWritable) = true
  · rw [if_pos hready]
    obtain ⟨hsome, rfl⟩ := Bool.and_eq_true_iff.mp hready
    rw [DtlsTransport.exact_started hactive h]
    exact ⟨fun hsound _ _ ↦ hsound, fun hsound ↦ hsound hsome rfl⟩
  · rw [if_neg hready, DtlsTransport.exact_iff_of_ne hstate hactive]
    exact ⟨fun _ hsome hice ↦ absurd (Bool.and_eq_true_iff.mpr ⟨hsome, hice⟩) hready, fun _ ↦ h⟩

theorem exact_setupDtls (hactive : s.transport.dtlsActive = true)
    (hstate : s.transport.dtlsState ≠ .connected) (h : s.transport.writable = false) :
    (s.setupDtls env iceWritable answers).1.transport.Exact iceWritable ↔
      (s.SetsUp answers → iceWritable = true → s.transport.StartSound answers) := by
  by_cases hsetsUp : s.SetsUp answers
  · rw [setupDtls_of_setsUp hsetsUp]
    refine (exact_maybeStartDtls (s := s.createAdapter true) ?_ ?_ ?_).trans ?_
    · exact hactive
    · exact hstate
    · exact h
    exact ⟨fun hsound _ ↦ hsound rfl, fun hsound _ ↦ hsound hsetsUp⟩
  · obtain ⟨dtls, hcreate⟩ := s.exists_createAdapter answers.create
    rw [setupDtls_of_not_setsUp hsetsUp, hcreate]
    refine (DtlsTransport.exact_iff_of_ne ?_ ?_).trans ⟨fun _ hup ↦ absurd hup hsetsUp, fun _ ↦ ?_⟩
    · exact hstate
    · exact hactive
    · exact h

theorem attached_maybeStartDtls (h : s.transport.Attached) :
    (s.maybeStartDtls env iceWritable answers).transport.Attached := by
  rw [transport_maybeStartDtls]
  split_ifs with hready
  · refine .inr ?_
    rw [DtlsTransport.dtls_started]
    exact (Bool.and_eq_true_iff.mp hready).1
  · exact h

theorem attached_setupDtls (h : s.transport.Idle) :
    (s.setupDtls env iceWritable answers).1.transport.Attached := by
  by_cases hsetsUp : s.SetsUp answers
  · rw [setupDtls_of_setsUp hsetsUp]
    exact attached_maybeStartDtls (.inr rfl)
  · obtain ⟨dtls, hcreate⟩ := s.exists_createAdapter answers.create
    rw [setupDtls_of_not_setsUp hsetsUp, hcreate]
    exact .inl h

theorem dtlsActive_maybeStartDtls :
    (s.maybeStartDtls env iceWritable answers).transport.dtlsActive = s.transport.dtlsActive := by
  rw [transport_maybeStartDtls]
  split_ifs
  · exact DtlsTransport.dtlsActive_started
  · rfl

theorem dtlsActive_setupDtls :
    (s.setupDtls env iceWritable answers).1.transport.dtlsActive = s.transport.dtlsActive := by
  by_cases hsetsUp : s.SetsUp answers
  · rw [setupDtls_of_setsUp hsetsUp, dtlsActive_maybeStartDtls]
    rfl
  · obtain ⟨dtls, hcreate⟩ := s.exists_createAdapter answers.create
    rw [setupDtls_of_not_setsUp hsetsUp, hcreate]

/-! ### The handlers -/

theorem attached_onWritableState (h : s.transport.Attached) :
    (s.onWritableState env iceWritable answers).transport.Attached := by
  rw [onWritableState]
  split_ifs
  · rw [transport_setWritableState]
    exact h
  · split
    · exact attached_maybeStartDtls h
    · rw [transport_setWritableState]
      exact h
    · exact h

theorem dtlsActive_onWritableState :
    (s.onWritableState env iceWritable answers).transport.dtlsActive = s.transport.dtlsActive := by
  rw [onWritableState]
  split_ifs
  · rw [transport_setWritableState]
  · split
    · exact dtlsActive_maybeStartDtls
    · rw [transport_setWritableState]
    · rfl

theorem exact_onWritableState (hactive : s.transport.dtlsActive = true)
    (h : s.transport.Exact !iceWritable) :
    (s.onWritableState env iceWritable answers).transport.Exact iceWritable ↔
      (s.transport.dtlsState = .new → s.transport.dtls.isSome = true → iceWritable = true →
        s.transport.StartSound answers) := by
  have hnot : ¬(!s.transport.dtlsActive) = true := by simp [hactive]
  rw [onWritableState, if_neg hnot]
  by_cases hconnected : s.transport.dtlsState = .connected
  · rw [hconnected]
    apply iff_of_true
    · rw [transport_setWritableState]
      exact fun _ ↦ (and_iff_right hconnected).symm
    · intro hnew
      cases hnew
  · have hwritable := (DtlsTransport.exact_iff_of_ne hconnected hactive).mp h
    by_cases hnew : s.transport.dtlsState = .new
    · rw [hnew]
      refine (exact_maybeStartDtls hactive hconnected hwritable).trans ?_
      exact ⟨fun hsound _ ↦ hsound, fun hsound ↦ hsound rfl⟩
    · -- the signal is ignored
      apply iff_of_true
      · split
        · exact absurd ‹_› hnew
        · exact absurd ‹_› hconnected
        · exact (DtlsTransport.exact_iff_of_ne hconnected hactive).mpr hwritable
      · exact fun h ↦ absurd h hnew

/-- `_cached_client_hello.SetData`. -/
def keepHello (s : DtlsPair Ctx) (data : ByteString) : DtlsPair Ctx :=
  s.modify fun t ↦ { t with cachedClientHello := data }

theorem onReadPacket_of_new (hnew : s.transport.dtlsState = .new) (data : ByteString) (ts : ℤ) :
    s.onReadPacket env data ts iceWritable answers =
      if isDtlsClientHelloPacket data then
        if s.transport.dtls.isNone && s.transport.localCertificate.isSome then
          ((s.keepHello data).setupDtls env iceWritable answers).1
        else s.keepHello data
      else s := by
  rw [onReadPacket, hnew]
  rfl

theorem transport_onReadPacket (hnew : s.transport.dtlsState ≠ .new) (data : ByteString) (ts : ℤ) :
    (s.onReadPacket env data ts iceWritable answers).transport =
      if ¬s.transport.Idle ∧ isDtlsPacket data = true ∧ dtlsRecords data = true then
        s.transport.reported (report answers.duringPacket)
      else s.transport := by
  have hrecords (hidle : ¬s.transport.Idle) :
      (if isDtlsPacket data then (s.handleDtlsPacket env data answers).1
        else if s.transport.dtlsState ≠ .connected then s
        else if !DtlsTransport.isRtpPacket data then s
        else (s.signal (.readPacket data ts)).withSrtp
          (s.srtp.onReadPacket env.toSrtpEnv data ts)).transport =
        if ¬s.transport.Idle ∧ isDtlsPacket data = true ∧ dtlsRecords data = true then
          s.transport.reported (report answers.duringPacket)
        else s.transport := by
    by_cases hdtls : isDtlsPacket data = true
    · rw [if_pos hdtls, transport_handleDtlsPacket]
      simp only [hidle, hdtls, not_false_eq_true, true_and]
    · refine Eq.trans ?_ (if_neg fun h ↦ hdtls h.2.1).symm
      rw [if_neg hdtls]
      split_ifs <;> rfl
  rw [onReadPacket]
  rcases hstate : s.transport.dtlsState with _ | _ | _ | _ | _
  · exact absurd hstate hnew
  · rw [hstate] at hrecords
    exact hrecords fun hidle ↦ hidle.1 hstate
  · rw [hstate] at hrecords
    exact hrecords fun hidle ↦ hidle.2 hstate
  · exact (if_neg fun h ↦ h.1 (.of_eq _ hstate (by decide) (by decide))).symm
  · exact (if_neg fun h ↦ h.1 (.of_eq _ hstate (by decide) (by decide))).symm

theorem attached_onReadPacket (h : s.transport.Attached) (data : ByteString) (ts : ℤ) :
    (s.onReadPacket env data ts iceWritable answers).transport.Attached := by
  by_cases hnew : s.transport.dtlsState = .new
  · rw [onReadPacket_of_new hnew]
    split_ifs
    · exact attached_setupDtls (s := s.keepHello data) (.of_eq _ hnew (by decide) (by decide))
    · exact h
    · exact h
  · rw [transport_onReadPacket hnew]
    split_ifs with hpacket
    · refine .inr ?_
      rw [DtlsTransport.dtls_reported]
      exact h.resolve_left hpacket.1
    · exact h

theorem dtlsActive_onReadPacket (data : ByteString) (ts : ℤ) :
    (s.onReadPacket env data ts iceWritable answers).transport.dtlsActive =
      s.transport.dtlsActive := by
  by_cases hnew : s.transport.dtlsState = .new
  · rw [onReadPacket_of_new hnew]
    split_ifs
    · exact dtlsActive_setupDtls (s := s.keepHello data)
    · rfl
    · rfl
  · rw [transport_onReadPacket hnew]
    split_ifs
    · exact s.transport.dtlsActive_reported _
    · rfl

theorem exact_onReadPacket (hactive : s.transport.dtlsActive = true)
    (h : s.transport.Exact iceWritable) (data : ByteString) (ts : ℤ) :
    (s.onReadPacket env data ts iceWritable answers).transport.Exact iceWritable ↔
      if s.transport.dtlsState = .new then
        isDtlsClientHelloPacket data = true → s.transport.dtls.isNone = true →
          s.transport.localCertificate.isSome = true → s.SetsUp answers → iceWritable = true →
            { s.transport with cachedClientHello := data }.StartSound answers
      else
        ¬s.transport.Idle → isDtlsPacket data = true → dtlsRecords data = true →
          report answers.duringPacket = some .connected → iceWritable = true := by
  by_cases hnew : s.transport.dtlsState = .new
  · have hne : s.transport.dtlsState ≠ .connected := fun heq ↦ by cases hnew.symm.trans heq
    have hwritable := (DtlsTransport.exact_iff_of_ne hne hactive).mp h
    rw [if_pos hnew, onReadPacket_of_new hnew]
    by_cases hhello : isDtlsClientHelloPacket data = true
    · rw [if_pos hhello]
      by_cases hready : (s.transport.dtls.isNone && s.transport.localCertificate.isSome) = true
      · obtain ⟨hnone, hcert⟩ := Bool.and_eq_true_iff.mp hready
        rw [if_pos hready]
        refine (exact_setupDtls (s := s.keepHello data) hactive hne hwritable).trans ?_
        exact ⟨fun hsound _ _ _ ↦ hsound, fun hsound ↦ hsound hhello hnone hcert⟩
      · rw [if_neg hready]
        refine iff_of_true h fun _ hnone hcert ↦ ?_
        exact absurd (Bool.and_eq_true_iff.mpr ⟨hnone, hcert⟩) hready
    · rw [if_neg hhello]
      exact iff_of_true h fun hhello' ↦ absurd hhello' hhello
  · rw [if_neg hnew, transport_onReadPacket hnew]
    by_cases hpacket : ¬s.transport.Idle ∧ isDtlsPacket data = true ∧ dtlsRecords data = true
    · rw [if_pos hpacket, DtlsTransport.exact_reported hactive h]
      exact ⟨fun hice _ _ _ ↦ hice, fun hice ↦ hice hpacket.1 hpacket.2.1 hpacket.2.2⟩
    · rw [if_neg hpacket]
      exact iff_of_true h fun hidle hdtls hrecords ↦ absurd ⟨hidle, hdtls, hrecords⟩ hpacket

/-- The assignments of a new fingerprint. -/
def storeFingerprint (s : DtlsPair Ctx) (digestAlg digest : ByteString) : DtlsPair Ctx :=
  s.modify fun t ↦ { t with remoteFingerprintValue := digest, remoteFingerprintAlg := digestAlg }

/-- The old adapter is dropped. -/
def renew (env : DtlsEnv Ctx) (s : DtlsPair Ctx) : DtlsPair Ctx :=
  if s.transport.dtls.isSome then s.dropAdapter env else s

theorem setRemoteFingerprint_of_ne (hactive : s.transport.dtlsActive = true)
    {digestAlg digest : ByteString} (hne : s.transport.remoteFingerprintValue ≠ digest)
    (halg : digestAlg ≠ []) :
    (s.setRemoteFingerprint env digestAlg digest iceWritable answers).1 =
      if s.transport.dtls.isSome = true ∧ s.transport.remoteFingerprintValue = [] then
        if answers.setPeerCertificateDigest then
          (s.storeFingerprint digestAlg digest).onDtlsEvents env answers.duringDigest
        else ((s.storeFingerprint digestAlg digest).onDtlsEvents env
          answers.duringDigest).setDtlsState env .failed {}
      else
        let r := ((s.storeFingerprint digestAlg digest).renew env).setupDtls env iceWritable answers
        if r.2 then r.1 else r.1.setDtlsState env .failed {} := by
  have hnot : ¬(!s.transport.dtlsActive) = true := by simp [hactive]
  rw [setRemoteFingerprint, if_neg fun h ↦ hne h.2.1, if_neg halg, if_neg hnot]
  by_cases hfirst : s.transport.dtls.isSome = true ∧ s.transport.remoteFingerprintValue = []
  · have hlength : ¬s.transport.remoteFingerprintValue.length > 0 := by simp [hfirst.2]
    rw [if_pos hfirst]
    refine (congrArg Prod.fst (if_pos ⟨hfirst.1, hlength⟩)).trans ?_
    dsimp only
    by_cases hdigest : answers.setPeerCertificateDigest = true
    · rw [if_pos hdigest, hdigest]
      rfl
    · rw [if_neg hdigest, Bool.eq_false_of_not_eq_true hdigest]
      rfl
  · rw [if_neg hfirst]
    refine (congrArg Prod.fst (if_neg ?_)).trans ?_
    · exact fun hand ↦ hfirst ⟨hand.1, by simpa using hand.2⟩
    · change Prod.fst (
        let r := ((s.storeFingerprint digestAlg digest).renew env).setupDtls env iceWritable answers
        if r.2 then (r.1, true) else (r.1.setDtlsState env .failed {}, false)) = _
      dsimp only
      split_ifs <;> rfl

/-- After the old adapter has been dropped, nothing is connecting or connected. -/
theorem exists_transport_renew (env : DtlsEnv Ctx) (h : s.transport.Attached) :
    ∃ dtls dtlsState writable,
      (s.renew env).transport = { s.transport with dtls, dtlsState, writable } ∧
        (s.renew env).transport.Idle := by
  rw [renew]
  split_ifs with hsome
  · rw [dropAdapter, transport_setWritableState, transport_setDtlsState]
    exact ⟨none, .new, false, rfl, .of_eq .new rfl (by decide) (by decide)⟩
  · exact ⟨_, _, _, rfl, h.resolve_right hsome⟩

theorem writable_renew (env : DtlsEnv Ctx) (hactive : s.transport.dtlsActive = true)
    (h : s.transport.Attached) (hexact : s.transport.Exact iceWritable) :
    (s.renew env).transport.writable = false := by
  rw [renew]
  split_ifs with hsome
  · rw [dropAdapter, transport_setWritableState]
  · exact (DtlsTransport.exact_iff_of_ne (h.resolve_right hsome).2 hactive).mp hexact

/-- Any other call has no effect, or turns DTLS off. -/
theorem setRemoteFingerprint_ignored (env : DtlsEnv Ctx) (iceWritable : Bool)
    (answers : AdapterAnswers) {digestAlg digest : ByteString}
    (h : ¬(s.transport.dtlsActive = true ∧ s.transport.remoteFingerprintValue ≠ digest ∧
      digestAlg ≠ [])) :
    (s.setRemoteFingerprint env digestAlg digest iceWritable answers).1 = s ∨
      (s.setRemoteFingerprint env digestAlg digest iceWritable answers).1.transport =
        { s.transport with dtlsActive := false } := by
  rw [setRemoteFingerprint]
  have hnew (hsame : ¬(s.transport.dtlsActive = true ∧ s.transport.remoteFingerprintValue = digest ∧
      digestAlg ≠ [])) (halg : ¬digestAlg = []) (hactive : ¬(!s.transport.dtlsActive) = true) :
      False := by
    have hon : s.transport.dtlsActive = true := by simpa using hactive
    exact h ⟨hon, fun heq ↦ hsame ⟨hon, heq, halg⟩, halg⟩
  split_ifs with hsame halg hactive
  · exact .inl rfl
  · exact .inr rfl
  · exact .inl rfl
  all_goals exact (hnew hsame halg hactive).elim

theorem attached_setRemoteFingerprint (h : s.transport.Attached) (digestAlg digest : ByteString) :
    (s.setRemoteFingerprint env digestAlg digest iceWritable answers).1.transport.Attached := by
  by_cases hnew : s.transport.dtlsActive = true ∧ s.transport.remoteFingerprintValue ≠ digest ∧
    digestAlg ≠ []
  · rw [setRemoteFingerprint_of_ne hnew.1 hnew.2.1 hnew.2.2]
    have hreport : ((s.storeFingerprint digestAlg digest).onDtlsEvents env
        answers.duringDigest).transport.dtls = s.transport.dtls := by
      rw [transport_onDtlsEvents, DtlsTransport.dtls_reported]
      rfl
    obtain ⟨_, _, _, -, hidle⟩ :=
      exists_transport_renew (s := s.storeFingerprint digestAlg digest) env h
    have hsetup : (((s.storeFingerprint digestAlg digest).renew env).setupDtls env iceWritable
        answers).1.transport.Attached := attached_setupDtls hidle
    dsimp only
    split_ifs with hfirst hdigest hok
    · exact .inr (hreport ▸ hfirst.1)
    · refine .inr ?_
      rw [transport_setDtlsState]
      exact hreport ▸ hfirst.1
    · exact hsetup
    · rw [transport_setDtlsState]
      exact .inl (.of_eq .failed rfl (by decide) (by decide))
  · rcases setRemoteFingerprint_ignored env iceWritable answers hnew with heq | heq
    · rw [heq]
      exact h
    · rw [heq]
      exact h

theorem dtlsActive_setRemoteFingerprint (hactive : s.transport.dtlsActive = false)
    (digestAlg digest : ByteString) :
    (s.setRemoteFingerprint env digestAlg digest iceWritable answers).1.transport.dtlsActive =
      false := by
  have hnot : ¬(s.transport.dtlsActive = true ∧ s.transport.remoteFingerprintValue ≠ digest ∧
    digestAlg ≠ []) := fun h ↦ by cases hactive.symm.trans h.1
  rcases setRemoteFingerprint_ignored env iceWritable answers hnot with heq | heq
  · rw [heq]
    exact hactive
  · rw [heq]

theorem exact_renew_setupDtls (hactive : s.transport.dtlsActive = true)
    (hattached : s.transport.Attached) (h : s.transport.Exact iceWritable)
    (digestAlg digest : ByteString) :
    (let r := ((s.storeFingerprint digestAlg digest).renew env).setupDtls env iceWritable answers
      if r.2 then r.1 else r.1.setDtlsState env .failed {}).transport.Exact iceWritable ↔
      ((s.modify fun t ↦ { t with remoteFingerprintValue := digest }).SetsUp answers →
        iceWritable = true → s.transport.StartSound answers) := by
  have hexact : (s.storeFingerprint digestAlg digest).transport.Exact iceWritable := h
  have hwritable := writable_renew (s := s.storeFingerprint digestAlg digest) env hactive
    hattached hexact
  obtain ⟨dtls, dtlsState, writable, htransport, hidle⟩ :=
    exists_transport_renew (s := s.storeFingerprint digestAlg digest) env hattached
  have hactive' :
      ((s.storeFingerprint digestAlg digest).renew env).transport.dtlsActive = true := by
    rw [htransport]
    exact hactive
  have hsetup : (((s.storeFingerprint digestAlg digest).renew env).setupDtls env iceWritable
      answers).1.transport.Exact iceWritable ↔ _ := exact_setupDtls hactive' hidle.2 hwritable
  have hsets : ((s.storeFingerprint digestAlg digest).renew env).SetsUp answers ↔
      (s.modify fun t ↦ { t with remoteFingerprintValue := digest }).SetsUp answers := by
    rw [SetsUp, htransport]
    rfl
  have hsound : ((s.storeFingerprint digestAlg digest).renew env).transport.StartSound answers ↔
      s.transport.StartSound answers := by
    rw [htransport]
    rfl
  rw [← hsets, ← hsound, ← hsetup]
  by_cases hsetsUp : ((s.storeFingerprint digestAlg digest).renew env).SetsUp answers
  · rw [setupDtls_of_setsUp hsetsUp]
    rfl
  · obtain ⟨dtls', hcreate⟩ :=
      ((s.storeFingerprint digestAlg digest).renew env).exists_createAdapter answers.create
    refine iff_of_true ?_ (hsetup.mpr fun hup ↦ absurd hup hsetsUp)
    rw [setupDtls_of_not_setsUp hsetsUp]
    dsimp only
    rw [if_neg Bool.false_ne_true, transport_setDtlsState, hcreate]
    refine (DtlsTransport.exact_iff_of_ne (fun heq ↦ ?_) ?_).mpr ?_
    · cases heq
    · exact hactive'
    · exact hwritable

theorem exact_setRemoteFingerprint (hactive : s.transport.dtlsActive = true)
    (hattached : s.transport.Attached) (h : s.transport.Exact iceWritable)
    (digestAlg digest : ByteString) :
    (s.setRemoteFingerprint env digestAlg digest iceWritable answers).1.transport.Exact
        iceWritable ↔
      (s.transport.remoteFingerprintValue ≠ digest → digestAlg ≠ [] →
        if s.transport.dtls.isSome = true ∧ s.transport.remoteFingerprintValue = [] then
          if answers.setPeerCertificateDigest then
            report answers.duringDigest = some .connected → iceWritable = true
          else
            report answers.duringDigest ≠ some .connected ∧
              (report answers.duringDigest = none →
                ¬(s.transport.dtlsState = .connected ∧ iceWritable = true))
        else
          (s.modify fun t ↦ { t with remoteFingerprintValue := digest }).SetsUp answers →
            iceWritable = true → s.transport.StartSound answers) := by
  by_cases hnew : s.transport.dtlsActive = true ∧ s.transport.remoteFingerprintValue ≠ digest ∧
    digestAlg ≠ []
  · rw [setRemoteFingerprint_of_ne hnew.1 hnew.2.1 hnew.2.2, forall_prop_of_true hnew.2.1,
      forall_prop_of_true hnew.2.2]
    by_cases hfirst : s.transport.dtls.isSome = true ∧ s.transport.remoteFingerprintValue = []
    · rw [if_pos hfirst, if_pos hfirst]
      have hevents : ((s.storeFingerprint digestAlg digest).onDtlsEvents env
          answers.duringDigest).transport = (s.storeFingerprint digestAlg digest).transport.reported
            (report answers.duringDigest) := transport_onDtlsEvents ..
      by_cases hdigest : answers.setPeerCertificateDigest = true
      · rw [if_pos hdigest, if_pos hdigest, hevents]
        exact DtlsTransport.exact_reported (t := (s.storeFingerprint digestAlg digest).transport)
          hactive h _
      · rw [if_neg hdigest, if_neg hdigest, transport_setDtlsState, hevents]
        exact DtlsTransport.exact_failed (t := (s.storeFingerprint digestAlg digest).transport)
          hactive h _
    · rw [if_neg hfirst, if_neg hfirst]
      exact exact_renew_setupDtls hactive hattached h digestAlg digest
  · have hignored : ¬(s.transport.remoteFingerprintValue ≠ digest ∧ digestAlg ≠ []) :=
      fun hboth ↦ hnew ⟨hactive, hboth⟩
    refine iff_of_true ?_ fun hne halg ↦ absurd ⟨hne, halg⟩ hignored
    rcases setRemoteFingerprint_ignored env iceWritable answers hnew with heq | heq
    · rw [heq]
      exact h
    · rw [heq]
      exact fun hoff ↦ absurd hoff Bool.false_ne_true

end DtlsPair

/-! ## A transport on its channel

The handlers read `_ice_channel->writable()` and are told of a change by a signal. `DtlsChannel` has
the flag of the channel beside the transport, so that both sides of `Exact` belong to one state, and
setting the flag to what it is signals nothing. -/

/-- A transport with its ICE channel. -/
structure DtlsChannel (Ctx : Type) where
  pair : DtlsPair Ctx
  iceWritable : Bool

/-- What happens to the two. -/
inductive DtlsChannelEvent
  /-- `_set_writable` of the channel. -/
  | setWritable (writable : Bool) (answers : AdapterAnswers)
  | readPacket (data : ByteString) (ts : ℤ) (answers : AdapterAnswers)
  | receivingState (receiving : Bool)
  | adapter (e : AdapterEvent)
  | setRemoteFingerprint (digestAlg digest : ByteString) (answers : AdapterAnswers)
  | sendRtp (data : ByteString)
  | sendRtcp (data : ByteString)

namespace DtlsChannel

variable {Ctx : Type} {env : DtlsEnv Ctx} {c : DtlsChannel Ctx}

/-- The handler of one event; the channel only signals a change. -/
def step (env : DtlsEnv Ctx) (c : DtlsChannel Ctx) : DtlsChannelEvent → DtlsChannel Ctx
  | .setWritable writable answers =>
    if c.iceWritable = writable then c
    else ⟨c.pair.onWritableState env writable answers, writable⟩
  | .readPacket data ts answers =>
    { c with pair := c.pair.onReadPacket env data ts c.iceWritable answers }
  | .receivingState receiving => { c with pair := c.pair.setReceiving receiving }
  | .adapter e => { c with pair := c.pair.step env (.adapter e) }
  | .setRemoteFingerprint digestAlg digest answers =>
    { c with pair := (c.pair.setRemoteFingerprint env digestAlg digest c.iceWritable answers).1 }
  | .sendRtp data => { c with pair := c.pair.step env (.sendRtp data) }
  | .sendRtcp data => { c with pair := c.pair.step env (.sendRtcp data) }

/-- A transport that has been given its certificate. -/
def init (Ctx : Type) (srtpCiphers : List ℤ) (cert : ℕ) (iceWritable : Bool) : DtlsChannel Ctx where
  pair := ((DtlsPair.init Ctx srtpCiphers).setLocalCertificate (some cert)).1
  iceWritable

/-- The transport is writable when it should be. -/
def Exact (c : DtlsChannel Ctx) : Prop := c.pair.transport.Exact c.iceWritable

/-- What the adapter reports agrees with the channel. -/
def Faithful (c : DtlsChannel Ctx) (e : DtlsChannelEvent) : Prop :=
  let t := c.pair.transport
  t.dtlsActive = true →
    match e with
    | .setWritable writable answers =>
      -- the channel becomes writable before DTLS has been started
      c.iceWritable ≠ writable → t.dtlsState = .new → t.dtls.isSome = true → writable = true →
        t.StartSound answers
    | .readPacket data _ answers =>
      if t.dtlsState = .new then
        isDtlsClientHelloPacket data = true → t.dtls.isNone = true →
          t.localCertificate.isSome = true → c.pair.SetsUp answers → c.iceWritable = true →
            { t with cachedClientHello := data }.StartSound answers
      else
        ¬t.Idle → isDtlsPacket data = true → dtlsRecords data = true →
          report answers.duringPacket = some .connected → c.iceWritable = true
    | .adapter e => t.dtls.isSome = true → e.report = some .connected → c.iceWritable = true
    | .setRemoteFingerprint digestAlg digest answers =>
      t.remoteFingerprintValue ≠ digest → digestAlg ≠ [] →
        if t.dtls.isSome = true ∧ t.remoteFingerprintValue = [] then
          if answers.setPeerCertificateDigest then
            report answers.duringDigest = some .connected → c.iceWritable = true
          else
            -- the state will be `k_failed`
            report answers.duringDigest ≠ some .connected ∧
              (report answers.duringDigest = none →
                ¬(t.dtlsState = .connected ∧ c.iceWritable = true))
        else
          (c.pair.modify fun t ↦ { t with remoteFingerprintValue := digest }).SetsUp answers →
            c.iceWritable = true → t.StartSound answers
    | _ => True

theorem attached_step (h : c.pair.transport.Attached) (e : DtlsChannelEvent) :
    (c.step env e).pair.transport.Attached := by
  cases e with
  | setWritable writable answers =>
    rw [step]
    split_ifs
    · exact h
    · exact DtlsPair.attached_onWritableState h
  | readPacket data ts answers => exact DtlsPair.attached_onReadPacket h data ts
  | receivingState receiving =>
    rw [step, DtlsPair.transport_setReceiving]
    exact h
  | adapter e =>
    rw [step, DtlsPair.transport_adapter]
    split_ifs with hsome
    · refine .inr ?_
      rw [DtlsTransport.dtls_reported]
      exact hsome
    · exact h
  | setRemoteFingerprint digestAlg digest answers =>
    exact DtlsPair.attached_setRemoteFingerprint h digestAlg digest
  | sendRtp data => exact h
  | sendRtcp data => exact h

/-- DTLS is not turned on again. -/
theorem dtlsActive_step (env : DtlsEnv Ctx) (h : c.pair.transport.dtlsActive = false)
    (e : DtlsChannelEvent) : (c.step env e).pair.transport.dtlsActive = false := by
  cases e with
  | setWritable writable answers =>
    rw [step]
    split_ifs
    · exact h
    · exact DtlsPair.dtlsActive_onWritableState.trans h
  | readPacket data ts answers => exact (DtlsPair.dtlsActive_onReadPacket data ts).trans h
  | receivingState receiving =>
    rw [step, DtlsPair.transport_setReceiving]
    exact h
  | adapter e =>
    rw [step, DtlsPair.transport_adapter]
    split_ifs
    · exact (DtlsTransport.dtlsActive_reported _ _).trans h
    · exact h
  | setRemoteFingerprint digestAlg digest answers =>
    exact DtlsPair.dtlsActive_setRemoteFingerprint h digestAlg digest
  | sendRtp data => exact h
  | sendRtcp data => exact h

/-- **One event** keeps the flag right exactly when the adapter's reports agree with the
channel. -/
theorem exact_step_iff (hattached : c.pair.transport.Attached) (h : c.Exact)
    (e : DtlsChannelEvent) : (c.step env e).Exact ↔ c.Faithful e := by
  by_cases hactive : c.pair.transport.dtlsActive = true
  · refine Iff.trans ?_ (forall_prop_of_true hactive).symm
    cases e with
    | setWritable writable answers =>
      by_cases hsame : c.iceWritable = writable
      · rw [step, if_pos hsame]
        exact iff_of_true h fun hne ↦ absurd hsame hne
      · rw [step, if_neg hsame]
        refine Iff.trans ?_ (forall_prop_of_true hsame).symm
        refine DtlsPair.exact_onWritableState hactive ?_
        rw [Exact, Bool.eq_not_of_ne hsame] at h
        exact h
    | readPacket data ts answers => exact DtlsPair.exact_onReadPacket hactive h data ts
    | receivingState receiving =>
      refine iff_of_true ?_ trivial
      rw [Exact, step, DtlsPair.transport_setReceiving]
      exact h
    | adapter e =>
      rw [Exact, step, DtlsPair.transport_adapter]
      by_cases hsome : c.pair.transport.dtls.isSome = true
      · rw [if_pos hsome]
        refine (DtlsTransport.exact_reported hactive h _).trans ?_
        exact ⟨fun hice _ ↦ hice, fun hice ↦ hice hsome⟩
      · rw [if_neg hsome]
        exact iff_of_true h fun hsome' ↦ absurd hsome' hsome
    | setRemoteFingerprint digestAlg digest answers =>
      exact DtlsPair.exact_setRemoteFingerprint hactive hattached h digestAlg digest
    | sendRtp data => exact iff_of_true h trivial
    | sendRtcp data => exact iff_of_true h trivial
  · have hoff := dtlsActive_step env (Bool.eq_false_of_not_eq_true hactive) e
    refine iff_of_true (fun hon ↦ ?_) fun hon ↦ absurd hon hactive
    cases hoff.symm.trans hon

/-- **The writability of a transport** is that of a complete handshake on a writable channel,
throughout a run, if and only if what the adapter reports always agrees with the channel. -/
theorem forall_exact_iff (env : DtlsEnv Ctx) (srtpCiphers : List ℤ) (cert : ℕ)
    (iceWritable : Bool) (es : List DtlsChannelEvent) :
    (∀ fs, fs <+: es → (exec (step env) (init Ctx srtpCiphers cert iceWritable) fs).Exact) ↔
      Along (step env) Faithful (init Ctx srtpCiphers cert iceWritable) es := by
  refine forall_prefix_iff_along (I := fun c : DtlsChannel Ctx ↦ c.pair.transport.Attached)
    (fun c e hc ↦ attached_step hc e) (fun c e hc hexact ↦ exact_step_iff hc hexact e) ?_ ?_ es
  · exact .inl (.of_eq .new rfl (by decide) (by decide))
  · refine fun _ ↦ ⟨fun hwritable ↦ ?_, fun ⟨hconnected, _⟩ ↦ ?_⟩
    · cases hwritable
    · cases hconnected

/-- The channel becomes unwritable while the transport is connecting, and the handshake is
completed by a packet that still arrives. -/
def lostChannelRun : List DtlsChannelEvent :=
  [.setRemoteFingerprint (lit "sha-256") (List.replicate 32 7) {},
    .setWritable true {},
    .setWritable false {},
    .readPacket [22, 254, 253, 0, 0, 0, 0, 0, 0, 0, 1, 0, 1, 14] 0
      { duringPacket := [{ seOpen := true }] }]

/-- After `lostChannelRun` the transport is writable and its channel is not. -/
theorem not_exact : ¬∀ (Ctx : Type) (env : DtlsEnv Ctx) (srtpCiphers : List ℤ) (cert : ℕ)
    (iceWritable : Bool) (es : List DtlsChannelEvent),
    (exec (step env) (init Ctx srtpCiphers cert iceWritable) es).Exact := by
  intro h
  have hexact := h ByteString sampleDtlsEnv [1] 0 false lostChannelRun
  cases ((hexact (by decide +kernel)).mp (by decide +kernel)).2

end DtlsChannel

end XrtcServer
