import XrtcServer.Pc.SrtpKeys

/-!
# The fingerprint of a new adapter

`_setup_dtls` gives a new adapter the fingerprint of the answer, if there is one, and should not go
on when the adapter refuses it. The test is

  `_remote_fingerprint_value.size() & !_dtls->SetPeerCertificateDigest(..)`

with one `&` where two were meant. So the call is made in any case, also without a fingerprint, and
of the size only the last bit counts: the refusal of a fingerprint of even length, as all common
digests are, goes unnoticed.

`setupDtlsLogged` is `setupDtls` with a record of the calls on the adapter.
-/

namespace XrtcServer

/-- The calls of `_setup_dtls` on the adapter that can fail. -/
inductive AdapterCall
  | setPeerCertificateDigest (digestAlg digest : ByteString)
  | setDtlsSrtpCryptoSuites (suites : List ℤ)
  | startSsl
deriving DecidableEq

namespace DtlsPair

variable {Ctx : Type} (env : DtlsEnv Ctx) (s : DtlsPair Ctx) (iceWritable : Bool)
  (answers : AdapterAnswers)

/-- `maybeStartDtls` with its calls. -/
def maybeStartDtlsLogged : DtlsPair Ctx × List AdapterCall :=
  (s.maybeStartDtls env iceWritable answers,
    if s.transport.dtls.isSome && iceWritable then [.startSsl] else [])

/-- `setupDtls` with its calls. Both sides of the `&` are evaluated. -/
def setupDtlsLogged : (DtlsPair Ctx × Bool) × List AdapterCall :=
  let s := s.createAdapter answers.create
  if !answers.create then ((s, false), [])
  else
    let t := s.transport
    let calls := [.setPeerCertificateDigest t.remoteFingerprintAlg t.remoteFingerprintValue]
    if t.remoteFingerprintValue.length % 2 = 1 ∧ !answers.setPeerCertificateDigest then
      ((s, false), calls)
    else
      let calls := if t.srtpCiphers ≠ [] then calls ++ [.setDtlsSrtpCryptoSuites t.srtpCiphers]
        else calls
      if t.srtpCiphers ≠ [] ∧ !answers.setDtlsSrtpCryptoSuites then ((s, false), calls)
      else
        let (s, started) := s.maybeStartDtlsLogged env iceWritable answers
        ((s, true), calls ++ started)

theorem setupDtlsLogged_fst : (s.setupDtlsLogged env iceWritable answers).1 =
    s.setupDtls env iceWritable answers := by
  rw [setupDtlsLogged, setupDtls]
  dsimp only
  split_ifs <;> rfl

/-- A fingerprint that the adapter refuses ends the set-up before DTLS is started, and without a
fingerprint none is installed. -/
structure HonoursFingerprint : Prop where
  refused : s.transport.remoteFingerprintValue ≠ [] → answers.create = true →
    answers.setPeerCertificateDigest = false → (s.setupDtls env iceWritable answers).2 = false ∧
      .startSsl ∉ (s.setupDtlsLogged env iceWritable answers).2
  unknown : s.transport.remoteFingerprintValue = [] → ∀ digestAlg digest,
    .setPeerCertificateDigest digestAlg digest ∉ (s.setupDtlsLogged env iceWritable answers).2

/-- The set-up ends at the crypto suites. -/
def SuitesRefused : Prop :=
  s.transport.srtpCiphers ≠ [] ∧ answers.setDtlsSrtpCryptoSuites = false

variable {env s iceWritable answers}

theorem exists_createAdapter (ok : Bool) :
    ∃ dtls, (s.createAdapter ok).transport = { s.transport with dtls } := by
  rw [createAdapter]
  split_ifs
  · exact ⟨_, rfl⟩
  · exact ⟨_, rfl⟩

/-- The first call on a new adapter is that with the fingerprint. -/
theorem setPeerCertificateDigest_mem (h : answers.create = true) :
    .setPeerCertificateDigest s.transport.remoteFingerprintAlg s.transport.remoteFingerprintValue ∈
      (s.setupDtlsLogged env iceWritable answers).2 := by
  obtain ⟨dtls, hcreate⟩ := s.exists_createAdapter answers.create
  have hnot : ¬(!answers.create) = true := by simp [h]
  rw [setupDtlsLogged]
  dsimp only
  rw [if_neg hnot, hcreate]
  split_ifs <;> simp

theorem setupDtls_of_odd (h : answers.setPeerCertificateDigest = false)
    (hodd : s.transport.remoteFingerprintValue.length % 2 = 1) :
    (s.setupDtls env iceWritable answers).2 = false ∧
      .startSsl ∉ (s.setupDtlsLogged env iceWritable answers).2 := by
  obtain ⟨dtls, hcreate⟩ := s.exists_createAdapter answers.create
  have hnoticed : (s.createAdapter answers.create).transport.remoteFingerprintValue.length % 2 = 1 ∧
      (!answers.setPeerCertificateDigest) = true := by
    rw [hcreate]
    exact ⟨hodd, by rw [h]; rfl⟩
  rw [← setupDtlsLogged_fst, setupDtlsLogged]
  dsimp only
  rw [if_pos hnoticed]
  split_ifs
  · exact ⟨rfl, by simp⟩
  · exact ⟨rfl, by simp⟩

theorem setupDtls_of_suitesRefused (h : s.SuitesRefused answers) :
    (s.setupDtls env iceWritable answers).2 = false ∧
      .startSsl ∉ (s.setupDtlsLogged env iceWritable answers).2 := by
  obtain ⟨dtls, hcreate⟩ := s.exists_createAdapter answers.create
  have hrefused : (s.createAdapter answers.create).transport.srtpCiphers ≠ [] ∧
      (!answers.setDtlsSrtpCryptoSuites) = true := by
    rw [hcreate]
    exact ⟨h.1, by rw [h.2]; rfl⟩
  rw [← setupDtlsLogged_fst, setupDtlsLogged]
  dsimp only
  rw [if_pos hrefused, if_pos hrefused.1]
  split_ifs
  · exact ⟨rfl, by simp⟩
  · exact ⟨rfl, by simp⟩
  · exact ⟨rfl, by simp⟩

/-- What is not noticed does not end the set-up. -/
theorem setupDtls_of_even (h : answers.create = true)
    (heven : ¬s.transport.remoteFingerprintValue.length % 2 = 1)
    (hsuites : ¬s.SuitesRefused answers) : (s.setupDtls env iceWritable answers).2 = true := by
  obtain ⟨dtls, hcreate⟩ := s.exists_createAdapter answers.create
  have hnot : ¬(!answers.create) = true := by simp [h]
  have haccepted : ¬(s.transport.srtpCiphers ≠ [] ∧
      (!answers.setDtlsSrtpCryptoSuites) = true) := fun ⟨hciphers, hrefused⟩ ↦
    hsuites ⟨hciphers, Bool.not_eq_true' _ ▸ hrefused⟩
  rw [setupDtls, if_neg hnot, hcreate, if_neg (fun hodd ↦ heven hodd.1), if_neg haccepted]

/-- **The fingerprint is honoured** only if there is one, and its refusal only if it has an odd
length, or if the suites are refused as well. -/
theorem honoursFingerprint_iff (env : DtlsEnv Ctx) (s : DtlsPair Ctx) (iceWritable : Bool)
    (answers : AdapterAnswers) : s.HonoursFingerprint env iceWritable answers ↔
      (answers.create = true → s.transport.remoteFingerprintValue ≠ [] ∧
        (answers.setPeerCertificateDigest = true ∨
          s.transport.remoteFingerprintValue.length % 2 = 1 ∨ s.SuitesRefused answers)) := by
  constructor
  · intro h hcreate
    have hne : s.transport.remoteFingerprintValue ≠ [] := fun hnil ↦
      h.unknown hnil _ _ (setPeerCertificateDigest_mem hcreate)
    refine ⟨hne, ?_⟩
    by_contra hnot
    rw [not_or, not_or, Bool.not_eq_true] at hnot
    obtain ⟨hdigest, heven, hsuites⟩ := hnot
    have hrefused := (h.refused hne hcreate hdigest).1
    rw [setupDtls_of_even hcreate heven hsuites] at hrefused
    cases hrefused
  · intro h
    refine ⟨fun _ hcreate hdigest ↦ ?_, fun hnil digestAlg digest hmem ↦ ?_⟩
    · rcases (h hcreate).2 with hok | hodd | hsuites
      · rw [hdigest] at hok
        cases hok
      · exact setupDtls_of_odd hdigest hodd
      · exact setupDtls_of_suitesRefused hsuites
    · by_cases hcreate : answers.create = true
      · exact (h hcreate).1 hnil
      · rw [setupDtlsLogged, Bool.eq_false_of_not_eq_true hcreate] at hmem
        cases hmem

/-- A transport that knows the SHA-256 digest of its peer. -/
def sha256Pair : DtlsPair ByteString :=
  ((DtlsPair.init ByteString [1]).setLocalCertificate (some 0)).1.modify fun t ↦
    { t with remoteFingerprintAlg := lit "sha-256", remoteFingerprintValue := List.replicate 32 7 }

/-- The digest is refused and DTLS is started. -/
theorem not_honoursFingerprint :
    ¬∀ (Ctx : Type) (env : DtlsEnv Ctx) (s : DtlsPair Ctx) (iceWritable : Bool)
      (answers : AdapterAnswers), s.HonoursFingerprint env iceWritable answers := by
  intro h
  have hrefused := (h ByteString sampleDtlsEnv sha256Pair true
    { setPeerCertificateDigest := false }).refused (by decide) rfl rfl
  exact absurd hrefused (by decide)

end DtlsPair

end XrtcServer
