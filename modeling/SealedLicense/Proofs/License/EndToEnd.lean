import Mathlib
import SealedLicense.License.Signer
import SealedLicense.License.Verifier
import SealedLicense.Proofs.Artifact.Compact
import SealedLicense.Proofs.Artifact.Json
import SealedLicense.Proofs.KeyFile.RoundTrip
import SealedLicense.Bytes

namespace SealedLicense

theorem Signer.privateKey_result {s : Signer} {file : Bytes} {k : RSA.PrivateKey} (hf : s.holder.file = .ok file)
    (hk : KeyFile.decodePrivateKey file s.holder.passphrase = .ok k) : s.privateKey.result = .ok k := by
  simp only [privateKey, Outcome.result_bind, Outcome.result_request, hf, Except.bind, hk]
  rfl

theorem Verifier.publicKey_result {v : Verifier} {file : Bytes} {k : RSA.PublicKey} (hf : v.holder.file = .ok file)
    (hk : KeyFile.decodePublicKey file v.holder.passphrase = .ok k) : v.publicKey.result = .ok k := by
  simp only [publicKey, Outcome.result_bind, Outcome.result_request, hf, Except.bind, hk]
  rfl

theorem Signer.sign_result_iff {s : Signer} {k : RSA.PrivateKey} (hk : s.privateKey.result = .ok k) (filler : Filler)
    (payload : Bytes) (p : Option Passphrase) (a : Artifact) :
    (s.sign filler payload p).result = .ok a ↔
      sealBytes filler payload p = .ok a.payload ∧
        SealedLicense.sign k s.parameters.digest a.payload = .ok a.signature := by
  simp only [sign, Outcome.result_bind, Outcome.result_ofExcept, Outcome.result_report, Outcome.result_pure, hk,
    bind_eq_ok_iff, mapError_eq_ok_iff]
  constructor
  · rintro ⟨_, ⟨⟩, encrypted, he, signature, hs, -, -, ⟨⟩⟩
    exact ⟨he, hs⟩
  · rintro ⟨he, hs⟩
    exact ⟨k, rfl, a.payload, he, a.signature, hs, (), trivial, rfl⟩

theorem Verifier.verify_result {v : Verifier} {k : RSA.PublicKey} {a : Artifact} (hk : v.publicKey.result = .ok k)
    (hs : SealedLicense.verify k v.parameters.digest a.payload a.signature = .ok ()) :
    (v.verify a).result = .ok () := by
  simp only [verify, Outcome.result_bind, hk, Except.bind, hs]
  rfl

theorem Verifier.verify_result_of_error {v : Verifier} {k : RSA.PublicKey} {a : Artifact} {error : SigningError}
    (hk : v.publicKey.result = .ok k)
    (hs : SealedLicense.verify k v.parameters.digest a.payload a.signature = .error error) :
    (v.verify a).result = .error (.ofSigning error) := by
  simp only [verify, Outcome.result_bind, hk, Except.bind, hs]
  rfl

theorem Verifier.openArtifact_result_of_error {v : Verifier} {a : Artifact} {error : LicenseError}
    (hv : (v.verify a).result = .error error) (p : Option Passphrase) :
    (v.openArtifact a p).result = .error error := by
  simp only [openArtifact, Outcome.result_bind, hv, Except.bind]

theorem Verifier.openArtifact_result {v : Verifier} {a : Artifact} {p : Option Passphrase} {payload : Bytes}
    (hv : (v.verify a).result = .ok ()) (ho : openBytes a.payload p = .ok payload) :
    (v.openArtifact a p).result = .ok payload := by
  simp only [openArtifact, Outcome.result_bind, Outcome.result_ofExcept, Outcome.result_report, Outcome.result_pure, hv,
    ho, Except.bind, Except.mapError]

theorem sealBytes_ne_nil {filler : Filler} {data sealed : Bytes} {p : Option Passphrase}
    (h : sealBytes filler data p = .ok sealed) : sealed ≠ [] := by
  cases hc : Cipher.choose p with
  | error e =>
    rw [sealBytes, hc] at h
    cases h
  | ok c =>
    rw [sealBytes_of_choose hc] at h
    cases h
    intro hn
    have hl := Codebook.length_encrypt c.key.block (Cipher.padded filler data)
    rw [hn, List.length_nil] at hl
    omega

theorem signature_ne_nil {k : RSA.PrivateKey} {g : Digest} {message signature : Bytes}
    (h : sign k g message = .ok signature) : signature ≠ [] := by
  rintro rfl
  have hl := length_of_sign h
  rw [List.length_nil] at hl
  omega

theorem Signer.exists_artifact {s : Signer} {k : RSA.PrivateKey} (hk : s.privateKey.result = .ok k) (hp : k.p.Prime)
    (hq : k.q.Prime) (hne : k.p ≠ k.q)
    (hfits : ∀ message, (s.parameters.digest.info message).length + 11 ≤ k.octets) (filler : Filler) (payload : Bytes)
    {p : Option Passphrase} (hprintable : ∀ q ∈ p, q.Printable) :
    ∃ a, (s.sign filler payload p).result = .ok a := by
  obtain ⟨c, hc⟩ := Cipher.choose_of_printable hprintable
  have hsealed := sealBytes_of_choose hc filler payload
  have hsigned := sign_of_key_sign (RSA.PrivateKey.sign_of_primes hp hq hne (hfits
    (Codebook.encrypt c.key.block (Cipher.padded filler payload))))
  exact ⟨⟨_, _⟩, (Signer.sign_result_iff hk filler payload p ⟨_, _⟩).2 ⟨hsealed, hsigned⟩⟩

theorem signed_license_opens {s : Signer} {v : Verifier} (hg : s.parameters.digest = v.parameters.digest)
    {privateFile publicFile : Bytes} {k : RSA.PrivateKey} (hs : s.holder.file = .ok privateFile)
    (hk : KeyFile.decodePrivateKey privateFile s.holder.passphrase = .ok k) (hv : v.holder.file = .ok publicFile)
    (hp : KeyFile.decodePublicKey publicFile v.holder.passphrase = .ok k.toPublicKey) (filler : Filler)
    (payload : Bytes) (p : Option Passphrase) {a : Artifact} (ha : (s.sign filler payload p).result = .ok a) :
    (v.verify a).result = .ok () ∧ (v.openArtifact a p).result = .ok payload ∧
      (∀ front back, (∀ c ∈ front, Text.isBlank c = true) → (∀ c ∈ back, Text.isBlank c = true) →
        Artifact.ofCompact (front ++ a.toCompact ++ back) = .ok a) ∧
      Artifact.ofJson a.toJson = .ok a := by
  obtain ⟨hsealed, hsigned⟩ := (Signer.sign_result_iff (Signer.privateKey_result hs hk) filler payload p a).1 ha
  have hverify : (v.verify a).result = .ok () :=
    Verifier.verify_result (Verifier.publicKey_result hv hp) (hg ▸ verify_of_sign hsigned)
  refine ⟨hverify, Verifier.openArtifact_result hverify (openBytes_of_sealBytes hsealed), ?_, a.ofJson_toJson⟩
  intro front back hfront hback
  exact Artifact.ofCompact_surrounded (sealBytes_ne_nil hsealed) (signature_ne_nil hsigned) hfront hback

theorem signed_license_opens_mersenneKey :
    ∃ (privateFile publicFile : Bytes) (a : Artifact),
      KeyFile.decodePrivateKey privateFile (.ofString "pw") = .ok RSA.mersenneKey ∧
      KeyFile.decodePublicKey publicFile (.ofString "~ key") = .ok RSA.mersenneKey.toPublicKey ∧
      (Signer.sign ⟨⟨.ok privateFile, .ofString "pw"⟩, ⟨.sha256⟩⟩ (fun _ => 7) [1, 2, 3] none).result = .ok a ∧
      (Verifier.verify ⟨⟨.ok publicFile, .ofString "~ key"⟩, ⟨.sha256⟩⟩ a).result = .ok () ∧
      (Verifier.openArtifact ⟨⟨.ok publicFile, .ofString "~ key"⟩, ⟨.sha256⟩⟩ a none).result = .ok [1, 2, 3] ∧
      Artifact.ofCompact ([' ', '\n'] ++ a.toCompact ++ ['\t']) = .ok a ∧ Artifact.ofJson a.toJson = .ok a := by
  have hpw : (Passphrase.ofString "pw").Printable := by decide
  have hkey : (Passphrase.ofString "~ key").Printable := by decide
  have hcoprime : Nat.gcd RSA.mersenneKey.p RSA.mersenneKey.q = 1 := by decide +kernel
  obtain ⟨privateFile, -, hk⟩ :=
    KeyFile.exists_privateKeyFile (k := RSA.mersenneKey) (by decide +kernel) hcoprime (fun _ => 0) hpw
  obtain ⟨publicFile, -, hp⟩ :=
    KeyFile.exists_publicKeyFile (k := RSA.mersenneKey.toPublicKey) (by decide +kernel) (by decide +kernel)
      (fun _ => 0) hkey
  obtain ⟨a, ha⟩ := Signer.exists_artifact (s := ⟨⟨.ok privateFile, .ofString "pw"⟩, ⟨.sha256⟩⟩)
    (Signer.privateKey_result rfl hk) RSA.mersenneKey_p_prime RSA.mersenneKey_q_prime RSA.mersenneKey_factors_ne
    (RSA.mersenneKey_fits _) (fun _ => 7) [1, 2, 3] (p := none) (by simp)
  obtain ⟨hverified, hopened, hcompact, hjson⟩ := signed_license_opens
    (v := ⟨⟨.ok publicFile, .ofString "~ key"⟩, ⟨.sha256⟩⟩) rfl rfl hk rfl hp (fun _ => 7) [1, 2, 3] none ha
  have hfront : ∀ c ∈ [' ', '\n'], Text.isBlank c = true := by simp [Text.isBlank]
  have hback : ∀ c ∈ ['\t'], Text.isBlank c = true := by simp [Text.isBlank]
  exact ⟨privateFile, publicFile, a, hk, hp, ha, hverified, hopened, hcompact _ _ hfront hback, hjson⟩

end SealedLicense
