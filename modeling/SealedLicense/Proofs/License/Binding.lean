import Mathlib
import SealedLicense.Proofs.License.EndToEnd
import SealedLicense.Proofs.RSA.Uniqueness

namespace SealedLicense

theorem verify_other_digest {k : RSA.PublicKey} {g₁ g₂ : Digest} {m₁ m₂ s : Bytes} (hg : g₁ ≠ g₂)
    (h : verify k g₁ m₁ s = .ok ()) : verify k g₂ m₂ s = .error .invalidSignature := by
  rw [verify_eq_error_iff]
  intro h₂
  exact hg (digest_eq_of_verify h h₂)

theorem Verifier.rejects_of_other_digest {s : Signer} {v : Verifier} {k : RSA.PrivateKey}
    (hg : s.parameters.digest ≠ v.parameters.digest) (hs : s.privateKey.result = .ok k)
    (hv : v.publicKey.result = .ok k.toPublicKey) {filler : Filler} {payload : Bytes} {p : Option Passphrase}
    {a : Artifact} (ha : (s.sign filler payload p).result = .ok a) :
    (v.verify a).result = .error .invalidSignature := by
  obtain ⟨-, hsigned⟩ := (Signer.sign_result_iff hs filler payload p a).1 ha
  exact verify_result_of_error hv (verify_other_digest hg (verify_of_sign hsigned))

theorem digests_not_confused :
    (∀ (k : RSA.PublicKey) (m₁ m₂ s : Bytes),
      ¬ (verify k .sha256 m₁ s = .ok () ∧ verify k .sha512 m₂ s = .ok ())) ∧
    ∀ (s : Signer) (v : Verifier) (privateFile publicFile : Bytes) (k : RSA.PrivateKey),
      s.parameters.digest ≠ v.parameters.digest → s.holder.file = .ok privateFile →
      KeyFile.decodePrivateKey privateFile s.holder.passphrase = .ok k → v.holder.file = .ok publicFile →
      KeyFile.decodePublicKey publicFile v.holder.passphrase = .ok k.toPublicKey →
      ∀ (filler : Filler) (payload : Bytes) (p : Option Passphrase) (a : Artifact),
        (s.sign filler payload p).result = .ok a →
        (v.verify a).result = .error .invalidSignature ∧
          ∀ q, (v.openArtifact a q).result = .error .invalidSignature := by
  constructor
  · rintro k m₁ m₂ s ⟨h₁, h₂⟩
    cases digest_eq_of_verify h₁ h₂
  · intro s v privateFile publicFile k hg hs hk hv hp filler payload p a ha
    have hrejected := Verifier.rejects_of_other_digest hg (Signer.privateKey_result hs hk)
      (Verifier.publicKey_result hv hp) ha
    exact ⟨hrejected, Verifier.openArtifact_result_of_error hrejected⟩

theorem digests_not_confused_mersenneKey :
    ∃ (privateFile publicFile : Bytes) (a : Artifact),
      KeyFile.decodePrivateKey privateFile (.ofString "pw") = .ok RSA.mersenneKey ∧
      KeyFile.decodePublicKey publicFile (.ofString "~ key") = .ok RSA.mersenneKey.toPublicKey ∧
      (Signer.sign ⟨⟨.ok privateFile, .ofString "pw"⟩, ⟨.sha256⟩⟩ (fun _ => 7) [1, 2, 3] none).result = .ok a ∧
      (Verifier.verify ⟨⟨.ok publicFile, .ofString "~ key"⟩, ⟨.sha512⟩⟩ a).result = .error .invalidSignature ∧
      (Verifier.openArtifact ⟨⟨.ok publicFile, .ofString "~ key"⟩, ⟨.sha512⟩⟩ a none).result =
        .error .invalidSignature := by
  obtain ⟨privateFile, publicFile, hk, hp⟩ := KeyFile.exists_mersenneKey_files (p := .ofString "pw")
    (q := .ofString "~ key") (by decide) (by decide)
  obtain ⟨a, ha⟩ := Signer.exists_artifact (s := ⟨⟨.ok privateFile, .ofString "pw"⟩, ⟨.sha256⟩⟩)
    (Signer.privateKey_result rfl hk) RSA.mersenneKey_p_prime RSA.mersenneKey_q_prime RSA.mersenneKey_factors_ne
    (RSA.mersenneKey_fits _) (fun _ => 7) [1, 2, 3] (p := none) (by simp)
  have hg : Digest.sha256 ≠ Digest.sha512 := by decide
  obtain ⟨hverify, hopen⟩ := digests_not_confused.2 ⟨⟨.ok privateFile, .ofString "pw"⟩, ⟨.sha256⟩⟩
    ⟨⟨.ok publicFile, .ofString "~ key"⟩, ⟨.sha512⟩⟩ privateFile publicFile _ hg rfl hk rfl hp _ _ _ a ha
  exact ⟨privateFile, publicFile, a, hk, hp, ha, hverify, hopen none⟩

variable {k : RSA.PublicKey} {g : Digest} {m₁ m₂ s : Bytes}

def Digest.Collision (g : Digest) (m₁ m₂ : Bytes) : Prop :=
  m₁ ≠ m₂ ∧ g.hash m₁ = g.hash m₂

theorem Digest.info_eq_iff : g.info m₁ = g.info m₂ ↔ g.hash m₁ = g.hash m₂ := by
  rw [info, info, List.append_cancel_left_eq]

theorem RSA.PublicKey.verify_of_info_eq (h : g.info m₁ = g.info m₂) : k.verify g m₁ s = k.verify g m₂ s := by
  simp only [verify, encodeMessage?, h]

theorem verify_iff_hash_eq (h : verify k g m₁ s = .ok ()) :
    verify k g m₂ s = .ok () ↔ g.hash m₁ = g.hash m₂ := by
  rw [verify_eq_ok_iff] at h ⊢
  rw [← Digest.info_eq_iff]
  constructor
  · intro h₂
    exact RSA.PublicKey.info_eq_of_verify h h₂
  · intro hinfo
    rw [← RSA.PublicKey.verify_of_info_eq hinfo]
    exact h

namespace Verifier

variable {v : Verifier} {a : Artifact}

theorem verify_result_ok_iff :
    (v.verify a).result = .ok () ↔
      ∃ k, v.publicKey.result = .ok k ∧
        SealedLicense.verify k v.parameters.digest a.payload a.signature = .ok () := by
  constructor
  · intro h
    rw [verify, Outcome.result_bind, bind_eq_ok_iff] at h
    obtain ⟨k, hk, hv⟩ := h
    refine ⟨k, hk, ?_⟩
    cases hs : SealedLicense.verify k v.parameters.digest a.payload a.signature with
    | ok _ => rfl
    | error error =>
      rw [hs] at hv
      simp only [Outcome.result_bind, Outcome.result_report, Outcome.result_fail, Except.bind] at hv
      cases hv
  · rintro ⟨k, hk, hs⟩
    exact verify_result hk hs

theorem verify_altered_iff (h : (v.verify a).result = .ok ()) {altered : Bytes} (hne : a.payload ≠ altered) :
    (v.verify ⟨altered, a.signature⟩).result = .ok () ↔ v.parameters.digest.Collision a.payload altered := by
  obtain ⟨k, hk, hs⟩ := verify_result_ok_iff.1 h
  constructor
  · intro ha
    obtain ⟨k', hk', hs'⟩ := verify_result_ok_iff.1 ha
    rw [hk] at hk'
    cases hk'
    exact ⟨hne, (verify_iff_hash_eq hs).1 hs'⟩
  · rintro ⟨-, hhash⟩
    exact verify_result hk ((verify_iff_hash_eq hs).2 hhash)

theorem rejects_altered (h : (v.verify a).result = .ok ()) {altered : Bytes} (hne : a.payload ≠ altered)
    (hc : ¬ v.parameters.digest.Collision a.payload altered) :
    (v.verify ⟨altered, a.signature⟩).result = .error .invalidSignature := by
  obtain ⟨k, hk, hs⟩ := verify_result_ok_iff.1 h
  refine verify_result_of_error hk (verify_eq_error_iff.2 ?_)
  intro hs'
  exact hc ⟨hne, (verify_iff_hash_eq hs).1 hs'⟩

end Verifier

theorem signature_binds_message :
    (∀ (k : RSA.PublicKey) (g : Digest) (m₁ m₂ s : Bytes), verify k g m₁ s = .ok () →
      (verify k g m₂ s = .ok () ↔ g.hash m₁ = g.hash m₂) ∧
      (g.hash m₁ ≠ g.hash m₂ → verify k g m₂ s = .error .invalidSignature)) ∧
    ∀ (v : Verifier) (a : Artifact) (altered : Bytes), (v.verify a).result = .ok () → a.payload ≠ altered →
      ((v.verify ⟨altered, a.signature⟩).result = .ok () ↔ v.parameters.digest.Collision a.payload altered) ∧
      (¬ v.parameters.digest.Collision a.payload altered →
        (v.verify ⟨altered, a.signature⟩).result = .error .invalidSignature ∧
          ∀ p, (v.openArtifact ⟨altered, a.signature⟩ p).result = .error .invalidSignature) := by
  constructor
  · intro k g m₁ m₂ s h
    refine ⟨verify_iff_hash_eq h, fun hne => verify_eq_error_iff.2 ?_⟩
    intro h₂
    exact hne ((verify_iff_hash_eq h).1 h₂)
  · intro v a altered h hne
    refine ⟨Verifier.verify_altered_iff h hne, fun hc => ?_⟩
    have hrejected := Verifier.rejects_altered h hne hc
    exact ⟨hrejected, Verifier.openArtifact_result_of_error hrejected⟩

theorem signature_binds_message_mersenneKey :
    ∃ (publicFile s : Bytes),
      KeyFile.decodePublicKey publicFile (.ofString "~ key") = .ok RSA.mersenneKey.toPublicKey ∧
      verify RSA.mersenneKey.toPublicKey .sha256 [1, 2, 3] s = .ok () ∧
      verify RSA.mersenneKey.toPublicKey .sha256 [1, 2] s = .error .invalidSignature ∧
      (Verifier.verify ⟨⟨.ok publicFile, .ofString "~ key"⟩, ⟨.sha256⟩⟩ ⟨[1, 2, 3], s⟩).result = .ok () ∧
      (Verifier.verify ⟨⟨.ok publicFile, .ofString "~ key"⟩, ⟨.sha256⟩⟩ ⟨[1, 2], s⟩).result =
        .error .invalidSignature ∧
      (Verifier.openArtifact ⟨⟨.ok publicFile, .ofString "~ key"⟩, ⟨.sha256⟩⟩ ⟨[1, 2], s⟩ none).result =
        .error .invalidSignature := by
  obtain ⟨-, publicFile, -, hp⟩ := KeyFile.exists_mersenneKey_files (p := .ofString "pw")
    (q := .ofString "~ key") (by decide) (by decide)
  have hsigned := sign_of_key_sign (RSA.PrivateKey.sign_of_primes RSA.mersenneKey_p_prime RSA.mersenneKey_q_prime
    RSA.mersenneKey_factors_ne (RSA.mersenneKey_fits .sha256 [1, 2, 3]))
  have hhash : Digest.sha256.hash [1, 2, 3] ≠ Digest.sha256.hash [1, 2] := by decide +kernel
  obtain ⟨s, hs⟩ : ∃ s, verify RSA.mersenneKey.toPublicKey .sha256 [1, 2, 3] s = .ok () :=
    ⟨_, verify_of_sign hsigned⟩
  have hv := Verifier.verify_result (v := ⟨⟨.ok publicFile, .ofString "~ key"⟩, ⟨.sha256⟩⟩) (a := ⟨[1, 2, 3], s⟩)
    (Verifier.publicKey_result rfl hp) hs
  obtain ⟨-, hrejected⟩ := signature_binds_message.1 _ _ _ [1, 2] _ hs
  have hne : ([1, 2, 3] : Bytes) ≠ [1, 2] := by decide
  obtain ⟨-, haltered⟩ := signature_binds_message.2 _ _ [1, 2] hv hne
  obtain ⟨hverify, hopen⟩ := haltered fun hc => hhash hc.2
  exact ⟨publicFile, s, hp, hs, hrejected hhash, hv, hverify, hopen none⟩

end SealedLicense
