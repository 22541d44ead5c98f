import Mathlib
import SealedLicense.Proofs.RSA.Signing

/-!
The encoded message ends in the digest information, and where it starts is marked by the first zero byte behind the
filling, so what was signed can be read off an accepted signature whatever the key and the hashes are.
-/

namespace SealedLicense

theorem replicate_append_cons_inj {α : Type} {x y : α} (hne : x ≠ y) {m n : ℕ} {as bs : List α}
    (h : List.replicate m x ++ y :: as = List.replicate n x ++ y :: bs) : as = bs := by
  induction m generalizing n with
  | zero =>
    cases n with
    | zero => exact (List.cons.inj h).2
    | succ n => exact absurd (List.cons.inj h).1.symm hne
  | succ m ih =>
    cases n with
    | zero => exact absurd (List.cons.inj h).1 hne
    | succ n => exact ih (List.cons.inj h).2

theorem Digest.eq_of_info_eq {g₁ g₂ : Digest} {m₁ m₂ : Bytes} (h : g₁.info m₁ = g₂.info m₂) : g₁ = g₂ := by
  have hl := congrArg List.length h
  rw [length_info, length_info] at hl
  cases g₁ with
  | sha256 =>
    cases g₂ with
    | sha256 => rfl
    | sha512 => exact absurd hl (by decide)
  | sha512 =>
    cases g₂ with
    | sha256 => exact absurd hl (by decide)
    | sha512 => rfl

namespace RSA

theorem info_eq_of_encodedMessage_eq {g₁ g₂ : Digest} {m₁ m₂ : Bytes} {k : ℕ}
    (h : encodedMessage g₁ m₁ k = encodedMessage g₂ m₂ k) : g₁.info m₁ = g₂.info m₂ := by
  simp only [encodedMessage, List.cons.injEq, true_and] at h
  exact replicate_append_cons_inj (by decide) h

theorem PublicKey.info_eq_of_verify {k : PublicKey} {g₁ g₂ : Digest} {m₁ m₂ s : Bytes}
    (h₁ : k.verify g₁ m₁ s = true) (h₂ : k.verify g₂ m₂ s = true) : g₁.info m₁ = g₂.info m₂ := by
  obtain ⟨hf₁, -, -, he₁⟩ := (k.verify_iff g₁ m₁ s).1 h₁
  obtain ⟨hf₂, -, -, he₂⟩ := (k.verify_iff g₂ m₂ s).1 h₂
  apply info_eq_of_encodedMessage_eq (k := k.octets)
  apply Bytes.eq_of_toNat_eq
  · rw [length_encodedMessage hf₁, length_encodedMessage hf₂]
  · rw [← he₁, he₂]

end RSA

theorem digest_eq_of_verify {k : RSA.PublicKey} {g₁ g₂ : Digest} {m₁ m₂ s : Bytes}
    (h₁ : verify k g₁ m₁ s = .ok ()) (h₂ : verify k g₂ m₂ s = .ok ()) : g₁ = g₂ :=
  Digest.eq_of_info_eq (RSA.PublicKey.info_eq_of_verify (verify_eq_ok_iff.1 h₁) (verify_eq_ok_iff.1 h₂))

namespace RSA

variable {k : PrivateKey} {g : Digest} {message : Bytes}

theorem PrivateKey.pow_exponent_inj (hp : k.p.Prime) (hq : k.q.Prime) (hne : k.p ≠ k.q) {a b : ℕ}
    (ha : a < k.modulus) (hb : b < k.modulus) (h : a ^ k.exponent ≡ b ^ k.exponent [MOD k.modulus]) : a = b := by
  have hback : ∀ c : ℕ, (c ^ k.exponent) ^ k.secret ≡ c [MOD k.modulus] := by
    intro c
    rw [← pow_mul, mul_comm]
    exact pow_secret_exponent hp hq hne c
  have hab : a ≡ b [MOD k.modulus] := by
    calc a ≡ (a ^ k.exponent) ^ k.secret [MOD k.modulus] := (hback a).symm
      _ ≡ (b ^ k.exponent) ^ k.secret [MOD k.modulus] := h.pow _
      _ ≡ b [MOD k.modulus] := hback b
  exact hab.eq_of_lt_of_lt ha hb

theorem PrivateKey.eq_of_verify (hp : k.p.Prime) (hq : k.q.Prime) (hne : k.p ≠ k.q) {s t : Bytes}
    (hs : k.toPublicKey.verify g message s = true) (ht : k.toPublicKey.verify g message t = true) : s = t := by
  rw [PublicKey.verify_iff] at hs ht
  obtain ⟨-, hsl, hsn, hse⟩ := hs
  obtain ⟨-, htl, htn, hte⟩ := ht
  apply Bytes.eq_of_toNat_eq (hsl.trans htl.symm)
  exact pow_exponent_inj hp hq hne hsn htn (hse.trans hte.symm)

end RSA

theorem signature_unique {k : RSA.PrivateKey} (hp : k.p.Prime) (hq : k.q.Prime) (hne : k.p ≠ k.q) {g : Digest}
    {message s : Bytes} (hs : sign k g message = .ok s) (t : Bytes) :
    (verify k.toPublicKey g message t = .ok () ↔ t = s) ∧
      (t ≠ s → verify k.toPublicKey g message t = .error .invalidSignature) := by
  have hok : verify k.toPublicKey g message s = .ok () := verify_of_sign hs
  have hiff : verify k.toPublicKey g message t = .ok () ↔ t = s := by
    constructor
    · intro ht
      exact RSA.PrivateKey.eq_of_verify hp hq hne (verify_eq_ok_iff.1 ht) (verify_eq_ok_iff.1 hok)
    · rintro rfl
      exact hok
  refine ⟨hiff, fun hts => ?_⟩
  rw [verify_eq_error_iff]
  exact fun ht => hts (hiff.1 ht)

theorem signature_unique_mersenneKey :
    RSA.mersenneKey.p.Prime ∧ RSA.mersenneKey.q.Prime ∧ RSA.mersenneKey.p ≠ RSA.mersenneKey.q ∧
      ∃ s, sign RSA.mersenneKey .sha512 [1, 2, 3] = .ok s ∧
        verify RSA.mersenneKey.toPublicKey .sha512 [1, 2, 3] s = .ok () ∧
        verify RSA.mersenneKey.toPublicKey .sha512 [1, 2, 3] (0 :: s) = .error .invalidSignature := by
  have hp := RSA.mersenneKey_p_prime
  have hq := RSA.mersenneKey_q_prime
  have hne := RSA.mersenneKey_factors_ne
  have hs := sign_of_key_sign (RSA.PrivateKey.sign_of_primes hp hq hne (RSA.mersenneKey_fits .sha512 [1, 2, 3]))
  refine ⟨hp, hq, hne, _, hs, (signature_unique hp hq hne hs _).1.2 rfl, (signature_unique hp hq hne hs _).2 ?_⟩
  intro h
  simpa using congrArg List.length h

end SealedLicense
