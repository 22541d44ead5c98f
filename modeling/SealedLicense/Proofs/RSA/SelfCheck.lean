import Mathlib
import SealedLicense.Proofs.RSA.Signing

namespace SealedLicense

variable {g : Digest} {message : Bytes}

theorem RSA.PrivateKey.fault_of_le {k : PrivateKey} {fault : SignFault}
    (h : (g.info message).length + 11 ≤ k.octets) (hs : k.sign g message = .error fault) : fault = .selfCheck := by
  rw [sign_of_le h] at hs
  simp only at hs
  split at hs
  · cases hs
  · cases hs
    rfl

theorem error_of_sign {k : RSA.PrivateKey} {error : SigningError} (h : sign k g message = .error error) :
    ∃ fault, k.sign g message = .error fault ∧ error = .inappropriateKey .privateKey (.cannotSign g fault) := by
  simp only [sign] at h
  split at h
  · cases h
  · next fault hf =>
    cases h
    exact ⟨fault, hf, rfl⟩

theorem verify_of_short {k : RSA.PublicKey} (h : k.octets < (g.info message).length + 11) (s : Bytes) :
    verify k g message s = .error .invalidSignature := by
  rw [verify_eq_error_iff, Ne, verify_eq_ok_iff, RSA.PublicKey.verify_iff]
  rintro ⟨hfits, -⟩
  omega

theorem length_of_sign_eq_bits {k : RSA.PrivateKey} {s : Bytes} (h : sign k g message = .ok s) :
    s.length = k.bits / 8 := by
  obtain ⟨hl, -⟩ := length_of_sign h
  rw [hl, RSA.PublicKey.bits]
  omega

theorem signature_of_any_key_verifies (k : RSA.PrivateKey) (g : Digest) (message : Bytes) :
    (∀ s, sign k g message = .ok s →
      s.length = k.bits / 8 ∧ s.length = k.toPublicKey.bits / 8 ∧ verify k.toPublicKey g message s = .ok ()) ∧
    (k.octets < (g.info message).length + 11 →
      sign k g message = .error (.inappropriateKey .privateKey (.cannotSign g .messageTooLong)) ∧
        ∀ s, verify k.toPublicKey g message s = .error .invalidSignature) ∧
    ((g.info message).length + 11 ≤ k.octets → ∀ error, sign k g message = .error error →
      error = .inappropriateKey .privateKey (.cannotSign g .selfCheck)) := by
  refine ⟨?_, ?_, ?_⟩
  · intro s hs
    have hl := length_of_sign_eq_bits hs
    exact ⟨hl, hl, verify_of_sign hs⟩
  · intro hshort
    exact ⟨sign_of_key_error (RSA.PrivateKey.sign_of_lt hshort), verify_of_short hshort⟩
  · intro hfits error he
    obtain ⟨fault, hf, rfl⟩ := error_of_sign he
    rw [RSA.PrivateKey.fault_of_le hfits hf]

namespace RSA

def squareFactor : ℕ :=
  2 ^ 255 - 19

-- The factors are equal, so that the remainders modulo them cannot be put together.
def squareKey (secret : ℕ) (h : secret * 17 % (squareFactor - 1) = 1) : PrivateKey where
  modulus := squareFactor * squareFactor
  exponent := 17
  secret := secret
  p := squareFactor
  q := squareFactor
  modulus_odd := by decide +kernel
  exponent_odd := by decide
  three_le_exponent := by decide
  exponent_lt := by decide
  exponent_lt_modulus := by decide +kernel
  one_lt_p := by decide +kernel
  one_lt_q := by decide +kernel
  factors := rfl
  inverse_p := h
  inverse_q := h

def squareSecret (period : ℕ) : ℕ :=
  (inverse? 17 period).getD 0

theorem squareSecret_factor : squareSecret (squareFactor - 1) * 17 % (squareFactor - 1) = 1 := by
  decide +kernel

theorem squareSecret_modulus :
    squareSecret (squareFactor * (squareFactor - 1)) * 17 % (squareFactor - 1) = 1 := by
  decide +kernel

end RSA

theorem signature_of_squareKey_verifies :
    (∃ s, sign (RSA.squareKey _ RSA.squareSecret_modulus) .sha256 [1, 2, 3] = .ok s ∧ s.length = 64 ∧
      verify (RSA.squareKey _ RSA.squareSecret_modulus).toPublicKey .sha256 [1, 2, 3] s = .ok () ∧
      sign (RSA.squareKey _ RSA.squareSecret_modulus) .sha512 [1, 2, 3] =
        .error (.inappropriateKey .privateKey (.cannotSign .sha512 .messageTooLong)) ∧
      verify (RSA.squareKey _ RSA.squareSecret_modulus).toPublicKey .sha512 [1, 2, 3] s =
        .error .invalidSignature) ∧
    sign (RSA.squareKey _ RSA.squareSecret_factor) .sha256 [1, 2, 3] =
      .error (.inappropriateKey .privateKey (.cannotSign .sha256 .selfCheck)) := by
  have hsigns : (sign (RSA.squareKey _ RSA.squareSecret_modulus) .sha256 [1, 2, 3]).isOk = true := by decide +kernel
  have hstops : (sign (RSA.squareKey _ RSA.squareSecret_factor) .sha256 [1, 2, 3]).isOk = false := by decide +kernel
  constructor
  · cases hs : sign (RSA.squareKey _ RSA.squareSecret_modulus) .sha256 [1, 2, 3] with
    | error error =>
      rw [hs] at hsigns
      cases hsigns
    | ok s =>
      obtain ⟨hl, -, hv⟩ := (signature_of_any_key_verifies _ _ _).1 s hs
      have hbits : (RSA.squareKey _ RSA.squareSecret_modulus).bits / 8 = 64 := by decide +kernel
      have hshort := (signature_of_any_key_verifies (RSA.squareKey _ RSA.squareSecret_modulus) .sha512 [1, 2, 3]).2.1
        (by decide +kernel)
      exact ⟨s, rfl, hl.trans hbits, hv, hshort.1, hshort.2 s⟩
  · cases hs : sign (RSA.squareKey _ RSA.squareSecret_factor) .sha256 [1, 2, 3] with
    | error error =>
      rw [(signature_of_any_key_verifies _ _ _).2.2 (by decide +kernel) error hs]
    | ok s =>
      rw [hs] at hstops
      cases hstops

end SealedLicense
