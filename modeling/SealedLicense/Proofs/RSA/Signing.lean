import Mathlib
import SealedLicense.Bytes.Lemmas
import SealedLicense.KeyFile.Signing
import SealedLicense.Proofs.RSA.Residues

namespace SealedLicense.RSA

def encodedMessage (g : Digest) (message : Bytes) (k : ℕ) : Bytes :=
  0x00 :: 0x01 :: (List.replicate (k - (g.info message).length - 3) 0xff ++ 0x00 :: g.info message)

variable {g : Digest} {message : Bytes}

theorem encodeMessage?_of_lt {k : ℕ} (h : k < (g.info message).length + 11) : encodeMessage? g message k = none :=
  if_pos h

theorem encodeMessage?_of_le {k : ℕ} (h : (g.info message).length + 11 ≤ k) :
    encodeMessage? g message k = some (encodedMessage g message k) :=
  if_neg (Nat.not_lt.2 h)

theorem length_encodedMessage {k : ℕ} (h : (g.info message).length + 11 ≤ k) :
    (encodedMessage g message k).length = k := by
  simp only [encodedMessage, List.length_cons, List.length_append, List.length_replicate]
  omega

theorem toNat_encodedMessage_lt {k : ℕ} (h : (g.info message).length + 11 ≤ k) :
    Bytes.toNat (encodedMessage g message k) < 256 ^ (k - 1) := by
  have hl := length_encodedMessage h
  have ht := Bytes.toNat_lt (encodedMessage g message k).tail
  rw [List.length_tail, hl] at ht
  rw [encodedMessage, Bytes.toNat_zero_cons]
  exact ht

theorem PublicKey.encodedMessage_lt (k : PublicKey) (h : (g.info message).length + 11 ≤ k.octets) :
    Bytes.toNat (encodedMessage g message k.octets) < k.modulus := by
  have hn : k.modulus ≠ 0 := by
    have := k.modulus_odd
    omega
  exact (toNat_encodedMessage_lt h).trans_le (Bytes.pow_width_le hn)

namespace PrivateKey

theorem power_lt (k : PrivateKey) (c : ℕ) : k.power c < k.modulus := by
  have hp := k.one_lt_p
  have hq := k.one_lt_q
  have hn : 0 < k.modulus := by
    have := k.modulus_odd
    omega
  unfold power
  split
  · rw [powMod_eq]
    exact Nat.mod_lt _ hn
  · rw [← k.factors]
    refine recombined_lt (by omega) ?_
    rw [powMod_eq]
    exact Nat.mod_lt _ (by omega)

theorem coprime_factors {k : PrivateKey} (hp : k.p.Prime) (hq : k.q.Prime) (hne : k.p ≠ k.q) : k.p.Coprime k.q :=
  (Nat.coprime_primes hp hq).2 hne

theorem power_eq {k : PrivateKey} (hp : k.p.Prime) (hq : k.q.Prime) (hne : k.p ≠ k.q) (c : ℕ) :
    k.power c = c ^ k.secret % k.modulus := by
  have hco := coprime_factors hp hq hne
  have hlt := k.power_lt c
  suffices h : k.power c ≡ c ^ k.secret [MOD k.p * k.q] by
    rw [k.factors] at h
    rwa [Nat.ModEq, Nat.mod_eq_of_lt hlt] at h
  rw [← Nat.modEq_and_modEq_iff_modEq_mul hco]
  unfold power
  split
  · next hi =>
    have hs := (inverse?_isSome_iff k.q k.p).2 hco.symm
    rw [hi] at hs
    cases hs
  · next x hi =>
    obtain ⟨hx, -⟩ := inverse?_eq_some k.one_lt_p hi
    rw [← Nat.mod_eq_of_lt k.one_lt_p] at hx
    simp only [powMod_eq]
    constructor
    · refine (recombined_modEq hp.pos hx _ _).trans ?_
      exact (Nat.mod_modEq _ _).trans (pow_reduced_modEq hp k.inverse_p c)
    · have hz : ∀ m h : ℕ, m + h * k.q ≡ m [MOD k.q] := fun m h => by simp [Nat.ModEq]
      refine (hz _ _).trans ?_
      exact (Nat.mod_modEq _ _).trans (pow_reduced_modEq hq k.inverse_q c)

theorem pow_secret_exponent {k : PrivateKey} (hp : k.p.Prime) (hq : k.q.Prime) (hne : k.p ≠ k.q) (c : ℕ) :
    c ^ (k.secret * k.exponent) ≡ c [MOD k.modulus] := by
  rw [← k.factors, ← Nat.modEq_and_modEq_iff_modEq_mul (coprime_factors hp hq hne)]
  exact ⟨pow_inverse_modEq hp k.inverse_p c, pow_inverse_modEq hq k.inverse_q c⟩

theorem power_pow {k : PrivateKey} (hp : k.p.Prime) (hq : k.q.Prime) (hne : k.p ≠ k.q) {c : ℕ} (hc : c < k.modulus) :
    k.power c ^ k.exponent % k.modulus = c := by
  rw [power_eq hp hq hne, ← Nat.pow_mod, ← pow_mul, pow_secret_exponent hp hq hne c, Nat.mod_eq_of_lt hc]

theorem sign_of_lt {k : PrivateKey} (h : k.octets < (g.info message).length + 11) :
    k.sign g message = .error .messageTooLong := by
  simp only [sign, encodeMessage?_of_lt h]

theorem sign_of_le {k : PrivateKey} (h : (g.info message).length + 11 ≤ k.octets) :
    k.sign g message =
      let c := Bytes.toNat (encodedMessage g message k.octets)
      if k.power c ^ k.exponent % k.modulus = c then .ok (Bytes.ofNatWidth k.octets (k.power c))
      else .error .selfCheck := by
  simp only [sign, encodeMessage?_of_le h, powMod_eq]

theorem sign_of_primes {k : PrivateKey} (hp : k.p.Prime) (hq : k.q.Prime) (hne : k.p ≠ k.q)
    (h : (g.info message).length + 11 ≤ k.octets) :
    k.sign g message =
      .ok (Bytes.ofNatWidth k.octets (Bytes.toNat (encodedMessage g message k.octets) ^ k.secret % k.modulus)) := by
  have hc := power_pow hp hq hne (k.encodedMessage_lt h)
  rw [sign_of_le h]
  simp only
  rw [if_pos hc, power_eq hp hq hne]

theorem ofNatWidth_power (k : PrivateKey) (c : ℕ) :
    Bytes.toNat (Bytes.ofNatWidth k.octets (k.power c)) = k.power c := by
  rw [Bytes.toNat_ofNatWidth]
  exact Nat.mod_eq_of_lt ((k.power_lt c).trans (Bytes.lt_pow_width k.modulus))

end PrivateKey

theorem PublicKey.verify_iff (k : PublicKey) (g : Digest) (message signature : Bytes) :
    k.verify g message signature = true ↔
      (g.info message).length + 11 ≤ k.octets ∧ signature.length = k.octets ∧ Bytes.toNat signature < k.modulus ∧
        Bytes.toNat signature ^ k.exponent % k.modulus = Bytes.toNat (encodedMessage g message k.octets) := by
  rcases Nat.lt_or_ge k.octets ((g.info message).length + 11) with h | h
  · simp only [verify, encodeMessage?_of_lt h, Bool.false_eq_true, false_iff]
    intro hv
    omega
  · simp only [verify, encodeMessage?_of_le h, Bool.and_eq_true, beq_iff_eq, decide_eq_true_eq, and_assoc, powMod_eq,
      h, true_and]
    refine and_congr_right fun _ => and_congr_right fun hs => ?_
    have hr : Bytes.toNat signature ^ k.exponent % k.modulus < 256 ^ k.octets :=
      (Nat.mod_lt _ (by omega)).trans (Bytes.lt_pow_width k.modulus)
    constructor
    · intro he
      rw [← he, Bytes.toNat_ofNatWidth, Nat.mod_eq_of_lt hr]
    · intro he
      rw [he]
      exact Bytes.ofNatWidth_toNat _ _ (length_encodedMessage h)

theorem PrivateKey.verify_of_sign {k : PrivateKey} {signature : Bytes} (hs : k.sign g message = .ok signature) :
    k.toPublicKey.verify g message signature = true := by
  rcases Nat.lt_or_ge k.octets ((g.info message).length + 11) with h | h
  · rw [sign_of_lt h] at hs
    cases hs
  · rw [sign_of_le h] at hs
    simp only at hs
    split at hs
    · next hc =>
      cases hs
      rw [PublicKey.verify_iff, ofNatWidth_power]
      exact ⟨h, Bytes.length_ofNatWidth _ _, k.power_lt _, hc⟩
    · cases hs

def mersenneKey : PrivateKey where
  modulus := mersenne 521 * mersenne 607
  exponent := publicExponent
  secret := (inverse? publicExponent ((mersenne 521 - 1) / 2 * (mersenne 607 - 1))).getD 0
  p := mersenne 521
  q := mersenne 607
  modulus_odd := by decide +kernel
  exponent_odd := by decide
  three_le_exponent := by decide
  exponent_lt := by decide
  exponent_lt_modulus := by decide +kernel
  one_lt_p := by decide +kernel
  one_lt_q := by decide +kernel
  factors := rfl
  inverse_p := by decide +kernel
  inverse_q := by decide +kernel

theorem mersenneKey_p_prime : mersenneKey.p.Prime :=
  lucas_lehmer_sufficiency 521 (by norm_num) (by norm_num)

theorem mersenneKey_q_prime : mersenneKey.q.Prime :=
  lucas_lehmer_sufficiency 607 (by norm_num) (by norm_num)

theorem mersenneKey_factors_ne : mersenneKey.p ≠ mersenneKey.q := by
  decide +kernel

theorem mersenneKey_fits (g : Digest) (message : Bytes) : (g.info message).length + 11 ≤ mersenneKey.octets := by
  have ho : mersenneKey.octets = 141 := by decide +kernel
  rw [ho, Digest.length_info]
  cases g <;> decide

end SealedLicense.RSA

namespace SealedLicense

theorem sign_of_key_sign {k : RSA.PrivateKey} {g : Digest} {message signature : Bytes}
    (h : k.sign g message = .ok signature) : sign k g message = .ok signature := by
  simp only [sign, h]

theorem key_sign_of_sign {k : RSA.PrivateKey} {g : Digest} {message signature : Bytes}
    (h : sign k g message = .ok signature) : k.sign g message = .ok signature := by
  simp only [sign] at h
  split at h
  · next s hs => rw [hs, Except.ok.inj h]
  · cases h

theorem sign_of_key_error {k : RSA.PrivateKey} {g : Digest} {message : Bytes} {fault : RSA.SignFault}
    (h : k.sign g message = .error fault) :
    sign k g message = .error (.inappropriateKey .privateKey (.cannotSign g fault)) := by
  simp only [sign, h]

theorem verify_of_sign {k : RSA.PrivateKey} {g : Digest} {message signature : Bytes}
    (h : sign k g message = .ok signature) : verify k.toPublicKey g message signature = .ok () :=
  if_pos (RSA.PrivateKey.verify_of_sign (key_sign_of_sign h))

theorem length_of_sign {k : RSA.PrivateKey} {g : Digest} {message signature : Bytes}
    (h : sign k g message = .ok signature) : signature.length = k.octets ∧ 11 ≤ k.octets := by
  have hv := RSA.PrivateKey.verify_of_sign (key_sign_of_sign h)
  obtain ⟨hfits, hlength, -⟩ := (k.toPublicKey.verify_iff g message signature).1 hv
  exact ⟨hlength, by omega⟩

theorem signature_is_secret_power (k : RSA.PrivateKey) (hp : k.p.Prime) (hq : k.q.Prime) (hne : k.p ≠ k.q)
    (g : Digest) (message : Bytes) :
    ((∃ s, sign k g message = .ok s) ↔ (g.info message).length + 11 ≤ k.octets) ∧
    (∀ e, sign k g message = .error e → e = .inappropriateKey .privateKey (.cannotSign g .messageTooLong)) ∧
    ∀ s, sign k g message = .ok s →
      s = Bytes.ofNatWidth k.octets
        (Bytes.toNat (RSA.encodedMessage g message k.octets) ^ k.secret % k.modulus) := by
  rcases Nat.lt_or_ge k.octets ((g.info message).length + 11) with h | h
  · rw [sign_of_key_error (RSA.PrivateKey.sign_of_lt h)]
    refine ⟨?_, ?_, ?_⟩
    · constructor
      · rintro ⟨s, ⟨⟩⟩
      · intro hle
        omega
    · rintro e ⟨⟩
      rfl
    · rintro s ⟨⟩
  · rw [sign_of_key_sign (RSA.PrivateKey.sign_of_primes hp hq hne h)]
    refine ⟨?_, ?_, ?_⟩
    · exact ⟨fun _ => h, fun _ => ⟨_, rfl⟩⟩
    · rintro e ⟨⟩
    · rintro s ⟨⟩
      rfl

theorem signature_is_secret_power_mersenneKey :
    RSA.mersenneKey.p.Prime ∧ RSA.mersenneKey.q.Prime ∧ RSA.mersenneKey.p ≠ RSA.mersenneKey.q ∧
      ∃ s, sign RSA.mersenneKey .sha512 [1, 2, 3] = .ok s ∧
        s = Bytes.ofNatWidth RSA.mersenneKey.octets
          (Bytes.toNat (RSA.encodedMessage .sha512 [1, 2, 3] RSA.mersenneKey.octets) ^ RSA.mersenneKey.secret %
            RSA.mersenneKey.modulus) := by
  have hp := RSA.mersenneKey_p_prime
  have hq := RSA.mersenneKey_q_prime
  have hne := RSA.mersenneKey_factors_ne
  obtain ⟨hok, -, hvalue⟩ := signature_is_secret_power RSA.mersenneKey hp hq hne .sha512 [1, 2, 3]
  obtain ⟨s, hs⟩ := hok.2 (RSA.mersenneKey_fits _ _)
  exact ⟨hp, hq, hne, s, hs, hvalue s hs⟩

end SealedLicense
