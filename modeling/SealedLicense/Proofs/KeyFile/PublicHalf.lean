import Mathlib
import SealedLicense.Proofs.KeyFile.Decoding
import SealedLicense.Proofs.KeyFile.Reading
import SealedLicense.Proofs.KeyFile.RoundTrip

namespace SealedLicense

namespace KeyFile

open DER

theorem PrivateNumbers.length_publicNumbers_le {bs : Bytes} {x : PrivateNumbers} (h : ofBytes? bs = some x) :
    (encodePublicNumbers x.modulus x.exponent).length + 21 ≤ bs.length := by
  obtain ⟨version, rest, rfl⟩ := encode_of_ofBytes? h
  have hv := three_mul_length_le [version]
  have hs := three_mul_length_le [x.secret, x.p, x.q, x.secretModP, x.secretModQ, x.coefficient]
  apply Element.length_encode_add_le
  simp only [List.flatMap_cons, List.flatMap_nil, List.length_append, List.length_cons, List.length_nil] at hv hs ⊢
  omega

-- Beside the longer key, a private key has its version, and the algorithm of a public key takes 15 bytes.
theorem PrivateInfo.length_publicInfo_le {bs key : Bytes} {i : PrivateInfo} (h : ofBytes? bs = some i)
    (hk : key.length + 21 ≤ i.key.length) : (PublicInfo.encode .rsa key).length ≤ bs.length := by
  obtain ⟨version, rest, rfl⟩ := encode_of_ofBytes? h
  have hbits : (wholeBits key).length + 20 ≤ (Element.encode ⟨octetString, i.key⟩).length := by
    apply Element.length_encode_add_le
    rw [List.length_cons]
    omega
  have halgorithm : Algorithm.rsa.encode.length = 15 := rfl
  apply Element.length_encode_add_le (n := 0)
  simp only [List.length_append]
  omega

theorem length_publicDER_le {bs : Bytes} {k : RSA.PrivateKey} (h : privateKeyOfDER bs = .ok k) :
    (PublicInfo.encode .rsa (encodePublicNumbers k.modulus k.exponent)).length ≤ maxLength := by
  obtain ⟨hl, i, x, hi, hx, hn, he⟩ := numbers_of_privateKeyOfDER h
  have hk := PrivateNumbers.length_publicNumbers_le hx
  rw [← hn, ← he] at hk
  exact (PrivateInfo.length_publicInfo_le hi hk).trans hl

theorem exists_publicHalfFile {file : Bytes} {q : Passphrase} {k : RSA.PrivateKey}
    (hk : decodePrivateKey file q = .ok k) (filler : Filler) {p : Passphrase} (hp : p.Printable) :
    ∃ publicFile, encodePublicKey filler k.toPublicKey p = .ok publicFile ∧
      decodePublicKey publicFile p =
        if Bytes.bitLength k.modulus ≤ maxModulusBits then .ok k.toPublicKey
        else .error (.inappropriateKey .publicKey (.encoding .numbers)) := by
  obtain ⟨der, -, hder⟩ := decodePrivateKey_eq_ok_iff.1 hk
  have hl := length_publicDER_le hder
  obtain ⟨publicFile, hf⟩ := encrypt_of_printable filler hp
    (PublicInfo.encode .rsa (encodePublicNumbers k.modulus k.exponent))
  refine ⟨publicFile, ?_, ?_⟩
  · simp only [encodePublicKey, publicKeyToDER_of_le hl, hf]
  · split
    · next hb => exact decodePublicKey_of_encrypt hf (publicKeyOfDER_encode hb hl)
    · next hb =>
      simp only [decodePublicKey, decrypt_of_encrypt hf, publicKeyOfDER_encode_of_wide (Nat.lt_of_not_le hb) hl,
        privateKeyOfDER_publicInfo hl]
      rfl

theorem public_half_of_private_key {file : Bytes} {q : Passphrase} {k : RSA.PrivateKey}
    (hk : decodePrivateKey file q = .ok k) (filler : Filler) {p : Passphrase} (hp : ∀ c ∈ p.chars, ' ' ≤ c ∧ c ≤ '~') :
    ∃ publicFile, encodePublicKey filler k.toPublicKey p = .ok publicFile ∧
      (decodePublicKey publicFile p = .ok k.toPublicKey ↔ Bytes.bitLength k.modulus ≤ maxModulusBits) ∧
      (maxModulusBits < Bytes.bitLength k.modulus →
        decodePublicKey publicFile p = .error (.inappropriateKey .publicKey (.encoding .numbers))) ∧
      ∀ g message s, sign k g message = .ok s → Bytes.bitLength k.modulus ≤ maxModulusBits →
        ∃ k', decodePublicKey publicFile p = .ok k' ∧ verify k' g message s = .ok () := by
  obtain ⟨publicFile, hfile, hread⟩ := exists_publicHalfFile hk filler hp
  refine ⟨publicFile, hfile, ?_, fun hb => ?_, fun g message s hs hb => ?_⟩
  · rw [hread]
    constructor
    · intro hok
      by_contra hb
      rw [if_neg hb] at hok
      cases hok
    · intro hb
      rw [if_pos hb]
  · rw [hread, if_neg (Nat.not_le.2 hb)]
  · exact ⟨k.toPublicKey, hread.trans (if_pos hb), verify_of_sign hs⟩

theorem public_half_of_mersenneKey :
    ∃ file publicFile, decodePrivateKey file (.ofString "pw") = .ok RSA.mersenneKey ∧
      (Passphrase.ofString "~ key").Printable ∧
      encodePublicKey (fun _ => 0) RSA.mersenneKey.toPublicKey (.ofString "~ key") = .ok publicFile ∧
      decodePublicKey publicFile (.ofString "~ key") = .ok RSA.mersenneKey.toPublicKey := by
  have hp : (Passphrase.ofString "~ key").Printable := by decide
  obtain ⟨file, -, hk, -⟩ := exists_mersenneKey_files (p := .ofString "pw") (by decide) hp
  obtain ⟨publicFile, hf, hiff, -⟩ := public_half_of_private_key hk (fun _ => 0) hp
  exact ⟨file, publicFile, hk, hp, hf, hiff.2 (by decide +kernel)⟩

end KeyFile

namespace RSA

theorem publicExponent_odd : publicExponent % 2 = 1 := by
  decide

theorem three_le_publicExponent : 3 ≤ publicExponent := by
  decide

theorem publicExponent_lt : publicExponent < 0x200000000 := by
  decide

def wideKey : PrivateKey where
  modulus := mersenne 2203 * mersenne 2281
  exponent := publicExponent
  secret := (inverse? publicExponent ((mersenne 2203 - 1) / 2 * (mersenne 2281 - 1))).getD 0
  p := mersenne 2203
  q := mersenne 2281
  modulus_odd := by decide +kernel
  exponent_odd := publicExponent_odd
  three_le_exponent := three_le_publicExponent
  exponent_lt := publicExponent_lt
  exponent_lt_modulus := by decide +kernel
  one_lt_p := by decide +kernel
  one_lt_q := by decide +kernel
  factors := rfl
  inverse_p := by decide +kernel
  inverse_q := by decide +kernel

theorem wideKey_p_prime : wideKey.p.Prime :=
  lucas_lehmer_sufficiency 2203 (by norm_num) (by norm_num)

theorem wideKey_q_prime : wideKey.q.Prime :=
  lucas_lehmer_sufficiency 2281 (by norm_num) (by norm_num)

end RSA

namespace KeyFile

theorem public_half_of_wideKey_refused :
    RSA.wideKey.p.Prime ∧ RSA.wideKey.q.Prime ∧
      ∃ file publicFile, decodePrivateKey file (.ofString "pw") = .ok RSA.wideKey ∧
        encodePublicKey (fun _ => 0) RSA.wideKey.toPublicKey (.ofString "out") = .ok publicFile ∧
        decodePublicKey publicFile (.ofString "out") =
          .error (.inappropriateKey .publicKey (.encoding .numbers)) := by
  have hfits : FitsDER RSA.wideKey := fitsDER_of_lt (w := 1000) (by decide) (by decide +kernel) (by decide +kernel)
  have hcoprime : Nat.gcd RSA.wideKey.p RSA.wideKey.q = 1 := by decide +kernel
  have hwide : ¬ Bytes.bitLength RSA.wideKey.modulus ≤ maxModulusBits := by decide +kernel
  obtain ⟨file, -, hk⟩ := exists_privateKeyFile (p := .ofString "pw") hfits hcoprime (fun _ => 0) (by decide)
  obtain ⟨publicFile, hfile, hread⟩ := exists_publicHalfFile hk (fun _ => 0) (p := .ofString "out") (by decide)
  exact ⟨RSA.wideKey_p_prime, RSA.wideKey_q_prime, file, publicFile, hk, hfile, hread.trans (if_neg hwide)⟩

end KeyFile

end SealedLicense
