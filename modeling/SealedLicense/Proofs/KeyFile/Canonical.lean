import Mathlib
import SealedLicense.Proofs.KeyFile.Decoding
import SealedLicense.Proofs.KeyFile.Reading
import SealedLicense.Proofs.KeyFile.RoundTrip

namespace SealedLicense

namespace DER

theorem BitString.content_of_ofContent? {content : Bytes} {b : BitString} (h : ofContent? content = some b) :
    content = UInt8.ofNat b.unused :: b.bytes := by
  cases content with
  | nil => cases h
  | cons unused bytes =>
    obtain ⟨-, h⟩ := Option.ite_none_right_eq_some.1 h
    cases h
    rw [UInt8.ofNat_toNat]

end DER

namespace KeyFile

open DER

theorem Algorithm.eq_rsa_of_check {a : Algorithm} (h : a.check = .ok ()) : a = rsa := by
  obtain ⟨name, parameters⟩ := a
  unfold check at h
  split at h
  · cases h
  · next hname =>
    split at h
    · cases h
    · next e hp =>
      split at h
      · next he =>
        simp only [ne_eq, not_not] at hname hp
        rw [hname, hp, he]
        rfl
      · cases h

theorem PublicInfo.encode_of_ofBytes? {bs : Bytes} {i : PublicInfo} (h : ofBytes? bs = some i) :
    bs = Element.encode ⟨DER.sequence,
      i.algorithm.encode ++ Element.encode ⟨bitString, UInt8.ofNat i.key.unused :: i.key.bytes⟩⟩ := by
  obtain ⟨content, hs, h⟩ := Option.bind_eq_some_iff.1 h
  obtain ⟨⟨algorithm, rest⟩, hr, h⟩ := Option.bind_eq_some_iff.1 h
  obtain ⟨bits, hb, h⟩ := Option.bind_eq_some_iff.1 h
  obtain ⟨key, hk, h⟩ := Option.bind_eq_some_iff.1 h
  cases h
  rw [Element.encode_of_ofBytes? hs, Algorithm.encode_of_read hr, Element.encode_of_ofBytes? hb,
    BitString.content_of_ofContent? hk]

theorem encode_of_publicNumbers? {bs : Bytes} {n e : ℕ} (h : publicNumbers? bs = some (n, e)) :
    bs = encodePublicNumbers n e := by
  obtain ⟨content, hs, h⟩ := Option.bind_eq_some_iff.1 h
  obtain ⟨⟨numbers, rest⟩, hn, h⟩ := Option.bind_eq_some_iff.1 h
  rw [Element.encode_of_ofBytes? hs, flatMap_of_readNaturals hn]
  simp only at h
  split at h
  · cases h
    simp only [List.flatMap_cons, List.flatMap_nil, List.append_nil, encodePublicNumbers]
  · cases h

theorem encode_of_publicKeyOfDER {der : Bytes} {k : RSA.PublicKey} (h : publicKeyOfDER der = .ok k) :
    der = PublicInfo.encode .rsa (encodePublicNumbers k.modulus k.exponent) ∧ der.length ≤ maxLength ∧
      Bytes.bitLength k.modulus ≤ maxModulusBits := by
  unfold publicKeyOfDER at h
  split at h
  · cases h
  · next hl =>
    split at h
    · cases h
    · next i hi =>
      obtain ⟨_, ha, h⟩ := bind_eq_ok_iff.1 h
      split at h
      · cases h
      · next hu =>
        split at h
        · cases h
        · next n e hn =>
          split at h
          · cases h
          · next hb =>
            split at h
            · next hk =>
              cases h
              obtain ⟨rfl, rfl⟩ := RSA.PublicKey.numbers_of_ofNumbers? hk
              have hder := PublicInfo.encode_of_ofBytes? hi
              rw [Algorithm.eq_rsa_of_check ha, not_not.1 hu, encode_of_publicNumbers? hn] at hder
              exact ⟨hder, Nat.not_lt.1 hl, Nat.not_lt.1 hb⟩
            · cases h

theorem publicKeyOfDER_eq_ok_iff {der : Bytes} {k : RSA.PublicKey} :
    publicKeyOfDER der = .ok k ↔ publicKeyToDER k = .ok der ∧ Bytes.bitLength k.modulus ≤ maxModulusBits := by
  constructor
  · intro h
    obtain ⟨rfl, hl, hb⟩ := encode_of_publicKeyOfDER h
    exact ⟨publicKeyToDER_of_le hl, hb⟩
  · rintro ⟨h, hb⟩
    simp only [publicKeyToDER] at h
    split at h
    · cases h
    · next hl =>
      cases h
      exact publicKeyOfDER_encode hb (Nat.not_lt.1 hl)

theorem public_key_file_canonical :
    (∀ {file : Bytes} {p : Passphrase} {k : RSA.PublicKey}, decodePublicKey file p = .ok k →
      ∀ (filler : Filler) {q : Passphrase}, (∀ c ∈ q.chars, ' ' ≤ c ∧ c ≤ '~') →
        ∃ written der, encodePublicKey filler k q = .ok written ∧ decodePublicKey written q = .ok k ∧
          decrypt file p = .ok der ∧ decrypt written q = .ok der) ∧
    (∀ der k, publicKeyOfDER der = .ok k ↔
      publicKeyToDER k = .ok der ∧ Bytes.bitLength k.modulus ≤ maxModulusBits) ∧
    ∀ {der₁ der₂ k}, publicKeyOfDER der₁ = .ok k → publicKeyOfDER der₂ = .ok k → der₁ = der₂ := by
  refine ⟨?_, fun der k => publicKeyOfDER_eq_ok_iff, ?_⟩
  · intro file p k h filler q hq
    obtain ⟨der, hd, hk⟩ := decodePublicKey_eq_ok_iff.1 h
    obtain ⟨hder, -⟩ := publicKeyOfDER_eq_ok_iff.1 hk
    obtain ⟨written, hw⟩ := encrypt_of_printable filler (show q.Printable from hq) der
    refine ⟨written, der, ?_, decodePublicKey_of_encrypt hw hk, hd, decrypt_of_encrypt hw⟩
    simp only [encodePublicKey, hder, hw]
  · intro der₁ der₂ k h₁ h₂
    rw [(encode_of_publicKeyOfDER h₁).1, (encode_of_publicKeyOfDER h₂).1]

theorem public_key_file_canonical_mersenneKey :
    ∃ file written der, decodePublicKey file (.ofString "pw") = .ok RSA.mersenneKey.toPublicKey ∧
      encodePublicKey (fun _ => 7) RSA.mersenneKey.toPublicKey (.ofString "~ key") = .ok written ∧
      decodePublicKey written (.ofString "~ key") = .ok RSA.mersenneKey.toPublicKey ∧
      decrypt file (.ofString "pw") = .ok der ∧ decrypt written (.ofString "~ key") = .ok der ∧
      ∀ der', publicKeyOfDER der' = .ok RSA.mersenneKey.toPublicKey → der' = der := by
  have hp : (Passphrase.ofString "pw").Printable := by decide
  have hq : (Passphrase.ofString "~ key").Printable := by decide
  obtain ⟨-, file, -, hk⟩ := exists_mersenneKey_files hp hp
  obtain ⟨hwrite, -, hone⟩ := public_key_file_canonical
  obtain ⟨written, der, hw, hr, hd, hd'⟩ := hwrite hk (fun _ => 7) hq
  refine ⟨file, written, der, hk, hw, hr, hd, hd', fun der' h => hone h ?_⟩
  obtain ⟨_, hsame, hder⟩ := decodePublicKey_eq_ok_iff.1 hk
  cases hd.symm.trans hsame
  exact hder

theorem privateKeyOfDER_ne_of_public {der : Bytes} {k : RSA.PublicKey} (h : publicKeyOfDER der = .ok k)
    (k' : RSA.PrivateKey) : privateKeyOfDER der ≠ .ok k' := by
  obtain ⟨rfl, hl, -⟩ := encode_of_publicKeyOfDER h
  rw [privateKeyOfDER_publicInfo hl]
  intro h'
  cases h'

theorem publicKeyOfDER_ne_of_private {der : Bytes} {k : RSA.PrivateKey} (h : privateKeyOfDER der = .ok k)
    (k' : RSA.PublicKey) : publicKeyOfDER der ≠ .ok k' := by
  intro h'
  exact privateKeyOfDER_ne_of_public h' k h

theorem key_kinds_not_confused (file : Bytes) (p : Passphrase) :
    (∀ k k', ¬ (decodePrivateKey file p = .ok k ∧ decodePublicKey file p = .ok k')) ∧
    ((∃ fault, decodePrivateKey file p = .error (.inappropriateKey .privateKey fault) ∧
        fault.message .privateKey = "found RSA public key (X.509)") ↔ ∃ k, decodePublicKey file p = .ok k) ∧
    ((∃ fault, decodePublicKey file p = .error (.inappropriateKey .publicKey fault) ∧
        fault.message .publicKey = "found RSA private key (PKCS#8)") ↔ ∃ k, decodePrivateKey file p = .ok k) ∧
    (∀ error, decodePrivateKey file p = .error error ↔ ∃ fault, error = .inappropriateKey .privateKey fault ∧
      Refused .publicKey privateKeyOfDER publicKeyOfDER file p fault) ∧
    ∀ error, decodePublicKey file p = .error error ↔ ∃ fault, error = .inappropriateKey .publicKey fault ∧
      Refused .privateKey publicKeyOfDER privateKeyOfDER file p fault := by
  rw [decodePrivateKey_eq, decodePublicKey_eq]
  refine ⟨?_, reports_found_iff privateKeyOfDER_ne_of_public, reports_found_iff publicKeyOfDER_ne_of_private,
    fun error => readFile_eq_error_iff privateKeyOfDER_ne_of_public,
    fun error => readFile_eq_error_iff publicKeyOfDER_ne_of_private⟩
  rintro k k' ⟨h, h'⟩
  obtain ⟨der, hd, hk⟩ := readFile_eq_ok_iff.1 h
  obtain ⟨_, hd', hk'⟩ := readFile_eq_ok_iff.1 h'
  cases hd.symm.trans hd'
  exact privateKeyOfDER_ne_of_public hk' k hk

theorem key_kinds_not_confused_mersenneKey :
    ∃ file publicFile fault fault', decodePrivateKey file (.ofString "pw") = .ok RSA.mersenneKey ∧
      decodePublicKey file (.ofString "pw") = .error (.inappropriateKey .publicKey fault) ∧
      fault.message .publicKey = "found RSA private key (PKCS#8)" ∧
      decodePublicKey publicFile (.ofString "pw") = .ok RSA.mersenneKey.toPublicKey ∧
      decodePrivateKey publicFile (.ofString "pw") = .error (.inappropriateKey .privateKey fault') ∧
      fault'.message .privateKey = "found RSA public key (X.509)" := by
  have hp : (Passphrase.ofString "pw").Printable := by decide
  obtain ⟨file, publicFile, hk, hk'⟩ := exists_mersenneKey_files hp hp
  obtain ⟨-, -, hprivate, -⟩ := key_kinds_not_confused file (.ofString "pw")
  obtain ⟨-, hpublic, -⟩ := key_kinds_not_confused publicFile (.ofString "pw")
  obtain ⟨fault, h, hm⟩ := hprivate.2 ⟨_, hk⟩
  obtain ⟨fault', h', hm'⟩ := hpublic.2 ⟨_, hk'⟩
  exact ⟨file, publicFile, fault, fault', hk, h, hm, hk', h', hm'⟩

end KeyFile

end SealedLicense
