import Mathlib
import SealedLicense.KeyFile.Basic
import SealedLicense.Proofs.KeyFile.Encoding
import SealedLicense.Proofs.RSA.Signing
import SealedLicense.Proofs.Sealing.RoundTrip

namespace SealedLicense.KeyFile

variable {filler : Filler} {p : Passphrase}

theorem encrypt_of_not_printable (hp : ¬ p.Printable) (der : Bytes) :
    encrypt filler der p = .error (.crypto (.invalidKeySpec .unprintable)) := by
  simp only [encrypt, Cipher.ofPassphrase_of_not_printable hp, Except.bind]

theorem encrypt_of_ofPassphrase {c : Cipher} (hc : Cipher.ofPassphrase p = .ok c) (der : Bytes) :
    encrypt filler der p = .ok (Codebook.encrypt c.key.block (Cipher.padded filler der)) := by
  simp only [encrypt, hc, Except.bind, Cipher.encrypt_eq]

theorem encrypt_of_printable (filler : Filler) (hp : p.Printable) (der : Bytes) :
    ∃ file, encrypt filler der p = .ok file := by
  obtain ⟨c, hc⟩ := Cipher.ofPassphrase_of_printable hp
  exact ⟨_, encrypt_of_ofPassphrase hc der⟩

theorem decrypt_of_encrypt {der file : Bytes} (h : encrypt filler der p = .ok file) : decrypt file p = .ok der := by
  cases hc : Cipher.ofPassphrase p with
  | error e =>
    simp only [encrypt, hc, Except.bind] at h
    cases h
  | ok c =>
    rw [encrypt_of_ofPassphrase hc] at h
    cases h
    rw [decrypt, hc]
    exact Cipher.decrypt_of_encrypt (c.encrypt_eq filler der)

theorem decodePrivateKey_of_encrypt {der file : Bytes} {k : RSA.PrivateKey}
    (hf : encrypt filler der p = .ok file) (hk : privateKeyOfDER der = .ok k) : decodePrivateKey file p = .ok k := by
  simp only [decodePrivateKey, decrypt_of_encrypt hf, hk]

theorem decodePublicKey_of_encrypt {der file : Bytes} {k : RSA.PublicKey}
    (hf : encrypt filler der p = .ok file) (hk : publicKeyOfDER der = .ok k) : decodePublicKey file p = .ok k := by
  simp only [decodePublicKey, decrypt_of_encrypt hf, hk]

def FitsDER (k : RSA.PrivateKey) : Prop :=
  ∀ x ∈ privateNumbers? k, (PrivateInfo.encode ⟨.rsa, x.encode⟩).length ≤ DER.maxLength

instance (k : RSA.PrivateKey) : Decidable (FitsDER k) :=
  inferInstanceAs (Decidable (∀ x ∈ privateNumbers? k, (PrivateInfo.encode ⟨.rsa, x.encode⟩).length ≤ DER.maxLength))

theorem privateNumbers?_lt {k : RSA.PrivateKey} {x : PrivateNumbers} (hx : privateNumbers? k = some x) {b : ℕ}
    (hn : k.modulus < b) (hd : k.secret < b) :
    ∀ n ∈ [0, x.modulus, x.exponent, x.secret, x.p, x.q, x.secretModP, x.secretModQ, x.coefficient], n < b := by
  obtain ⟨c, hc, rfl⟩ := Option.map_eq_some_iff.1 hx
  have hp := k.one_lt_p
  have hq := k.one_lt_q
  have hpn : k.p ≤ k.modulus := k.factors ▸ Nat.le_mul_of_pos_right k.p (by omega)
  have hqn : k.q ≤ k.modulus := k.factors ▸ Nat.le_mul_of_pos_left k.q (by omega)
  have he := k.exponent_lt_modulus
  have hdp := Nat.mod_le k.secret (k.p - 1)
  have hdq := Nat.mod_le k.secret (k.q - 1)
  have hcp := (RSA.inverse?_eq_some hp hc).2
  simp only [List.forall_mem_cons, List.not_mem_nil, false_implies, implies_true, and_true]
  refine ⟨?_, ?_, ?_, ?_, ?_, ?_, ?_, ?_, ?_⟩ <;> omega

theorem fitsDER_of_lt {k : RSA.PrivateKey} {w : ℕ} (hw : w ≤ 1000000) (hn : k.modulus < 2 ^ (8 * w))
    (hd : k.secret < 2 ^ (8 * w)) : FitsDER k := by
  intro x hx
  have hmax : DER.maxLength = 268435455 := rfl
  have hnumbers := DER.length_flatMap_natural_le (privateNumbers?_lt hx hn hd) (by omega)
  rw [show [0, x.modulus, x.exponent, x.secret, x.p, x.q, x.secretModP, x.secretModQ, x.coefficient].length = 9 from
    rfl] at hnumbers
  have hkey : x.encode.length ≤ 9 * (w + 7) + 6 := by
    refine (DER.Element.length_encode_le ?_).trans (Nat.add_le_add_right hnumbers 6)
    exact hnumbers.trans (by omega)
  have hoctets : (DER.Element.encode ⟨DER.octetString, x.encode⟩).length ≤ 9 * (w + 7) + 12 := by
    refine (DER.Element.length_encode_le ?_).trans (Nat.add_le_add_right hkey 6)
    exact hkey.trans (by omega)
  have hfront : (DER.natural 0 ++ Algorithm.rsa.encode).length = 18 := rfl
  have hcontent : (DER.natural 0 ++ Algorithm.rsa.encode ++ DER.Element.encode ⟨DER.octetString, x.encode⟩).length ≤
      9 * (w + 7) + 30 := by
    rw [List.length_append, hfront]
    omega
  refine (DER.Element.length_encode_le ?_).trans ?_
  · exact hcontent.trans (by omega)
  · refine (Nat.add_le_add_right hcontent 6).trans (by omega)

section

variable {k : RSA.PrivateKey}

theorem encodePrivateKey_of_common_factor (hg : Nat.gcd k.p k.q ≠ 1) :
    encodePrivateKey filler k p = .error (.inappropriateKey .privateKey (.encoding .numbers)) := by
  have hx : privateNumbers? k = none := by
    rw [← Option.not_isSome_iff_eq_none, privateNumbers?_isSome_iff]
    exact hg
  simp only [encodePrivateKey, privateKeyToDER_of_none hx]

theorem encodePrivateKey_of_coprime (hf : FitsDER k) (hg : Nat.gcd k.p k.q = 1) :
    ∃ der, privateKeyOfDER der = .ok k ∧ ∀ filler p, encodePrivateKey filler k p = encrypt filler der p := by
  obtain ⟨x, hx⟩ := Option.isSome_iff_exists.1 ((privateNumbers?_isSome_iff k).2 hg)
  refine ⟨_, privateKeyOfDER_encode hx (hf x hx), fun filler p => ?_⟩
  simp only [encodePrivateKey, privateKeyToDER_of_le hx (hf x hx)]

theorem encodePrivateKey_of_not_printable (hf : FitsDER k) (hg : Nat.gcd k.p k.q = 1) (hp : ¬ p.Printable) :
    encodePrivateKey filler k p = .error (.crypto (.invalidKeySpec .unprintable)) := by
  obtain ⟨der, -, he⟩ := encodePrivateKey_of_coprime hf hg
  rw [he, encrypt_of_not_printable hp]

theorem exists_privateKeyFile (hf : FitsDER k) (hg : Nat.gcd k.p k.q = 1) (filler : Filler) (hp : p.Printable) :
    ∃ file, encodePrivateKey filler k p = .ok file ∧ decodePrivateKey file p = .ok k := by
  obtain ⟨der, hk, he⟩ := encodePrivateKey_of_coprime hf hg
  obtain ⟨file, hfile⟩ := encrypt_of_printable filler hp der
  exact ⟨file, (he filler p).trans hfile, decodePrivateKey_of_encrypt hfile hk⟩

end

theorem exists_publicKeyFile {k : RSA.PublicKey} (hb : Bytes.bitLength k.modulus ≤ maxModulusBits)
    (hl : (PublicInfo.encode .rsa (encodePublicNumbers k.modulus k.exponent)).length ≤ DER.maxLength) (filler : Filler)
    (hp : p.Printable) : ∃ file, encodePublicKey filler k p = .ok file ∧ decodePublicKey file p = .ok k := by
  obtain ⟨file, hfile⟩ := encrypt_of_printable filler hp
    (PublicInfo.encode .rsa (encodePublicNumbers k.modulus k.exponent))
  refine ⟨file, ?_, decodePublicKey_of_encrypt hfile (publicKeyOfDER_encode hb hl)⟩
  simp only [encodePublicKey, publicKeyToDER_of_le hl, hfile]

theorem exists_mersenneKey_files {p q : Passphrase} (hp : p.Printable) (hq : q.Printable) :
    ∃ privateFile publicFile, decodePrivateKey privateFile p = .ok RSA.mersenneKey ∧
      decodePublicKey publicFile q = .ok RSA.mersenneKey.toPublicKey := by
  obtain ⟨privateFile, -, hk⟩ :=
    exists_privateKeyFile (k := RSA.mersenneKey) (by decide +kernel) (by decide +kernel) (fun _ => 0) hp
  obtain ⟨publicFile, -, hv⟩ :=
    exists_publicKeyFile (k := RSA.mersenneKey.toPublicKey) (by decide +kernel) (by decide +kernel) (fun _ => 0) hq
  exact ⟨privateFile, publicFile, hk, hv⟩

theorem private_key_file_roundTrip (filler : Filler) (k : RSA.PrivateKey) (hf : FitsDER k) (p : Passphrase) :
    ((∃ fault, encodePrivateKey filler k p = .error (.inappropriateKey .privateKey fault)) ↔ Nat.gcd k.p k.q ≠ 1) ∧
    (Nat.gcd k.p k.q = 1 →
      ((∃ fault, encodePrivateKey filler k p = .error (.crypto (.invalidKeySpec fault))) ↔
        ∃ c ∈ p.chars, ¬ (' ' ≤ c ∧ c ≤ '~'))) ∧
    (Nat.gcd k.p k.q = 1 → (∀ c ∈ p.chars, ' ' ≤ c ∧ c ≤ '~') →
      ∃ file, encodePrivateKey filler k p = .ok file ∧ decodePrivateKey file p = .ok k) := by
  have hnot : (∃ c ∈ p.chars, ¬ (' ' ≤ c ∧ c ≤ '~')) ↔ ¬ p.Printable := by
    simp only [Passphrase.Printable, not_forall, exists_prop]
  rw [hnot]
  by_cases hg : Nat.gcd k.p k.q = 1
  · by_cases hp : p.Printable
    · obtain ⟨file, he, hk⟩ := exists_privateKeyFile hf hg filler hp
      rw [he]
      refine ⟨⟨?_, fun hne => absurd hg hne⟩, fun _ => ⟨?_, fun hn => absurd hp hn⟩, fun _ _ => ⟨file, rfl, hk⟩⟩
      · rintro ⟨fault, ⟨⟩⟩
      · rintro ⟨fault, ⟨⟩⟩
    · rw [encodePrivateKey_of_not_printable hf hg hp]
      refine ⟨⟨?_, fun hne => absurd hg hne⟩, fun _ => ⟨fun _ => hp, fun _ => ⟨_, rfl⟩⟩, fun _ hq => absurd hq hp⟩
      rintro ⟨fault, ⟨⟩⟩
  · rw [encodePrivateKey_of_common_factor hg]
    exact ⟨⟨fun _ => hg, fun _ => ⟨_, rfl⟩⟩, fun h => absurd h hg, fun h => absurd h hg⟩

theorem private_key_file_roundTrip_mersenneKey :
    FitsDER RSA.mersenneKey ∧ Nat.gcd RSA.mersenneKey.p RSA.mersenneKey.q = 1 ∧ (Passphrase.ofString "pw").Printable ∧
      ∃ file, encodePrivateKey (fun _ => 0) RSA.mersenneKey (.ofString "pw") = .ok file ∧
        decodePrivateKey file (.ofString "pw") = .ok RSA.mersenneKey := by
  have hf : FitsDER RSA.mersenneKey := by decide +kernel
  have hg : Nat.gcd RSA.mersenneKey.p RSA.mersenneKey.q = 1 := by decide +kernel
  have hp : (Passphrase.ofString "pw").Printable := by decide
  exact ⟨hf, hg, hp, (private_key_file_roundTrip (fun _ => 0) RSA.mersenneKey hf (.ofString "pw")).2.2 hg hp⟩

end SealedLicense.KeyFile
