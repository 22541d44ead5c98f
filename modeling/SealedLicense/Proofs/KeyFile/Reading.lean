import Mathlib
import SealedLicense.KeyFile.Basic
import SealedLicense.Proofs.Sealing.Language

namespace SealedLicense.KeyFile

theorem decrypt_of_not_printable {p : Passphrase} (hp : ¬ p.Printable) (file : Bytes) :
    decrypt file p = .error (.invalidKeySpec .unprintable) := by
  rw [decrypt, Cipher.ofPassphrase_of_not_printable hp]
  rfl

theorem error_of_decrypt {file : Bytes} {p : Passphrase} {e : SealError} (hp : p.Printable)
    (h : decrypt file p = .error e) : e = .decryption := by
  obtain ⟨c, hc⟩ := Cipher.ofPassphrase_of_printable hp
  rw [decrypt, hc] at h
  exact Cipher.error_of_decrypt h

variable {κ κ' : Type}

def readFile (expected other : KeyKind) (read : Bytes → Except EncodingFault κ)
    (readOther : Bytes → Except EncodingFault κ') (file : Bytes) (p : Passphrase) : Except SigningError κ :=
  match decrypt file p with
  | .error e => .error (.inappropriateKey expected (.sealed e))
  | .ok der =>
      match read der with
      | .ok k => .ok k
      | .error fault =>
          .error (.inappropriateKey expected (if (readOther der).isOk then .found other else .encoding fault))

theorem decodePrivateKey_eq (file : Bytes) (p : Passphrase) :
    decodePrivateKey file p = readFile .privateKey .publicKey privateKeyOfDER publicKeyOfDER file p := by
  cases hd : decrypt file p with
  | error e => simp only [decodePrivateKey, readFile, hd]
  | ok der => cases hk : privateKeyOfDER der <;> simp only [decodePrivateKey, readFile, hd, hk]

theorem decodePublicKey_eq (file : Bytes) (p : Passphrase) :
    decodePublicKey file p = readFile .publicKey .privateKey publicKeyOfDER privateKeyOfDER file p := by
  cases hd : decrypt file p with
  | error e => simp only [decodePublicKey, readFile, hd]
  | ok der => cases hk : publicKeyOfDER der <;> simp only [decodePublicKey, readFile, hd, hk]

inductive Refused (other : KeyKind) (read : Bytes → Except EncodingFault κ)
    (readOther : Bytes → Except EncodingFault κ') (file : Bytes) (p : Passphrase) : KeyFault → Prop
  | unprintable (hp : ¬ p.Printable) : Refused other read readOther file p (.sealed (.invalidKeySpec .unprintable))
  | unopened (hp : p.Printable) (hd : decrypt file p = .error .decryption) :
      Refused other read readOther file p (.sealed .decryption)
  | otherKind {der : Bytes} {k : κ'} (hd : decrypt file p = .ok der) (hk : readOther der = .ok k) :
      Refused other read readOther file p (.found other)
  | malformed {der : Bytes} {fault : EncodingFault} (hd : decrypt file p = .ok der) (hf : read der = .error fault)
      (hk : ∀ k, readOther der ≠ .ok k) : Refused other read readOther file p (.encoding fault)

section

variable {expected other : KeyKind} {read : Bytes → Except EncodingFault κ}
  {readOther : Bytes → Except EncodingFault κ'} {file : Bytes} {p : Passphrase} {fault : KeyFault}

theorem readFile_eq_ok_iff {k : κ} : readFile expected other read readOther file p = .ok k ↔
    ∃ der, decrypt file p = .ok der ∧ read der = .ok k := by
  unfold readFile
  cases decrypt file p with
  | error e => simp
  | ok der => cases hr : read der <;> simp [hr]

theorem exists_refused {error : SigningError} (h : readFile expected other read readOther file p = .error error) :
    ∃ fault, error = .inappropriateKey expected fault ∧ Refused other read readOther file p fault := by
  unfold readFile at h
  split at h
  · next e hd =>
    cases h
    by_cases hp : p.Printable
    · cases error_of_decrypt hp hd
      exact ⟨_, rfl, .unopened hp hd⟩
    · cases (decrypt_of_not_printable hp file).symm.trans hd
      exact ⟨_, rfl, .unprintable hp⟩
  · next der hd =>
    split at h
    · cases h
    · next fault hf =>
      cases h
      refine ⟨_, rfl, ?_⟩
      cases hk : readOther der with
      | ok k => exact .otherKind hd hk
      | error _ =>
        apply Refused.malformed hd hf
        intro k hok
        cases hk.symm.trans hok

theorem Refused.eq_found (h : Refused other read readOther file p fault)
    (hm : fault.message expected = "found " ++ other.message) : fault = .found other := by
  cases h with
  | unprintable _ =>
    revert hm
    cases expected <;> cases other <;> decide
  | unopened _ _ =>
    revert hm
    cases expected <;> cases other <;> decide
  | otherKind _ _ => rfl
  | @malformed der fault _ _ _ =>
    revert hm
    cases expected <;> cases other <;> cases fault <;> decide

variable (hdisjoint : ∀ {der k}, readOther der = .ok k → ∀ k', read der ≠ .ok k')
include hdisjoint

theorem readFile_of_refused (h : Refused other read readOther file p fault) :
    readFile expected other read readOther file p = .error (.inappropriateKey expected fault) := by
  unfold readFile
  cases h with
  | unprintable hp => rw [decrypt_of_not_printable hp]
  | unopened _ hd => rw [hd]
  | otherKind hd hk =>
    rw [hd]
    -- a key of the other kind is never read as one of this kind, so the reader has failed
    cases hr : read _ with
    | ok k' => exact absurd hr (hdisjoint hk k')
    | error _ =>
      simp only [hr, hk]
      rfl
  | malformed hd hf hk =>
    rw [hd]
    cases hr : readOther _ with
    | ok k => exact absurd hr (hk k)
    | error _ =>
      simp only [hf, hr]
      rfl

theorem readFile_eq_error_iff {error : SigningError} :
    readFile expected other read readOther file p = .error error ↔
      ∃ fault, error = .inappropriateKey expected fault ∧ Refused other read readOther file p fault := by
  constructor
  · exact exists_refused
  · rintro ⟨fault, rfl, h⟩
    exact readFile_of_refused hdisjoint h

theorem reports_found_iff :
    (∃ fault, readFile expected other read readOther file p = .error (.inappropriateKey expected fault) ∧
      fault.message expected = "found " ++ other.message) ↔
      ∃ k, readFile other expected readOther read file p = .ok k := by
  constructor
  · rintro ⟨fault, h, hm⟩
    obtain ⟨_, heq, hrefused⟩ := exists_refused h
    cases heq
    cases hrefused.eq_found hm
    cases hrefused with
    | otherKind hd hk => exact ⟨_, readFile_eq_ok_iff.2 ⟨_, hd, hk⟩⟩
  · rintro ⟨k, h⟩
    obtain ⟨der, hd, hk⟩ := readFile_eq_ok_iff.1 h
    exact ⟨.found other, readFile_of_refused hdisjoint (.otherKind hd hk), rfl⟩

end

theorem decodePrivateKey_eq_ok_iff {file : Bytes} {p : Passphrase} {k : RSA.PrivateKey} :
    decodePrivateKey file p = .ok k ↔ ∃ der, decrypt file p = .ok der ∧ privateKeyOfDER der = .ok k := by
  rw [decodePrivateKey_eq, readFile_eq_ok_iff]

theorem decodePublicKey_eq_ok_iff {file : Bytes} {p : Passphrase} {k : RSA.PublicKey} :
    decodePublicKey file p = .ok k ↔ ∃ der, decrypt file p = .ok der ∧ publicKeyOfDER der = .ok k := by
  rw [decodePublicKey_eq, readFile_eq_ok_iff]

theorem error_of_decodePrivateKey {file : Bytes} {p : Passphrase} {error : SigningError}
    (h : decodePrivateKey file p = .error error) : ∃ fault, error = .inappropriateKey .privateKey fault := by
  rw [decodePrivateKey_eq] at h
  obtain ⟨fault, he, -⟩ := exists_refused h
  exact ⟨fault, he⟩

theorem error_of_decodePublicKey {file : Bytes} {p : Passphrase} {error : SigningError}
    (h : decodePublicKey file p = .error error) : ∃ fault, error = .inappropriateKey .publicKey fault := by
  rw [decodePublicKey_eq] at h
  obtain ⟨fault, he, -⟩ := exists_refused h
  exact ⟨fault, he⟩

end SealedLicense.KeyFile
