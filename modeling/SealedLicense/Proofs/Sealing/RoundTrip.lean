import Mathlib
import SealedLicense.Seal.Cipher

namespace SealedLicense

def Passphrase.Printable (p : Passphrase) : Prop :=
  ∀ c ∈ p.chars, ' ' ≤ c ∧ c ≤ '~'

theorem Passphrase.all_printable_iff (p : Passphrase) : p.chars.all printable = true ↔ p.Printable := by
  simp only [List.all_eq_true, printable, Bool.and_eq_true, decide_eq_true_eq, Printable]

instance (p : Passphrase) : Decidable p.Printable :=
  decidable_of_iff (p.chars.all Passphrase.printable = true) p.all_printable_iff

theorem Passphrase.toBytes_of_printable {p : Passphrase} (h : p.Printable) :
    p.toBytes = .ok (p.chars.map fun c => UInt8.ofNat c.toNat) :=
  if_pos (p.all_printable_iff.2 h)

theorem Passphrase.toBytes_of_not_printable {p : Passphrase} (h : ¬ p.Printable) :
    p.toBytes = .error (.invalidKeySpec .unprintable) :=
  if_neg (fun ha => h (p.all_printable_iff.1 ha))

namespace Cipher

theorem ofPassphrase_of_printable {p : Passphrase} (h : p.Printable) : ∃ c, ofPassphrase p = .ok c := by
  refine ⟨⟨Derivation.standard.keyOfBytes (p.chars.map fun c => UInt8.ofNat c.toNat)⟩, ?_⟩
  rw [ofPassphrase, ofDerivation, Derivation.key, Passphrase.toBytes_of_printable h]
  rfl

theorem ofDerivation_of_not_printable {p : Passphrase} (h : ¬ p.Printable) (d : Derivation) :
    ofDerivation d p = .error (.invalidKeySpec .unprintable) := by
  rw [ofDerivation, Derivation.key, Passphrase.toBytes_of_not_printable h]
  rfl

theorem ofPassphrase_of_not_printable {p : Passphrase} (h : ¬ p.Printable) :
    ofPassphrase p = .error (.invalidKeySpec .unprintable) :=
  ofDerivation_of_not_printable h .standard

theorem choose_of_printable {p : Option Passphrase} (h : ∀ q ∈ p, q.Printable) : ∃ c, choose p = .ok c := by
  cases p with
  | none => exact ⟨standard, rfl⟩
  | some q => exact ofPassphrase_of_printable (h q rfl)

def padded (filler : Filler) (data : Bytes) : Bytes :=
  data ++ filler.take (leastLength - data.length) ++ [UInt8.ofNat (leastLength - data.length + 1)]

theorem pad_leastLength (filler : Filler) (data : Bytes) :
    Trailer.pad filler data leastLength = .ok (padded filler data) :=
  Trailer.pad_of_le (by simp only [leastLength]; omega)

theorem encrypt_eq (c : Cipher) (filler : Filler) (data : Bytes) :
    c.encrypt filler data = .ok (Codebook.encrypt c.key.block (padded filler data)) := by
  rw [encrypt, pad_leastLength]
  rfl

theorem decrypt_of_encrypt {c : Cipher} {filler : Filler} {data sealed : Bytes}
    (h : c.encrypt filler data = .ok sealed) : c.decrypt sealed = .ok data := by
  rw [encrypt_eq] at h
  cases h
  have hp := Trailer.unpad_pad (pad_leastLength filler data)
  simp only [decrypt, Codebook.decrypt?_encrypt]
  exact hp

end Cipher

namespace Codebook

theorem encrypt_blocks (key : Block) (data : Bytes) :
    ∃ blocks, Block.join blocks = fill data ∧ encrypt key data = Block.join (blocks.map (AES128.encrypt key)) := by
  obtain ⟨blocks, hb⟩ := Block.split?_of_dvd _ _ (length_fill data)
  refine ⟨blocks, Block.join_of_split? hb, ?_⟩
  simp only [encrypt, hb]
  rfl

theorem length_encrypt (key : Block) (data : Bytes) : (encrypt key data).length = 16 * (data.length / 16 + 1) := by
  obtain ⟨blocks, hf, he⟩ := encrypt_blocks key data
  have hl := congrArg List.length hf
  rw [Block.length_join, length_fill] at hl
  rw [he, Block.length_join, List.length_map, hl]

end Codebook

theorem openBytes_of_sealBytes {filler : Filler} {data sealed : Bytes} {p : Option Passphrase}
    (h : sealBytes filler data p = .ok sealed) : openBytes sealed p = .ok data := by
  cases hc : Cipher.choose p with
  | error e =>
    rw [sealBytes, hc] at h
    cases h
  | ok c =>
    rw [sealBytes, hc] at h
    rw [openBytes, hc]
    exact Cipher.decrypt_of_encrypt h

theorem sealBytes_of_choose {p : Option Passphrase} {c : Cipher} (h : Cipher.choose p = .ok c) (filler : Filler)
    (data : Bytes) : sealBytes filler data p = .ok (Codebook.encrypt c.key.block (Cipher.padded filler data)) := by
  rw [sealBytes, h]
  exact Cipher.encrypt_eq c filler data

theorem sealed_bytes_open (filler : Filler) (data : Bytes) :
    (∀ c : Cipher, ∃ sealed blocks, c.encrypt filler data = .ok sealed ∧ c.decrypt sealed = .ok data ∧
      sealed = Block.join (blocks.map (AES128.encrypt c.key.block)) ∧
      Block.join blocks = Codebook.fill (data ++ filler.take (20 - data.length) ++
        [UInt8.ofNat (20 - data.length + 1)])) ∧
    ∀ p : Option Passphrase, (∀ q ∈ p, q.Printable) →
      ∃ sealed, sealBytes filler data p = .ok sealed ∧ openBytes sealed p = .ok data := by
  refine ⟨fun c => ?_, fun p hp => ?_⟩
  · obtain ⟨blocks, hf, he⟩ := Codebook.encrypt_blocks c.key.block (Cipher.padded filler data)
    have hc := c.encrypt_eq filler data
    exact ⟨_, blocks, hc, Cipher.decrypt_of_encrypt hc, he, hf⟩
  · obtain ⟨c, hc⟩ := Cipher.choose_of_printable hp
    have hs := sealBytes_of_choose hc filler data
    exact ⟨_, hs, openBytes_of_sealBytes hs⟩

theorem sealed_bytes_open_short : (∀ q ∈ some (Passphrase.ofString "a ~"), q.Printable) ∧
    ∃ sealed, sealBytes (fun _ => 7) [1, 2, 3] (some (.ofString "a ~")) = .ok sealed ∧
      openBytes sealed (some (.ofString "a ~")) = .ok [1, 2, 3] := by
  have h : ∀ q ∈ some (Passphrase.ofString "a ~"), q.Printable := by decide
  exact ⟨h, (sealed_bytes_open (fun _ => 7) [1, 2, 3]).2 _ h⟩

end SealedLicense
