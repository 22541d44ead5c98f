import Mathlib
import SealedLicense.Proofs.Sealing.RoundTrip

namespace SealedLicense

def TwicePadded (data filling plain : Bytes) : Prop :=
  filling.length ≤ 254 ∧ ∃ count, 1 ≤ count ∧ count ≤ 16 ∧
    plain = data ++ filling ++ [UInt8.ofNat (filling.length + 1)] ++ List.replicate count (UInt8.ofNat count)

theorem Filler.exists_take_eq (filling : Bytes) : ∃ filler : Filler, filler.take filling.length = filling := by
  refine ⟨fun i => filling.getD i 0, ?_⟩
  apply List.ext_getElem
  · exact Filler.length_take _ _
  · intro i _ hi
    simp [Filler.take, hi]

namespace Trailer

theorem append_of_unpad {padded data : Bytes} (h : unpad padded = .ok data) :
    ∃ filling, filling.length ≤ 254 ∧ padded = data ++ filling ++ [UInt8.ofNat (filling.length + 1)] := by
  rcases List.eq_nil_or_concat' padded with rfl | ⟨front, last, rfl⟩
  · cases h
  · have hlast := last.toNat_lt
    simp only [unpad, List.getLast?_append, List.getLast?_singleton, Option.some_or, List.length_append,
      List.length_singleton] at h
    split at h
    · cases h
    · next hn =>
      cases h
      refine ⟨front.drop (front.length + 1 - last.toNat), ?_, ?_⟩
      · rw [List.length_drop]
        omega
      · have hcount : (front.drop (front.length + 1 - last.toNat)).length + 1 = last.toNat := by
          rw [List.length_drop]
          omega
        rw [hcount, UInt8.ofNat_toNat, List.take_append_of_le_length (by omega), List.take_append_drop]

theorem unpad_eq_ok_iff {padded data : Bytes} :
    unpad padded = .ok data ↔
      ∃ filling, filling.length ≤ 254 ∧ padded = data ++ filling ++ [UInt8.ofNat (filling.length + 1)] := by
  constructor
  · exact append_of_unpad
  · rintro ⟨filling, hl, rfl⟩
    exact unpad_append (by omega)

theorem error_of_unpad {padded : Bytes} {error : SealError} (h : unpad padded = .error error) :
    error = .decryption := by
  unfold unpad at h
  split at h
  · cases h
    rfl
  · split at h
    · cases h
      rfl
    · cases h

end Trailer

namespace Codebook

variable {key : Block} {sealed : Bytes}

def WholeBlocks (sealed : Bytes) : Prop :=
  0 < sealed.length ∧ 16 ∣ sealed.length

def inverse (key : Block) (sealed : Bytes) : Bytes :=
  ((Block.split? sealed).map fun blocks => Block.join (blocks.map (AES128.decrypt key))).getD []

theorem inverse_join (key : Block) (blocks : List Block) :
    inverse key (Block.join blocks) = Block.join (blocks.map (AES128.decrypt key)) := by
  rw [inverse, Block.split?_join]
  rfl

theorem unfill?_eq_some_iff {filled rest : Bytes} : unfill? filled = some rest ↔
    ∃ count, 1 ≤ count ∧ count ≤ 16 ∧ filled = rest ++ List.replicate count (UInt8.ofNat count) := by
  constructor
  · intro h
    unfold unfill? at h
    split at h
    · cases h
    · next last hlast =>
      simp only [Option.ite_none_right_eq_some, Option.some.injEq] at h
      obtain ⟨⟨hpos, hle, happend⟩, rfl⟩ := h
      refine ⟨last.toNat, hpos, hle, ?_⟩
      rw [UInt8.ofNat_toNat]
      exact happend
  · rintro ⟨count, hpos, hle, rfl⟩
    exact unfill?_append hpos hle

theorem wholeBlocks_iff : WholeBlocks sealed ↔ ∃ blocks, blocks ≠ [] ∧ sealed = Block.join blocks := by
  constructor
  · rintro ⟨hpos, n, hn⟩
    obtain ⟨blocks, hb⟩ := Block.split?_of_dvd n sealed hn
    refine ⟨blocks, ?_, (Block.join_of_split? hb).symm⟩
    rintro rfl
    rw [← Block.join_of_split? hb] at hpos
    exact absurd hpos (by decide)
  · rintro ⟨blocks, hne, rfl⟩
    have hb := List.length_pos_iff.2 hne
    rw [WholeBlocks, Block.length_join]
    exact ⟨by omega, blocks.length, rfl⟩

theorem decrypt?_eq_some_iff {padded : Bytes} : decrypt? key sealed = some padded ↔
    WholeBlocks sealed ∧ unfill? (inverse key sealed) = some padded := by
  rw [wholeBlocks_iff]
  constructor
  · intro h
    simp only [decrypt?] at h
    split at h
    · next blocks hb =>
      have hsealed := Block.join_of_split? hb
      rw [← hsealed, inverse_join]
      refine ⟨⟨blocks, ?_, rfl⟩, h⟩
      rintro rfl
      cases h
    · cases h
  · rintro ⟨⟨blocks, -, rfl⟩, h⟩
    rw [inverse_join] at h
    rw [decrypt?, Block.split?_join]
    exact h

theorem fill_of_dvd {data : Bytes} {count : ℕ} (hpos : 1 ≤ count) (hle : count ≤ 16)
    (h : 16 ∣ data.length + count) : fill data = data ++ List.replicate count (UInt8.ofNat count) := by
  have hcount : 16 - data.length % 16 = count := by omega
  rw [fill, Block.octets, hcount]

theorem encrypt_of_fill {data : Bytes} {blocks : List Block} (h : fill data = Block.join blocks) :
    encrypt key data = Block.join (blocks.map (AES128.encrypt key)) := by
  rw [encrypt, h, Block.split?_join]
  rfl

theorem inverse_encrypt (key : Block) (data : Bytes) : inverse key (encrypt key data) = fill data := by
  obtain ⟨blocks, hf, he⟩ := encrypt_blocks key data
  have hround : (blocks.map (AES128.encrypt key)).map (AES128.decrypt key) = blocks := by
    simp [Function.comp_def]
  rw [he, inverse_join, hround, hf]

theorem encrypt_of_inverse {data : Bytes} {blocks : List Block} (h : inverse key (Block.join blocks) = fill data) :
    encrypt key data = Block.join blocks := by
  have hround : (blocks.map (AES128.decrypt key)).map (AES128.encrypt key) = blocks := by
    simp [Function.comp_def]
  rw [inverse_join] at h
  rw [encrypt_of_fill h.symm, hround]

end Codebook

namespace Cipher

variable {c : Cipher} {sealed data : Bytes}

theorem decrypt_eq_ok_iff : c.decrypt sealed = .ok data ↔
    Codebook.WholeBlocks sealed ∧ ∃ filling, TwicePadded data filling (Codebook.inverse c.key.block sealed) := by
  constructor
  · intro h
    unfold decrypt at h
    split at h
    · next padded hp =>
      obtain ⟨hwhole, hfilled⟩ := Codebook.decrypt?_eq_some_iff.1 hp
      obtain ⟨count, hpos, hle, hplain⟩ := Codebook.unfill?_eq_some_iff.1 hfilled
      obtain ⟨filling, hl, rfl⟩ := Trailer.unpad_eq_ok_iff.1 h
      exact ⟨hwhole, filling, hl, count, hpos, hle, hplain⟩
    · cases h
  · rintro ⟨hwhole, filling, hl, count, hpos, hle, hplain⟩
    have hfilled := Codebook.unfill?_eq_some_iff.2 ⟨count, hpos, hle, hplain⟩
    rw [decrypt, Codebook.decrypt?_eq_some_iff.2 ⟨hwhole, hfilled⟩]
    exact Trailer.unpad_eq_ok_iff.2 ⟨filling, hl, rfl⟩

theorem error_of_decrypt {error : SealError} (h : c.decrypt sealed = .error error) : error = .decryption := by
  unfold decrypt at h
  split at h
  · exact Trailer.error_of_unpad h
  · cases h
    rfl

theorem twicePadded_fill (filler : Filler) (data : Bytes) :
    TwicePadded data (filler.take (20 - data.length)) (Codebook.fill (padded filler data)) := by
  have hm := Nat.mod_lt (padded filler data).length (show 0 < 16 by decide)
  refine ⟨?_, 16 - (padded filler data).length % 16, by omega, by omega, ?_⟩
  · rw [Filler.length_take]
    omega
  · rw [Filler.length_take]
    rfl

theorem exists_encrypt_iff : (∃ filler, c.encrypt filler data = .ok sealed) ↔
    Codebook.WholeBlocks sealed ∧ ∃ filling, TwicePadded data filling (Codebook.inverse c.key.block sealed) ∧
      filling.length = 20 - data.length := by
  constructor
  · rintro ⟨filler, h⟩
    rw [encrypt_eq] at h
    cases h
    have hlength := Codebook.length_encrypt c.key.block (padded filler data)
    refine ⟨⟨by omega, _, hlength⟩, filler.take (20 - data.length), ?_, Filler.length_take _ _⟩
    rw [Codebook.inverse_encrypt]
    exact twicePadded_fill filler data
  · rintro ⟨hwhole, filling, ⟨-, count, hpos, hle, hplain⟩, hl⟩
    obtain ⟨blocks, -, rfl⟩ := Codebook.wholeBlocks_iff.1 hwhole
    obtain ⟨filler, hfiller⟩ := Filler.exists_take_eq filling
    refine ⟨filler, ?_⟩
    have hpadded : padded filler data = data ++ filling ++ [UInt8.ofNat (filling.length + 1)] := by
      rw [padded, leastLength, ← hl, hfiller]
    have hlength := congrArg List.length hplain
    rw [Codebook.inverse_join, Block.length_join, List.length_append, List.length_replicate, ← hpadded] at hlength
    rw [← hpadded, ← Codebook.fill_of_dvd hpos hle ⟨_, hlength.symm⟩] at hplain
    rw [encrypt_eq, Codebook.encrypt_of_inverse hplain]

end Cipher

theorem decrypt_language (c : Cipher) (sealed : Bytes) :
    (∀ data, c.decrypt sealed = .ok data ↔
      Codebook.WholeBlocks sealed ∧
        ∃ filling, TwicePadded data filling (Codebook.inverse c.key.block sealed)) ∧
    (c.decrypt sealed = .error .decryption ↔ ∀ data, c.decrypt sealed ≠ .ok data) ∧
    ∀ data, (∃ filler, c.encrypt filler data = .ok sealed) ↔
      Codebook.WholeBlocks sealed ∧
        ∃ filling, TwicePadded data filling (Codebook.inverse c.key.block sealed) ∧
          filling.length = 20 - data.length := by
  refine ⟨fun data => Cipher.decrypt_eq_ok_iff, ?_, fun data => Cipher.exists_encrypt_iff⟩
  cases hd : c.decrypt sealed with
  | ok data => simp
  | error error => simp [Cipher.error_of_decrypt hd]

end SealedLicense
