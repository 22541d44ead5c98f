import Mathlib
import SealedLicense.Proofs.Sealing.Pieces

namespace SealedLicense

namespace Codebook

variable {key : Block} {as bs : Bytes} {j : Nat}

theorem encrypt_inj : encrypt key as = encrypt key bs ↔ as = bs := by
  constructor
  · intro h
    have ha := decrypt?_encrypt key as
    rw [h, decrypt?_encrypt] at ha
    exact (Option.some.inj ha).symm
  · rintro rfl
    rfl

theorem exists_take_encrypt (key : Block) (h : 16 * j ≤ as.length) : ∃ blocks,
    as.take (16 * j) = Block.join blocks ∧
      (encrypt key as).take (16 * j) = Block.join (blocks.map (AES128.encrypt key)) := by
  obtain ⟨blocks, hf, he⟩ := encrypt_blocks key as
  -- the filling stands behind the data, so the first blocks are those of the data
  refine ⟨blocks.take j, ?_, ?_⟩
  · rw [← Block.take_join, hf, fill, List.take_append_of_le_length h]
  · rw [he, Block.take_join, List.map_take]

theorem take_encrypt_eq (ha : 16 * j ≤ as.length) (hb : 16 * j ≤ bs.length)
    (h : as.take (16 * j) = bs.take (16 * j)) : (encrypt key as).take (16 * j) = (encrypt key bs).take (16 * j) := by
  obtain ⟨blocks, has, hea⟩ := exists_take_encrypt key ha
  obtain ⟨more, hbs, heb⟩ := exists_take_encrypt key hb
  rw [has, hbs] at h
  rw [hea, heb, Block.join_injective h]

end Codebook

namespace Cipher

variable {c : Cipher} {filler filler₁ filler₂ : Filler} {data sealed : Bytes}

theorem length_padded (filler : Filler) (data : Bytes) : (padded filler data).length = max data.length 20 + 1 := by
  simp only [padded, leastLength, List.length_append, Filler.length_take, List.length_singleton]
  omega

theorem take_padded (filler : Filler) {n : Nat} (h : n ≤ data.length) : (padded filler data).take n = data.take n := by
  rw [padded, List.append_assoc, List.take_append_of_le_length h]

theorem padded_inj : padded filler₁ data = padded filler₂ data ↔
    filler₁.take (20 - data.length) = filler₂.take (20 - data.length) := by
  rw [padded, padded, leastLength, List.append_left_inj, List.append_right_inj]

theorem length_of_encrypt (h : c.encrypt filler data = .ok sealed) :
    sealed.length = 16 * ((max data.length 20 + 1) / 16 + 1) := by
  rw [encrypt_eq] at h
  cases h
  rw [Codebook.length_encrypt, length_padded]

theorem encrypt_eq_iff {sealed₁ sealed₂ : Bytes} (h₁ : c.encrypt filler₁ data = .ok sealed₁)
    (h₂ : c.encrypt filler₂ data = .ok sealed₂) :
    sealed₁ = sealed₂ ↔ filler₁.take (20 - data.length) = filler₂.take (20 - data.length) := by
  rw [encrypt_eq] at h₁ h₂
  cases h₁
  cases h₂
  rw [Codebook.encrypt_inj, padded_inj]

theorem take_encrypt_eq {data₁ data₂ sealed₁ sealed₂ : Bytes} {j : Nat} (h₁ : c.encrypt filler₁ data₁ = .ok sealed₁)
    (h₂ : c.encrypt filler₂ data₂ = .ok sealed₂) (hl₁ : 16 * j ≤ data₁.length) (hl₂ : 16 * j ≤ data₂.length)
    (h : data₁.take (16 * j) = data₂.take (16 * j)) : sealed₁.take (16 * j) = sealed₂.take (16 * j) := by
  rw [encrypt_eq] at h₁ h₂
  cases h₁
  cases h₂
  apply Codebook.take_encrypt_eq
  · rw [length_padded]
    omega
  · rw [length_padded]
    omega
  · rw [take_padded _ hl₁, take_padded _ hl₂, h]

end Cipher

theorem sealed_bytes_expose (c : Cipher) :
    (∀ filler data, ∃ sealed, c.encrypt filler data = .ok sealed ∧
      sealed.length = 16 * ((max data.length 20 + 1) / 16 + 1) ∧ 16 ∣ sealed.length ∧
      max data.length 20 < sealed.length ∧ (data.length ≤ 30 → sealed.length = 32)) ∧
    (∀ filler₁ filler₂ data, ∃ sealed₁ sealed₂,
      c.encrypt filler₁ data = .ok sealed₁ ∧ c.encrypt filler₂ data = .ok sealed₂ ∧
      sealed₁.take (16 * (data.length / 16)) = sealed₂.take (16 * (data.length / 16)) ∧
      (20 ≤ data.length → sealed₁ = sealed₂) ∧
      (data.length < 20 →
        (sealed₁ = sealed₂ ↔ filler₁.take (20 - data.length) = filler₂.take (20 - data.length)))) ∧
    ∀ filler₁ filler₂ data₁ data₂ j, 16 * j ≤ data₁.length → 16 * j ≤ data₂.length →
      data₁.take (16 * j) = data₂.take (16 * j) → ∃ sealed₁ sealed₂,
        c.encrypt filler₁ data₁ = .ok sealed₁ ∧ c.encrypt filler₂ data₂ = .ok sealed₂ ∧
        sealed₁.take (16 * j) = sealed₂.take (16 * j) := by
  refine ⟨fun filler data => ?_, fun filler₁ filler₂ data => ?_, fun filler₁ filler₂ data₁ data₂ j hl₁ hl₂ h => ?_⟩
  · have hl := Cipher.length_of_encrypt (c.encrypt_eq filler data)
    exact ⟨_, c.encrypt_eq filler data, hl, ⟨_, hl⟩, by omega, fun _ => by omega⟩
  · have h₁ := c.encrypt_eq filler₁ data
    have h₂ := c.encrypt_eq filler₂ data
    have hwhole : 16 * (data.length / 16) ≤ data.length := Nat.mul_div_le _ _
    refine ⟨_, _, h₁, h₂, Cipher.take_encrypt_eq h₁ h₂ hwhole hwhole rfl, fun hlong => ?_,
      fun _ => Cipher.encrypt_eq_iff h₁ h₂⟩
    rw [Cipher.encrypt_eq_iff h₁ h₂, Nat.sub_eq_zero_of_le hlong]
    rfl
  · have h₁ := c.encrypt_eq filler₁ data₁
    have h₂ := c.encrypt_eq filler₂ data₂
    exact ⟨_, _, h₁, h₂, Cipher.take_encrypt_eq h₁ h₂ hl₁ hl₂ h⟩

theorem sealed_bytes_expose_standard :
    (∃ sealed₁ sealed₂, Cipher.standard.encrypt (fun _ => 1) [1, 2, 3] = .ok sealed₁ ∧
      Cipher.standard.encrypt (fun _ => 2) [1, 2, 3] = .ok sealed₂ ∧ sealed₁ ≠ sealed₂) ∧
    (∃ sealed, Cipher.standard.encrypt (fun _ => 1) (List.replicate 20 5) = .ok sealed ∧
      Cipher.standard.encrypt (fun _ => 2) (List.replicate 20 5) = .ok sealed ∧ sealed.length = 32) ∧
    ∃ sealed₁ sealed₂, Cipher.standard.encrypt (fun _ => 1) (List.replicate 17 5) = .ok sealed₁ ∧
      Cipher.standard.encrypt (fun _ => 2) (List.replicate 40 5) = .ok sealed₂ ∧
      sealed₁.take 16 = sealed₂.take 16 := by
  obtain ⟨hlength, hrandom, hfront⟩ := sealed_bytes_expose Cipher.standard
  refine ⟨?_, ?_, hfront _ _ _ _ 1 (by decide) (by decide) (by decide)⟩
  · obtain ⟨sealed₁, sealed₂, h₁, h₂, -, -, hshort⟩ := hrandom (fun _ => 1) (fun _ => 2) [1, 2, 3]
    refine ⟨sealed₁, sealed₂, h₁, h₂, fun heq => ?_⟩
    exact absurd ((hshort (by decide)).1 heq) (by decide)
  · obtain ⟨sealed, _, h₁, h₂, -, hlong, -⟩ := hrandom (fun _ => 1) (fun _ => 2) (List.replicate 20 5)
    obtain ⟨sealed', h', -, -, -, hl⟩ := hlength (fun _ => 1) (List.replicate 20 5)
    cases hlong (by decide)
    cases h₁.symm.trans h'
    exact ⟨sealed, h₁, h₂, hl (by decide)⟩

end SealedLicense
