import Mathlib
import SealedLicense.Proofs.Sealing.Pieces

namespace SealedLicense

open Block (pieceAt putPiece exchange)

theorem AES128.decrypt_injective {key s t : Block} (h : decrypt key s = decrypt key t) : s = t := by
  rw [← encrypt_decrypt key s, h, encrypt_decrypt]

theorem TwicePadded.putPiece {data filling plain : Bytes} {i : Nat} (h : TwicePadded data filling plain)
    (hi : 16 * (i + 1) ≤ data.length) (s : Block) :
    TwicePadded (putPiece i s.toBytes data) filling (putPiece i s.toBytes plain) := by
  obtain ⟨hl, count, hpos, hle, rfl⟩ := h
  refine ⟨hl, count, hpos, hle, ?_⟩
  simp only [List.append_assoc]
  exact Block.putPiece_append hi s.toBytes

namespace Codebook

variable {key : Block} {sealed : Bytes} {i : Nat}

theorem length_inverse (hwhole : WholeBlocks sealed) : (inverse key sealed).length = sealed.length := by
  obtain ⟨blocks, -, rfl⟩ := wholeBlocks_iff.1 hwhole
  rw [inverse_join, Block.length_join, Block.length_join, List.length_map]

theorem WholeBlocks.exists_lt (hwhole : WholeBlocks sealed) (hi : 16 * (i + 1) ≤ sealed.length) :
    ∃ blocks : List Block, i < blocks.length ∧ sealed = Block.join blocks := by
  obtain ⟨blocks, -, rfl⟩ := wholeBlocks_iff.1 hwhole
  rw [Block.length_join] at hi
  exact ⟨blocks, by omega, rfl⟩

theorem inverse_putPiece (hwhole : WholeBlocks sealed) (hi : 16 * (i + 1) ≤ sealed.length) (s : Block) :
    inverse key (putPiece i s.toBytes sealed) = putPiece i (AES128.decrypt key s).toBytes (inverse key sealed) := by
  obtain ⟨blocks, hb, rfl⟩ := hwhole.exists_lt hi
  rw [Block.putPiece_join hb, inverse_join, inverse_join, List.map_set, Block.putPiece_join (by rwa [List.length_map])]

theorem exists_pieceAt_inverse (key : Block) (hwhole : WholeBlocks sealed) (hi : 16 * (i + 1) ≤ sealed.length) :
    ∃ s : Block, pieceAt i sealed = s.toBytes ∧ pieceAt i (inverse key sealed) = (AES128.decrypt key s).toBytes := by
  obtain ⟨blocks, hb, rfl⟩ := hwhole.exists_lt hi
  refine ⟨blocks[i], Block.pieceAt_join hb, ?_⟩
  rw [inverse_join, Block.pieceAt_join (by rwa [List.length_map]), List.getElem_map]

end Codebook

namespace Cipher

variable {c : Cipher} {sealed data : Bytes} {i j : Nat}

theorem length_le_of_decrypt (h : c.decrypt sealed = .ok data) : data.length ≤ sealed.length := by
  obtain ⟨hwhole, filling, -, count, -, -, hplain⟩ := decrypt_eq_ok_iff.1 h
  have hl := congrArg List.length hplain
  rw [Codebook.length_inverse hwhole] at hl
  simp only [List.length_append] at hl
  omega

theorem decrypt_putPiece (h : c.decrypt sealed = .ok data) (hi : 16 * (i + 1) ≤ data.length) (s : Block) :
    c.decrypt (putPiece i s.toBytes sealed) = .ok (putPiece i (AES128.decrypt c.key.block s).toBytes data) := by
  have hle := hi.trans (length_le_of_decrypt h)
  obtain ⟨hwhole, filling, hpadded⟩ := decrypt_eq_ok_iff.1 h
  refine decrypt_eq_ok_iff.2 ⟨?_, filling, ?_⟩
  · rwa [Codebook.WholeBlocks, Block.length_putPiece hle]
  · rw [Codebook.inverse_putPiece hwhole hle]
    exact hpadded.putPiece hi _

theorem exists_pieceAt (h : c.decrypt sealed = .ok data) (hi : 16 * (i + 1) ≤ data.length) :
    ∃ s : Block, pieceAt i sealed = s.toBytes ∧ pieceAt i data = (AES128.decrypt c.key.block s).toBytes := by
  have hle := hi.trans (length_le_of_decrypt h)
  obtain ⟨hwhole, filling, -, count, -, -, hplain⟩ := decrypt_eq_ok_iff.1 h
  obtain ⟨s, hs, hd⟩ := Codebook.exists_pieceAt_inverse c.key.block hwhole hle
  simp only [List.append_assoc] at hplain
  rw [hplain, Block.pieceAt_append hi] at hd
  exact ⟨s, hs, hd⟩

theorem decrypt_piece_ne_iff (h : c.decrypt sealed = .ok data) (hi : 16 * (i + 1) ≤ data.length) (s : Block) :
    (AES128.decrypt c.key.block s).toBytes ≠ pieceAt i data ↔ s.toBytes ≠ pieceAt i sealed := by
  obtain ⟨old, hs, hd⟩ := exists_pieceAt h hi
  rw [hs, hd, not_iff_not]
  constructor
  · intro heq
    rw [AES128.decrypt_injective (Block.toBytes_injective heq)]
  · intro heq
    rw [Block.toBytes_injective heq]

theorem decrypt_exchange (h : c.decrypt sealed = .ok data) (hi : 16 * (i + 1) ≤ data.length)
    (hj : 16 * (j + 1) ≤ data.length) : c.decrypt (exchange i j sealed) = .ok (exchange i j data) := by
  obtain ⟨s, hs, hds⟩ := exists_pieceAt h hi
  obtain ⟨t, ht, hdt⟩ := exists_pieceAt h hj
  have hfirst := decrypt_putPiece h hj s
  rw [exchange, exchange, hs, hds, ht, hdt]
  exact decrypt_putPiece hfirst (by rwa [Block.length_putPiece hj]) t

end Cipher

theorem damage_stays_in_block {c : Cipher} {sealed data : Bytes} (h : c.decrypt sealed = .ok data) :
    (∀ i, 16 * (i + 1) ≤ data.length → ∀ s : Block,
      c.decrypt (putPiece i s.toBytes sealed) = .ok (putPiece i (AES128.decrypt c.key.block s).toBytes data) ∧
      ((AES128.decrypt c.key.block s).toBytes ≠ pieceAt i data ↔ s.toBytes ≠ pieceAt i sealed) ∧
      (putPiece i (AES128.decrypt c.key.block s).toBytes data).length = data.length ∧
      ∀ n, n < 16 * i ∨ 16 * (i + 1) ≤ n →
        (putPiece i (AES128.decrypt c.key.block s).toBytes data)[n]? = data[n]?) ∧
    ∀ i j, 16 * (i + 1) ≤ data.length → 16 * (j + 1) ≤ data.length →
      c.decrypt (exchange i j sealed) = .ok (exchange i j data) := by
  refine ⟨fun i hi s => ?_, fun i j hi hj => Cipher.decrypt_exchange h hi hj⟩
  exact ⟨Cipher.decrypt_putPiece h hi s, Cipher.decrypt_piece_ne_iff h hi s, Block.length_putPiece hi _,
    fun n hn => Block.getElem?_putPiece hi _ hn⟩

theorem damage_stays_in_block_standard :
    ∃ sealed, Cipher.standard.decrypt sealed = .ok (List.replicate 16 1 ++ List.replicate 16 2) ∧
      Cipher.standard.decrypt (exchange 0 1 sealed) = .ok (List.replicate 16 2 ++ List.replicate 16 1) ∧
      ∀ s : Block, Cipher.standard.decrypt (putPiece 1 s.toBytes sealed) =
        .ok (List.replicate 16 1 ++ (AES128.decrypt Cipher.standard.key.block s).toBytes) := by
  have hsealed := Cipher.decrypt_of_encrypt
    (Cipher.standard.encrypt_eq (fun _ => 7) (List.replicate 16 1 ++ List.replicate 16 2))
  obtain ⟨hput, hexchange⟩ := damage_stays_in_block hsealed
  refine ⟨_, hsealed, hexchange 0 1 (by decide) (by decide), fun s => ?_⟩
  exact (hput 1 (by decide) s).1

end SealedLicense
