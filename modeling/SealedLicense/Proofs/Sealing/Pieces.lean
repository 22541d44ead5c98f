import Mathlib
import SealedLicense.Proofs.Sealing.Language

namespace SealedLicense

namespace Block

def pieceAt (i : Nat) (bs : Bytes) : Bytes :=
  (bs.drop (16 * i)).take 16

def putPiece (i : Nat) (piece bs : Bytes) : Bytes :=
  bs.take (16 * i) ++ piece ++ bs.drop (16 * (i + 1))

def exchange (i j : Nat) (bs : Bytes) : Bytes :=
  putPiece i (pieceAt j bs) (putPiece j (pieceAt i bs) bs)

theorem toBytes_injective {s t : Block} (h : s.toBytes = t.toBytes) : s = t := by
  have hs := ofBytes?_toBytes s
  rw [h, ofBytes?_toBytes] at hs
  exact (Option.some.inj hs).symm

theorem join_injective {blocks more : List Block} (h : join blocks = join more) : blocks = more := by
  have hb := split?_join blocks
  rw [h, split?_join] at hb
  exact (Option.some.inj hb).symm

theorem join_append (blocks more : List Block) : join (blocks ++ more) = join blocks ++ join more := by
  simp only [join, List.flatMap_append]

theorem join_cons (s : Block) (blocks : List Block) : join (s :: blocks) = s.toBytes ++ join blocks := by
  simp only [join, List.flatMap_cons]

theorem take_join (n : Nat) (blocks : List Block) : (join blocks).take (16 * n) = join (blocks.take n) := by
  rcases Nat.le_total n blocks.length with hn | hn
  · have hsplit := join_append (blocks.take n) (blocks.drop n)
    have hl : (join (blocks.take n)).length = 16 * n := by
      rw [length_join, List.length_take_of_le hn]
    rw [List.take_append_drop] at hsplit
    rw [hsplit, List.take_left' hl]
  · rw [List.take_of_length_le (by rw [length_join]; omega), List.take_of_length_le hn]

theorem drop_join (n : Nat) (blocks : List Block) : (join blocks).drop (16 * n) = join (blocks.drop n) := by
  have hsplit := List.take_append_drop (16 * n) (join blocks)
  have hblocks := join_append (blocks.take n) (blocks.drop n)
  rw [List.take_append_drop, ← take_join] at hblocks
  exact List.append_cancel_left (hsplit.trans hblocks)

theorem pieceAt_join {i : Nat} {blocks : List Block} (hi : i < blocks.length) :
    pieceAt i (join blocks) = blocks[i].toBytes := by
  rw [pieceAt, drop_join, List.drop_eq_getElem_cons hi, join_cons]
  exact List.take_left' (length_toBytes _)

theorem putPiece_join {i : Nat} {blocks : List Block} (hi : i < blocks.length) (s : Block) :
    putPiece i s.toBytes (join blocks) = join (blocks.set i s) := by
  rw [putPiece, take_join, drop_join, List.set_eq_take_append_cons_drop, if_pos hi, join_append, join_cons,
    List.append_assoc]

variable {i : Nat} {bs behind : Bytes}

theorem pieceAt_append (hi : 16 * (i + 1) ≤ bs.length) : pieceAt i (bs ++ behind) = pieceAt i bs := by
  rw [pieceAt, List.drop_append_of_le_length (by omega), List.take_append_of_le_length (by rw [List.length_drop]; omega),
    pieceAt]

theorem putPiece_append (hi : 16 * (i + 1) ≤ bs.length) (piece : Bytes) :
    putPiece i piece (bs ++ behind) = putPiece i piece bs ++ behind := by
  rw [putPiece, List.take_append_of_le_length (by omega), List.drop_append_of_le_length hi, ← List.append_assoc, putPiece]

theorem length_putPiece (hi : 16 * (i + 1) ≤ bs.length) (s : Block) : (putPiece i s.toBytes bs).length = bs.length := by
  simp only [putPiece, List.length_append, List.length_take, List.length_drop, length_toBytes]
  omega

theorem getElem?_putPiece (hi : 16 * (i + 1) ≤ bs.length) (s : Block) {n : Nat} (hn : n < 16 * i ∨ 16 * (i + 1) ≤ n) :
    (putPiece i s.toBytes bs)[n]? = bs[n]? := by
  have hfront : (bs.take (16 * i)).length = 16 * i := List.length_take_of_le (by omega)
  have hboth : (bs.take (16 * i) ++ s.toBytes).length = 16 * (i + 1) := by
    rw [List.length_append, hfront, length_toBytes]
    omega
  rcases hn with hn | hn
  · rw [putPiece, List.append_assoc, List.getElem?_append_left (by omega), List.getElem?_take_of_lt hn]
  · rw [putPiece, List.getElem?_append_right (by omega), hboth, List.getElem?_drop, Nat.add_sub_of_le hn]

end Block

end SealedLicense
