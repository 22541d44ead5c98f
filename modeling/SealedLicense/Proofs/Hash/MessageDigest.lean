import Mathlib
import SealedLicense.Hash.MD5
import SealedLicense.Proofs.Hash.Sines
import SealedLicense.Proofs.Hash.Standard

namespace SealedLicense

theorem chunks_eq {α : Type} {n : ℕ} (hn : 0 < n) {q : ℕ} {xs : List α} (h : xs.length = n * q) :
    chunks n xs = (List.range q).map fun i => (xs.drop (n * i)).take n := by
  suffices hgo : ∀ left, q ≤ left →
      chunks.go n left xs = (List.range q).map fun i => (xs.drop (n * i)).take n from
    hgo _ (h ▸ Nat.le_mul_of_pos_left q hn)
  intro left
  induction q generalizing left xs with
  | zero =>
    intro _
    rw [Nat.mul_zero, List.length_eq_zero_iff] at h
    subst h
    cases left <;> rfl
  | succ q ih =>
    intro hq
    obtain ⟨left, rfl⟩ : ∃ k, left = k + 1 := ⟨left - 1, by omega⟩
    cases xs with
    | nil => simp [Nat.mul_succ] at h; omega
    | cons x xs =>
      have hrest : ((x :: xs).drop n).length = n * q := by
        rw [List.length_drop, h, Nat.mul_succ, Nat.add_sub_cancel]
      rw [chunks.go, ih hrest left (Nat.le_of_succ_le_succ hq), List.range_succ_eq_map, List.map_cons, List.map_map]
      simp [Function.comp_def, Nat.mul_succ, Nat.add_comm]

namespace Hash.MD5

open Standard

theorem bits_replicate_zero (n : ℕ) : bits (List.replicate n 0) = List.replicate (8 * n) false := by
  refine eq_of_getD (by simp [length_bits]) fun k => ?_
  rw [bits_getD]
  simp only [List.getD_eq_getElem?_getD, List.getElem?_getD_replicate_default_eq]
  exact Nat.zero_testBit _

theorem bits_marker (n : ℕ) :
    bits (0x80 :: List.replicate n 0) = true :: List.replicate (7 + 8 * n) false := by
  have hmarker : bits [0x80] = true :: List.replicate 7 false := by decide
  rw [← List.singleton_append, bits_append, hmarker, bits_replicate_zero, List.cons_append,
    List.replicate_append_replicate]

theorem reverse_ofNatWidth (w n : ℕ) :
    (Bytes.ofNatWidth w n).reverse = (List.range w).map fun i => UInt8.ofNat (n / 256 ^ i) := by
  induction w generalizing n with
  | zero => rfl
  | succ w ih =>
    have hbyte : UInt8.ofNat (n % 256) = UInt8.ofNat n := UInt8.ofNat_mod_size
    rw [Bytes.ofNatWidth, List.reverse_append, ih, List.range_succ_eq_map]
    simp [hbyte, Nat.div_div_eq_div_mul, Nat.pow_succ, Nat.mul_comm]

theorem testBit_byte (n i : ℕ) {j : ℕ} (hj : j < 8) :
    (UInt8.ofNat (n / 256 ^ i)).toNat.testBit j = n.testBit (8 * i + j) := by
  have hpow : (256 : ℕ) ^ i = 2 ^ (8 * i) := by rw [Nat.pow_mul]
  rw [UInt8.toNat_ofNat', Nat.testBit_mod_two_pow, hpow, ← Nat.shiftRight_eq_div_pow, Nat.testBit_shiftRight]
  simp [hj]

theorem bits_lengthField (message : Bytes) : bits (lengthField message) = lengthBits (8 * message.length) := by
  refine eq_of_getD (by simp [length_bits, lengthField, lengthBits]) fun k => ?_
  rw [bits_getD, lengthField, reverse_ofNatWidth, lengthBits]
  rcases Nat.lt_or_ge k 64 with hk | hk
  · have hbyte : k / 8 < 8 := by omega
    rw [List.getD_eq_getElem _ 0 (by simpa using hbyte), List.getD_eq_getElem _ false (by simpa using hk)]
    simp only [List.getElem_map, List.getElem_range]
    exact testBit_byte _ _ (by omega)
  · have hbyte : 8 ≤ k / 8 := by omega
    rw [List.getD_eq_default _ 0 (by simpa using hbyte), List.getD_eq_default _ false (by simpa using hk)]
    exact Nat.zero_testBit _

theorem bits_fill (message : Bytes) : bits (fill 64 (lengthField message) message) = padded (bits message) := by
  have hfield : (lengthField message).length = 8 := by simp [lengthField]
  have hzero : 7 + 8 * zeroCount 64 8 message.length = zeroBits (8 * message.length) := by
    unfold zeroCount zeroBits
    omega
  rw [fill, hfield, ← List.cons_append, bits_append, bits_append, bits_marker, bits_lengthField, hzero, padded,
    length_bits, List.cons_append]

def wordAt (bs : Bytes) (j : ℕ) : UInt32 :=
  (bs.getD (4 * j) 0).toUInt32 ||| ((bs.getD (4 * j + 1) 0).toUInt32 <<< 8) |||
    ((bs.getD (4 * j + 2) 0).toUInt32 <<< 16) ||| ((bs.getD (4 * j + 3) 0).toUInt32 <<< 24)

theorem exists_cons_four {bs : Bytes} (h : 4 ≤ bs.length) :
    ∃ b0 b1 b2 b3 rest, bs = b0 :: b1 :: b2 :: b3 :: rest := by
  rcases bs with _ | ⟨b0, _ | ⟨b1, _ | ⟨b2, _ | ⟨b3, rest⟩⟩⟩⟩
  case cons.cons.cons.cons => exact ⟨b0, b1, b2, b3, rest, rfl⟩
  all_goals simp at h

theorem words_getD {bs : Bytes} {j : ℕ} (h : 4 * j + 4 ≤ bs.length) : (words bs).getD j 0 = wordAt bs j := by
  induction j generalizing bs with
  | zero =>
    obtain ⟨b0, b1, b2, b3, rest, rfl⟩ := exists_cons_four (Nat.le_of_add_left_le h)
    rfl
  | succ j ih =>
    obtain ⟨b0, b1, b2, b3, rest, rfl⟩ := exists_cons_four (Nat.le_of_add_left_le h)
    rw [words, List.getD_cons_succ, ih (by simp at h; omega)]
    simp [wordAt, Nat.mul_succ]

theorem getLsbD_byte (b : UInt8) (i : ℕ) {n : ℕ} (hn : n < 32) :
    (b.toBitVec.setWidth 32 <<< (8 * i)).getLsbD n = (decide (n / 8 = i) && b.toNat.testBit (n % 8)) := by
  rw [BitVec.getLsbD_shiftLeft, BitVec.getLsbD_setWidth, decide_eq_true hn, Bool.true_and]
  rcases Nat.lt_trichotomy (n / 8) i with h | h | h
  · simp [h.ne, show n < 8 * i by omega]
  · have hlow : n % 8 = n - 8 * i := by omega
    simp [h, hlow, show ¬ n < 8 * i by omega, show n - 8 * i < 32 by omega, BitVec.getLsbD]
  · have hhigh := BitVec.getLsbD_of_ge b.toBitVec (n - 8 * i) (by omega)
    simp [hhigh, h.ne']

theorem toBitVec_wordAt (bs : Bytes) (j : ℕ) : (wordAt bs j).toBitVec = word (bits bs) j := by
  refine BitVec.eq_of_getLsbD_eq fun n hn => ?_
  have hbytes : (wordAt bs j).toBitVec =
      ((bs.getD (4 * j) 0).toBitVec.setWidth 32 <<< (8 * 0)) |||
        ((bs.getD (4 * j + 1) 0).toBitVec.setWidth 32 <<< (8 * 1)) |||
        ((bs.getD (4 * j + 2) 0).toBitVec.setWidth 32 <<< (8 * 2)) |||
        ((bs.getD (4 * j + 3) 0).toBitVec.setWidth 32 <<< (8 * 3)) := by
    simp [wordAt]
  have hdiv : (32 * j + place n) / 8 = 4 * j + n / 8 := by
    unfold place
    omega
  have hmod : 7 - (32 * j + place n) % 8 = n % 8 := by
    unfold place
    omega
  rw [word, BitVec.getLsbD_ofFnLE, dif_pos hn, bits_getD, hdiv, hmod, hbytes]
  simp only [BitVec.getLsbD_or, getLsbD_byte _ _ hn]
  obtain h | h | h | h : n / 8 = 0 ∨ n / 8 = 1 ∨ n / 8 = 2 ∨ n / 8 = 3 := by omega
  all_goals simp [h]

def mixer : ℕ → Mixer
  | 0 => .choose
  | 1 => .chooseBack
  | 2 => .parity
  | _ => .conditional

theorem toBitVec_mixer (q : ℕ) (x y z : BitVec 32) :
    ((mixer q).apply (.ofBitVec x) (.ofBitVec y) (.ofBitVec z)).toBitVec = mix q x y z := by
  rcases q with _ | _ | _ | q <;> rfl

def operation (n : ℕ) : Operation :=
  ⟨mixer (n / 16), (order (n / 16)).getD (n % 16) 0, UInt32.ofNat ((shifts (n / 16)).getD (n % 4) 0), sines.getD n 0⟩

theorem operations_eq : operations = (List.range 64).map operation := by
  decide +kernel

theorem toBitVec_sines {n : ℕ} (hn : n < 64) : (sines.getD n 0).toBitVec = addend (n + 1) := by
  rw [addend, ← sines_eq_floor hn, ← UInt32.toNat_toBitVec, BitVec.ofNat_toNat, BitVec.setWidth_eq]

theorem toBitVec_rotateLeft (x : BitVec 32) {k : ℕ} (hpos : 0 < k) (hk : k < 32) :
    (rotateLeft (.ofBitVec x) (.ofNat k)).toBitVec = x.rotateLeft k := by
  have hleft : (UInt32.ofNat k).toBitVec.toNat % 32 = k := by
    simp
    omega
  have hright : (32 - UInt32.ofNat k).toBitVec.toNat % 32 = 32 - k := by
    rw [UInt32.toBitVec_sub]
    simp [BitVec.toNat_sub]
    omega
  have hwidth : (32 : BitVec 32).toNat = 32 := rfl
  rw [BitVec.rotateLeft_def, Nat.mod_eq_of_lt hk, rotateLeft, UInt32.toBitVec_or, UInt32.toBitVec_shiftLeft,
    UInt32.toBitVec_shiftRight]
  simp only [BitVec.shiftLeft_eq', BitVec.ushiftRight_eq', BitVec.toNat_umod]
  rw [hwidth, hleft, hright]

theorem shifts_table : ∀ n < 64, 0 < (shifts (n / 16)).getD (n % 4) 0 ∧ (shifts (n / 16)).getD (n % 4) 0 < 32 := by
  decide

theorem order_table : ∀ n < 64, (order (n / 16)).getD (n % 16) 0 < 16 := by
  decide

/-- The registers as operations see them, the one to be replaced first. -/
def held (r : Registers) (a : Fin 4) : State :=
  ⟨.ofBitVec (r a), .ofBitVec (after r a 1), .ofBitVec (after r a 2), .ofBitVec (after r a 3)⟩

theorem held_update (r : Registers) (a : Fin 4) (x : BitVec 32) :
    held (Function.update r a x) (a + 3) =
      ⟨.ofBitVec (after r a 3), .ofBitVec x, .ofBitVec (after r a 1), .ofBitVec (after r a 2)⟩ := by
  fin_cases a <;> rfl

theorem target_succ (n : ℕ) : target (n + 1) = target n + 3 := by
  ext
  simp [target, Fin.ofNat, Fin.neg_def, Fin.add_def]
  omega

variable {ws : List UInt32} {block : ℕ → BitVec 32}

theorem step_held (hwords : ∀ j < 16, (ws.getD j 0).toBitVec = block j) (r : Registers) {n : ℕ} (hn : n < 64) :
    (held r (target n)).step ws (operation n) = held (operate block r n) (target (n + 1)) := by
  have hword := hwords _ (order_table n hn)
  obtain ⟨hpos, hshift⟩ := shifts_table n hn
  have hmixed : (held r (target n)).a + (operation n).mixer.apply (held r (target n)).b (held r (target n)).c
        (held r (target n)).d + (operation n).addend + ws.getD (operation n).word 0 =
      .ofBitVec (r (target n) +
        mix (n / 16) (after r (target n) 1) (after r (target n) 2) (after r (target n) 3) +
        block ((order (n / 16)).getD (n % 16) 0) + addend (n + 1)) := by
    rw [← UInt32.toBitVec_inj]
    simp only [UInt32.toBitVec_add, operation, held, toBitVec_mixer, toBitVec_sines hn, hword]
    exact add_right_comm _ _ _
  -- The register that was replaced is the second of the next operation; the other three move on by one.
  rw [target_succ, operate, held_update, State.step, hmixed]
  congr 1
  rw [← UInt32.toBitVec_inj, UInt32.toBitVec_add, operation, toBitVec_rotateLeft _ hpos hshift, held]

theorem foldl_operation (hwords : ∀ j < 16, (ws.getD j 0).toBitVec = block j) (r : Registers) :
    ∀ n ≤ 64, ((List.range n).map operation).foldl (State.step ws) (held r 0) =
      held ((List.range n).foldl (operate block) r) (target n) := by
  intro n
  induction n with
  | zero => intro _; rfl
  | succ n ih =>
    intro hn
    rw [List.range_succ, List.map_append, List.foldl_append, List.foldl_append, ih (by omega)]
    exact step_held hwords _ hn

theorem add_held (r s : Registers) : (held r 0).add (held s 0) = held (fun j => r j + s j) 0 :=
  rfl

theorem absorb_held {piece : Bytes} (hwords : ∀ j < 16, ((words piece).getD j 0).toBitVec = block j)
    (r : Registers) : (held r 0).absorb piece = held (Standard.absorb r block) 0 := by
  rw [State.absorb, operations_eq, foldl_operation hwords r 64 le_rfl]
  exact add_held _ _

theorem wordBytes_ofBitVec (w : BitVec 32) :
    wordBytes (.ofBitVec w) = [0, 8, 16, 24].map fun k => UInt8.ofBitVec (w.extractLsb' k 8) := by
  simp only [wordBytes, List.map_cons, List.map_nil, List.cons.injEq, and_true]
  refine ⟨?_, ?_, ?_, ?_⟩
  all_goals
    rw [← UInt8.toBitVec_inj]
    refine BitVec.eq_of_getLsbD_eq fun n hn => ?_
    simp

theorem held_zero (r : Registers) :
    held r 0 = ⟨.ofBitVec (r 0), .ofBitVec (r 1), .ofBitVec (r 2), .ofBitVec (r 3)⟩ :=
  rfl

theorem bytes_held (r : Registers) : (held r 0).bytes = output r := by
  simp [State.bytes, held_zero, output, wordBytes_ofBitVec]

def pieceOf (bs : Bytes) (i : ℕ) : Bytes :=
  (bs.drop (64 * i)).take 64

theorem words_pieceOf {bs : Bytes} {i : ℕ} (h : 64 * (i + 1) ≤ bs.length) :
    ∀ j < 16, ((words (pieceOf bs i)).getD j 0).toBitVec = word (bits bs) (16 * i + j) := by
  intro j hj
  have hbyte : ∀ k < 64, (pieceOf bs i).getD k 0 = bs.getD (64 * i + k) 0 := by
    intro k hk
    simp only [pieceOf, List.getD_eq_getElem?_getD, List.getElem?_take_of_lt hk, List.getElem?_drop]
  have hlength : 4 * j + 4 ≤ (pieceOf bs i).length := by
    rw [pieceOf, List.length_take, List.length_drop]
    omega
  have hindex : 4 * (16 * i + j) = 64 * i + 4 * j := by omega
  rw [words_getD hlength, ← toBitVec_wordAt, wordAt, wordAt, hindex, hbyte _ (by omega), hbyte _ (by omega),
    hbyte _ (by omega), hbyte _ (by omega)]
  simp only [Nat.add_assoc]

theorem foldl_absorb (bs : Bytes) :
    ∀ q, 64 * q ≤ bs.length → ((List.range q).map (pieceOf bs)).foldl State.absorb initial =
      held ((List.range q).foldl (fun r i => Standard.absorb r fun j => word (bits bs) (16 * i + j)) Standard.initial)
        0 := by
  intro q
  induction q with
  | zero => intro _; rfl
  | succ q ih =>
    intro hq
    rw [List.range_succ, List.map_append, List.foldl_append, List.foldl_append, ih (by omega)]
    exact absorb_held (words_pieceOf hq) _

theorem digest_eq_standard (message : Bytes) : digest message = Standard.digest (bits message) := by
  have hbits := bits_fill message
  have hlength := congrArg List.length hbits
  have hdvd := length_padded (bits message)
  rw [length_bits] at hlength
  have hblocks : (fill 64 (lengthField message) message).length = 64 * ((padded (bits message)).length / 512) := by
    omega
  rw [digest, foldChunks_eq, chunks_eq (by decide) hblocks]
  have hfold := foldl_absorb (fill 64 (lengthField message) message) _ hblocks.ge
  rw [hbits] at hfold
  exact (congrArg State.bytes hfold).trans (bytes_held _)

-- The digest of `abc`, from the test suite of RFC 1321.
example : Standard.digest (bits [0x61, 0x62, 0x63]) =
    [0x90, 0x01, 0x50, 0x98, 0x3c, 0xd2, 0x4f, 0xb0, 0xd6, 0x96, 0x3f, 0x7d, 0x28, 0xe1, 0x7f, 0x72] := by
  rw [← digest_eq_standard]
  decide +kernel

end Hash.MD5

end SealedLicense
