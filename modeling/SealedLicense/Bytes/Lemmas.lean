import Mathlib
import SealedLicense.Bytes

namespace SealedLicense.Bytes

theorem toNat_ofNatWidth (w n : Nat) : toNat (ofNatWidth w n) = n % 256 ^ w := by
  induction w generalizing n with
  | zero => simp [ofNatWidth, Nat.mod_one]
  | succ w ih =>
    have hb : (UInt8.ofNat (n % 256)).toNat = n % 256 := by
      rw [UInt8.toNat_ofNat']; omega
    rw [ofNatWidth, toNat_append_singleton, ih, hb, Nat.pow_succ, Nat.mul_comm (256 ^ w),
      Nat.mod_mul]
    omega

theorem lt_two_pow_bitLength (n : Nat) : n < 2 ^ bitLength n := by
  unfold bitLength
  split
  · next h => simp [h]
  · exact Nat.lt_log2_self

theorem bitLength_le {n w : Nat} (h : n < 2 ^ w) : bitLength n ≤ w := by
  unfold bitLength
  split
  · omega
  · next hn => exact (Nat.log2_lt hn).2 h

theorem bitLength_mono {m n : Nat} (h : m ≤ n) : bitLength m ≤ bitLength n :=
  bitLength_le (Nat.lt_of_le_of_lt h (lt_two_pow_bitLength n))

theorem width_mono {m n : Nat} (h : m ≤ n) : width m ≤ width n := by
  have := bitLength_mono h
  unfold width
  omega

theorem lt_pow_width (n : Nat) : n < 256 ^ width n := by
  have h : 2 ^ bitLength n ≤ 2 ^ (8 * width n) :=
    Nat.pow_le_pow_right (by decide) (by unfold width; omega)
  rw [Nat.pow_mul] at h
  exact Nat.lt_of_lt_of_le (lt_two_pow_bitLength n) h

theorem width_le {n w : Nat} (h : n < 2 ^ (8 * w)) : width n ≤ w := by
  have := bitLength_le h
  unfold width
  omega

theorem pow_width_le {n : Nat} (hn : n ≠ 0) : 256 ^ (width n - 1) ≤ n := by
  have hw : 8 * (width n - 1) ≤ n.log2 := by
    rw [width, bitLength, if_neg hn]
    omega
  calc 256 ^ (width n - 1) = 2 ^ (8 * (width n - 1)) := by rw [Nat.pow_mul]
    _ ≤ 2 ^ n.log2 := Nat.pow_le_pow_right (by decide) hw
    _ ≤ n := Nat.log2_self_le hn

theorem toNat_zero_cons (bs : Bytes) : toNat (0 :: bs) = toNat bs := by
  simp [toNat]

theorem toNat_lt (bs : Bytes) : toNat bs < 256 ^ bs.length := by
  induction bs using List.reverseRecOn with
  | nil => simp
  | append_singleton bs b ih =>
    have hb := b.toNat_lt
    rw [toNat_append_singleton, List.length_append, List.length_singleton, Nat.pow_succ]
    omega

theorem eq_of_toNat_eq {as bs : Bytes} (hl : as.length = bs.length) (h : toNat as = toNat bs) : as = bs := by
  rw [← ofNatWidth_toNat _ as rfl, ← ofNatWidth_toNat _ bs rfl, hl, h]

end SealedLicense.Bytes
