import Mathlib
import SealedLicense.RSA.Arithmetic

namespace SealedLicense.RSA

theorem powMod_go_eq (n k b e : Nat) (h : e < 2 ^ k) : powMod.go n k b e = b ^ e % n := by
  induction k generalizing b e with
  | zero =>
    have he : e = 0 := by simpa using h
    simp [powMod.go, he]
  | succ k ih =>
    have hr : powMod.go n k (b * b % n) (e / 2) = (b * b) ^ (e / 2) % n := by
      rw [ih _ _ (by rw [Nat.pow_succ] at h; omega), ← Nat.pow_mod]
    have he := Nat.div_add_mod e 2
    simp only [powMod.go, hr]
    split
    · rename_i h1
      rw [Nat.mul_mod_mod, ← Nat.pow_two, ← Nat.pow_mul, ← Nat.pow_succ', Nat.succ_eq_add_one]
      congr 2
      omega
    · rename_i h1
      rw [← Nat.pow_two, ← Nat.pow_mul]
      congr 2
      omega

theorem powMod_eq (b e n : Nat) : powMod b e n = b ^ e % n := by
  rw [powMod, powMod_go_eq _ _ _ _ Nat.lt_log2_self, ← Nat.pow_mod]

theorem pow_modEq_of_exponents {p a b : ℕ} (hp : p.Prime) (ha : 0 < a) (hab : a ≤ b) (h : a ≡ b [MOD p - 1])
    (c : ℕ) : c ^ a ≡ c ^ b [MOD p] := by
  obtain ⟨t, ht⟩ := (Nat.modEq_iff_dvd' hab).1 h
  have hb : b = a + (p - 1) * t := by omega
  by_cases hd : p ∣ c
  · have h0 : ∀ n, 0 < n → c ^ n ≡ 0 [MOD p] := fun n hn =>
      Nat.modEq_zero_iff_dvd.2 (dvd_pow hd hn.ne')
    exact (h0 a ha).trans (h0 b (by omega)).symm
  · have hc : c.Coprime p := ((Nat.Prime.coprime_iff_not_dvd hp).2 hd).symm
    have hf : c ^ (p - 1) ≡ 1 [MOD p] := by
      simpa [Nat.totient_prime hp] using Nat.ModEq.pow_totient hc
    have ht1 : c ^ ((p - 1) * t) ≡ 1 [MOD p] := by
      simpa [pow_mul] using hf.pow t
    rw [hb, pow_add]
    simpa using (ht1.mul_left (c ^ a)).symm

theorem pow_reduced_modEq {p d e : ℕ} (hp : p.Prime) (h : d * e % (p - 1) = 1) (c : ℕ) :
    c ^ (d % (p - 1)) ≡ c ^ d [MOD p] := by
  have hpos : 0 < d % (p - 1) := by
    by_contra h0
    have hz : d % (p - 1) = 0 := by omega
    rw [Nat.mul_mod, hz, Nat.zero_mul, Nat.zero_mod] at h
    omega
  exact pow_modEq_of_exponents hp hpos (Nat.mod_le _ _) (Nat.mod_modEq _ _) c

theorem pow_inverse_modEq {p n : ℕ} (hp : p.Prime) (h : n % (p - 1) = 1) (c : ℕ) : c ^ n ≡ c [MOD p] := by
  have hn : 1 ≤ n := by
    by_contra h0
    have hz : n = 0 := by omega
    rw [hz, Nat.zero_mod] at h
    omega
  have h1 : 1 ≡ n [MOD p - 1] := by
    have hone : 1 % (p - 1) = 1 := by
      have hm := Nat.mod_mod n (p - 1)
      rwa [h] at hm
    rw [Nat.ModEq, hone, h]
  simpa using (pow_modEq_of_exponents hp one_pos hn h1 c).symm

theorem recombined_modEq {p q x : ℕ} (hp : 0 < p) (hx : q * x % p = 1 % p) (m1 m2 : ℕ) :
    m2 + (((m1 : ℤ) - m2) * x % p).toNat * q ≡ m1 [MOD p] := by
  have hnn : 0 ≤ ((m1 : ℤ) - m2) * x % p := Int.emod_nonneg _ (by omega)
  have hqx : (q : ℤ) * x ≡ 1 [ZMOD p] := by
    have h : q * x ≡ 1 [MOD p] := hx
    exact_mod_cast (Int.natCast_modEq_iff.2 h)
  rw [← Int.natCast_modEq_iff]
  push_cast
  rw [Int.toNat_of_nonneg hnn]
  have hm : ((m1 : ℤ) - m2) * x % p * q ≡ ((m1 : ℤ) - m2) * (q * x) [ZMOD p] := by
    calc ((m1 : ℤ) - m2) * x % p * q ≡ ((m1 : ℤ) - m2) * x * q [ZMOD p] := (Int.mod_modEq _ _).mul_right _
      _ = ((m1 : ℤ) - m2) * (q * x) := by ring
  calc (m2 : ℤ) + ((m1 : ℤ) - m2) * x % p * q
      ≡ m2 + (m1 - m2) * 1 [ZMOD p] := (hm.trans (hqx.mul_left _)).add_left _
    _ = m1 := by ring

theorem recombined_lt {p q x m1 m2 : ℕ} (hp : 0 < p) (h2 : m2 < q) :
    m2 + (((m1 : ℤ) - m2) * x % p).toNat * q < p * q := by
  have hnn : 0 ≤ ((m1 : ℤ) - m2) * x % p := Int.emod_nonneg _ (by omega)
  have hlt : ((m1 : ℤ) - m2) * x % p < p := Int.emod_lt_of_pos _ (by omega)
  have hle : (((m1 : ℤ) - m2) * x % p).toNat + 1 ≤ p := by omega
  calc m2 + (((m1 : ℤ) - m2) * x % p).toNat * q < q + (((m1 : ℤ) - m2) * x % p).toNat * q := by omega
    _ = ((((m1 : ℤ) - m2) * x % p).toNat + 1) * q := by ring
    _ ≤ p * q := Nat.mul_le_mul_right q hle

end SealedLicense.RSA
