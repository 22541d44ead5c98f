import Mathlib
import SealedLicense.Hash.MD5

/-!
The addends of MD5 are the integer parts of `2 ^ 32 * |sin i|`. Sines and cosines of whole numbers are followed in units
of `2 ^ -128`, from those of 1, which lie between two partial sums of their series. What is lost with each step stays
below the places that count.
-/

namespace SealedLicense.Hash.MD5

theorem antitone_inv_factorial {f : ℕ → ℕ} (hf : Monotone f) : Antitone fun n => ((f n).factorial : ℝ)⁻¹ := by
  intro m n h
  have hpos : (0 : ℝ) < (f m).factorial := Nat.cast_pos.2 (Nat.factorial_pos _)
  exact inv_anti₀ hpos (Nat.cast_le.2 (Nat.factorial_le (hf h)))

theorem sin_one_between (k : ℕ) :
    (∑ i ∈ Finset.range (2 * k), (-1) ^ i * ((2 * i + 1).factorial : ℝ)⁻¹) ≤ Real.sin 1 ∧
      Real.sin 1 ≤ ∑ i ∈ Finset.range (2 * k + 1), (-1) ^ i * ((2 * i + 1).factorial : ℝ)⁻¹ := by
  have hsum := (Real.hasSum_sin 1).tendsto_sum_nat
  simp only [one_pow, mul_one, div_eq_mul_inv] at hsum
  have hanti := antitone_inv_factorial (f := fun i => 2 * i + 1) fun m n h => by simp only; omega
  exact ⟨hanti.alternating_series_le_tendsto hsum k, hanti.tendsto_le_alternating_series hsum k⟩

theorem cos_one_between (k : ℕ) :
    (∑ i ∈ Finset.range (2 * k), (-1) ^ i * ((2 * i).factorial : ℝ)⁻¹) ≤ Real.cos 1 ∧
      Real.cos 1 ≤ ∑ i ∈ Finset.range (2 * k + 1), (-1) ^ i * ((2 * i).factorial : ℝ)⁻¹ := by
  have hsum := (Real.hasSum_cos 1).tendsto_sum_nat
  simp only [one_pow, mul_one, div_eq_mul_inv] at hsum
  have hanti := antitone_inv_factorial (f := fun i => 2 * i) fun m n h => by simp only; omega
  exact ⟨hanti.alternating_series_le_tendsto hsum k, hanti.tendsto_le_alternating_series hsum k⟩

def sineOfOne : ℤ :=
  286337738405724074564845076175058320434

def cosineOfOne : ℤ :=
  183855347493651442427684920285310598441

theorem abs_sin_one_sub : |2 ^ 128 * Real.sin 1 - sineOfOne| ≤ 1 := by
  obtain ⟨hlower, hupper⟩ := sin_one_between 9
  norm_num [Finset.sum_range_succ, Nat.factorial] at hlower hupper
  rw [abs_le, sineOfOne]
  constructor <;> push_cast <;> linarith

theorem abs_cos_one_sub : |2 ^ 128 * Real.cos 1 - cosineOfOne| ≤ 1 := by
  obtain ⟨hlower, hupper⟩ := cos_one_between 9
  norm_num [Finset.sum_range_succ, Nat.factorial] at hlower hupper
  rw [abs_le, cosineOfOne]
  constructor <;> push_cast <;> linarith

theorem abs_product_sub {x p : ℝ} {m P : ℤ} {e : ℝ} (hx : |2 ^ 128 * x - m| ≤ e) (hp : |2 ^ 128 * p - P| ≤ 1)
    (hx1 : |x| ≤ 1) (hP : |(P : ℝ)| ≤ 2 ^ 128) : |2 ^ 128 * (x * p) - m * P / 2 ^ 128| ≤ e + 1 := by
  have hsplit : 2 ^ 128 * (x * p) - m * P / 2 ^ 128 =
      (2 ^ 128 * x - m) * (P / 2 ^ 128) + x * (2 ^ 128 * p - P) := by
    ring
  have hratio : |(P : ℝ) / 2 ^ 128| ≤ 1 := by
    rw [abs_div, abs_of_pos (by positivity : (0 : ℝ) < 2 ^ 128)]
    exact (div_le_one (by positivity)).2 hP
  calc |2 ^ 128 * (x * p) - m * P / 2 ^ 128|
      ≤ |2 ^ 128 * x - m| * |(P : ℝ) / 2 ^ 128| + |x| * |2 ^ 128 * p - P| := by
        rw [hsplit, ← abs_mul, ← abs_mul]
        exact abs_add_le _ _
    _ ≤ e * 1 + 1 * 1 :=
        add_le_add (mul_le_mul hx hratio (abs_nonneg _) ((abs_nonneg _).trans hx))
          (mul_le_mul hx1 hp (abs_nonneg _) zero_le_one)
    _ = e + 1 := by ring

theorem cast_div_between (n : ℤ) :
    ((n / 2 ^ 128 : ℤ) : ℝ) ≤ n / 2 ^ 128 ∧ (n : ℝ) / 2 ^ 128 ≤ (n / 2 ^ 128 : ℤ) + 1 := by
  have hlower : n / 2 ^ 128 * 2 ^ 128 ≤ n := by omega
  have hupper : n ≤ (n / 2 ^ 128 + 1) * 2 ^ 128 := by omega
  constructor
  · rw [le_div_iff₀ (by positivity)]
    exact_mod_cast hlower
  · rw [div_le_iff₀ (by positivity)]
    exact_mod_cast hupper

theorem abs_sum_sub {x y p q : ℝ} {m n P Q : ℤ} {e : ℝ} (hx : |2 ^ 128 * x - m| ≤ e) (hy : |2 ^ 128 * y - n| ≤ e)
    (hp : |2 ^ 128 * p - P| ≤ 1) (hq : |2 ^ 128 * q - Q| ≤ 1) (hx1 : |x| ≤ 1) (hy1 : |y| ≤ 1)
    (hP : |(P : ℝ)| ≤ 2 ^ 128) (hQ : |(Q : ℝ)| ≤ 2 ^ 128) :
    |2 ^ 128 * (x * p + y * q) - ((m * P + n * Q) / 2 ^ 128 : ℤ)| ≤ 2 * e + 3 := by
  have hxp := abs_le.1 (abs_product_sub hx hp hx1 hP)
  have hyq := abs_le.1 (abs_product_sub hy hq hy1 hQ)
  have hfloor := cast_div_between (m * P + n * Q)
  have hsum : ((m * P + n * Q : ℤ) : ℝ) / 2 ^ 128 = m * P / 2 ^ 128 + n * Q / 2 ^ 128 := by
    push_cast
    ring
  rw [hsum] at hfloor
  rw [abs_le]
  constructor <;> linarith

/-- The sine and the cosine of a whole number, in units of `2 ^ -128`. -/
def sineAndCosine : ℕ → ℤ × ℤ
  | 0 => (0, 2 ^ 128)
  | k + 1 =>
      (((sineAndCosine k).1 * cosineOfOne + (sineAndCosine k).2 * sineOfOne) / 2 ^ 128,
        ((sineAndCosine k).2 * cosineOfOne + (sineAndCosine k).1 * -sineOfOne) / 2 ^ 128)

theorem abs_sub_sineAndCosine (k : ℕ) :
    |2 ^ 128 * Real.sin k - (sineAndCosine k).1| ≤ 3 * 2 ^ k - 3 ∧
      |2 ^ 128 * Real.cos k - (sineAndCosine k).2| ≤ 3 * 2 ^ k - 3 := by
  have hsine : |(sineOfOne : ℝ)| ≤ 2 ^ 128 := by norm_num [sineOfOne]
  have hcosine : |(cosineOfOne : ℝ)| ≤ 2 ^ 128 := by norm_num [cosineOfOne]
  have hminus : |2 ^ 128 * -Real.sin 1 - (-sineOfOne : ℤ)| ≤ 1 := by
    rw [Int.cast_neg, mul_neg, ← neg_sub', abs_neg]
    exact abs_sin_one_sub
  induction k with
  | zero => norm_num [sineAndCosine]
  | succ k ih =>
    obtain ⟨hs, hc⟩ := ih
    have hbound : 2 * (3 * 2 ^ k - 3) + 3 = (3 * 2 ^ (k + 1) - 3 : ℝ) := by ring
    rw [Nat.cast_succ, Real.sin_add, Real.cos_add, ← hbound]
    constructor
    · exact abs_sum_sub hs hc abs_cos_one_sub abs_sin_one_sub (Real.abs_sin_le_one k) (Real.abs_cos_le_one k) hcosine
        hsine
    · rw [sub_eq_add_neg (Real.cos k * Real.cos 1), ← mul_neg]
      exact abs_sum_sub hc hs abs_cos_one_sub hminus (Real.abs_cos_le_one k) (Real.abs_sin_le_one k) hcosine
        (by rwa [Int.cast_neg, abs_neg])

/-- The computed sines are further from the next whole number, in units of `2 ^ -32`, than they can be wrong. -/
theorem sines_table : ∀ i < 64, ((sines.getD i 0).toNat : ℤ) * 2 ^ 96 + 3 * 2 ^ 64 ≤ |(sineAndCosine (i + 1)).1| ∧
    |(sineAndCosine (i + 1)).1| + 3 * 2 ^ 64 < ((sines.getD i 0).toNat + 1) * 2 ^ 96 := by
  decide +kernel

theorem sines_eq_floor {i : ℕ} (hi : i < 64) : (sines.getD i 0).toNat = ⌊2 ^ 32 * |Real.sin (i + 1 : ℕ)|⌋₊ := by
  obtain ⟨hlower, hupper⟩ := sines_table i hi
  have hnear := (abs_sub_sineAndCosine (i + 1)).1
  have hpow : (2 : ℝ) ^ (i + 1) ≤ 2 ^ 64 := pow_le_pow_right₀ one_le_two (by omega)
  have habs := (abs_abs_sub_abs_le _ _).trans hnear
  rw [abs_mul, abs_of_pos (by positivity : (0 : ℝ) < 2 ^ 128), abs_le] at habs
  have hlower' : ((sines.getD i 0).toNat : ℝ) * 2 ^ 96 + 3 * 2 ^ 64 ≤ |((sineAndCosine (i + 1)).1 : ℝ)| := by
    exact_mod_cast hlower
  have hupper' : |((sineAndCosine (i + 1)).1 : ℝ)| + 3 * 2 ^ 64 < ((sines.getD i 0).toNat + 1) * 2 ^ 96 := by
    exact_mod_cast hupper
  symm
  rw [Nat.floor_eq_iff (by positivity)]
  constructor <;> linarith

end SealedLicense.Hash.MD5
