namespace SealedLicense.RSA

def powMod (b e n : Nat) : Nat :=
  go (e.log2 + 1) (b % n) e
where
  go : Nat → Nat → Nat → Nat
    | 0, _, _ => 1 % n
    | k + 1, b, e =>
        let rest := go k (b * b % n) (e / 2)
        if e % 2 = 1 then b * rest % n else rest

/-- Integers `x` and `y` with `a * x + b * y = gcd a b`. -/
def bezout (a b : Nat) : Int × Int :=
  go b a b
where
  go : Nat → Nat → Nat → Int × Int
    | 0, _, _ => (1, 0)
    | left + 1, a, b =>
        if b = 0 then (1, 0)
        else
          let (x, y) := go left b (a % b)
          (y, x - (a / b : Nat) * y)

theorem bezout_go_eq (left a b : Nat) (h : b ≤ left) :
    (a : Int) * (bezout.go left a b).1 + b * (bezout.go left a b).2 = Nat.gcd a b := by
  induction left generalizing a b with
  | zero =>
    have hb : b = 0 := by omega
    simp [bezout.go, hb]
  | succ left ih =>
    by_cases hb : b = 0
    · simp [bezout.go, hb]
    · have hm := Nat.mod_lt a (Nat.pos_of_ne_zero hb)
      have hi := ih b (a % b) (by omega)
      have hg : Nat.gcd a b = Nat.gcd b (a % b) := by
        rw [Nat.gcd_comm a b, Nat.gcd_rec b a, Nat.gcd_comm]
      have ha : (a : Int) = b * (a / b : Nat) + (a % b : Nat) := by
        exact_mod_cast (Nat.div_add_mod a b).symm
      simp only [bezout.go, if_neg hb]
      rw [hg, ← hi]
      generalize (bezout.go left b (a % b)).1 = x at *
      generalize (bezout.go left b (a % b)).2 = y at *
      rw [Int.mul_sub]
      have : (a : Int) * y = b * (a / b : Nat) * y + (a % b : Nat) * y := by
        rw [← Int.add_mul, ← ha]
      rw [this, ← Int.mul_assoc]
      omega

theorem bezout_eq (a b : Nat) : (a : Int) * (bezout a b).1 + b * (bezout a b).2 = Nat.gcd a b :=
  bezout_go_eq b a b (Nat.le_refl b)

def inverse? (a m : Nat) : Option Nat :=
  if Nat.gcd a m = 1 then some ((bezout a m).1 % m).toNat else none

theorem inverse?_isSome_iff (a m : Nat) : (inverse? a m).isSome ↔ Nat.gcd a m = 1 := by
  unfold inverse?
  split <;> simp_all

theorem inverse?_eq_some {a m x : Nat} (hm : 1 < m) (h : inverse? a m = some x) :
    a * x % m = 1 ∧ x < m := by
  unfold inverse? at h
  split at h
  · rename_i hg
    cases h
    have hb := bezout_eq a m
    rw [hg] at hb
    have hn : 0 ≤ (bezout a m).1 % (m : Int) := Int.emod_nonneg _ (by omega)
    have hl : (bezout a m).1 % (m : Int) < m := Int.emod_lt_of_pos _ (by omega)
    refine ⟨?_, by omega⟩
    have hc : ((a * ((bezout a m).1 % (m : Int)).toNat % m : Nat) : Int) = 1 := by
      rw [Int.natCast_emod, Int.natCast_mul, Int.toNat_of_nonneg hn, Int.mul_emod, Int.emod_emod_of_dvd _ (Int.dvd_refl _),
        ← Int.mul_emod, show (a : Int) * (bezout a m).1 = 1 - m * (bezout a m).2 by omega,
        Int.sub_mul_emod_self_left]
      exact Int.emod_eq_of_lt (by omega) (by omega)
    exact_mod_cast hc
  · cases h

end SealedLicense.RSA
