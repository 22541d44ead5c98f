import SealedLicense.Bytes

/-!
A key carries the conditions under which its numbers are accepted; that the two factors are prime is not one of them.
-/

namespace SealedLicense.RSA

structure PublicKey where
  modulus : Nat
  exponent : Nat
  modulus_odd : modulus % 2 = 1
  exponent_odd : exponent % 2 = 1
  three_le_exponent : 3 ≤ exponent
  exponent_lt : exponent < 0x200000000
  exponent_lt_modulus : exponent < modulus
  deriving DecidableEq

structure PrivateKey extends PublicKey where
  secret : Nat
  p : Nat
  q : Nat
  one_lt_p : 1 < p
  one_lt_q : 1 < q
  factors : p * q = modulus
  inverse_p : secret * exponent % (p - 1) = 1
  inverse_q : secret * exponent % (q - 1) = 1
  deriving DecidableEq

namespace PublicKey

def ofNumbers? (n e : Nat) : Option PublicKey :=
  if h : n % 2 = 1 ∧ e % 2 = 1 ∧ 3 ≤ e ∧ e < 0x200000000 ∧ e < n then
    some ⟨n, e, h.1, h.2.1, h.2.2.1, h.2.2.2.1, h.2.2.2.2⟩
  else none

def octets (k : PublicKey) : Nat :=
  Bytes.width k.modulus

/-- The size of the modulus in bits, rounded up to whole bytes. -/
def bits (k : PublicKey) : Nat :=
  k.octets * 8

end PublicKey

namespace PrivateKey

def ofNumbers? (n e d p q : Nat) : Option PrivateKey :=
  match PublicKey.ofNumbers? n e with
  | none => none
  | some k =>
      if h : 1 < p ∧ 1 < q ∧ p * q = k.modulus ∧ d * k.exponent % (p - 1) = 1 ∧ d * k.exponent % (q - 1) = 1 then
        some ⟨k, d, p, q, h.1, h.2.1, h.2.2.1, h.2.2.2.1, h.2.2.2.2⟩
      else none

def defaultBits : Nat := 2048

def redacted (k : PrivateKey) : String :=
  "PrivateKey \x7b bits: " ++ toString k.bits ++ ", key: \"[REDACTED]\" \x7d"

end PrivateKey

theorem PublicKey.ofNumbers?_self (k : PublicKey) : PublicKey.ofNumbers? k.modulus k.exponent = some k := by
  obtain ⟨n, e, h1, h2, h3, h4, h5⟩ := k
  simp only [PublicKey.ofNumbers?]
  rw [dif_pos ⟨h1, h2, h3, h4, h5⟩]

theorem PublicKey.numbers_of_ofNumbers? {n e : Nat} {k : PublicKey} (h : PublicKey.ofNumbers? n e = some k) :
    k.modulus = n ∧ k.exponent = e := by
  unfold PublicKey.ofNumbers? at h
  split at h
  · cases h
    exact ⟨rfl, rfl⟩
  · cases h

theorem PrivateKey.numbers_of_ofNumbers? {n e d p q : Nat} {k : PrivateKey}
    (h : PrivateKey.ofNumbers? n e d p q = some k) :
    k.modulus = n ∧ k.exponent = e ∧ k.secret = d ∧ k.p = p ∧ k.q = q := by
  unfold PrivateKey.ofNumbers? at h
  split at h
  · cases h
  · next k' hk =>
    obtain ⟨hn, he⟩ := PublicKey.numbers_of_ofNumbers? hk
    split at h
    · cases h
      exact ⟨hn, he, rfl, rfl, rfl⟩
    · cases h

theorem PrivateKey.ofNumbers?_self (k : PrivateKey) :
    PrivateKey.ofNumbers? k.modulus k.exponent k.secret k.p k.q = some k := by
  obtain ⟨k, d, p, q, h1, h2, h3, h4, h5⟩ := k
  simp only [PrivateKey.ofNumbers?, PublicKey.ofNumbers?_self]
  rw [dif_pos ⟨h1, h2, h3, h4, h5⟩]

end SealedLicense.RSA
