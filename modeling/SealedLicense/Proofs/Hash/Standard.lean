import Mathlib
import SealedLicense.Bytes

/-!
RFC 1321 as it is written: a message is a list of bits, the addends are taken from the sine, and the four registers stay
in their places while the operations go round them.
-/

namespace SealedLicense.Hash.MD5.Standard

/-- The bits of bytes, the high-order bit of each byte first. -/
def bits (bs : Bytes) : List Bool :=
  bs.flatMap fun b => (List.range 8).map fun k => b.toNat.testBit (7 - k)

/-- Where the binary digit of value `2 ^ n` stands in a number that is written low-order byte first. -/
def place (n : ℕ) : ℕ :=
  8 * (n / 8) + (7 - n % 8)

def zeroBits (length : ℕ) : ℕ :=
  (959 - length % 512) % 512

def lengthBits (length : ℕ) : List Bool :=
  (List.range 64).map fun k => length.testBit (place k)

def padded (message : List Bool) : List Bool :=
  message ++ true :: (List.replicate (zeroBits message.length) false ++ lengthBits message.length)

def word (p : List Bool) (j : ℕ) : BitVec 32 :=
  BitVec.ofFnLE fun n : Fin 32 => p.getD (32 * j + place n) false

def mix : ℕ → BitVec 32 → BitVec 32 → BitVec 32 → BitVec 32
  | 0, x, y, z => (x &&& y) ||| (~~~x &&& z)
  | 1, x, y, z => (x &&& z) ||| (y &&& ~~~z)
  | 2, x, y, z => x ^^^ y ^^^ z
  | _, x, y, z => y ^^^ (x ||| ~~~z)

def order : ℕ → List ℕ
  | 0 => [0, 1, 2, 3, 4, 5, 6, 7, 8, 9, 10, 11, 12, 13, 14, 15]
  | 1 => [1, 6, 11, 0, 5, 10, 15, 4, 9, 14, 3, 8, 13, 2, 7, 12]
  | 2 => [5, 8, 11, 14, 1, 4, 7, 10, 13, 0, 3, 6, 9, 12, 15, 2]
  | _ => [0, 7, 14, 5, 12, 3, 10, 1, 8, 15, 6, 13, 4, 11, 2, 9]

def shifts : ℕ → List ℕ
  | 0 => [7, 12, 17, 22]
  | 1 => [5, 9, 14, 20]
  | 2 => [4, 11, 16, 23]
  | _ => [6, 10, 15, 21]

noncomputable def addend (i : ℕ) : BitVec 32 :=
  BitVec.ofNat 32 ⌊2 ^ 32 * |Real.sin i|⌋₊

abbrev Registers := Fin 4 → BitVec 32

/-- The register that operation `n`, counted from 0, replaces: A, D, C and B in turn. -/
def target (n : ℕ) : Fin 4 :=
  -Fin.ofNat 4 n

def after (r : Registers) (a : Fin 4) (k : ℕ) : BitVec 32 :=
  r (a + Fin.ofNat 4 k)

noncomputable def operate (block : ℕ → BitVec 32) (r : Registers) (n : ℕ) : Registers :=
  let a := target n
  let sum := r a + mix (n / 16) (after r a 1) (after r a 2) (after r a 3) +
    block ((order (n / 16)).getD (n % 16) 0) + addend (n + 1)
  Function.update r a (after r a 1 + sum.rotateLeft ((shifts (n / 16)).getD (n % 4) 0))

noncomputable def absorb (r : Registers) (block : ℕ → BitVec 32) : Registers :=
  fun j => r j + (List.range 64).foldl (operate block) r j

def initial : Registers :=
  ![0x67452301, 0xefcdab89, 0x98badcfe, 0x10325476]

def output (r : Registers) : Bytes :=
  [r 0, r 1, r 2, r 3].flatMap fun w => [0, 8, 16, 24].map fun k => UInt8.ofBitVec (w.extractLsb' k 8)

noncomputable def digest (message : List Bool) : Bytes :=
  let p := padded message
  output ((List.range (p.length / 512)).foldl (fun r i => absorb r fun j => word p (16 * i + j)) initial)

theorem zeroBits_spec (length : ℕ) : (length + 1 + zeroBits length) % 512 = 448 := by
  unfold zeroBits
  omega

theorem zeroBits_le {length k : ℕ} (h : (length + 1 + k) % 512 = 448) : zeroBits length ≤ k := by
  unfold zeroBits
  omega

theorem length_padded (message : List Bool) : (padded message).length % 512 = 0 := by
  have hzero := zeroBits_spec message.length
  simp only [padded, lengthBits, List.length_append, List.length_cons, List.length_replicate, List.length_map,
    List.length_range]
  omega

theorem length_bits (bs : Bytes) : (bits bs).length = 8 * bs.length := by
  simp [bits, Nat.mul_comm]

theorem bits_append (as bs : Bytes) : bits (as ++ bs) = bits as ++ bits bs :=
  List.flatMap_append

theorem bits_getD (bs : Bytes) (k : ℕ) :
    (bits bs).getD k false = (bs.getD (k / 8) 0).toNat.testBit (7 - k % 8) := by
  induction bs generalizing k with
  | nil => simp [bits]
  | cons b bs ih =>
    have hsplit : bits (b :: bs) = (List.range 8).map (fun k => b.toNat.testBit (7 - k)) ++ bits bs := rfl
    rw [hsplit]
    rcases Nat.lt_or_ge k 8 with hk | hk
    · rw [List.getD_append _ _ _ _ (by simpa using hk), Nat.div_eq_of_lt hk, Nat.mod_eq_of_lt hk]
      simp [List.getD_eq_getElem?_getD, hk]
    · have hdiv : k / 8 = (k - 8) / 8 + 1 := by omega
      have hmod : k % 8 = (k - 8) % 8 := by omega
      rw [List.getD_append_right _ _ _ _ (by simpa using hk), hdiv, hmod, List.getD_cons_succ]
      simpa using ih (k - 8)

theorem eq_of_getD {p q : List Bool} (hlength : p.length = q.length) (h : ∀ k, p.getD k false = q.getD k false) :
    p = q := by
  refine List.ext_getElem hlength fun k hp hq => ?_
  rw [← List.getD_eq_getElem p false hp, ← List.getD_eq_getElem q false hq, h]

end SealedLicense.Hash.MD5.Standard
