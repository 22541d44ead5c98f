import SealedLicense.Block.Basic
import SealedLicense.Block.Substitution

/-!
AES with a key of 128 bits, after FIPS 197.
-/

namespace SealedLicense

namespace Column

def mix (v : Column) : Column :=
  ⟨Block.double v.a ^^^ Block.triple v.b ^^^ v.c ^^^ v.d,
   v.a ^^^ Block.double v.b ^^^ Block.triple v.c ^^^ v.d,
   v.a ^^^ v.b ^^^ Block.double v.c ^^^ Block.triple v.d,
   Block.triple v.a ^^^ v.b ^^^ v.c ^^^ Block.double v.d⟩

def unmix (v : Column) : Column :=
  ⟨Block.times14 v.a ^^^ Block.times11 v.b ^^^ Block.times13 v.c ^^^ Block.times9 v.d,
   Block.times9 v.a ^^^ Block.times14 v.b ^^^ Block.times11 v.c ^^^ Block.times13 v.d,
   Block.times13 v.a ^^^ Block.times9 v.b ^^^ Block.times14 v.c ^^^ Block.times11 v.d,
   Block.times11 v.a ^^^ Block.times13 v.b ^^^ Block.times9 v.c ^^^ Block.times14 v.d⟩

def rotate (v : Column) : Column :=
  ⟨v.b, v.c, v.d, v.a⟩

end Column

namespace Block

def substituteAll (s : Block) : Block :=
  s.map (Column.map substitute)

def unsubstituteAll (s : Block) : Block :=
  s.map (Column.map unsubstitute)

def shiftRows (s : Block) : Block :=
  ⟨⟨s.w.a, s.x.b, s.y.c, s.z.d⟩, ⟨s.x.a, s.y.b, s.z.c, s.w.d⟩,
   ⟨s.y.a, s.z.b, s.w.c, s.x.d⟩, ⟨s.z.a, s.w.b, s.x.c, s.y.d⟩⟩

def unshiftRows (s : Block) : Block :=
  ⟨⟨s.w.a, s.z.b, s.y.c, s.x.d⟩, ⟨s.x.a, s.w.b, s.z.c, s.y.d⟩,
   ⟨s.y.a, s.x.b, s.w.c, s.z.d⟩, ⟨s.z.a, s.y.b, s.x.c, s.w.d⟩⟩

def mixColumns (s : Block) : Block :=
  s.map Column.mix

def unmixColumns (s : Block) : Block :=
  s.map Column.unmix

end Block

namespace AES128

open Block

def nextKey (constant : UInt8) (k : Block) : Block :=
  let t := k.z.rotate.map substitute
  let w := k.w.xor ⟨t.a ^^^ constant, t.b, t.c, t.d⟩
  let x := k.x.xor w
  let y := k.y.xor x
  ⟨w, x, y, k.z.xor y⟩

def roundConstants : List UInt8 :=
  [0x01, 0x02, 0x04, 0x08, 0x10, 0x20, 0x40, 0x80, 0x1b, 0x36]

def roundKeys : List UInt8 → Block → List Block
  | [], _ => []
  | r :: rs, k => nextKey r k :: roundKeys rs (nextKey r k)

/-- The rounds after the first key; the last one leaves the columns unmixed. -/
def rounds : List Block → Block → Block
  | [], s => s
  | [k], s => s.substituteAll.shiftRows.xor k
  | k :: ks, s => rounds ks (s.substituteAll.shiftRows.mixColumns.xor k)

def unrounds : List Block → Block → Block
  | [], s => s
  | [k], s => (s.xor k).unshiftRows.unsubstituteAll
  | k :: ks, s => ((unrounds ks s).xor k).unmixColumns.unshiftRows.unsubstituteAll

structure Schedule where
  key : Block
  rest : List Block
  deriving DecidableEq, Repr

def Schedule.ofKey (key : Block) : Schedule :=
  ⟨key, roundKeys roundConstants key⟩

def Schedule.encrypt (k : Schedule) (s : Block) : Block :=
  rounds k.rest (s.xor k.key)

def Schedule.decrypt (k : Schedule) (s : Block) : Block :=
  (unrounds k.rest s).xor k.key

def encrypt (key s : Block) : Block :=
  (Schedule.ofKey key).encrypt s

def decrypt (key s : Block) : Block :=
  (Schedule.ofKey key).decrypt s

def square (v : Column) : Column :=
  ⟨double (double v.a) ^^^ v.a ^^^ double (double v.c), double (double v.b) ^^^ v.b ^^^ double (double v.d),
   double (double v.a) ^^^ double (double v.c) ^^^ v.c, double (double v.b) ^^^ double (double v.d) ^^^ v.d⟩

theorem mix_mix (v : Column) : v.mix.mix = square v := by
  obtain ⟨a, b, c, d⟩ := v
  simp only [Column.mix, square, triple, double_xor, UInt8.xor_assoc, Column.mk.injEq]
  refine ⟨?_, ?_, ?_, ?_⟩ <;>
    simp only [UInt8.xor_assoc, UInt8.xor_comm, xor_left_comm, xor_cancel_left, UInt8.xor_self, UInt8.zero_xor]

theorem square_square (v : Column) : square (square v) = v := by
  obtain ⟨a, b, c, d⟩ := v
  simp only [square, double_xor, UInt8.xor_assoc, Column.mk.injEq]
  refine ⟨?_, ?_, ?_, ?_⟩ <;>
    simp only [UInt8.xor_assoc, UInt8.xor_comm, xor_left_comm, xor_cancel_left, UInt8.xor_self, UInt8.xor_zero]

theorem unmix_eq (v : Column) : v.unmix = (square v).mix := by
  obtain ⟨a, b, c, d⟩ := v
  simp only [Column.mix, Column.unmix, square, times9, times11, times13, times14, triple, double_xor,
    UInt8.xor_assoc, Column.mk.injEq]
  refine ⟨?_, ?_, ?_, ?_⟩ <;> simp only [UInt8.xor_assoc, UInt8.xor_comm, xor_left_comm, xor_cancel_left]

@[simp] theorem unmix_mix (v : Column) : v.mix.unmix = v := by
  rw [unmix_eq, ← mix_mix, mix_mix, mix_mix, square_square]

@[simp] theorem mix_unmix (v : Column) : v.unmix.mix = v := by
  rw [unmix_eq, mix_mix, square_square]

@[simp] theorem unmixColumns_mixColumns (s : Block) : s.mixColumns.unmixColumns = s := by
  simp [mixColumns, unmixColumns, Block.map]

@[simp] theorem mixColumns_unmixColumns (s : Block) : s.unmixColumns.mixColumns = s := by
  simp [mixColumns, unmixColumns, Block.map]

@[simp] theorem unshiftRows_shiftRows (s : Block) : s.shiftRows.unshiftRows = s := rfl

@[simp] theorem shiftRows_unshiftRows (s : Block) : s.unshiftRows.shiftRows = s := rfl

@[simp] theorem unsubstituteAll_substituteAll (s : Block) : s.substituteAll.unsubstituteAll = s := by
  simp [substituteAll, unsubstituteAll, Block.map, Column.map]

@[simp] theorem substituteAll_unsubstituteAll (s : Block) : s.unsubstituteAll.substituteAll = s := by
  simp [substituteAll, unsubstituteAll, Block.map, Column.map]

@[simp] theorem unrounds_rounds (ks : List Block) (s : Block) : unrounds ks (rounds ks s) = s := by
  fun_induction rounds ks s with
  | case1 s => rfl
  | case2 s k => simp [unrounds]
  | case3 s k ks hk ih => simp [unrounds, ih]

@[simp] theorem rounds_unrounds (ks : List Block) (s : Block) : rounds ks (unrounds ks s) = s := by
  fun_induction unrounds ks s with
  | case1 s => rfl
  | case2 s k => simp [rounds]
  | case3 s k ks hk ih => simp [rounds, ih]

@[simp] theorem decrypt_encrypt (key s : Block) : decrypt key (encrypt key s) = s := by
  simp [decrypt, encrypt, Schedule.decrypt, Schedule.encrypt]

@[simp] theorem encrypt_decrypt (key s : Block) : encrypt key (decrypt key s) = s := by
  simp [decrypt, encrypt, Schedule.decrypt, Schedule.encrypt]

-- The example vector of FIPS 197, appendix C.1.
example :
    encrypt ⟨⟨0x00, 0x01, 0x02, 0x03⟩, ⟨0x04, 0x05, 0x06, 0x07⟩, ⟨0x08, 0x09, 0x0a, 0x0b⟩, ⟨0x0c, 0x0d, 0x0e, 0x0f⟩⟩
      ⟨⟨0x00, 0x11, 0x22, 0x33⟩, ⟨0x44, 0x55, 0x66, 0x77⟩, ⟨0x88, 0x99, 0xaa, 0xbb⟩, ⟨0xcc, 0xdd, 0xee, 0xff⟩⟩ =
    ⟨⟨0x69, 0xc4, 0xe0, 0xd8⟩, ⟨0x6a, 0x7b, 0x04, 0x30⟩, ⟨0xd8, 0xcd, 0xb7, 0x80⟩, ⟨0x70, 0xb4, 0xc5, 0x5a⟩⟩ := by
  decide +kernel

end AES128

end SealedLicense
