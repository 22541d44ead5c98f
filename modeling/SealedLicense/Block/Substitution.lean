namespace SealedLicense.Block

/-- The product with `x`, reduced by `x ^ 8 + x ^ 4 + x ^ 3 + x + 1`. -/
def double (b : UInt8) : UInt8 :=
  (b <<< 1) ^^^ ((b >>> 7) * 0x1b)

def triple (b : UInt8) : UInt8 :=
  double b ^^^ b

def times9 (b : UInt8) : UInt8 :=
  double (double (double b)) ^^^ b

def times11 (b : UInt8) : UInt8 :=
  double (double (double b)) ^^^ double b ^^^ b

def times13 (b : UInt8) : UInt8 :=
  double (double (double b)) ^^^ double (double b) ^^^ b

def times14 (b : UInt8) : UInt8 :=
  double (double (double b)) ^^^ double (double b) ^^^ double b

theorem xor_cancel_left (a b : UInt8) : a ^^^ (a ^^^ b) = b := by
  rw [← UInt8.xor_assoc, UInt8.xor_self, UInt8.zero_xor]

theorem xor_left_comm (a b c : UInt8) : a ^^^ (b ^^^ c) = b ^^^ (a ^^^ c) := by
  ac_rfl

theorem shiftRight_seven_cases (b : UInt8) : b >>> 7 = 0 ∨ b >>> 7 = 1 := by
  have hb := b.toNat_lt
  have ht : (b >>> 7).toNat = b.toNat / 128 := by
    rw [UInt8.toNat_shiftRight]; simp [Nat.shiftRight_eq_div_pow]
  rcases Nat.lt_or_ge b.toNat 128 with h | h
  · left
    apply UInt8.toNat_inj.1
    rw [ht, Nat.div_eq_of_lt h]; rfl
  · right
    apply UInt8.toNat_inj.1
    rw [ht]
    exact (by omega : b.toNat / 128 = 1)

theorem double_xor (a b : UInt8) : double (a ^^^ b) = double a ^^^ double b := by
  have hr : ((a ^^^ b) >>> (7 : UInt8)) * (0x1b : UInt8) =
      ((a >>> (7 : UInt8)) * 0x1b) ^^^ ((b >>> (7 : UInt8)) * 0x1b) := by
    rw [UInt8.shiftRight_xor]
    rcases shiftRight_seven_cases a with ha | ha <;> rcases shiftRight_seven_cases b with hb | hb <;>
      rw [ha, hb] <;> decide
  rw [double, double, double, hr, UInt8.shiftLeft_xor]
  ac_rfl

/-- A table as FIPS 197 prints it: the upper half of a byte chooses the row and the lower half the column. -/
abbrev Table := Vector (Vector UInt8 16) 16

def Table.cell (t : Table) (b : UInt8) : UInt8 :=
  (t.get ⟨b.toNat / 16, by have := b.toNat_lt; omega⟩).get ⟨b.toNat % 16, by omega⟩

def forwardTable : Table :=
  #v[
    #v[0x63, 0x7c, 0x77, 0x7b, 0xf2, 0x6b, 0x6f, 0xc5, 0x30, 0x01, 0x67, 0x2b, 0xfe, 0xd7, 0xab, 0x76],
    #v[0xca, 0x82, 0xc9, 0x7d, 0xfa, 0x59, 0x47, 0xf0, 0xad, 0xd4, 0xa2, 0xaf, 0x9c, 0xa4, 0x72, 0xc0],
    #v[0xb7, 0xfd, 0x93, 0x26, 0x36, 0x3f, 0xf7, 0xcc, 0x34, 0xa5, 0xe5, 0xf1, 0x71, 0xd8, 0x31, 0x15],
    #v[0x04, 0xc7, 0x23, 0xc3, 0x18, 0x96, 0x05, 0x9a, 0x07, 0x12, 0x80, 0xe2, 0xeb, 0x27, 0xb2, 0x75],
    #v[0x09, 0x83, 0x2c, 0x1a, 0x1b, 0x6e, 0x5a, 0xa0, 0x52, 0x3b, 0xd6, 0xb3, 0x29, 0xe3, 0x2f, 0x84],
    #v[0x53, 0xd1, 0x00, 0xed, 0x20, 0xfc, 0xb1, 0x5b, 0x6a, 0xcb, 0xbe, 0x39, 0x4a, 0x4c, 0x58, 0xcf],
    #v[0xd0, 0xef, 0xaa, 0xfb, 0x43, 0x4d, 0x33, 0x85, 0x45, 0xf9, 0x02, 0x7f, 0x50, 0x3c, 0x9f, 0xa8],
    #v[0x51, 0xa3, 0x40, 0x8f, 0x92, 0x9d, 0x38, 0xf5, 0xbc, 0xb6, 0xda, 0x21, 0x10, 0xff, 0xf3, 0xd2],
    #v[0xcd, 0x0c, 0x13, 0xec, 0x5f, 0x97, 0x44, 0x17, 0xc4, 0xa7, 0x7e, 0x3d, 0x64, 0x5d, 0x19, 0x73],
    #v[0x60, 0x81, 0x4f, 0xdc, 0x22, 0x2a, 0x90, 0x88, 0x46, 0xee, 0xb8, 0x14, 0xde, 0x5e, 0x0b, 0xdb],
    #v[0xe0, 0x32, 0x3a, 0x0a, 0x49, 0x06, 0x24, 0x5c, 0xc2, 0xd3, 0xac, 0x62, 0x91, 0x95, 0xe4, 0x79],
    #v[0xe7, 0xc8, 0x37, 0x6d, 0x8d, 0xd5, 0x4e, 0xa9, 0x6c, 0x56, 0xf4, 0xea, 0x65, 0x7a, 0xae, 0x08],
    #v[0xba, 0x78, 0x25, 0x2e, 0x1c, 0xa6, 0xb4, 0xc6, 0xe8, 0xdd, 0x74, 0x1f, 0x4b, 0xbd, 0x8b, 0x8a],
    #v[0x70, 0x3e, 0xb5, 0x66, 0x48, 0x03, 0xf6, 0x0e, 0x61, 0x35, 0x57, 0xb9, 0x86, 0xc1, 0x1d, 0x9e],
    #v[0xe1, 0xf8, 0x98, 0x11, 0x69, 0xd9, 0x8e, 0x94, 0x9b, 0x1e, 0x87, 0xe9, 0xce, 0x55, 0x28, 0xdf],
    #v[0x8c, 0xa1, 0x89, 0x0d, 0xbf, 0xe6, 0x42, 0x68, 0x41, 0x99, 0x2d, 0x0f, 0xb0, 0x54, 0xbb, 0x16]]

def backwardTable : Table :=
  #v[
    #v[0x52, 0x09, 0x6a, 0xd5, 0x30, 0x36, 0xa5, 0x38, 0xbf, 0x40, 0xa3, 0x9e, 0x81, 0xf3, 0xd7, 0xfb],
    #v[0x7c, 0xe3, 0x39, 0x82, 0x9b, 0x2f, 0xff, 0x87, 0x34, 0x8e, 0x43, 0x44, 0xc4, 0xde, 0xe9, 0xcb],
    #v[0x54, 0x7b, 0x94, 0x32, 0xa6, 0xc2, 0x23, 0x3d, 0xee, 0x4c, 0x95, 0x0b, 0x42, 0xfa, 0xc3, 0x4e],
    #v[0x08, 0x2e, 0xa1, 0x66, 0x28, 0xd9, 0x24, 0xb2, 0x76, 0x5b, 0xa2, 0x49, 0x6d, 0x8b, 0xd1, 0x25],
    #v[0x72, 0xf8, 0xf6, 0x64, 0x86, 0x68, 0x98, 0x16, 0xd4, 0xa4, 0x5c, 0xcc, 0x5d, 0x65, 0xb6, 0x92],
    #v[0x6c, 0x70, 0x48, 0x50, 0xfd, 0xed, 0xb9, 0xda, 0x5e, 0x15, 0x46, 0x57, 0xa7, 0x8d, 0x9d, 0x84],
    #v[0x90, 0xd8, 0xab, 0x00, 0x8c, 0xbc, 0xd3, 0x0a, 0xf7, 0xe4, 0x58, 0x05, 0xb8, 0xb3, 0x45, 0x06],
    #v[0xd0, 0x2c, 0x1e, 0x8f, 0xca, 0x3f, 0x0f, 0x02, 0xc1, 0xaf, 0xbd, 0x03, 0x01, 0x13, 0x8a, 0x6b],
    #v[0x3a, 0x91, 0x11, 0x41, 0x4f, 0x67, 0xdc, 0xea, 0x97, 0xf2, 0xcf, 0xce, 0xf0, 0xb4, 0xe6, 0x73],
    #v[0x96, 0xac, 0x74, 0x22, 0xe7, 0xad, 0x35, 0x85, 0xe2, 0xf9, 0x37, 0xe8, 0x1c, 0x75, 0xdf, 0x6e],
    #v[0x47, 0xf1, 0x1a, 0x71, 0x1d, 0x29, 0xc5, 0x89, 0x6f, 0xb7, 0x62, 0x0e, 0xaa, 0x18, 0xbe, 0x1b],
    #v[0xfc, 0x56, 0x3e, 0x4b, 0xc6, 0xd2, 0x79, 0x20, 0x9a, 0xdb, 0xc0, 0xfe, 0x78, 0xcd, 0x5a, 0xf4],
    #v[0x1f, 0xdd, 0xa8, 0x33, 0x88, 0x07, 0xc7, 0x31, 0xb1, 0x12, 0x10, 0x59, 0x27, 0x80, 0xec, 0x5f],
    #v[0x60, 0x51, 0x7f, 0xa9, 0x19, 0xb5, 0x4a, 0x0d, 0x2d, 0xe5, 0x7a, 0x9f, 0x93, 0xc9, 0x9c, 0xef],
    #v[0xa0, 0xe0, 0x3b, 0x4d, 0xae, 0x2a, 0xf5, 0xb0, 0xc8, 0xeb, 0xbb, 0x3c, 0x83, 0x53, 0x99, 0x61],
    #v[0x17, 0x2b, 0x04, 0x7e, 0xba, 0x77, 0xd6, 0x26, 0xe1, 0x69, 0x14, 0x63, 0x55, 0x21, 0x0c, 0x7d]]

def substitute (b : UInt8) : UInt8 :=
  forwardTable.cell b

def unsubstitute (b : UInt8) : UInt8 :=
  backwardTable.cell b

theorem tables_inverse :
    ∀ i : Fin 256, unsubstitute (substitute ⟨⟨i⟩⟩) = ⟨⟨i⟩⟩ ∧ substitute (unsubstitute ⟨⟨i⟩⟩) = ⟨⟨i⟩⟩ := by
  decide +kernel

@[simp] theorem unsubstitute_substitute (b : UInt8) : unsubstitute (substitute b) = b :=
  (tables_inverse b.toFin).1

@[simp] theorem substitute_unsubstitute (b : UInt8) : substitute (unsubstitute b) = b :=
  (tables_inverse b.toFin).2

end SealedLicense.Block
