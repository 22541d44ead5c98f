import SealedLicense.Bytes

namespace SealedLicense

structure Column where
  a : UInt8
  b : UInt8
  c : UInt8
  d : UInt8
  deriving DecidableEq, Repr

structure Block where
  w : Column
  x : Column
  y : Column
  z : Column
  deriving DecidableEq, Repr

def Column.map (f : UInt8 → UInt8) (v : Column) : Column :=
  ⟨f v.a, f v.b, f v.c, f v.d⟩

def Column.xor (v u : Column) : Column :=
  ⟨v.a ^^^ u.a, v.b ^^^ u.b, v.c ^^^ u.c, v.d ^^^ u.d⟩

def Column.toBytes (v : Column) : Bytes :=
  [v.a, v.b, v.c, v.d]

@[simp] theorem Column.xor_xor_cancel (v u : Column) : (v.xor u).xor u = v := by
  simp only [Column.xor, UInt8.xor_assoc, UInt8.xor_self, UInt8.xor_zero]

namespace Block

def octets : Nat := 16

def map (f : Column → Column) (s : Block) : Block :=
  ⟨f s.w, f s.x, f s.y, f s.z⟩

def xor (s t : Block) : Block :=
  ⟨s.w.xor t.w, s.x.xor t.x, s.y.xor t.y, s.z.xor t.z⟩

def toBytes (s : Block) : Bytes :=
  s.w.toBytes ++ s.x.toBytes ++ s.y.toBytes ++ s.z.toBytes

def ofBytes? : Bytes → Option Block
  | [a0, a1, a2, a3, b0, b1, b2, b3, c0, c1, c2, c3, d0, d1, d2, d3] =>
      some ⟨⟨a0, a1, a2, a3⟩, ⟨b0, b1, b2, b3⟩, ⟨c0, c1, c2, c3⟩, ⟨d0, d1, d2, d3⟩⟩
  | _ => none

def split? : Bytes → Option (List Block)
  | [] => some []
  | a0 :: a1 :: a2 :: a3 :: b0 :: b1 :: b2 :: b3 :: c0 :: c1 :: c2 :: c3 :: d0 :: d1 :: d2 :: d3 :: rest =>
      (split? rest).map
        (⟨⟨a0, a1, a2, a3⟩, ⟨b0, b1, b2, b3⟩, ⟨c0, c1, c2, c3⟩, ⟨d0, d1, d2, d3⟩⟩ :: ·)
  | _ => none

def join (blocks : List Block) : Bytes :=
  blocks.flatMap toBytes

@[simp] theorem xor_xor_cancel (s t : Block) : (s.xor t).xor t = s := by
  simp [Block.xor]

@[simp] theorem length_toBytes (s : Block) : s.toBytes.length = 16 := rfl

@[simp] theorem ofBytes?_toBytes (s : Block) : ofBytes? s.toBytes = some s := rfl

@[simp] theorem split?_join (blocks : List Block) : split? (join blocks) = some blocks := by
  induction blocks with
  | nil => rfl
  | cons s rest ih =>
    show (split? (join rest)).map (s :: ·) = _
    rw [ih]; rfl

theorem join_of_split? {bs : Bytes} {blocks : List Block} (h : split? bs = some blocks) :
    join blocks = bs := by
  fun_induction split? bs generalizing blocks with
  | case1 => cases h; rfl
  | case2 a0 a1 a2 a3 b0 b1 b2 b3 c0 c1 c2 c3 d0 d1 d2 d3 rest ih =>
    obtain ⟨more, hm, rfl⟩ := Option.map_eq_some_iff.1 h
    simp only [join, List.flatMap_cons]
    rw [show more.flatMap toBytes = rest from ih hm]
    rfl
  | case3 => simp at h

theorem split?_of_dvd : ∀ (n : Nat) (bs : Bytes), bs.length = 16 * n → ∃ blocks, split? bs = some blocks
  | 0, bs, h => ⟨[], by rw [List.length_eq_zero_iff.1 h]; rfl⟩
  | n + 1, bs, h => by
    match bs, h with
    | a0 :: a1 :: a2 :: a3 :: b0 :: b1 :: b2 :: b3 :: c0 :: c1 :: c2 :: c3 :: d0 :: d1 :: d2 :: d3 :: rest, h =>
      obtain ⟨blocks, hb⟩ := split?_of_dvd n rest (by simp only [List.length_cons] at h; omega)
      exact ⟨_, by rw [split?, hb]; rfl⟩

theorem length_join (blocks : List Block) : (join blocks).length = 16 * blocks.length := by
  induction blocks with
  | nil => rfl
  | cons s rest ih =>
    rw [join, List.flatMap_cons, List.length_append, length_toBytes, List.length_cons]
    rw [show (rest.flatMap toBytes).length = 16 * rest.length from ih]
    omega

end Block

end SealedLicense
