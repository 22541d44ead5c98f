import SealedLicense.Hash.MD5

/-!
What SHA-256 and SHA-512 share, after FIPS 180-4, over any type of words.
-/

namespace SealedLicense.Hash.SHA2

structure State (W : Type) where
  a : W
  b : W
  c : W
  d : W
  e : W
  f : W
  g : W
  h : W
  deriving DecidableEq, Repr

class Variant (W : Type) extends Add W, XorOp W, AndOp W, Complement W where
  octets : Nat
  ofNat : Nat → W
  toNat : W → Nat
  bigSigma0 : W → W
  bigSigma1 : W → W
  smallSigma0 : W → W
  smallSigma1 : W → W
  initial : State W
  roundConstants : List W

variable {W : Type} [Variant W]

open Variant

@[inline] def choose (x y z : W) : W :=
  (x &&& y) ^^^ (~~~x &&& z)

@[inline] def majority (x y z : W) : W :=
  (x &&& y) ^^^ (x &&& z) ^^^ (y &&& z)

/-- The word sixteen places after the first of sixteen consecutive schedule words. -/
@[specialize] def nextWord : List W → W
  | w0 :: w1 :: _ :: _ :: _ :: _ :: _ :: _ :: _ :: w9 :: _ :: _ :: _ :: _ :: w14 :: _ =>
      smallSigma1 w14 + w9 + smallSigma0 w1 + w0
  | _ => ofNat 0

@[specialize] def State.round (s : State W) (constant word : W) : State W :=
  let t1 := s.h + bigSigma1 s.e + choose s.e s.f s.g + constant + word
  let t2 := bigSigma0 s.a + majority s.a s.b s.c
  ⟨t1 + t2, s.a, s.b, s.c, s.d + t1, s.e, s.f, s.g⟩

/-- One round for each constant, over a sliding window of sixteen schedule words. -/
@[specialize] def State.rounds : List W → List W → State W → State W
  | [], _, s => s
  | _, [], s => s
  | k :: ks, w :: ws, s => State.rounds ks (ws ++ [nextWord (w :: ws)]) (s.round k w)

def State.add (s t : State W) : State W :=
  ⟨s.a + t.a, s.b + t.b, s.c + t.c, s.d + t.d, s.e + t.e, s.f + t.f, s.g + t.g, s.h + t.h⟩

@[specialize] def words (bs : Bytes) : List W :=
  (chunks (octets W) bs).map fun piece => ofNat (Bytes.toNat piece)

@[specialize] def State.absorb (s : State W) (block : Bytes) : State W :=
  s.add (State.rounds roundConstants (words block) s)

def State.words (s : State W) : List W :=
  [s.a, s.b, s.c, s.d, s.e, s.f, s.g, s.h]

def State.bytes (s : State W) : Bytes :=
  s.words.flatMap fun w => Bytes.ofNatWidth (octets W) (toNat w)

def filled (W : Type) [Variant W] (message : Bytes) : Bytes :=
  fill (16 * octets W) (Bytes.ofNatWidth (2 * octets W) (8 * message.length)) message

@[specialize] def digest (W : Type) [Variant W] (message : Bytes) : Bytes :=
  (foldChunks (16 * octets W) State.absorb (initial : State W) (filled W message)).bytes

theorem length_digest (message : Bytes) : (digest W message).length = 8 * octets W := by
  simp only [digest, State.bytes, State.words, List.length_flatMap, Bytes.length_ofNatWidth,
    List.map_cons, List.map_nil, List.sum_cons, List.sum_nil]
  omega

end SealedLicense.Hash.SHA2
