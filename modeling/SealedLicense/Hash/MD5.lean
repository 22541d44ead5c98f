import SealedLicense.Bytes

/-!
MD5, after RFC 1321.
-/

namespace SealedLicense.Hash

def zeroCount (block field size : Nat) : Nat :=
  (block - (size + 1 + field) % block) % block

def fill (block : Nat) (field message : Bytes) : Bytes :=
  message ++ 0x80 :: (List.replicate (zeroCount block field.length message.length) 0 ++ field)

end SealedLicense.Hash

namespace SealedLicense.Hash.MD5

structure State where
  a : UInt32
  b : UInt32
  c : UInt32
  d : UInt32
  deriving DecidableEq, Repr

def initial : State :=
  ⟨0x67452301, 0xefcdab89, 0x98badcfe, 0x10325476⟩

inductive Mixer where
  | choose
  | chooseBack
  | parity
  | conditional
  deriving DecidableEq, Repr

def Mixer.apply : Mixer → UInt32 → UInt32 → UInt32 → UInt32
  | .choose, x, y, z => (x &&& y) ||| (~~~x &&& z)
  | .chooseBack, x, y, z => (x &&& z) ||| (y &&& ~~~z)
  | .parity, x, y, z => x ^^^ y ^^^ z
  | .conditional, x, y, z => y ^^^ (x ||| ~~~z)

structure Operation where
  mixer : Mixer
  word : Nat
  shift : UInt32
  addend : UInt32
  deriving DecidableEq, Repr

/-- The integer parts of `2 ^ 32 * |sin i|` for `i` from 1 to 64. -/
def sines : List UInt32 :=
  [
    0xd76aa478, 0xe8c7b756, 0x242070db, 0xc1bdceee, 0xf57c0faf, 0x4787c62a,
    0xa8304613, 0xfd469501, 0x698098d8, 0x8b44f7af, 0xffff5bb1, 0x895cd7be,
    0x6b901122, 0xfd987193, 0xa679438e, 0x49b40821, 0xf61e2562, 0xc040b340,
    0x265e5a51, 0xe9b6c7aa, 0xd62f105d, 0x02441453, 0xd8a1e681, 0xe7d3fbc8,
    0x21e1cde6, 0xc33707d6, 0xf4d50d87, 0x455a14ed, 0xa9e3e905, 0xfcefa3f8,
    0x676f02d9, 0x8d2a4c8a, 0xfffa3942, 0x8771f681, 0x6d9d6122, 0xfde5380c,
    0xa4beea44, 0x4bdecfa9, 0xf6bb4b60, 0xbebfbc70, 0x289b7ec6, 0xeaa127fa,
    0xd4ef3085, 0x04881d05, 0xd9d4d039, 0xe6db99e5, 0x1fa27cf8, 0xc4ac5665,
    0xf4292244, 0x432aff97, 0xab9423a7, 0xfc93a039, 0x655b59c3, 0x8f0ccc92,
    0xffeff47d, 0x85845dd1, 0x6fa87e4f, 0xfe2ce6e0, 0xa3014314, 0x4e0811a1,
    0xf7537e82, 0xbd3af235, 0x2ad7d2bb, 0xeb86d391]

def plan : List (Mixer × Nat × UInt32) :=
  (List.range 64).map fun i =>
    let turn (xs : List UInt32) := xs.getD (i % 4) 0
    if i < 16 then (.choose, i, turn [7, 12, 17, 22])
    else if i < 32 then (.chooseBack, (5 * i + 1) % 16, turn [5, 9, 14, 20])
    else if i < 48 then (.parity, (3 * i + 5) % 16, turn [4, 11, 16, 23])
    else (.conditional, 7 * i % 16, turn [6, 10, 15, 21])

def operations : List Operation :=
  List.zipWith (fun p s => ⟨p.1, p.2.1, p.2.2, s⟩) plan sines

def rotateLeft (x n : UInt32) : UInt32 :=
  (x <<< n) ||| (x >>> (32 - n))

def State.step (words : List UInt32) (s : State) (o : Operation) : State :=
  let mixed := s.a + o.mixer.apply s.b s.c s.d + o.addend + words.getD o.word 0
  ⟨s.d, s.b + rotateLeft mixed o.shift, s.b, s.c⟩

def State.add (s t : State) : State :=
  ⟨s.a + t.a, s.b + t.b, s.c + t.c, s.d + t.d⟩

def words : Bytes → List UInt32
  | b0 :: b1 :: b2 :: b3 :: rest =>
      (b0.toUInt32 ||| (b1.toUInt32 <<< 8) ||| (b2.toUInt32 <<< 16) ||| (b3.toUInt32 <<< 24)) ::
        words rest
  | _ => []

def State.absorb (s : State) (block : Bytes) : State :=
  s.add (operations.foldl (State.step (words block)) s)

def wordBytes (w : UInt32) : Bytes :=
  [w.toUInt8, (w >>> 8).toUInt8, (w >>> 16).toUInt8, (w >>> 24).toUInt8]

def State.bytes (s : State) : Bytes :=
  wordBytes s.a ++ wordBytes s.b ++ wordBytes s.c ++ wordBytes s.d

/-- The length of the message in bits modulo `2 ^ 64`, least significant byte first. -/
def lengthField (message : Bytes) : Bytes :=
  (Bytes.ofNatWidth 8 (8 * message.length)).reverse

def digest (message : Bytes) : Bytes :=
  (foldChunks 64 State.absorb initial (fill 64 (lengthField message) message)).bytes

@[simp] theorem length_digest (message : Bytes) : (digest message).length = 16 := rfl

end SealedLicense.Hash.MD5
