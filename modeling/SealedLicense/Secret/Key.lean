import SealedLicense.Bytes
import SealedLicense.Seal.Trailer
import SealedLicense.Block.Basic
import SealedLicense.Hash.MD5

namespace SealedLicense

structure Passphrase where
  chars : List Char
  deriving DecidableEq

namespace Passphrase

def ofString (s : String) : Passphrase :=
  ⟨s.toList⟩

def length (p : Passphrase) : Nat :=
  p.chars.length

def isEmpty (p : Passphrase) : Bool :=
  p.chars.isEmpty

def wipe (_ : Passphrase) : Passphrase :=
  ⟨[]⟩

def redacted (_ : Passphrase) : String :=
  "Passphrase \x7b chars: \"[REDACTED]\" \x7d"

def printable (c : Char) : Bool :=
  ' ' ≤ c && c ≤ '~'

def toBytes (p : Passphrase) : Except SealError Bytes :=
  if p.chars.all printable then .ok (p.chars.map fun c => UInt8.ofNat c.toNat)
  else .error (.invalidKeySpec .unprintable)

end Passphrase

structure SecretKey where
  block : Block
  deriving DecidableEq

structure Derivation where
  salt : Vector UInt8 8
  iterations : UInt32
  deriving DecidableEq

namespace SecretKey

def size : Nat := 16

def ofBytes (bs : Bytes) : Except SealError SecretKey :=
  match Block.ofBytes? bs with
  | some block => .ok ⟨block⟩
  | none => .error (.invalidKeyLength size bs.length)

def toBytes (k : SecretKey) : Bytes :=
  k.block.toBytes

def redacted (_ : SecretKey) : String :=
  "SymmetricKey \x7b bytes: \"[REDACTED]\" \x7d"

def stretch (seed : Bytes) : SecretKey :=
  let byteAt (i : Nat) : UInt8 := seed.getD (i % seed.length) 0
  ⟨⟨⟨byteAt 0, byteAt 1, byteAt 2, byteAt 3⟩, ⟨byteAt 4, byteAt 5, byteAt 6, byteAt 7⟩,
    ⟨byteAt 8, byteAt 9, byteAt 10, byteAt 11⟩, ⟨byteAt 12, byteAt 13, byteAt 14, byteAt 15⟩⟩⟩

end SecretKey

namespace Derivation

def seedSize : Nat := 8

def defaultSalt : Vector UInt8 8 :=
  #v[0xa9, 0x9b, 0xc8, 0x32, 0x56, 0x35, 0xe3, 0x03]

def standard : Derivation :=
  ⟨defaultSalt, 1024⟩

def hashTimes : Nat → Bytes → Bytes
  | 0, bs => bs
  | n + 1, bs => hashTimes n (Hash.MD5.digest bs)

/-- The last digest of the chain; the first digest is always taken. -/
def chain (d : Derivation) (password : Bytes) : Bytes :=
  hashTimes (d.iterations.toNat - 1) (Hash.MD5.digest (password ++ d.salt.toList))

def keyOfBytes (d : Derivation) (password : Bytes) : SecretKey :=
  SecretKey.stretch ((d.chain password).take seedSize)

def key (d : Derivation) (p : Passphrase) : Except SealError SecretKey :=
  p.toBytes.map d.keyOfBytes

end Derivation

end SealedLicense
