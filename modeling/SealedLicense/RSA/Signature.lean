import SealedLicense.Digest
import SealedLicense.RSA.Arithmetic
import SealedLicense.RSA.Key

/-!
Signatures of PKCS #1 version 1.5.
-/

namespace SealedLicense.RSA

/-- The bytes around the digest information: three in front, one behind the filling, and at least eight of filling. -/
def overhead : Nat := 11

def encodeMessage? (g : Digest) (message : Bytes) (k : Nat) : Option Bytes :=
  let info := g.info message
  if k < info.length + overhead then none
  else some (0x00 :: 0x01 :: (List.replicate (k - info.length - 3) 0xff ++ 0x00 :: info))

inductive SignFault where
  | messageTooLong
  | selfCheck
  deriving DecidableEq, Repr

def SignFault.message : SignFault → String
  | .messageTooLong => "message too long"
  | .selfCheck => "internal error"

namespace PrivateKey

/-- The power of `c` by the secret exponent, put together from its remainders modulo the factors, or computed at
once if the factors have a divisor in common. -/
def power (k : PrivateKey) (c : Nat) : Nat :=
  match inverse? k.q k.p with
  | none => powMod c k.secret k.modulus
  | some coefficient =>
      let m1 := powMod c (k.secret % (k.p - 1)) k.p
      let m2 := powMod c (k.secret % (k.q - 1)) k.q
      let h := ((m1 : Int) - m2) * coefficient % k.p
      m2 + h.toNat * k.q

def sign (k : PrivateKey) (g : Digest) (message : Bytes) : Except SignFault Bytes :=
  match encodeMessage? g message k.octets with
  | none => .error .messageTooLong
  | some encoded =>
      let c := Bytes.toNat encoded
      let s := k.power c
      if powMod s k.exponent k.modulus = c then .ok (Bytes.ofNatWidth k.octets s) else .error .selfCheck

end PrivateKey

def PublicKey.verify (k : PublicKey) (g : Digest) (message signature : Bytes) : Bool :=
  match encodeMessage? g message k.octets with
  | none => false
  | some encoded =>
      let s := Bytes.toNat signature
      signature.length == k.octets && decide (s < k.modulus) &&
        Bytes.ofNatWidth k.octets (powMod s k.exponent k.modulus) == encoded

end SealedLicense.RSA
