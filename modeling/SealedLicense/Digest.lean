import SealedLicense.DER.Value
import SealedLicense.Hash.SHA256
import SealedLicense.Hash.SHA512

namespace SealedLicense

inductive Digest where
  | sha256
  | sha512
  deriving DecidableEq, Repr

namespace Digest

def standard : Digest := .sha512

def schemeName : Digest → String
  | .sha256 => "SHA256withRSA"
  | .sha512 => "SHA512withRSA"

def configName : Digest → String
  | .sha256 => "sha256"
  | .sha512 => "sha512"

def debugName : Digest → String
  | .sha256 => "Sha256"
  | .sha512 => "Sha512"

def lowerAscii (c : Char) : Char :=
  if 'A' ≤ c ∧ c ≤ 'Z' then Char.ofNat (c.toNat + 32) else c

def plainName (name : List Char) : List Char :=
  (name.map lowerAscii).filter (· ≠ '-')

def ofName? (name : String) : Option Digest :=
  let plain := plainName name.toList
  if plain = "sha256".toList ∨ plain = "sha256withrsa".toList then some .sha256
  else if plain = "sha512".toList ∨ plain = "sha512withrsa".toList then some .sha512
  else none

def hash : Digest → Bytes → Bytes
  | .sha256, message => Hash.SHA256.digest message
  | .sha512, message => Hash.SHA512.digest message

def infoHeader : Digest → Bytes
  | .sha256 => [0x30, 0x31, 0x30, 0x0d, 0x06, 0x09, 0x60, 0x86, 0x48, 0x01, 0x65, 0x03, 0x04, 0x02, 0x01, 0x05, 0x00,
      0x04, 0x20]
  | .sha512 => [0x30, 0x51, 0x30, 0x0d, 0x06, 0x09, 0x60, 0x86, 0x48, 0x01, 0x65, 0x03, 0x04, 0x02, 0x03, 0x05, 0x00,
      0x04, 0x40]

def info (g : Digest) (message : Bytes) : Bytes :=
  g.infoHeader ++ g.hash message

theorem length_info (g : Digest) (message : Bytes) :
    (g.info message).length = match g with | .sha256 => 51 | .sha512 => 83 := by
  cases g <;> simp [info, infoHeader, hash]

def identifier : Digest → Bytes
  | .sha256 => [0x60, 0x86, 0x48, 0x01, 0x65, 0x03, 0x04, 0x02, 0x01]
  | .sha512 => [0x60, 0x86, 0x48, 0x01, 0x65, 0x03, 0x04, 0x02, 0x03]

theorem info_eq_encode (g : Digest) (message : Bytes) :
    g.info message = DER.Element.encode ⟨DER.sequence,
      DER.Element.encode ⟨DER.sequence,
        DER.Element.encode ⟨DER.objectIdentifier, g.identifier⟩ ++ DER.Element.encode ⟨DER.null, []⟩⟩ ++
      DER.Element.encode ⟨DER.octetString, g.hash message⟩⟩ := by
  cases g <;>
    simp [info, infoHeader, identifier, hash, DER.Element.encode, DER.encodeLength, DER.sequence,
      DER.objectIdentifier, DER.null, DER.octetString]

example : Bytes.toNat (sha256.info [0x61, 0x62, 0x63]) =
    0x3031300d060960864801650304020105000420ba7816bf8f01cfea414140de5dae2223b00361a396177a9cb410ff61f20015ad := by
  decide +kernel

end Digest

end SealedLicense
