import SealedLicense.DER.Value
import SealedLicense.KeyFile.Signing

/-!
The X.509 structure around the two numbers of a public key.
-/

namespace SealedLicense.KeyFile

structure Algorithm where
  name : Bytes
  parameters : Option DER.Element
  deriving DecidableEq, Repr

namespace Algorithm

/-- The name 1.2.840.113549.1.1.1. -/
def rsaName : Bytes :=
  [0x2a, 0x86, 0x48, 0x86, 0xf7, 0x0d, 0x01, 0x01, 0x01]

def rsa : Algorithm :=
  ⟨rsaName, some ⟨DER.null, []⟩⟩

def encode (a : Algorithm) : Bytes :=
  DER.Element.encode ⟨DER.sequence,
    DER.Element.encode ⟨DER.objectIdentifier, a.name⟩ ++ (a.parameters.map DER.Element.encode).getD []⟩

def read (bs : Bytes) : Option (Algorithm × Bytes) := do
  let (content, rest) ← DER.Element.readTagged DER.sequence bs
  let (name, parameters) ← DER.Element.readTagged DER.objectIdentifier content
  if DER.identifierContent name then
    match parameters with
    | [] => return (⟨name, none⟩, rest)
    | _ :: _ =>
        match DER.Element.read parameters with
        | some (element, []) => return (⟨name, some element⟩, rest)
        | _ => none
  else none

def check (a : Algorithm) : Except EncodingFault Unit :=
  if a.name ≠ rsaName then .error .otherAlgorithm
  else
    match a.parameters with
    | none => .error .parametersMissing
    | some e => if e = ⟨DER.null, []⟩ then .ok () else .error .parametersNotNull

end Algorithm

structure PublicInfo where
  algorithm : Algorithm
  key : DER.BitString
  deriving DecidableEq, Repr

namespace PublicInfo

def ofBytes? (bs : Bytes) : Option PublicInfo := do
  let content ← DER.Element.ofBytes? DER.sequence bs
  let (algorithm, rest) ← Algorithm.read content
  let bits ← DER.Element.ofBytes? DER.bitString rest
  let key ← DER.BitString.ofContent? bits
  return ⟨algorithm, key⟩

def encode (algorithm : Algorithm) (key : Bytes) : Bytes :=
  DER.Element.encode ⟨DER.sequence, algorithm.encode ++ DER.wholeBits key⟩

end PublicInfo

def publicNumbers? (bs : Bytes) : Option (Nat × Nat) := do
  let content ← DER.Element.ofBytes? DER.sequence bs
  let (numbers, rest) ← DER.readNaturals 2 content
  match numbers, rest with
  | [n, e], [] => return (n, e)
  | _, _ => none

def encodePublicNumbers (n e : Nat) : Bytes :=
  DER.Element.encode ⟨DER.sequence, DER.natural n ++ DER.natural e⟩

def maxModulusBits : Nat := 4096

def publicKeyOfDER (bs : Bytes) : Except EncodingFault RSA.PublicKey :=
  if DER.maxLength < bs.length then .error .shape
  else
    match PublicInfo.ofBytes? bs with
    | none => .error .shape
    | some info => do
        info.algorithm.check
        if info.key.unused ≠ 0 then .error .unusedBits
        else
          match publicNumbers? info.key.bytes with
          | none => .error .shape
          | some (n, e) =>
              if maxModulusBits < Bytes.bitLength n then .error .numbers
              else
                match RSA.PublicKey.ofNumbers? n e with
                | some k => .ok k
                | none => .error .numbers

def publicKeyToDER (k : RSA.PublicKey) : Except EncodingFault Bytes :=
  let bs := PublicInfo.encode .rsa (encodePublicNumbers k.modulus k.exponent)
  if DER.maxLength < bs.length then .error .shape else .ok bs

end SealedLicense.KeyFile
