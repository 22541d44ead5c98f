import SealedLicense.KeyFile.PublicKey

/-!
PKCS #8 around the numbers of PKCS #1.
-/

namespace SealedLicense.KeyFile

structure PrivateInfo where
  algorithm : Algorithm
  key : Bytes
  deriving DecidableEq, Repr

namespace PrivateInfo

/-- The optional public key among the fields behind the key, whose number is 1. Fields with the number 0 in front of
it are passed over. Tells whether it is there and gives the bytes behind it. -/
def readPublicField : Nat → Bytes → Option (Bool × Bytes)
  | _, [] => some (false, [])
  | 0, bs => some (false, bs)
  | left + 1, tag :: rest =>
      if !DER.knownTag tag then none
      else if DER.contextTag tag && DER.tagNumber tag == 0 then
        match DER.Element.read (tag :: rest) with
        | some (_, behind) => readPublicField left behind
        | none => none
      else if DER.contextTag tag && DER.tagNumber tag == 1 then
        match DER.Element.read (tag :: rest) with
        | some (e, behind) =>
            if DER.constructedTag e.tag then none
            else
              match DER.BitString.ofContent? e.content with
              | some bits => if bits.unused = 0 then some (true, behind) else none
              | none => none
        | none => none
      else some (false, tag :: rest)

def onlyFields : Nat → Bytes → Bool
  | _, [] => true
  | 0, _ => false
  | left + 1, bs =>
      match DER.Element.read bs with
      | none => false
      | some (e, rest) =>
          DER.contextTag e.tag && DER.constructedTag e.tag &&
            (match DER.Element.read e.content with
              | some (_, []) => onlyFields left rest
              | _ => false)

/-- Reads the whole of the bytes. Version 1 goes with a public key and version 0 with none. -/
def ofBytes? (bs : Bytes) : Option PrivateInfo := do
  let content ← DER.Element.ofBytes? DER.sequence bs
  let (version, rest) ← DER.readNatural content
  let (algorithm, rest) ← Algorithm.read rest
  let (key, rest) ← DER.Element.readTagged DER.octetString rest
  let (hasPublic, rest) ← readPublicField rest.length rest
  if version = (if hasPublic then 1 else 0) && onlyFields rest.length rest then
    return ⟨algorithm, key⟩
  else none

def encode (i : PrivateInfo) : Bytes :=
  DER.Element.encode ⟨DER.sequence,
    DER.natural 0 ++ i.algorithm.encode ++ DER.Element.encode ⟨DER.octetString, i.key⟩⟩

end PrivateInfo

structure PrivateNumbers where
  modulus : Nat
  exponent : Nat
  secret : Nat
  p : Nat
  q : Nat
  secretModP : Nat
  secretModQ : Nat
  coefficient : Nat
  moreFactors : Bool
  deriving DecidableEq, Repr

namespace PrivateNumbers

def onlyFactors : Nat → Bytes → Bool
  | _, [] => true
  | 0, _ => false
  | left + 1, bs =>
      match DER.Element.readTagged DER.sequence bs with
      | none => false
      | some (content, rest) =>
          match DER.readNaturals 3 content with
          | some (_, []) => onlyFactors left rest
          | _ => false

/-- Reads the whole of the bytes. Version 1 goes with further factors and version 0 with none. -/
def ofBytes? (bs : Bytes) : Option PrivateNumbers := do
  let content ← DER.Element.ofBytes? DER.sequence bs
  let (numbers, rest) ← DER.readNaturals 9 content
  match numbers with
  | [version, n, e, d, p, q, dp, dq, c] =>
      match version, rest with
      | 0, [] => return ⟨n, e, d, p, q, dp, dq, c, false⟩
      | 1, _ :: _ => do
          let factors ← DER.Element.ofBytes? DER.sequence rest
          if onlyFactors factors.length factors then return ⟨n, e, d, p, q, dp, dq, c, true⟩ else none
      | _, _ => none
  | _ => none

def encode (x : PrivateNumbers) : Bytes :=
  DER.Element.encode ⟨DER.sequence,
    [0, x.modulus, x.exponent, x.secret, x.p, x.q, x.secretModP, x.secretModQ, x.coefficient].flatMap DER.natural⟩

end PrivateNumbers

def privateKeyOfDER (bs : Bytes) : Except EncodingFault RSA.PrivateKey :=
  if DER.maxLength < bs.length then .error .shape
  else
    match PrivateInfo.ofBytes? bs with
    | none => .error .shape
    | some info => do
        info.algorithm.check
        match PrivateNumbers.ofBytes? info.key with
        | none => .error .shape
        | some x =>
            if x.moreFactors then .error .numbers
            else
              match RSA.PrivateKey.ofNumbers? x.modulus x.exponent x.secret x.p x.q with
              | some k => .ok k
              | none => .error .numbers

def privateNumbers? (k : RSA.PrivateKey) : Option PrivateNumbers :=
  (RSA.inverse? k.q k.p).map fun coefficient =>
    ⟨k.modulus, k.exponent, k.secret, k.p, k.q, k.secret % (k.p - 1), k.secret % (k.q - 1), coefficient, false⟩

def privateKeyToDER (k : RSA.PrivateKey) : Except EncodingFault Bytes :=
  match privateNumbers? k with
  | none => .error .numbers
  | some x =>
      let bs := PrivateInfo.encode ⟨.rsa, x.encode⟩
      if DER.maxLength < bs.length then .error .shape else .ok bs

end SealedLicense.KeyFile
