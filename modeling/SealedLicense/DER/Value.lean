import SealedLicense.Bytes

namespace SealedLicense.DER

/-- No encoding and no content is longer. -/
def maxLength : Nat := 0xfffffff

def encodeLength (n : Nat) : Bytes :=
  if n < 128 then [UInt8.ofNat n]
  else UInt8.ofNat (128 + Bytes.width n) :: Bytes.ofNatWidth (Bytes.width n) n

def readLength : Bytes → Option (Nat × Bytes)
  | [] => none
  | first :: rest =>
      if first < 128 then some (first.toNat, rest)
      else
        let field := rest.take (first.toNat - 128)
        let n := Bytes.toNat field
        if n ≤ maxLength ∧ encodeLength n = first :: field then
          some (n, rest.drop (first.toNat - 128))
        else none

structure Element where
  tag : UInt8
  content : Bytes
  deriving DecidableEq, Repr

def boolean : UInt8 := 0x01
def integer : UInt8 := 0x02
def bitString : UInt8 := 0x03
def octetString : UInt8 := 0x04
def null : UInt8 := 0x05
def objectIdentifier : UInt8 := 0x06
def sequence : UInt8 := 0x30
def set : UInt8 := 0x31

/-- Identifiers of the universal types, in the one form that DER gives to each. -/
def universalTags : List UInt8 :=
  [boolean, integer, bitString, octetString, null, objectIdentifier, 0x09, 0x0a, 0x0c, 0x12, 0x13, 0x14,
    0x15, 0x16, 0x17, 0x18, 0x1a, 0x1e, sequence, set]

def tagNumber (tag : UInt8) : UInt8 :=
  tag &&& 0x1f

/-- A universal type, or a number below 31 in another class. -/
def knownTag (tag : UInt8) : Bool :=
  tagNumber tag != 0x1f && (0x40 ≤ tag || universalTags.contains tag)

def contextTag (tag : UInt8) : Bool :=
  tag &&& 0xc0 == 0x80

def constructedTag (tag : UInt8) : Bool :=
  tag &&& 0x20 == 0x20

namespace Element

def encode (e : Element) : Bytes :=
  e.tag :: encodeLength e.content.length ++ e.content

def read : Bytes → Option (Element × Bytes)
  | [] => none
  | tag :: rest =>
      if knownTag tag then
        match readLength rest with
        | none => none
        | some (n, rest) =>
            if n ≤ rest.length then some (⟨tag, rest.take n⟩, rest.drop n) else none
      else none

def readTagged (tag : UInt8) (bs : Bytes) : Option (Bytes × Bytes) :=
  match read bs with
  | some (e, rest) => if e.tag = tag then some (e.content, rest) else none
  | none => none

def ofBytes? (tag : UInt8) (bs : Bytes) : Option Bytes :=
  match readTagged tag bs with
  | some (content, []) => some content
  | _ => none

end Element

/-- The shortest two's complement form of a natural number: its top bit is clear. -/
def naturalContent (n : Nat) : Bytes :=
  Bytes.ofNatWidth (Bytes.bitLength n / 8 + 1) n

def natural? (content : Bytes) : Option Nat :=
  let n := Bytes.toNat content
  if content = naturalContent n then some n else none

def natural (n : Nat) : Bytes :=
  Element.encode ⟨integer, naturalContent n⟩

def readNatural (bs : Bytes) : Option (Nat × Bytes) := do
  let (content, rest) ← Element.readTagged integer bs
  let n ← natural? content
  return (n, rest)

def readNaturals : Nat → Bytes → Option (List Nat × Bytes)
  | 0, bs => some ([], bs)
  | count + 1, bs => do
      let (n, rest) ← readNatural bs
      let (ns, rest) ← readNaturals count rest
      return (n :: ns, rest)

def maxIdentifierSize : Nat := 39

/-- Base-128 numbers of at most 32 bits; `seen` counts the bytes of the number that is being read. -/
def arcs : Nat → Bytes → Bool
  | seen, [] => seen == 0
  | seen, b :: rest =>
      (seen < 4 || b < 0x10) && (if b < 0x80 then arcs 0 rest else arcs (seen + 1) rest)

/-- Contents that name an object: a root of two arcs in the first byte, then further arcs. -/
def identifierContent : Bytes → Bool
  | [] => false
  | root :: rest => root < 120 && 2 ≤ rest.length && rest.length < maxIdentifierSize && arcs 0 rest

structure BitString where
  unused : Nat
  bytes : Bytes
  deriving DecidableEq, Repr

def BitString.ofContent? : Bytes → Option BitString
  | [] => none
  | unused :: bytes =>
      if unused.toNat ≤ 7 ∧ (unused = 0 ∨ bytes ≠ []) then some ⟨unused.toNat, bytes⟩ else none

def wholeBits (bytes : Bytes) : Bytes :=
  Element.encode ⟨bitString, 0 :: bytes⟩

end SealedLicense.DER
