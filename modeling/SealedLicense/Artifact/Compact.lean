import SealedLicense.Bytes
import SealedLicense.Text.Base64

namespace SealedLicense.Text

/-- The characters with the property White_Space. -/
def isBlank (c : Char) : Bool :=
  let n := c.toNat
  (0x09 ≤ n && n ≤ 0x0d) || n == 0x20 || n == 0x85 || n == 0xa0 || n == 0x1680 || (0x2000 ≤ n && n ≤ 0x200a) ||
    n == 0x2028 || n == 0x2029 || n == 0x202f || n == 0x205f || n == 0x3000

def trim (cs : List Char) : List Char :=
  ((cs.dropWhile isBlank).reverse.dropWhile isBlank).reverse

end SealedLicense.Text

namespace SealedLicense

structure Artifact where
  payload : Bytes
  signature : Bytes
  deriving DecidableEq

inductive FormatFault where
  | parts
  | payload (fault : Base64.Fault)
  | signature (fault : Base64.Fault)
  | emptyPart
  | stated (text : String)
  deriving DecidableEq, Repr

def FormatFault.message : FormatFault → String
  | .parts => "artifact must have exactly two parts separated by a dot"
  | .payload fault => "invalid payload base64: " ++ fault.message
  | .signature fault => "invalid signature base64: " ++ fault.message
  | .emptyPart => "payload and signature must not be empty"
  | .stated text => text

namespace Artifact

def debugBytes (bs : Bytes) : String :=
  "[" ++ ", ".intercalate (bs.map fun b => toString b.toNat) ++ "]"

def debugText (a : Artifact) : String :=
  "SignedArtifact \x7b encrypted_payload: " ++ debugBytes a.payload ++ ", signature: " ++
    debugBytes a.signature ++ " \x7d"

def characters (symbols : Bytes) : List Char :=
  symbols.map fun b => Char.ofNat b.toNat

def utf8 (cs : List Char) : Bytes :=
  cs.flatMap String.utf8EncodeChar

def toCompact (a : Artifact) : List Char :=
  characters (Base64.encode a.payload) ++ '.' :: characters (Base64.encode a.signature)

def splitAtDot? (cs : List Char) : Option (List Char × List Char) :=
  match cs.dropWhile (· ≠ '.') with
  | [] => none
  | _ :: back => if '.' ∈ back then none else some (cs.takeWhile (· ≠ '.'), back)

def ofCompact (text : List Char) : Except FormatFault Artifact :=
  match splitAtDot? (Text.trim text) with
  | none => .error .parts
  | some (front, back) =>
      match Base64.decode (utf8 front) with
      | .error fault => .error (.payload fault)
      | .ok payload =>
          match Base64.decode (utf8 back) with
          | .error fault => .error (.signature fault)
          | .ok signature =>
              if payload = [] ∨ signature = [] then .error .emptyPart else .ok ⟨payload, signature⟩

end Artifact

end SealedLicense
