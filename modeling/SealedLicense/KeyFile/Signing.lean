import SealedLicense.RSA.Generation
import SealedLicense.RSA.Signature
import SealedLicense.Seal.Trailer

namespace SealedLicense

inductive KeyKind where
  | privateKey
  | publicKey
  deriving DecidableEq, Repr

def KeyKind.message : KeyKind → String
  | .privateKey => "RSA private key (PKCS#8)"
  | .publicKey => "RSA public key (X.509)"

inductive EncodingFault where
  | shape
  | otherAlgorithm
  | parametersMissing
  | parametersNotNull
  | unusedBits
  | numbers
  deriving DecidableEq, Repr

def EncodingFault.publicMessage : EncodingFault → String
  | .shape => "ASN.1 error"
  | .otherAlgorithm => "unknown/unsupported algorithm OID: 1.2.840.113549.1.1.1"
  | .parametersMissing => "AlgorithmIdentifier parameters missing"
  | .parametersNotNull => "SPKI cryptographic key data malformed"
  | .unusedBits => "SPKI cryptographic key data malformed"
  | .numbers => "SPKI cryptographic key data malformed"

/-- The wording for private keys, which quotes the other one for the parts that both kinds have. -/
def EncodingFault.privateMessage : EncodingFault → String
  | .shape => "PKCS#8 ASN.1 error"
  | .numbers => "PKCS#8 cryptographic key data malformed"
  | fault => "public key error: " ++ fault.publicMessage

def EncodingFault.message (fault : EncodingFault) : KeyKind → String
  | .privateKey => fault.privateMessage
  | .publicKey => fault.publicMessage

inductive KeyFault where
  | sealed (error : SealError)
  | encoding (fault : EncodingFault)
  | found (kind : KeyKind)
  | cannotSign (digest : Digest) (fault : RSA.SignFault)
  | stated (text : String)
  deriving DecidableEq, Repr

def KeyFault.message : KeyFault → KeyKind → String
  | .sealed error, _ => error.message
  | .encoding fault, expected => fault.message expected
  | .found kind, _ => "found " ++ kind.message
  | .cannotSign digest fault, _ =>
      "cannot sign with " ++ digest.schemeName ++ ": signature error: " ++ fault.message
  | .stated text, _ => text

inductive SigningError where
  | algorithmUnavailable (name : String)
  | inappropriateKey (expected : KeyKind) (fault : KeyFault)
  | invalidSignature
  | keyGeneration (fault : RSA.GenerationFault)
  | crypto (error : SealError)
  deriving DecidableEq, Repr

namespace SigningError

def message : SigningError → String
  | .algorithmUnavailable name => "algorithm unavailable: " ++ name
  | .inappropriateKey expected fault =>
      "inappropriate key, expected " ++ expected.message ++ ": " ++ fault.message expected
  | .invalidSignature => "signature verification failed"
  | .keyGeneration fault => "key generation failed: " ++ fault.message
  | .crypto error => "crypto error: " ++ error.message

def source : SigningError → Option SealError
  | .crypto error => some error
  | _ => none

end SigningError

def Digest.ofName (name : String) : Except SigningError Digest :=
  match Digest.ofName? name with
  | some g => .ok g
  | none => .error (.algorithmUnavailable name)

def sign (k : RSA.PrivateKey) (g : Digest) (message : Bytes) : Except SigningError Bytes :=
  match k.sign g message with
  | .ok signature => .ok signature
  | .error fault => .error (.inappropriateKey .privateKey (.cannotSign g fault))

def verify (k : RSA.PublicKey) (g : Digest) (message signature : Bytes) : Except SigningError Unit :=
  if k.verify g message signature then .ok () else .error .invalidSignature

theorem verify_eq_ok_iff {k : RSA.PublicKey} {g : Digest} {message signature : Bytes} :
    verify k g message signature = .ok () ↔ k.verify g message signature = true := by
  unfold verify
  split <;> simp_all

theorem verify_eq_error_iff {k : RSA.PublicKey} {g : Digest} {message signature : Bytes} :
    verify k g message signature = .error .invalidSignature ↔ verify k g message signature ≠ .ok () := by
  unfold verify
  split <;> simp

def generateKey (bits : Nat) (supply : Nat → Nat) : Except SigningError RSA.PrivateKey :=
  match RSA.generate bits supply with
  | .ok k => .ok k
  | .error fault => .error (.keyGeneration fault)

end SealedLicense
