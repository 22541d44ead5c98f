import SealedLicense.Artifact.Compact
import SealedLicense.KeyFile.Signing

namespace SealedLicense

inductive LookupFault where
  | unreadable (path : String)
  | stated (text : String)
  deriving DecidableEq, Repr

def LookupFault.message : LookupFault → String
  | .unreadable path => "cannot read key file " ++ path
  | .stated text => text

inductive LicenseError where
  | keyNotFound (fault : LookupFault)
  | invalidSignature
  | invalidFormat (fault : FormatFault)
  | signing (error : SigningError)
  | crypto (error : SealError)
  deriving DecidableEq, Repr

inductive Cause where
  | fileSystem
  | signing (error : SigningError)
  | crypto (error : SealError)
  deriving DecidableEq, Repr

namespace LicenseError

def ofSigning : SigningError → LicenseError
  | .invalidSignature => .invalidSignature
  | error => .signing error

def message : LicenseError → String
  | .keyNotFound fault => "key not found: " ++ fault.message
  | .invalidSignature => "license signature invalid"
  | .invalidFormat fault => "invalid signed artifact format: " ++ fault.message
  | .signing error => "signing error: " ++ error.message
  | .crypto error => "crypto error: " ++ error.message

def causes : LicenseError → List Cause
  | .keyNotFound (.unreadable _) => [.fileSystem]
  | .signing error => .signing error :: (error.source.map Cause.crypto).toList
  | .crypto error => [.crypto error]
  | _ => []

end LicenseError

inductive Request where
  | privateKey
  | publicKey
  | passphrase
  deriving DecidableEq, Repr

inductive Event where
  | privateKeyRejected (error : SigningError)
  | signed (payload encrypted : Nat) (digest : Digest)
  | signatureRejected (encrypted : Nat) (digest : Digest)
  | opened (payload : Nat)
  deriving DecidableEq, Repr

inductive Severity where
  | debug
  | warning
  deriving DecidableEq, Repr

namespace Event

def severity : Event → Severity
  | .privateKeyRejected _ => .warning
  | .signed .. => .debug
  | .signatureRejected .. => .warning
  | .opened _ => .debug

def message : Event → String
  | .privateKeyRejected _ => "private key file rejected"
  | .signed .. => "license signed"
  | .signatureRejected .. => "license signature rejected"
  | .opened _ => "license opened"

def counts : Event → List (String × Nat)
  | .privateKeyRejected _ => []
  | .signed payload encrypted _ => [("payload_len", payload), ("encrypted_len", encrypted)]
  | .signatureRejected encrypted _ => [("encrypted_len", encrypted)]
  | .opened payload => [("payload_len", payload)]

def texts : Event → List (String × String)
  | .privateKeyRejected error => [("error", error.message)]
  | .signed _ _ digest => [("digest", digest.schemeName)]
  | .signatureRejected _ digest => [("digest", digest.schemeName)]
  | .opened _ => []

end Event

structure Outcome (α : Type) where
  result : Except LicenseError α
  requests : List Request
  events : List Event

namespace Outcome

def fail {α : Type} (error : LicenseError) : Outcome α :=
  ⟨.error error, [], []⟩

def ofExcept {α : Type} (result : Except LicenseError α) : Outcome α :=
  ⟨result, [], []⟩

def request {α : Type} (r : Request) (reply : Except LicenseError α) : Outcome α :=
  ⟨reply, [r], []⟩

def report (e : Event) : Outcome Unit :=
  ⟨.ok (), [], [e]⟩

def andThen {α β : Type} (o : Outcome α) (f : α → Outcome β) : Outcome β :=
  match o.result with
  | .error error => ⟨.error error, o.requests, o.events⟩
  | .ok a => ⟨(f a).result, o.requests ++ (f a).requests, o.events ++ (f a).events⟩

instance : Monad Outcome where
  pure a := ⟨.ok a, [], []⟩
  bind := andThen

theorem bind_of_ok {α β : Type} {o : Outcome α} {a : α} (f : α → Outcome β) (h : o.result = .ok a) :
    o >>= f = ⟨(f a).result, o.requests ++ (f a).requests, o.events ++ (f a).events⟩ := by
  show andThen o f = _
  simp [andThen, h]

theorem bind_of_error {α β : Type} {o : Outcome α} {error : LicenseError} (f : α → Outcome β)
    (h : o.result = .error error) : o >>= f = ⟨.error error, o.requests, o.events⟩ := by
  show andThen o f = _
  simp [andThen, h]

@[simp] theorem result_bind {α β : Type} (o : Outcome α) (f : α → Outcome β) :
    (o >>= f).result = o.result.bind fun a => (f a).result := by
  cases h : o.result with
  | error error => rw [bind_of_error f h]; rfl
  | ok a => rw [bind_of_ok f h]; rfl

@[simp] theorem result_pure {α : Type} (a : α) : (pure a : Outcome α).result = .ok a := rfl

@[simp] theorem result_request {α : Type} (r : Request) (reply : Except LicenseError α) :
    (request r reply).result = reply := rfl

@[simp] theorem result_ofExcept {α : Type} (result : Except LicenseError α) : (ofExcept result).result = result := rfl

@[simp] theorem result_report (e : Event) : (report e).result = .ok () := rfl

@[simp] theorem result_fail {α : Type} (error : LicenseError) : (fail error : Outcome α).result = .error error := rfl

end Outcome

end SealedLicense
