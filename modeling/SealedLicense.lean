import SealedLicense.Bytes
import SealedLicense.Hash.MD5
import SealedLicense.Hash.SHA256
import SealedLicense.Hash.SHA512
import SealedLicense.Block.AES128
import SealedLicense.Seal.Cipher
import SealedLicense.DER.Value
import SealedLicense.RSA.Arithmetic
import SealedLicense.KeyFile.Basic
import SealedLicense.KeyFile.Signing
import SealedLicense.Text.Base64
import SealedLicense.Artifact.Compact
import SealedLicense.Json.Value
import SealedLicense.Artifact.Json
import SealedLicense.License.Signer
import SealedLicense.License.Verifier
import SealedLicense.Hash.SipHash
import SealedLicense.Text.Quoted
import SealedLicense.View.Session
import SealedLicense.View.Hashing
import SealedLicense.DER.Lemmas
import SealedLicense.Proofs.RSA.Residues
import SealedLicense.Proofs.Sealing.RoundTrip
import SealedLicense.Proofs.RSA.Signing
import SealedLicense.Proofs.RSA.Uniqueness
import SealedLicense.Proofs.KeyFile.Encoding
import SealedLicense.Proofs.KeyFile.Decoding
import SealedLicense.Proofs.KeyFile.RoundTrip
import SealedLicense.Proofs.KeyFile.PublicHalf
import SealedLicense.Proofs.Text.Base64
import SealedLicense.Proofs.Artifact.Compact
import SealedLicense.Proofs.Json.Tokens
import SealedLicense.Proofs.Artifact.Json
import SealedLicense.Proofs.License.EndToEnd
import SealedLicense.Proofs.License.Binding
import SealedLicense.Proofs.RSA.SelfCheck
import SealedLicense.Proofs.Sealing.Language
import SealedLicense.Proofs.View.Frame
import SealedLicense.Proofs.View.Integrity
import SealedLicense.Proofs.KeyFile.Canonical
import SealedLicense.Proofs.License.Stages
import SealedLicense.Proofs.View.Iteration
import SealedLicense.Proofs.View.SetIteration
import SealedLicense.Proofs.KeyFile.Reading
import SealedLicense.Proofs.Sealing.Pieces
import SealedLicense.Proofs.Sealing.Damage
import SealedLicense.Proofs.Sealing.Exposure
import SealedLicense.Proofs.Sealing.Padding
import SealedLicense.Proofs.View.SetFingerprint
import SealedLicense.Proofs.View.Remaining
import SealedLicense.Proofs.View.Inert
import SealedLicense.Proofs.Hash.Sines
import SealedLicense.Proofs.Hash.Standard
import SealedLicense.Proofs.Hash.MessageDigest
import SealedLicense.Proofs.Secret.Derivation
import SealedLicense.Proofs.Sealing.Routes
import SealedLicense.Proofs.View.Untampered
import SealedLicense.Proofs.View.ListAnswers
import SealedLicense.Proofs.View.SetAnswers
