import SealedLicense.License.Signer

namespace SealedLicense

structure Verifier where
  holder : KeyHolder
  parameters : Parameters := {}

namespace Verifier

def publicKey (v : Verifier) : Outcome RSA.PublicKey := do
  let file ← Outcome.request .publicKey v.holder.file
  let passphrase ← Outcome.request .passphrase (.ok v.holder.passphrase)
  Outcome.ofExcept ((KeyFile.decodePublicKey file passphrase).mapError .ofSigning)

def verify (v : Verifier) (a : Artifact) : Outcome Unit := do
  let k ← v.publicKey
  match SealedLicense.verify k v.parameters.digest a.payload a.signature with
  | .ok _ => return ()
  | .error error => do
      Outcome.report (.signatureRejected a.payload.length v.parameters.digest)
      Outcome.fail (.ofSigning error)

def openArtifact (v : Verifier) (a : Artifact) (p : Option Passphrase) : Outcome Bytes := do
  v.verify a
  let payload ← Outcome.ofExcept ((openBytes a.payload p).mapError .crypto)
  Outcome.report (.opened payload.length)
  return payload

end Verifier

end SealedLicense
