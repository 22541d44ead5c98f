import SealedLicense.KeyFile.PrivateKey
import SealedLicense.KeyFile.PublicKey
import SealedLicense.Seal.Cipher

namespace SealedLicense.KeyFile

def decrypt (file : Bytes) (p : Passphrase) : Except SealError Bytes := do
  (← Cipher.ofPassphrase p).decrypt file

def encrypt (filler : Filler) (der : Bytes) (p : Passphrase) : Except SigningError Bytes :=
  match (Cipher.ofPassphrase p).bind fun c => c.encrypt filler der with
  | .ok file => .ok file
  | .error e => .error (.crypto e)

def encodePrivateKey (filler : Filler) (k : RSA.PrivateKey) (p : Passphrase) : Except SigningError Bytes :=
  match privateKeyToDER k with
  | .error fault => .error (.inappropriateKey .privateKey (.encoding fault))
  | .ok der => encrypt filler der p

def encodePublicKey (filler : Filler) (k : RSA.PublicKey) (p : Passphrase) : Except SigningError Bytes :=
  match publicKeyToDER k with
  | .error fault => .error (.inappropriateKey .publicKey (.encoding fault))
  | .ok der => encrypt filler der p

def decodePrivateKey (file : Bytes) (p : Passphrase) : Except SigningError RSA.PrivateKey :=
  match decrypt file p with
  | .error e => .error (.inappropriateKey .privateKey (.sealed e))
  | .ok der =>
      match privateKeyOfDER der with
      | .ok k => .ok k
      | .error fault =>
          .error (.inappropriateKey .privateKey
            (if (publicKeyOfDER der).isOk then .found .publicKey else .encoding fault))

def decodePublicKey (file : Bytes) (p : Passphrase) : Except SigningError RSA.PublicKey :=
  match decrypt file p with
  | .error e => .error (.inappropriateKey .publicKey (.sealed e))
  | .ok der =>
      match publicKeyOfDER der with
      | .ok k => .ok k
      | .error fault =>
          .error (.inappropriateKey .publicKey
            (if (privateKeyOfDER der).isOk then .found .privateKey else .encoding fault))

end SealedLicense.KeyFile
