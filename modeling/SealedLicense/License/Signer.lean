import SealedLicense.KeyFile.Basic
import SealedLicense.KeyFile.Signing
import SealedLicense.License.Outcome
import SealedLicense.License.Parameters

namespace SealedLicense

inductive FileNode where
  | directory
  | file (content : Bytes)
  deriving DecidableEq

structure FileTree where
  entries : List (List String × FileNode)

namespace FileTree

def empty : FileTree :=
  ⟨[]⟩

def node? (tree : FileTree) (place : List String) : Option FileNode :=
  if place = [] then some .directory else tree.entries.lookup place

def longestPath : Nat := 4095

def names? (path : String) : Option (List String) :=
  if longestPath < path.utf8ByteSize ∨ path.startsWith "/" = true ∨ '\x00' ∈ path.toList then none
  else some (path.splitOn "/")

def descend? (tree : FileTree) (place : List String) (name : String) : Option (List String) :=
  if tree.node? place = some .directory then
    if name = "" ∨ name = "." then some place
    else if name = ".." then if place = [] then none else some place.dropLast
    else if (tree.node? (place ++ [name])).isSome then some (place ++ [name])
    else none
  else none

def read? (tree : FileTree) (path : String) : Option Bytes := do
  let place ← (← names? path).foldlM tree.descend? []
  match ← tree.node? place with
  | .directory => none
  | .file content => some content

def route : List String → List String → List (List String)
  | place, [] => [place]
  | place, name :: names =>
      place :: route (if name = "" ∨ name = "." then place else if name = ".." then place.dropLast else place ++ [name]) names

def insert (tree : FileTree) (path : String) (node : FileNode) : FileTree :=
  let places := route [] (path.splitOn "/")
  ⟨(places.getLastD [], node) :: tree.entries ++ places.dropLast.map fun place => (place, FileNode.directory)⟩

end FileTree

structure KeyHolder where
  file : Except LicenseError Bytes
  passphrase : Passphrase

def FileTree.readKeyFile (tree : FileTree) (path : String) : Except LicenseError Bytes :=
  match tree.read? path with
  | some content => .ok content
  | none => .error (.keyNotFound (.unreadable path))

structure Signer where
  holder : KeyHolder
  parameters : Parameters := {}

namespace Signer

def privateKey (s : Signer) : Outcome RSA.PrivateKey := do
  let file ← Outcome.request .privateKey s.holder.file
  let passphrase ← Outcome.request .passphrase (.ok s.holder.passphrase)
  match KeyFile.decodePrivateKey file passphrase with
  | .ok k => return k
  | .error error => do
      Outcome.report (.privateKeyRejected error)
      Outcome.fail (.ofSigning error)

def sign (s : Signer) (filler : Filler) (payload : Bytes) (p : Option Passphrase) : Outcome Artifact := do
  let k ← s.privateKey
  let encrypted ← Outcome.ofExcept ((sealBytes filler payload p).mapError .crypto)
  let signature ← Outcome.ofExcept ((SealedLicense.sign k s.parameters.digest encrypted).mapError .ofSigning)
  Outcome.report (.signed payload.length encrypted.length s.parameters.digest)
  return ⟨encrypted, signature⟩

end Signer

end SealedLicense
