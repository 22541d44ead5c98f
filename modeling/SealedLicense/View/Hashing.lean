import SealedLicense.View.ElementSet
import SealedLicense.Hash.SipHash

namespace SealedLicense.View

structure Fingerprint where
  size : Nat
  hash : UInt64
  deriving DecidableEq, Repr

structure Backing (C α : Type) where
  elements : C → List α
  hash : C → UInt64

namespace Backing

variable {C α : Type}

def fingerprint (b : Backing C α) (contents : C) : Fingerprint :=
  ⟨(b.elements contents).length, b.hash contents⟩

def list (hash : List α → UInt64) : Backing (List α) α :=
  ⟨id, hash⟩

/-- The hash of a set is the sum of the hashes of its elements, modulo the size of a word. -/
def set (hash : α → UInt64) : Backing (ElementSet α) α :=
  ⟨ElementSet.toList, fun s => s.toList.foldl (fun n x => n + hash x) 0⟩

end Backing

structure Hashing (α : Type) where
  encode : α → Bytes

namespace Hashing

/-- A text ends in a byte that no text contains. -/
def text : Hashing String :=
  ⟨fun s => s.toUTF8.toList ++ [0xff]⟩

/-- A number of 64 bits in two's complement, the least significant byte first. -/
def number : Hashing Int :=
  ⟨fun n => (Bytes.ofNatWidth 8 (n % 0x10000000000000000).toNat).reverse⟩

variable {α : Type} (h : Hashing α)

def element (x : α) : UInt64 :=
  Hash.SipHash.digest (h.encode x)

def sequence (xs : List α) : UInt64 :=
  Hash.SipHash.digest (xs.flatMap h.encode)

def listBacking : Backing (List α) α :=
  .list h.sequence

def setBacking : Backing (ElementSet α) α :=
  .set h.element

end Hashing

end SealedLicense.View
