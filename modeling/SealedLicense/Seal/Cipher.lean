import SealedLicense.Block.AES128
import SealedLicense.Seal.Trailer
import SealedLicense.Secret.Key

/-!
Each block goes through the block cipher by itself, after filling up to whole blocks as in PKCS #7.
-/

namespace SealedLicense.Codebook

def fill (data : Bytes) : Bytes :=
  let count := Block.octets - data.length % Block.octets
  data ++ List.replicate count (UInt8.ofNat count)

def unfill? (filled : Bytes) : Option Bytes :=
  match filled.getLast? with
  | none => none
  | some last =>
      let count := last.toNat
      let rest := filled.take (filled.length - count)
      if 1 ≤ count ∧ count ≤ Block.octets ∧ filled = rest ++ List.replicate count last then some rest
      else none

def encrypt (key : Block) (data : Bytes) : Bytes :=
  let schedule := AES128.Schedule.ofKey key
  match Block.split? (fill data) with
  | some blocks => Block.join (blocks.map schedule.encrypt)
  | none => []

def decrypt? (key : Block) (data : Bytes) : Option Bytes :=
  let schedule := AES128.Schedule.ofKey key
  match Block.split? data with
  | some blocks => unfill? (Block.join (blocks.map schedule.decrypt))
  | none => none

theorem unfill?_append {rest : Bytes} {count : Nat} (hpos : 1 ≤ count) (hle : count ≤ 16) :
    unfill? (rest ++ List.replicate count (UInt8.ofNat count)) = some rest := by
  have hlast : (rest ++ List.replicate count (UInt8.ofNat count)).getLast? = some (UInt8.ofNat count) := by
    rw [List.getLast?_append, List.getLast?_replicate, if_neg (by omega)]; rfl
  have hn : (UInt8.ofNat count).toNat = count := by rw [UInt8.toNat_ofNat']; omega
  simp only [unfill?, hlast, hn, List.length_append, List.length_replicate, Nat.add_sub_cancel, List.take_left]
  exact if_pos ⟨hpos, hle, trivial⟩

theorem unfill?_fill (data : Bytes) : unfill? (fill data) = some data := by
  have hm := Nat.mod_lt data.length (show 0 < Block.octets by decide)
  exact unfill?_append (by omega) (Nat.sub_le _ _)

theorem length_fill (data : Bytes) : (fill data).length = 16 * (data.length / 16 + 1) := by
  simp only [fill, List.length_append, List.length_replicate, Block.octets]
  omega

theorem decrypt?_encrypt (key : Block) (data : Bytes) : decrypt? key (encrypt key data) = some data := by
  obtain ⟨blocks, hb⟩ := Block.split?_of_dvd _ _ (length_fill data)
  have hd : ∀ s : Block, (AES128.Schedule.ofKey key).decrypt ((AES128.Schedule.ofKey key).encrypt s) = s :=
    AES128.decrypt_encrypt key
  simp only [decrypt?, encrypt, hb, Block.split?_join, List.map_map, Function.comp_def, hd, List.map_id']
  rw [Block.join_of_split? hb, unfill?_fill]

end SealedLicense.Codebook

namespace SealedLicense

structure Cipher where
  key : SecretKey
  deriving DecidableEq

namespace Cipher

def leastLength : Nat := 20

def defaultPassphrase : String := "licensor:default-payload-passphrase"

def ofDerivation (d : Derivation) (p : Passphrase) : Except SealError Cipher :=
  (d.key p).map .mk

def ofPassphrase (p : Passphrase) : Except SealError Cipher :=
  ofDerivation .standard p

def standard : Cipher :=
  ⟨Derivation.standard.keyOfBytes defaultPassphrase.toUTF8.toList⟩

def redacted (c : Cipher) : String :=
  "Cipher \x7b key: " ++ c.key.redacted ++ " \x7d"

def encrypt (c : Cipher) (filler : Filler) (data : Bytes) : Except SealError Bytes :=
  (Trailer.pad filler data leastLength).map (Codebook.encrypt c.key.block)

def decrypt (c : Cipher) (data : Bytes) : Except SealError Bytes :=
  match Codebook.decrypt? c.key.block data with
  | some padded => Trailer.unpad padded
  | none => .error .decryption

def choose : Option Passphrase → Except SealError Cipher
  | some p => ofPassphrase p
  | none => .ok standard

end Cipher

def sealBytes (filler : Filler) (data : Bytes) (p : Option Passphrase) : Except SealError Bytes := do
  (← Cipher.choose p).encrypt filler data

def openBytes (data : Bytes) (p : Option Passphrase) : Except SealError Bytes := do
  (← Cipher.choose p).decrypt data

end SealedLicense
