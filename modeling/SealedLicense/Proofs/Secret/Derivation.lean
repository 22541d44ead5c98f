import Mathlib
import SealedLicense.Proofs.Sealing.RoundTrip
import SealedLicense.Proofs.Hash.MessageDigest

namespace SealedLicense

theorem SecretKey.toBytes_stretch (seed : Bytes) :
    (stretch seed).toBytes = (List.range size).map fun i => seed.getD (i % seed.length) 0 :=
  rfl

theorem SecretKey.toBytes_stretch_of_length {seed : Bytes} (h : seed.length = 8) :
    (stretch seed).toBytes = seed ++ seed := by
  rw [toBytes_stretch, size]
  refine List.ext_getElem (by simp [h]) fun i hi _ => ?_
  rw [List.length_map, List.length_range] at hi
  rw [List.getElem_map, List.getElem_range, h, List.getD_eq_getElem _ _ (by omega)]
  rcases Nat.lt_or_ge i 8 with hfirst | hsecond
  · have hmod : i % 8 = i := Nat.mod_eq_of_lt hfirst
    simp only [hmod]
    rw [List.getElem_append_left]
  · have hmod : i % 8 = i - seed.length := by omega
    simp only [hmod]
    rw [List.getElem_append_right (by omega)]

namespace Derivation

theorem hashTimes_eq_iterate (n : ℕ) : hashTimes n = Hash.MD5.digest^[n] := by
  induction n with
  | zero => rfl
  | succ n ih =>
    funext bs
    rw [hashTimes, ih, Function.iterate_succ_apply]

theorem max_iterations (d : Derivation) : max d.iterations.toNat 1 = d.iterations.toNat - 1 + 1 := by
  omega

theorem chain_eq_iterate (d : Derivation) (password : Bytes) :
    d.chain password = Hash.MD5.digest^[max d.iterations.toNat 1] (password ++ d.salt.toList) := by
  rw [max_iterations, Function.iterate_succ_apply, chain, hashTimes_eq_iterate]

theorem length_chain (d : Derivation) (password : Bytes) : (d.chain password).length = 16 := by
  rw [chain_eq_iterate, max_iterations, Function.iterate_succ_apply', Hash.MD5.length_digest]

theorem toBytes_keyOfBytes (d : Derivation) (password : Bytes) :
    (d.keyOfBytes password).toBytes = (d.chain password).take 8 ++ (d.chain password).take 8 := by
  refine SecretKey.toBytes_stretch_of_length ?_
  rw [List.length_take, length_chain]
  rfl

noncomputable def standardDigest (bs : Bytes) : Bytes :=
  Hash.MD5.Standard.digest (Hash.MD5.Standard.bits bs)

theorem not_printable_iff (p : Passphrase) : ¬ p.Printable ↔ ∃ c ∈ p.chars, c < ' ' ∨ '~' < c := by
  simp only [Passphrase.Printable, not_forall, not_and_or, not_le, exists_prop]

theorem key_from_standard_digest (d : Derivation) (p : Passphrase) :
    ((∃ c ∈ p.chars, c < ' ' ∨ '~' < c) ↔ ∃ e, d.key p = .error e) ∧
      (∀ e, d.key p = .error e → e = .invalidKeySpec .unprintable) ∧
      (p.Printable →
        ∃ k x, d.key p = .ok k ∧ k.toBytes = x ++ x ∧
          x = (standardDigest^[max d.iterations.toNat 1]
            ((p.chars.map fun c => UInt8.ofNat c.toNat) ++ d.salt.toList)).take 8) := by
  have hdigest : standardDigest = Hash.MD5.digest := funext fun bs => (Hash.MD5.digest_eq_standard bs).symm
  rw [hdigest, ← not_printable_iff]
  by_cases hp : p.Printable
  · have hkey : d.key p = .ok (d.keyOfBytes (p.chars.map fun c => UInt8.ofNat c.toNat)) := by
      rw [key, Passphrase.toBytes_of_printable hp]
      rfl
    rw [hkey, ← chain_eq_iterate]
    exact ⟨by simp [hp], by simp, fun _ => ⟨_, _, rfl, toBytes_keyOfBytes d _, rfl⟩⟩
  · have hkey : d.key p = .error (.invalidKeySpec .unprintable) := by
      rw [key, Passphrase.toBytes_of_not_printable hp]
      rfl
    rw [hkey]
    exact ⟨by simp [hp], fun e he => (Except.error.inj he).symm, fun h => absurd h hp⟩

def longest : Derivation :=
  ⟨defaultSalt, 0xffffffff⟩

def ends : Passphrase :=
  ⟨[' ', '~']⟩

theorem key_from_standard_digest_longest :
    ends.Printable ∧
      ∃ k x, longest.key ends = .ok k ∧ k.toBytes = x ++ x ∧
        x = (standardDigest^[max longest.iterations.toNat 1]
          ((ends.chars.map fun c => UInt8.ofNat c.toNat) ++ longest.salt.toList)).take 8 :=
  have hprintable : ends.Printable := by decide
  ⟨hprintable, (key_from_standard_digest longest ends).2.2 hprintable⟩

end Derivation

end SealedLicense
