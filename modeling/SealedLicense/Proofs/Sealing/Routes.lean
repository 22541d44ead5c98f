import Mathlib
import SealedLicense.Proofs.Sealing.Language

namespace SealedLicense

namespace Text

theorem toList_loop (bs : ByteArray) (i : ℕ) (front : List UInt8) :
    ByteArray.toList.loop bs i front = front.reverse ++ bs.data.toList.drop i := by
  fun_induction ByteArray.toList.loop bs i front with
  | case1 i front hlt ih =>
    have hi : i < bs.data.toList.length := hlt
    rw [ih, List.drop_eq_getElem_cons hi]
    simp [ByteArray.get!, hlt]
  | case2 i front hge =>
    rw [List.drop_eq_nil_of_le (Nat.le_of_not_lt hge), List.append_nil]

theorem toList_toUTF8 (s : String) : s.toUTF8.toList = s.toList.flatMap String.utf8EncodeChar := by
  have hbytes : s.toByteArray = s.toList.utf8Encode := by rw [← String.toByteArray_ofList, String.ofList_toList]
  rw [String.toUTF8_eq_toByteArray, hbytes, ByteArray.toList, toList_loop, List.utf8Encode,
    List.toList_data_toByteArray]
  rfl

end Text

namespace Passphrase

theorem utf8EncodeChar_of_printable {c : Char} (h : ' ' ≤ c ∧ c ≤ '~') :
    String.utf8EncodeChar c = [UInt8.ofNat c.toNat] := by
  have hle : c.toNat ≤ 126 := h.2
  have hsize : c.utf8Size = 1 := by
    rw [Char.utf8Size_eq_one_iff, UInt32.le_iff_toNat_le]
    exact hle.trans (by decide)
  rw [String.utf8EncodeChar_eq_singleton hsize]
  rfl

theorem toBytes_ofString {s : String} (h : (ofString s).Printable) : (ofString s).toBytes = .ok s.toUTF8.toList := by
  rw [toBytes_of_printable h, Text.toList_toUTF8, List.map_eq_flatMap]
  refine congrArg Except.ok (List.flatMap_congr fun c hc => ?_)
  exact (utf8EncodeChar_of_printable (h c hc)).symm

theorem default_printable : (ofString Cipher.defaultPassphrase).Printable := by
  decide +kernel

end Passphrase

namespace Cipher

theorem ofPassphrase_default : ofPassphrase (.ofString defaultPassphrase) = .ok standard := by
  rw [ofPassphrase, ofDerivation, Derivation.key, Passphrase.toBytes_ofString Passphrase.default_printable]
  rfl

end Cipher

structure Route where
  encrypt : Filler → Bytes → Except SealError Bytes
  decrypt : Bytes → Except SealError Bytes

namespace Route

def through (c : Except SealError Cipher) : Route :=
  ⟨fun filler data => c.bind fun c => c.encrypt filler data, fun sealed => c.bind fun c => c.decrypt sealed⟩

inductive Checks (p : Passphrase) : Route → Prop
  | free : Checks p ⟨fun filler data => sealBytes filler data (some p), fun sealed => openBytes sealed (some p)⟩
  | ofPassphrase : Checks p (through (Cipher.ofPassphrase p))
  | ofDerivation : Checks p (through (Cipher.ofDerivation .standard p))
  | ofKey : Checks p
      ⟨fun filler data => (Derivation.standard.key p).bind fun k => Cipher.encrypt ⟨k⟩ filler data,
        fun sealed => (Derivation.standard.key p).bind fun k => Cipher.decrypt ⟨k⟩ sealed⟩

inductive Unchecked : Route → Prop
  | free : Unchecked ⟨fun filler data => sealBytes filler data none, fun sealed => openBytes sealed none⟩
  | standard : Unchecked ⟨Cipher.standard.encrypt, Cipher.standard.decrypt⟩

def Under (p : Passphrase) (r : Route) : Prop :=
  Checks p r ∨ p = .ofString Cipher.defaultPassphrase ∧ Unchecked r

variable {p : Passphrase} {r : Route}

theorem Checks.eq_through (h : Checks p r) : r = through (Cipher.ofPassphrase p) := by
  cases h with
  | free => rfl
  | ofPassphrase => rfl
  | ofDerivation => rfl
  | ofKey =>
    rw [Cipher.ofPassphrase, Cipher.ofDerivation]
    cases Derivation.standard.key p <;> rfl

theorem Unchecked.eq_through (h : Unchecked r) : r = through (.ok .standard) := by
  cases h <;> rfl

theorem Under.eq_through (h : Under p r) : r = through (Cipher.ofPassphrase p) := by
  obtain hchecks | ⟨rfl, hunchecked⟩ := h
  · exact hchecks.eq_through
  · rw [Cipher.ofPassphrase_default]
    exact hunchecked.eq_through

theorem Under.exists_cipher (h : Under p r) (hp : p.Printable) :
    ∃ c : Cipher, r.encrypt = c.encrypt ∧ r.decrypt = c.decrypt := by
  obtain ⟨c, hc⟩ := Cipher.ofPassphrase_of_printable hp
  rw [h.eq_through, hc]
  exact ⟨c, rfl, rfl⟩

theorem Checks.refuses (h : Checks p r) (hp : ¬ p.Printable) :
    (∀ filler data, r.encrypt filler data = .error (.invalidKeySpec .unprintable)) ∧
      ∀ sealed, r.decrypt sealed = .error (.invalidKeySpec .unprintable) := by
  rw [h.eq_through, Cipher.ofPassphrase_of_not_printable hp]
  exact ⟨fun _ _ => rfl, fun _ => rfl⟩

end Route

open Route

theorem routes_agree :
    (∀ p : Passphrase, p.Printable → ∀ r r', Under p r → Under p r' →
      (∀ filler data, r.encrypt filler data = r'.encrypt filler data) ∧
      (∀ sealed, r.decrypt sealed = r'.decrypt sealed) ∧
      (∀ filler data, ∃ sealed, r.encrypt filler data = .ok sealed ∧ r'.decrypt sealed = .ok data) ∧
      ∀ sealed error, r.decrypt sealed = .error error → error = .decryption) ∧
    (Passphrase.ofString Cipher.defaultPassphrase).Printable ∧
    ∀ p : Passphrase, ¬ p.Printable →
      (∀ d, Cipher.ofDerivation d p = .error (.invalidKeySpec .unprintable)) ∧
      ∀ r, Checks p r →
        (∀ filler data, r.encrypt filler data = .error (.invalidKeySpec .unprintable)) ∧
          ∀ sealed, r.decrypt sealed = .error (.invalidKeySpec .unprintable) := by
  refine ⟨fun p hp r r' hr hr' => ?_, Passphrase.default_printable,
    fun p hp => ⟨Cipher.ofDerivation_of_not_printable hp, fun r hr => hr.refuses hp⟩⟩
  obtain rfl : r = r' := hr.eq_through.trans hr'.eq_through.symm
  obtain ⟨c, hencrypt, hdecrypt⟩ := hr.exists_cipher hp
  rw [hencrypt, hdecrypt]
  refine ⟨fun _ _ => rfl, fun _ => rfl, fun filler data => ?_, fun sealed error => Cipher.error_of_decrypt⟩
  exact ⟨_, c.encrypt_eq filler data, Cipher.decrypt_of_encrypt (c.encrypt_eq filler data)⟩

theorem routes_agree_default_tab :
    (∃ sealed, sealBytes (fun _ => 7) [1, 2, 3] none = .ok sealed ∧
      openBytes sealed (some (.ofString Cipher.defaultPassphrase)) = .ok [1, 2, 3]) ∧
    openBytes [1] (some (.ofString "\t")) = .error (.invalidKeySpec .unprintable) := by
  obtain ⟨hagree, hdefault, hrefused⟩ := routes_agree
  obtain ⟨-, -, hopens, -⟩ := hagree _ hdefault _ _ (.inr ⟨rfl, .free⟩) (.inl .free)
  exact ⟨hopens _ _, ((hrefused (.ofString "\t") (by decide)).2 _ .free).2 [1]⟩

end SealedLicense
