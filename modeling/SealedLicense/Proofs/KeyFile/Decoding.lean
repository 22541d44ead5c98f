import Mathlib
import SealedLicense.DER.Lemmas
import SealedLicense.KeyFile.PrivateKey
import SealedLicense.KeyFile.PublicKey
import SealedLicense.Bytes

namespace SealedLicense.KeyFile

open DER

theorem Algorithm.encode_of_read {bs rest : Bytes} {a : Algorithm} (h : read bs = some (a, rest)) :
    bs = a.encode ++ rest := by
  obtain ⟨⟨content, behind⟩, hs, h⟩ := Option.bind_eq_some_iff.1 h
  obtain ⟨⟨name, parameters⟩, hn, h⟩ := Option.bind_eq_some_iff.1 h
  rw [Element.encode_of_readTagged hs, Element.encode_of_readTagged hn]
  simp only at h
  split at h
  · split at h
    · cases h
      rfl
    · split at h
      · next hp =>
        cases h
        rw [(Element.encode_of_read hp).1, List.append_nil]
        rfl
      · cases h
  · cases h

theorem PrivateInfo.encode_of_ofBytes? {bs : Bytes} {i : PrivateInfo} (h : ofBytes? bs = some i) :
    ∃ version rest, bs = Element.encode ⟨DER.sequence,
      natural version ++ (i.algorithm.encode ++ (Element.encode ⟨octetString, i.key⟩ ++ rest))⟩ := by
  obtain ⟨content, hs, h⟩ := Option.bind_eq_some_iff.1 h
  obtain ⟨⟨version, r₁⟩, hv, h⟩ := Option.bind_eq_some_iff.1 h
  obtain ⟨⟨algorithm, r₂⟩, ha, h⟩ := Option.bind_eq_some_iff.1 h
  obtain ⟨⟨key, r₃⟩, hk, h⟩ := Option.bind_eq_some_iff.1 h
  obtain ⟨⟨hasPublic, r₄⟩, -, h⟩ := Option.bind_eq_some_iff.1 h
  obtain ⟨-, h⟩ := Option.ite_none_right_eq_some.1 h
  cases h
  refine ⟨version, r₃, ?_⟩
  rw [Element.encode_of_ofBytes? hs, natural_of_readNatural hv, Algorithm.encode_of_read ha,
    Element.encode_of_readTagged hk]

theorem PrivateNumbers.encode_of_ofBytes? {bs : Bytes} {x : PrivateNumbers} (h : ofBytes? bs = some x) :
    ∃ version rest, bs = Element.encode ⟨DER.sequence,
      [version, x.modulus, x.exponent, x.secret, x.p, x.q, x.secretModP, x.secretModQ, x.coefficient].flatMap natural ++
        rest⟩ := by
  obtain ⟨content, hs, h⟩ := Option.bind_eq_some_iff.1 h
  obtain ⟨⟨numbers, rest⟩, hn, h⟩ := Option.bind_eq_some_iff.1 h
  rw [Element.encode_of_ofBytes? hs, flatMap_of_readNaturals hn]
  simp only at h
  split at h
  · next version n e d p q dp dq c =>
    split at h
    · cases h
      exact ⟨0, [], rfl⟩
    · obtain ⟨factors, -, h⟩ := Option.bind_eq_some_iff.1 h
      split at h
      · cases h
        exact ⟨1, _, rfl⟩
      · cases h
    · cases h
  · cases h

theorem numbers_of_privateKeyOfDER {bs : Bytes} {k : RSA.PrivateKey} (h : privateKeyOfDER bs = .ok k) :
    bs.length ≤ maxLength ∧ ∃ i x, PrivateInfo.ofBytes? bs = some i ∧ PrivateNumbers.ofBytes? i.key = some x ∧
      k.modulus = x.modulus ∧ k.exponent = x.exponent := by
  unfold privateKeyOfDER at h
  split at h
  · cases h
  · next hl =>
    split at h
    · cases h
    · next i hi =>
      obtain ⟨-, -, h⟩ := bind_eq_ok_iff.1 h
      split at h
      · cases h
      · next x hx =>
        split at h
        · cases h
        · split at h
          · next hk =>
            cases h
            obtain ⟨hn, he, -⟩ := RSA.PrivateKey.numbers_of_ofNumbers? hk
            exact ⟨Nat.not_lt.1 hl, i, x, hi, hx, hn, he⟩
          · cases h

end SealedLicense.KeyFile
