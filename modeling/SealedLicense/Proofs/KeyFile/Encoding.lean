import Mathlib
import SealedLicense.DER.Lemmas
import SealedLicense.KeyFile.PrivateKey
import SealedLicense.KeyFile.PublicKey

namespace SealedLicense.KeyFile

open DER

namespace Algorithm

theorem read_encode_rsa (rest : Bytes) : read (rsa.encode ++ rest) = some (rsa, rest) := by
  have hs : Element.readTagged sequence (rsa.encode ++ rest) =
      some (Element.encode ⟨objectIdentifier, rsaName⟩ ++ Element.encode ⟨null, []⟩, rest) :=
    Element.readTagged_encode (by decide) (by decide) rest
  have hn : Element.readTagged objectIdentifier
      (Element.encode ⟨objectIdentifier, rsaName⟩ ++ Element.encode ⟨null, []⟩) =
      some (rsaName, Element.encode ⟨null, []⟩) := by
    decide +kernel
  simp only [read, hs, hn, Option.bind_eq_bind, Option.bind_some]
  rfl

theorem check_rsa : rsa.check = .ok () := rfl

end Algorithm

theorem PrivateInfo.length_key_le (i : PrivateInfo) : i.key.length ≤ i.encode.length := by
  have hk := Element.length_content_le ⟨octetString, i.key⟩
  have hc := Element.length_content_le
    ⟨DER.sequence, natural 0 ++ i.algorithm.encode ++ Element.encode ⟨octetString, i.key⟩⟩
  simp only [List.length_append] at hc hk
  rw [encode]
  omega

theorem PrivateInfo.ofBytes?_encode {key : Bytes} (hl : (encode ⟨.rsa, key⟩).length ≤ maxLength) :
    ofBytes? (encode ⟨.rsa, key⟩) = some ⟨.rsa, key⟩ := by
  have hc : (natural 0 ++ Algorithm.rsa.encode ++ Element.encode ⟨octetString, key⟩).length ≤ maxLength :=
    (Element.length_content_le _).trans hl
  have hs : Element.ofBytes? DER.sequence (encode ⟨.rsa, key⟩) =
      some (natural 0 ++ (Algorithm.rsa.encode ++ Element.encode ⟨octetString, key⟩)) := by
    rw [encode, ← List.append_assoc]
    exact Element.ofBytes?_encode (by decide) hc
  have hv := readNatural_natural (n := 0) (by decide) (Algorithm.rsa.encode ++ Element.encode ⟨octetString, key⟩)
  have hk : Element.readTagged octetString (Element.encode ⟨octetString, key⟩) = some (key, []) := by
    have hkl : key.length ≤ (Element.encode ⟨octetString, key⟩).length := Element.length_content_le ⟨octetString, key⟩
    rw [List.length_append] at hc
    have hr : Element.readTagged octetString (Element.encode ⟨octetString, key⟩ ++ []) = some (key, []) :=
      Element.readTagged_encode (by decide) (by omega) []
    rwa [List.append_nil] at hr
  simp only [ofBytes?, hs, hv, Algorithm.read_encode_rsa, hk, Option.bind_eq_bind, Option.bind_some]
  rfl

theorem PrivateNumbers.ofBytes?_encode {x : PrivateNumbers} (hm : x.moreFactors = false)
    (hl : x.encode.length ≤ maxLength) : ofBytes? x.encode = some x := by
  obtain ⟨n, e, d, p, q, dp, dq, c, more⟩ := x
  cases hm
  have hc : ([0, n, e, d, p, q, dp, dq, c].flatMap natural).length ≤ maxLength :=
    (Element.length_content_le ⟨DER.sequence, [0, n, e, d, p, q, dp, dq, c].flatMap natural⟩).trans hl
  have hs : Element.ofBytes? DER.sequence (encode ⟨n, e, d, p, q, dp, dq, c, false⟩) =
      some ([0, n, e, d, p, q, dp, dq, c].flatMap natural) :=
    Element.ofBytes?_encode (by decide) hc
  have hr : readNaturals 9 ([0, n, e, d, p, q, dp, dq, c].flatMap natural) =
      some ([0, n, e, d, p, q, dp, dq, c], []) := by
    simpa using readNaturals_flatMap hc []
  simp only [ofBytes?, hs, hr, Option.bind_eq_bind, Option.bind_some]
  rfl

theorem privateKeyToDER_of_le {k : RSA.PrivateKey} {x : PrivateNumbers} (hx : privateNumbers? k = some x)
    (hl : (PrivateInfo.encode ⟨.rsa, x.encode⟩).length ≤ maxLength) :
    privateKeyToDER k = .ok (PrivateInfo.encode ⟨.rsa, x.encode⟩) := by
  simp only [privateKeyToDER, hx]
  exact if_neg (Nat.not_lt.2 hl)

theorem privateKeyToDER_of_none {k : RSA.PrivateKey} (hx : privateNumbers? k = none) :
    privateKeyToDER k = .error .numbers := by
  simp only [privateKeyToDER, hx]

theorem privateKeyOfDER_encode {k : RSA.PrivateKey} {x : PrivateNumbers} (hx : privateNumbers? k = some x)
    (hl : (PrivateInfo.encode ⟨.rsa, x.encode⟩).length ≤ maxLength) :
    privateKeyOfDER (PrivateInfo.encode ⟨.rsa, x.encode⟩) = .ok k := by
  obtain ⟨c, -, rfl⟩ := Option.map_eq_some_iff.1 hx
  have hn := PrivateNumbers.ofBytes?_encode rfl ((PrivateInfo.length_key_le _).trans hl)
  simp only [privateKeyOfDER, if_neg (Nat.not_lt.2 hl), PrivateInfo.ofBytes?_encode hl, Algorithm.check_rsa, hn,
    RSA.PrivateKey.ofNumbers?_self]
  rfl

theorem privateNumbers?_isSome_iff (k : RSA.PrivateKey) : (privateNumbers? k).isSome ↔ Nat.gcd k.p k.q = 1 := by
  rw [privateNumbers?, Option.isSome_map, RSA.inverse?_isSome_iff, Nat.gcd_comm]

theorem PublicInfo.ofBytes?_encode {key : Bytes} (hl : (encode .rsa key).length ≤ maxLength) :
    ofBytes? (encode .rsa key) = some ⟨.rsa, ⟨0, key⟩⟩ := by
  have hc : (Algorithm.rsa.encode ++ wholeBits key).length ≤ maxLength := (Element.length_content_le _).trans hl
  have hs : Element.ofBytes? DER.sequence (encode .rsa key) = some (Algorithm.rsa.encode ++ wholeBits key) :=
    Element.ofBytes?_encode (by decide) hc
  have hb : Element.ofBytes? bitString (wholeBits key) = some (0 :: key) := by
    have hk := Element.length_content_le ⟨bitString, 0 :: key⟩
    rw [List.length_append] at hc
    exact Element.ofBytes?_encode (by decide) (hk.trans (by rw [wholeBits] at hc; omega))
  simp only [ofBytes?, hs, Algorithm.read_encode_rsa, hb, Option.bind_eq_bind, Option.bind_some]
  rfl

theorem publicNumbers?_encode {n e : Nat} (hl : (encodePublicNumbers n e).length ≤ maxLength) :
    publicNumbers? (encodePublicNumbers n e) = some (n, e) := by
  have hc : ([n, e].flatMap natural).length ≤ maxLength := by
    simpa using (Element.length_content_le _).trans hl
  have hs : Element.ofBytes? DER.sequence (encodePublicNumbers n e) = some ([n, e].flatMap natural) := by
    rw [encodePublicNumbers, show natural n ++ natural e = [n, e].flatMap natural by simp]
    exact Element.ofBytes?_encode (by decide) hc
  have hr : readNaturals 2 ([n, e].flatMap natural) = some ([n, e], []) := by
    simpa using readNaturals_flatMap hc []
  simp only [publicNumbers?, hs, hr, Option.bind_eq_bind, Option.bind_some]
  rfl

theorem PublicInfo.length_key_le (a : Algorithm) (key : Bytes) : key.length ≤ (encode a key).length := by
  have hk := Element.length_content_le ⟨bitString, 0 :: key⟩
  have hc := Element.length_content_le ⟨DER.sequence, a.encode ++ wholeBits key⟩
  simp only [List.length_append, List.length_cons, wholeBits] at hc hk
  rw [encode, wholeBits]
  omega

theorem publicKeyToDER_of_le {k : RSA.PublicKey}
    (hl : (PublicInfo.encode .rsa (encodePublicNumbers k.modulus k.exponent)).length ≤ maxLength) :
    publicKeyToDER k = .ok (PublicInfo.encode .rsa (encodePublicNumbers k.modulus k.exponent)) := by
  simp only [publicKeyToDER]
  exact if_neg (Nat.not_lt.2 hl)

theorem publicKeyOfDER_encode {k : RSA.PublicKey} (hb : Bytes.bitLength k.modulus ≤ maxModulusBits)
    (hl : (PublicInfo.encode .rsa (encodePublicNumbers k.modulus k.exponent)).length ≤ maxLength) :
    publicKeyOfDER (PublicInfo.encode .rsa (encodePublicNumbers k.modulus k.exponent)) = .ok k := by
  have hn := publicNumbers?_encode ((PublicInfo.length_key_le .rsa _).trans hl)
  simp only [publicKeyOfDER, if_neg (Nat.not_lt.2 hl), PublicInfo.ofBytes?_encode hl, Algorithm.check_rsa, hn,
    if_neg (Nat.not_lt.2 hb), RSA.PublicKey.ofNumbers?_self]
  rfl

theorem publicKeyOfDER_encode_of_wide {k : RSA.PublicKey} (hb : maxModulusBits < Bytes.bitLength k.modulus)
    (hl : (PublicInfo.encode .rsa (encodePublicNumbers k.modulus k.exponent)).length ≤ maxLength) :
    publicKeyOfDER (PublicInfo.encode .rsa (encodePublicNumbers k.modulus k.exponent)) = .error .numbers := by
  have hn := publicNumbers?_encode ((PublicInfo.length_key_le .rsa _).trans hl)
  simp only [publicKeyOfDER, if_neg (Nat.not_lt.2 hl), PublicInfo.ofBytes?_encode hl, Algorithm.check_rsa, hn,
    if_pos hb]
  rfl

theorem privateKeyOfDER_publicInfo {key : Bytes} (hl : (PublicInfo.encode .rsa key).length ≤ maxLength) :
    privateKeyOfDER (PublicInfo.encode .rsa key) = .error .shape := by
  have hs : Element.ofBytes? DER.sequence (PublicInfo.encode .rsa key) = some (Algorithm.rsa.encode ++ wholeBits key) :=
    Element.ofBytes?_encode (by decide) ((Element.length_content_le _).trans hl)
  -- a private key has its version where a public key has the algorithm
  have hv : readNatural (Algorithm.rsa.encode ++ wholeBits key) = none := by
    have ht : Element.readTagged integer (Algorithm.rsa.encode ++ wholeBits key) = none :=
      Element.readTagged_encode_of_ne (by decide) (by decide) (by decide) _
    simp only [readNatural, ht, Option.bind_eq_bind, Option.bind_none]
  have hi : PrivateInfo.ofBytes? (PublicInfo.encode .rsa key) = none := by
    simp only [PrivateInfo.ofBytes?, hs, hv, Option.bind_eq_bind, Option.bind_some, Option.bind_none]
  simp only [privateKeyOfDER, if_neg (Nat.not_lt.2 hl), hi]

end SealedLicense.KeyFile
