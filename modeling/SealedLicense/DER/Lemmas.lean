import Mathlib
import SealedLicense.Bytes.Lemmas
import SealedLicense.DER.Value

namespace SealedLicense.DER

theorem readLength_encodeLength {n : Nat} (h : n ≤ maxLength) (rest : Bytes) :
    readLength (encodeLength n ++ rest) = some (n, rest) := by
  have hn : n < 2 ^ (8 * 4) := Nat.lt_of_le_of_lt h (by norm_num [maxLength])
  have hw := Bytes.width_le hn
  unfold encodeLength
  split
  · next hs =>
    have hb : (UInt8.ofNat n).toNat = n := by rw [UInt8.toNat_ofNat']; omega
    have hl : UInt8.ofNat n < 128 := by rw [UInt8.lt_iff_toNat_lt, hb]; exact hs
    simp [readLength, hl, Nat.mod_eq_of_lt (show n < 256 by omega)]
  · next hs =>
    have hb : (UInt8.ofNat (128 + Bytes.width n)).toNat = 128 + Bytes.width n := by
      rw [UInt8.toNat_ofNat']; omega
    have hl : ¬ UInt8.ofNat (128 + Bytes.width n) < 128 := by rw [UInt8.lt_iff_toNat_lt, hb]; simp
    have hv : Bytes.toNat (Bytes.ofNatWidth (Bytes.width n) n) = n := by
      rw [Bytes.toNat_ofNatWidth, Nat.mod_eq_of_lt (Bytes.lt_pow_width n)]
    simp only [readLength, List.cons_append, if_neg hl, hb, Nat.add_sub_cancel_left]
    rw [List.take_left' (Bytes.length_ofNatWidth _ _), List.drop_left' (Bytes.length_ofNatWidth _ _), hv,
      if_pos ⟨h, by rw [encodeLength, if_neg hs]⟩]

theorem encodeLength_of_readLength {bs rest : Bytes} {n : Nat} (h : readLength bs = some (n, rest)) :
    bs = encodeLength n ++ rest ∧ n ≤ maxLength := by
  cases bs with
  | nil => simp [readLength] at h
  | cons first tail =>
    simp only [readLength] at h
    split at h
    · next hl =>
      cases h
      have hs : first.toNat < 128 := by simpa [UInt8.lt_iff_toNat_lt] using hl
      refine ⟨by simp [encodeLength, hs], ?_⟩
      exact Nat.le_trans (Nat.le_of_lt hs) (by simp [maxLength])
    · split at h
      · next hc =>
        obtain ⟨hn, hr⟩ := Prod.mk.inj (Option.some.inj h)
        rw [← hn, ← hr, hc.2, List.cons_append, List.take_append_drop]
        exact ⟨rfl, hc.1⟩
      · cases h

theorem length_encodeLength_mono {m n : Nat} (h : m ≤ n) : (encodeLength m).length ≤ (encodeLength n).length := by
  have hw := Bytes.width_mono h
  unfold encodeLength
  split
  · split
    · exact Nat.le_refl _
    · simp
  · rw [if_neg (by omega)]
    simpa using hw

theorem length_encodeLength_le {n : Nat} (h : n ≤ maxLength) : (encodeLength n).length ≤ 5 := by
  have hn : n < 2 ^ (8 * 4) := Nat.lt_of_le_of_lt h (by norm_num [maxLength])
  have hw := Bytes.width_le hn
  unfold encodeLength
  split
  · simp
  · rw [List.length_cons, Bytes.length_ofNatWidth]
    omega

namespace Element

theorem read_encode {e : Element} (ht : knownTag e.tag = true) (hl : e.content.length ≤ maxLength) (rest : Bytes) :
    read (e.encode ++ rest) = some (e, rest) := by
  simp only [encode, List.cons_append, List.append_assoc, read, ht, if_true]
  rw [readLength_encodeLength hl]
  simp

theorem encode_of_read {bs rest : Bytes} {e : Element} (h : read bs = some (e, rest)) :
    bs = e.encode ++ rest ∧ knownTag e.tag = true ∧ e.content.length ≤ maxLength := by
  cases bs with
  | nil => simp [read] at h
  | cons tag tail =>
    simp only [read] at h
    split at h
    · next ht =>
      split at h
      · cases h
      · next n behind hr =>
        obtain ⟨hb, hn⟩ := encodeLength_of_readLength hr
        split at h
        · next hle =>
          cases h
          have hlen : (behind.take n).length = n := by simp [hle]
          exact ⟨by simp [encode, hlen, hb], ht, by rw [hlen]; exact hn⟩
        · cases h
    · cases h

theorem length_content_le (e : Element) : e.content.length ≤ e.encode.length := by
  simp only [encode, List.length_append]
  omega

theorem readTagged_encode {tag : UInt8} {content : Bytes} (ht : knownTag tag = true) (hl : content.length ≤ maxLength)
    (rest : Bytes) : readTagged tag (encode ⟨tag, content⟩ ++ rest) = some (content, rest) := by
  have hr : read (encode ⟨tag, content⟩ ++ rest) = some (⟨tag, content⟩, rest) := read_encode ht hl rest
  simp only [readTagged, hr, if_true]

theorem readTagged_encode_of_ne {tag : UInt8} {e : Element} (hne : e.tag ≠ tag) (ht : knownTag e.tag = true)
    (hl : e.content.length ≤ maxLength) (rest : Bytes) : readTagged tag (e.encode ++ rest) = none := by
  simp only [readTagged, read_encode ht hl rest, if_neg hne]

theorem ofBytes?_encode {tag : UInt8} {content : Bytes} (ht : knownTag tag = true) (hl : content.length ≤ maxLength) :
    ofBytes? tag (encode ⟨tag, content⟩) = some content := by
  have hr := readTagged_encode ht hl []
  rw [List.append_nil] at hr
  simp only [ofBytes?, hr]

theorem encode_of_readTagged {tag : UInt8} {bs content rest : Bytes} (h : readTagged tag bs = some (content, rest)) :
    bs = encode ⟨tag, content⟩ ++ rest := by
  unfold readTagged at h
  split at h
  · next e behind hr =>
    split at h
    · next ht =>
      cases h
      rw [(encode_of_read hr).1, ← ht]
    · cases h
  · cases h

theorem encode_of_ofBytes? {tag : UInt8} {bs content : Bytes} (h : ofBytes? tag bs = some content) :
    bs = encode ⟨tag, content⟩ := by
  unfold ofBytes? at h
  split at h
  · next hr =>
    cases h
    rw [encode_of_readTagged hr, List.append_nil]
  · cases h

theorem length_encode_le {e : Element} (h : e.content.length ≤ maxLength) : e.encode.length ≤ e.content.length + 6 := by
  have hl := length_encodeLength_le h
  simp only [encode, List.length_cons, List.length_append]
  omega

theorem length_encode_add_le {e f : Element} {n : Nat} (h : e.content.length + n ≤ f.content.length) :
    e.encode.length + n ≤ f.encode.length := by
  have hl := length_encodeLength_mono (Nat.le_trans (Nat.le_add_right _ n) h)
  simp only [encode, List.length_cons, List.length_append]
  omega

end Element

theorem toNat_naturalContent (n : Nat) : Bytes.toNat (naturalContent n) = n := by
  have h : 2 ^ Bytes.bitLength n ≤ 2 ^ (8 * (Bytes.bitLength n / 8 + 1)) :=
    Nat.pow_le_pow_right (by decide) (by omega)
  rw [Nat.pow_mul] at h
  rw [naturalContent, Bytes.toNat_ofNatWidth]
  exact Nat.mod_eq_of_lt (Nat.lt_of_lt_of_le (Bytes.lt_two_pow_bitLength n) h)

theorem natural?_naturalContent (n : Nat) : natural? (naturalContent n) = some n := by
  simp [natural?, toNat_naturalContent]

theorem naturalContent_of_natural? {content : Bytes} {n : Nat} (h : natural? content = some n) :
    content = naturalContent n := by
  simp only [natural?] at h
  split at h
  · next hc => cases h; exact hc
  · cases h

theorem readNatural_natural {n : Nat} (hl : (natural n).length ≤ maxLength) (rest : Bytes) :
    readNatural (natural n ++ rest) = some (n, rest) := by
  have hc : (naturalContent n).length ≤ maxLength :=
    (Element.length_content_le ⟨integer, naturalContent n⟩).trans hl
  have hr : Element.readTagged integer (natural n ++ rest) = some (naturalContent n, rest) :=
    Element.readTagged_encode (by decide) hc rest
  simp only [readNatural, hr, Option.bind_eq_bind, Option.bind_some, natural?_naturalContent]
  rfl

theorem length_natural_le {n w : Nat} (hn : n < 2 ^ (8 * w)) (hw : w < maxLength) : (natural n).length ≤ w + 7 := by
  have hb := Bytes.bitLength_le hn
  have hc : (naturalContent n).length ≤ w + 1 := by
    rw [naturalContent, Bytes.length_ofNatWidth]
    omega
  have he := Element.length_encode_le (e := ⟨integer, naturalContent n⟩) (hc.trans hw)
  rw [natural]
  exact he.trans (Nat.add_le_add_right hc 6)

theorem length_flatMap_natural_le {ns : List Nat} {w : Nat} (hns : ∀ n ∈ ns, n < 2 ^ (8 * w)) (hw : w < maxLength) :
    (ns.flatMap natural).length ≤ ns.length * (w + 7) := by
  induction ns with
  | nil => simp
  | cons n ns ih =>
    obtain ⟨hn, hns⟩ := List.forall_mem_cons.1 hns
    have hhead := length_natural_le hn hw
    have htail := ih hns
    rw [List.flatMap_cons, List.length_append, List.length_cons, Nat.succ_mul]
    omega

theorem three_mul_length_le (ns : List Nat) : 3 * ns.length ≤ (ns.flatMap natural).length := by
  have hlength : ∀ n, 1 ≤ (encodeLength n).length := by
    intro n
    unfold encodeLength
    split <;> simp
  induction ns with
  | nil => simp
  | cons n ns ih =>
    have hn := hlength (naturalContent n).length
    have hc : 1 ≤ (naturalContent n).length := by simp [naturalContent]
    simp only [List.flatMap_cons, List.length_append, List.length_cons, natural, Element.encode] at ih ⊢
    omega

theorem natural_of_readNatural {bs rest : Bytes} {n : Nat} (h : readNatural bs = some (n, rest)) :
    bs = natural n ++ rest := by
  obtain ⟨⟨content, behind⟩, ht, h⟩ := Option.bind_eq_some_iff.1 h
  obtain ⟨m, hm, h⟩ := Option.bind_eq_some_iff.1 h
  cases h
  rw [Element.encode_of_readTagged ht, naturalContent_of_natural? hm, natural]

theorem flatMap_of_readNaturals {count : Nat} {bs rest : Bytes} {ns : List Nat}
    (h : readNaturals count bs = some (ns, rest)) : bs = ns.flatMap natural ++ rest := by
  induction count generalizing bs ns with
  | zero => cases h; rfl
  | succ count ih =>
    obtain ⟨⟨n, behind⟩, hn, h⟩ := Option.bind_eq_some_iff.1 h
    obtain ⟨⟨ms, last⟩, hms, h⟩ := Option.bind_eq_some_iff.1 h
    cases h
    rw [natural_of_readNatural hn, ih hms, List.flatMap_cons, List.append_assoc]

theorem readNaturals_flatMap {ns : List Nat} (hl : (ns.flatMap natural).length ≤ maxLength) (rest : Bytes) :
    readNaturals ns.length (ns.flatMap natural ++ rest) = some (ns, rest) := by
  induction ns with
  | nil => rfl
  | cons n ns ih =>
    rw [List.flatMap_cons, List.length_append] at hl
    have hn := readNatural_natural (n := n) (by omega) (ns.flatMap natural ++ rest)
    have hns := ih (by omega)
    rw [List.flatMap_cons, List.append_assoc, List.length_cons]
    simp only [readNaturals, hn, hns, Option.bind_eq_bind, Option.bind_some]
    rfl

end SealedLicense.DER
