import Mathlib
import SealedLicense.License.Outcome
import SealedLicense.Proofs.Text.Base64

namespace SealedLicense

theorem Text.trim_surrounded {front text back : List Char} (hf : ∀ c ∈ front, isBlank c = true)
    (hb : ∀ c ∈ back, isBlank c = true) (ht : ∀ c ∈ text, isBlank c = false) :
    trim (front ++ text ++ back) = text := by
  have hstop : ∀ cs : List Char, (∀ c ∈ cs, isBlank c = false) → cs.dropWhile isBlank = cs := by
    intro cs hcs
    cases cs with
    | nil => rfl
    | cons c cs => exact List.dropWhile_cons_of_neg (by simp [hcs c])
  rw [trim, List.append_assoc, List.dropWhile_append_of_pos hf]
  cases text with
  | nil =>
    rw [List.nil_append, List.dropWhile_eq_nil_iff.2 hb]
    rfl
  | cons c cs =>
    have hc : isBlank c = false := ht c (by simp)
    rw [List.cons_append, List.dropWhile_cons_of_neg (by simp [hc]), ← List.cons_append, List.reverse_append,
      List.dropWhile_append_of_pos (fun c hm => hb c (List.mem_reverse.1 hm)),
      hstop _ (fun c hm => ht c (List.mem_reverse.1 hm)), List.reverse_reverse]

namespace Artifact

theorem splitAtDot?_append {front back : List Char} (hf : '.' ∉ front) (hb : '.' ∉ back) :
    splitAtDot? (front ++ '.' :: back) = some (front, back) := by
  have hne : ∀ c ∈ front, decide (c ≠ '.') = true := by
    intro c hc
    exact decide_eq_true (fun he => hf (he ▸ hc))
  have hd : (front ++ '.' :: back).dropWhile (· ≠ '.') = '.' :: back := by
    rw [List.dropWhile_append_of_pos hne, List.dropWhile_cons_of_neg (by simp)]
  have ht : (front ++ '.' :: back).takeWhile (· ≠ '.') = front := by
    rw [List.takeWhile_append_of_pos hne, List.takeWhile_cons_of_neg (by simp), List.append_nil]
  simp only [splitAtDot?, hd, ht, if_neg hb]

theorem append_of_splitAtDot? {cs front back : List Char} (h : splitAtDot? cs = some (front, back)) :
    cs = front ++ '.' :: back := by
  unfold splitAtDot? at h
  split at h
  · cases h
  · next c rest hd =>
    split at h
    · cases h
    · cases h
      have hc : c = '.' := by
        have hf := List.head_dropWhile_not (fun c : Char => decide (c ≠ '.')) (l := cs) (by rw [hd]; simp)
        simp only [hd, List.head_cons] at hf
        simpa using hf
      have ht := List.takeWhile_append_dropWhile (p := fun c : Char => decide (c ≠ '.')) (l := cs)
      rw [hd, hc] at ht
      exact ht.symm

theorem utf8_inj {cs ds : List Char} (h : utf8 cs = utf8 ds) : cs = ds := by
  have hc : cs.utf8Encode.utf8Decode? = some cs.toArray := List.utf8Decode?_utf8Encode
  have hd : ds.utf8Encode.utf8Decode? = some ds.toArray := List.utf8Decode?_utf8Encode
  have he : cs.utf8Encode = ds.utf8Encode := congrArg List.toByteArray h
  rw [he, hd] at hc
  simpa using hc.symm

theorem ascii_table : ∀ b : Fin 128, String.utf8EncodeChar (Char.ofNat b) = [UInt8.ofNat b] := by
  decide +kernel

theorem utf8_characters {bs : Bytes} (h : ∀ b ∈ bs, b < 128) : utf8 (characters bs) = bs := by
  induction bs with
  | nil => rfl
  | cons b bs ih =>
    obtain ⟨hb, hbs⟩ := List.forall_mem_cons.1 h
    have hc := ascii_table ⟨b.toNat, UInt8.lt_iff_toNat_lt.1 hb⟩
    rw [UInt8.ofNat_toNat] at hc
    have ht : utf8 (characters bs) = bs := ih hbs
    rw [utf8, characters, List.map_cons, List.flatMap_cons, hc, List.singleton_append]
    rw [utf8, characters] at ht
    rw [ht]

theorem symbol_character_table :
    ∀ v : Fin 64, Char.ofNat (Base64.symbol v).toNat ≠ '.' ∧
      Text.isBlank (Char.ofNat (Base64.symbol v).toNat) = false := by
  decide +kernel

theorem characters_encode (bs : Bytes) :
    ∀ c ∈ characters (Base64.encode bs), c ≠ '.' ∧ Text.isBlank c = false := by
  intro c hc
  obtain ⟨b, hb, rfl⟩ := List.mem_map.1 hc
  obtain ⟨v, hv, rfl⟩ := Base64.mem_encode hb
  exact symbol_character_table ⟨v, hv⟩

theorem utf8_characters_encode (bs : Bytes) : utf8 (characters (Base64.encode bs)) = Base64.encode bs := by
  apply utf8_characters
  intro b hb
  obtain ⟨v, hv, rfl⟩ := Base64.mem_encode hb
  exact Base64.symbol_lt hv

theorem decode_characters (bs : Bytes) : Base64.decode (utf8 (characters (Base64.encode bs))) = .ok bs := by
  rw [utf8_characters_encode, Base64.decode_encode]

theorem characters_encode_inj {as bs : Bytes} (h : characters (Base64.encode as) = characters (Base64.encode bs)) :
    as = bs := by
  have ha := decode_characters as
  rw [h, decode_characters] at ha
  exact (Except.ok.inj ha).symm

theorem characters_of_decode {cs : List Char} {bs : Bytes} (h : Base64.decode (utf8 cs) = .ok bs) :
    cs = characters (Base64.encode bs) := by
  apply utf8_inj
  rw [utf8_characters_encode]
  exact Base64.decode_eq_ok_iff.1 h

theorem toCompact_not_blank (a : Artifact) : ∀ c ∈ a.toCompact, Text.isBlank c = false := by
  intro c hc
  rcases List.mem_append.1 hc with h | h
  · exact (characters_encode _ c h).2
  · rcases List.mem_cons.1 h with rfl | h
    · rfl
    · exact (characters_encode _ c h).2

theorem splitAtDot?_toCompact (a : Artifact) :
    splitAtDot? a.toCompact = some (characters (Base64.encode a.payload), characters (Base64.encode a.signature)) :=
  splitAtDot?_append (fun h => (characters_encode _ _ h).1 rfl) (fun h => (characters_encode _ _ h).1 rfl)

theorem ofCompact_of_trim {text : List Char} {a : Artifact} (ht : Text.trim text = a.toCompact)
    (hp : a.payload ≠ []) (hs : a.signature ≠ []) : ofCompact text = .ok a := by
  simp only [ofCompact, ht, splitAtDot?_toCompact, decode_characters]
  exact if_neg (by simp [hp, hs])

theorem ofCompact_surrounded {a : Artifact} (hp : a.payload ≠ []) (hs : a.signature ≠ []) {front back : List Char}
    (hf : ∀ c ∈ front, Text.isBlank c = true) (hb : ∀ c ∈ back, Text.isBlank c = true) :
    ofCompact (front ++ a.toCompact ++ back) = .ok a :=
  ofCompact_of_trim (Text.trim_surrounded hf hb a.toCompact_not_blank) hp hs

theorem trim_of_ofCompact {text : List Char} {a : Artifact} (h : ofCompact text = .ok a) :
    a.payload ≠ [] ∧ a.signature ≠ [] ∧ Text.trim text = a.toCompact := by
  unfold ofCompact at h
  split at h
  · cases h
  · next front back hs =>
    split at h
    · cases h
    · next payload hp =>
      split at h
      · cases h
      · next signature hg =>
        split at h
        · cases h
        · next hne =>
          cases h
          obtain ⟨hpayload, hsignature⟩ := not_or.1 hne
          refine ⟨hpayload, hsignature, ?_⟩
          rw [append_of_splitAtDot? hs, characters_of_decode hp, characters_of_decode hg, toCompact]

theorem ofCompact_eq_ok_iff {text : List Char} {a : Artifact} :
    ofCompact text = .ok a ↔ a.payload ≠ [] ∧ a.signature ≠ [] ∧ Text.trim text = a.toCompact := by
  constructor
  · exact trim_of_ofCompact
  · rintro ⟨hp, hs, ht⟩
    exact ofCompact_of_trim ht hp hs

theorem toCompact_injective : Function.Injective toCompact := by
  rintro ⟨p₁, s₁⟩ ⟨p₂, s₂⟩ h
  have hs := congrArg splitAtDot? h
  rw [splitAtDot?_toCompact, splitAtDot?_toCompact] at hs
  obtain ⟨hp, hg⟩ := Prod.mk.inj (Option.some.inj hs)
  obtain rfl : p₁ = p₂ := characters_encode_inj hp
  obtain rfl : s₁ = s₂ := characters_encode_inj hg
  rfl

theorem compact_text_canonical :
    (∀ text a, ofCompact text = .ok a ↔ a.payload ≠ [] ∧ a.signature ≠ [] ∧ Text.trim text = a.toCompact) ∧
    (∀ text, (∀ a : Artifact, a.payload ≠ [] → a.signature ≠ [] → Text.trim text ≠ a.toCompact) →
      ∃ fault, (ofCompact text).mapError LicenseError.invalidFormat = .error (.invalidFormat fault)) ∧
    (∀ (a : Artifact) (front back : List Char), a.payload ≠ [] → a.signature ≠ [] →
      (∀ c ∈ front, Text.isBlank c = true) → (∀ c ∈ back, Text.isBlank c = true) →
      ofCompact (front ++ a.toCompact ++ back) = .ok a) ∧
    (∀ text₁ text₂ a, ofCompact text₁ = .ok a → ofCompact text₂ = .ok a → Text.trim text₁ = Text.trim text₂) ∧
    Function.Injective toCompact := by
  refine ⟨fun _ _ => ofCompact_eq_ok_iff, ?_, ?_, ?_, toCompact_injective⟩
  · intro text hother
    cases h : ofCompact text with
    | error fault => exact ⟨fault, rfl⟩
    | ok a =>
      obtain ⟨hp, hs, ht⟩ := trim_of_ofCompact h
      exact absurd ht (hother a hp hs)
  · intro a front back hp hs hf hb
    exact ofCompact_surrounded hp hs hf hb
  · intro text₁ text₂ a h₁ h₂
    rw [(trim_of_ofCompact h₁).2.2, (trim_of_ofCompact h₂).2.2]

theorem compact_text_canonical_short :
    ofCompact (['\t', ' '] ++ toCompact ⟨[1], [2, 3]⟩ ++ ['\n']) = .ok ⟨[1], [2, 3]⟩ ∧
      ∃ fault, (ofCompact [' ']).mapError LicenseError.invalidFormat = .error (.invalidFormat fault) := by
  obtain ⟨-, hother, hsurrounded, -⟩ := compact_text_canonical
  have hfront : ∀ c ∈ ['\t', ' '], Text.isBlank c = true := by simp [Text.isBlank]
  have hback : ∀ c ∈ ['\n'], Text.isBlank c = true := by simp [Text.isBlank]
  refine ⟨hsurrounded _ _ _ (by decide) (by decide) hfront hback, hother [' '] fun a _ _ h => ?_⟩
  have hl := congrArg List.length h
  simp [Text.trim, Text.isBlank, toCompact] at hl

end Artifact

end SealedLicense
