import Mathlib
import SealedLicense.Artifact.Json
import SealedLicense.Proofs.Json.Tokens
import SealedLicense.Proofs.Artifact.Compact

namespace SealedLicense.Artifact

open Json

theorem plainKey_payload : PlainKey payloadKey := fun _ => rfl

theorem plainKey_signature : PlainKey signatureKey := fun _ => rfl

def memberTokens (key : List Char) (bs : Bytes) : List (List Char) :=
  ('"' :: (key ++ ['"'])) :: [':'] :: bytesTokens bs

def jsonTokens (a : Artifact) : List (List Char) :=
  ['{'] :: (memberTokens payloadKey a.payload ++ [','] :: (memberTokens signatureKey a.signature ++ [['}']]))

def swappedTokens (a : Artifact) : List (List Char) :=
  ['{'] :: (memberTokens signatureKey a.signature ++ [','] :: (memberTokens payloadKey a.payload ++ [['}']]))

def Takes (key : List Char) (bs : Bytes) (before seen : Parts) : Prop :=
  ∀ {tokens text}, Spread ([':'] :: (bytesTokens bs ++ tokens)) text →
    ∃ rest, readMember before key text = .ok (seen, rest) ∧ Spread tokens rest

theorem takes_payload {parts : Parts} (hp : parts.payload = none) (bs : Bytes) :
    Takes payloadKey bs parts ⟨some bs, parts.signature⟩ := by
  intro tokens text h
  obtain ⟨behind, hc, hb⟩ := h.skipColon
  obtain ⟨rest, hr, ht⟩ := readBytes_of_spread hb
  refine ⟨rest, ?_, ht⟩
  simp only [readMember, if_true, readPart, hp, Option.isSome_none, Bool.false_eq_true, if_false, bind, Except.bind,
    hc, hr]
  rfl

theorem takes_signature {parts : Parts} (hs : parts.signature = none) (bs : Bytes) :
    Takes signatureKey bs parts ⟨parts.payload, some bs⟩ := by
  have hne : signatureKey ≠ payloadKey := by decide
  intro tokens text h
  obtain ⟨behind, hc, hb⟩ := h.skipColon
  obtain ⟨rest, hr, ht⟩ := readBytes_of_spread hb
  refine ⟨rest, ?_, ht⟩
  simp only [readMember, if_neg hne, if_true, readPart, hs, Option.isSome_none, Bool.false_eq_true, if_false, bind,
    Except.bind, hc, hr]
  rfl

theorem ofJson_of_members {a : Artifact} {key₁ key₂ : List Char} {bs₁ bs₂ : Bytes} {parts : Parts}
    (hk₁ : PlainKey key₁) (hk₂ : PlainKey key₂) (ht₁ : Takes key₁ bs₁ ⟨none, none⟩ parts)
    (ht₂ : Takes key₂ bs₂ parts ⟨some a.payload, some a.signature⟩) {text : List Char}
    (h : Spread (['{'] :: (memberTokens key₁ bs₁ ++ [','] :: (memberTokens key₂ bs₂ ++ [['}']]))) text) :
    ofJson text = .ok a := by
  obtain ⟨inner, hs, hi⟩ := h.skip rfl
  rw [List.nil_append] at hs
  -- each member takes more than one character, so the steps allowed suffice for both and the brace
  have hlen : 2 ≤ inner.length := by
    have hl := hi.length_le
    simp only [memberTokens, List.cons_append, List.flatten_cons, List.length_append, List.length_cons] at hl
    omega
  obtain ⟨left, hleft⟩ := Nat.exists_eq_add_of_le hlen
  obtain ⟨b1, h1, hm1⟩ := readMembers_first readMember hk₁ hi
  obtain ⟨r1, hp, h2⟩ := ht₁ h1
  obtain ⟨b2, h3, hm2⟩ := readMembers_later readMember hk₂ h2
  obtain ⟨r2, hg, h4⟩ := ht₂ h3
  obtain ⟨r3, he, h5⟩ := readMembers_end readMember h4 ⟨some a.payload, some a.signature⟩ left
  have hall : readMembers readMember (inner.length + 1) true ⟨none, none⟩ inner =
      .ok (⟨some a.payload, some a.signature⟩, r3) := by
    rw [hleft, show 2 + left + 1 = left + 1 + 1 + 1 by omega, hm1 _ _ _ _ hp, hm2 _ _ _ _ hg, he]
  have hend : skipBlank r3 = [] := by
    cases h5 with
    | nil hg => exact skipBlank_of_blank hg
  simp only [ofJson, readAll, readJson, hs, hall, hend, bind, Except.bind, pure, Except.pure, if_true]

theorem ofJson_of_spread {a : Artifact} {text : List Char} (h : Spread a.jsonTokens text) : ofJson text = .ok a :=
  ofJson_of_members plainKey_payload plainKey_signature (takes_payload rfl _) (takes_signature rfl _) h

theorem ofJson_of_swapped {a : Artifact} {text : List Char} (h : Spread a.swappedTokens text) : ofJson text = .ok a :=
  ofJson_of_members plainKey_signature plainKey_payload (takes_signature rfl _) (takes_payload rfl _) h

theorem writeText_payloadKey : writeText payloadKey = '"' :: (payloadKey ++ ['"']) := by
  decide

theorem writeText_signatureKey : writeText signatureKey = '"' :: (signatureKey ++ ['"']) := by
  decide

theorem flatten_jsonTokens (a : Artifact) : a.jsonTokens.flatten = a.toJson := by
  simp only [jsonTokens, memberTokens, toJson, writeText_payloadKey, writeText_signatureKey, List.cons_append,
    List.flatten_cons, List.flatten_append, flatten_bytesTokens, List.flatten_nil, List.append_nil, List.append_assoc,
    List.nil_append]

theorem flatten_swappedTokens (a : Artifact) : a.swappedTokens.flatten =
    '{' :: (writeText signatureKey ++ ':' :: writeBytes a.signature ++
      ',' :: (writeText payloadKey ++ ':' :: writeBytes a.payload ++ ['}'])) := by
  simp only [swappedTokens, memberTokens, writeText_payloadKey, writeText_signatureKey, List.cons_append,
    List.flatten_cons, List.flatten_append, flatten_bytesTokens, List.flatten_nil, List.append_nil, List.append_assoc,
    List.nil_append]

theorem ofJson_toJson (a : Artifact) : ofJson a.toJson = .ok a := by
  rw [← flatten_jsonTokens]
  exact ofJson_of_spread (spread_flatten _)

theorem toJson_injective : Function.Injective toJson := by
  intro a b h
  have ha := ofJson_toJson a
  rw [h, ofJson_toJson] at ha
  exact (Except.ok.inj ha).symm

theorem trim_toCompact (a : Artifact) : Text.trim a.toCompact = a.toCompact := by
  have hnone : ∀ c ∈ [], Text.isBlank c = true := by simp
  have ht := Text.trim_surrounded hnone hnone a.toCompact_not_blank
  rwa [List.nil_append, List.append_nil] at ht

theorem ofCompact_toCompact_eq_ok_iff {a b : Artifact} :
    ofCompact a.toCompact = .ok b ↔ a.payload ≠ [] ∧ a.signature ≠ [] ∧ a = b := by
  rw [ofCompact_eq_ok_iff, trim_toCompact, toCompact_injective.eq_iff]
  constructor
  · rintro ⟨hp, hs, rfl⟩
    exact ⟨hp, hs, rfl⟩
  · rintro ⟨hp, hs, rfl⟩
    exact ⟨hp, hs, rfl⟩

theorem json_transport_lossless :
    (∀ a : Artifact, ofJson a.toJson = .ok a) ∧
    Function.Injective toJson ∧
    (∀ c, blank c = true ↔ c = ' ' ∨ c = '\n' ∨ c = '\t' ∨ c = '\r') ∧
    (∀ a : Artifact, a.jsonTokens.flatten = a.toJson ∧ ∀ text, Spread a.jsonTokens text → ofJson text = .ok a) ∧
    (∀ a : Artifact, a.swappedTokens.flatten =
        '{' :: (writeText signatureKey ++ ':' :: writeBytes a.signature ++
          ',' :: (writeText payloadKey ++ ':' :: writeBytes a.payload ++ ['}'])) ∧
      ∀ text, Spread a.swappedTokens text → ofJson text = .ok a) ∧
    ∀ a b : Artifact, ofCompact a.toCompact = .ok b → ofJson a.toJson = .ok b ∧ a = b := by
  refine ⟨ofJson_toJson, toJson_injective, fun c => blank_iff,
    fun a => ⟨a.flatten_jsonTokens, fun _ => ofJson_of_spread⟩,
    fun a => ⟨a.flatten_swappedTokens, fun _ => ofJson_of_swapped⟩, fun a b h => ?_⟩
  obtain ⟨-, -, rfl⟩ := ofCompact_toCompact_eq_ok_iff.1 h
  exact ⟨a.ofJson_toJson, rfl⟩

theorem json_transport_lossless_broken :
    ofJson ((swappedTokens ⟨[], [7, 255]⟩).flatMap ([' ', '\n'] ++ ·) ++ [' ', '\n']) = .ok ⟨[], [7, 255]⟩ ∧
      ofJson (toJson ⟨[1], [2, 3]⟩) = .ok ⟨[1], [2, 3]⟩ := by
  obtain ⟨-, -, -, -, hswapped, hboth⟩ := json_transport_lossless
  have hgap : ∀ c ∈ [' ', '\n'], blank c = true := by simp [blank]
  refine ⟨(hswapped _).2 _ (spread_gaps hgap _), (hboth _ _ ?_).1⟩
  exact ofCompact_toCompact_eq_ok_iff.2 ⟨by decide, by decide, rfl⟩

end SealedLicense.Artifact
