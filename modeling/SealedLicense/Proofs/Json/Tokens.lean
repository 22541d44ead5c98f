import Mathlib
import SealedLicense.Json.Value

namespace SealedLicense.Json

inductive Spread : List (List Char) → List Char → Prop where
  | nil {gap : List Char} : (∀ c ∈ gap, blank c = true) → Spread [] gap
  | cons {gap token text : List Char} {tokens : List (List Char)} :
      (∀ c ∈ gap, blank c = true) → Spread tokens text → Spread (token :: tokens) (gap ++ (token ++ text))

theorem spread_gaps {gap : List Char} (hg : ∀ c ∈ gap, blank c = true) (tokens : List (List Char)) :
    Spread tokens (tokens.flatMap (gap ++ ·) ++ gap) := by
  induction tokens with
  | nil => exact .nil hg
  | cons token tokens ih =>
    rw [List.flatMap_cons, List.append_assoc, List.append_assoc]
    exact .cons hg ih

theorem spread_flatten (tokens : List (List Char)) : Spread tokens tokens.flatten := by
  have h := @spread_gaps [] (by simp) tokens
  rwa [List.append_nil, List.flatMap_def, List.map_congr_left fun _ _ => List.nil_append _, List.map_id'] at h

theorem skipBlank_of_blank {gap : List Char} (h : ∀ c ∈ gap, blank c = true) : skipBlank gap = [] :=
  List.dropWhile_eq_nil_iff.2 h

theorem skipBlank_cons {c : Char} (hc : blank c = false) (text : List Char) : skipBlank (c :: text) = c :: text :=
  List.dropWhile_cons_of_neg (by simp [hc])

theorem skipBlank_gap {gap : List Char} (hg : ∀ c ∈ gap, blank c = true) {c : Char} (hc : blank c = false)
    (text : List Char) : skipBlank (gap ++ c :: text) = c :: text := by
  rw [skipBlank, List.dropWhile_append_of_pos hg]
  exact skipBlank_cons hc text

theorem Spread.skip {c : Char} {token : List Char} {tokens : List (List Char)} {text : List Char}
    (h : Spread ((c :: token) :: tokens) text) (hc : blank c = false) :
    ∃ rest, skipBlank text = c :: (token ++ rest) ∧ Spread tokens rest := by
  cases h with
  | cons hg ht => exact ⟨_, skipBlank_gap hg hc _, ht⟩

theorem Spread.endArray {tokens : List (List Char)} {text : List Char} (h : Spread ([']'] :: tokens) text) :
    ∃ rest, endArray text = .ok rest ∧ Spread tokens rest := by
  obtain ⟨rest, hs, hr⟩ := h.skip rfl
  refine ⟨rest, ?_, hr⟩
  rw [Json.endArray, hs]
  rfl

theorem Spread.skipColon {tokens : List (List Char)} {text : List Char} (h : Spread ([':'] :: tokens) text) :
    ∃ rest, skipColon text = .ok rest ∧ Spread tokens rest := by
  obtain ⟨rest, hs, hr⟩ := h.skip rfl
  refine ⟨rest, ?_, hr⟩
  rw [Json.skipColon, hs]
  rfl

def digits (b : UInt8) : List Char :=
  Nat.toDigits 10 b.toNat

def elementTokens : List UInt8 → List (List Char)
  | [] => [[']']]
  | b :: bs => [','] :: digits b :: elementTokens bs

def bytesTokens : List UInt8 → List (List Char)
  | [] => [['['], [']']]
  | b :: bs => ['['] :: digits b :: elementTokens bs

def plainDigits (cs : List Char) : Bool :=
  cs.all isDigit && (match cs with | [] => false | '0' :: _ :: _ => false | _ => true)

theorem digits_table :
    ∀ n : Fin 256, plainDigits (Nat.toDigits 10 n) = true ∧ takeDigits 0 (Nat.toDigits 10 n) = (n.val, []) := by
  decide +kernel

theorem plainDigits_digits (b : UInt8) : plainDigits (digits b) = true :=
  (digits_table b.toFin).1

theorem takeDigits_digits (b : UInt8) : takeDigits 0 (digits b) = (b.toNat, []) :=
  (digits_table b.toFin).2

def endsNumber (text : List Char) : Prop :=
  ∃ c rest, text = c :: rest ∧ isDigit c = false ∧ c ≠ '.' ∧ c ≠ 'e' ∧ c ≠ 'E'

theorem blank_iff {c : Char} : blank c = true ↔ c = ' ' ∨ c = '\n' ∨ c = '\t' ∨ c = '\r' := by
  simp [blank, or_assoc]

theorem blank_cases {c : Char} (h : blank c = true) : c = ' ' ∨ c = '\n' ∨ c = '\t' ∨ c = '\r' :=
  blank_iff.1 h

theorem endsNumber_of_spread {c : Char} {token : List Char} {tokens : List (List Char)} {text : List Char}
    (h : Spread ((c :: token) :: tokens) text) (hc : c = ',' ∨ c = ']') : endsNumber text := by
  cases h with
  | @cons gap _ text _ hg ht =>
    cases gap with
    | nil => rcases hc with rfl | rfl <;> exact ⟨_, _, rfl, by decide⟩
    | cons d gap =>
      rcases blank_cases (hg d (by simp)) with rfl | rfl | rfl | rfl <;> exact ⟨_, _, rfl, by decide⟩

theorem readNumeral_plainDigits {cs rest : List Char} (hd : plainDigits cs = true) (hr : endsNumber rest) :
    readNumeral (cs ++ rest) = .ok (⟨cs, none, none⟩, rest) := by
  obtain ⟨c, tail, rfl, hc, hdot, he, hE⟩ := hr
  simp only [plainDigits, Bool.and_eq_true, List.all_eq_true] at hd
  obtain ⟨hall, hshape⟩ := hd
  have ht : (cs ++ c :: tail).takeWhile isDigit = cs := by
    rw [List.takeWhile_append_of_pos hall, List.takeWhile_cons_of_neg (by simp [hc]), List.append_nil]
  have hs : (cs ++ c :: tail).dropWhile isDigit = c :: tail := by
    rw [List.dropWhile_append_of_pos hall, List.dropWhile_cons_of_neg (by simp [hc])]
  have hend : readNumeralEnd cs none (c :: tail) = .ok (⟨cs, none, none⟩, c :: tail) :=
    if_neg (by simp [he, hE])
  simp only [readNumeral, ht, hs]
  split
  · simp at hshape
  · simp at hshape
  · split
    · next heq => exact absurd (List.cons.inj heq).1 hdot
    · exact hend

theorem digits_cons (b : UInt8) : ∃ c tail, digits b = c :: tail ∧ isDigit c = true ∧ blank c = false := by
  have h := plainDigits_digits b
  cases hb : digits b with
  | nil =>
    rw [hb] at h
    cases h
  | cons c tail =>
    rw [hb] at h
    simp only [plainDigits, List.all_cons, Bool.and_eq_true] at h
    refine ⟨c, tail, rfl, h.1.1, ?_⟩
    by_contra hn
    rcases blank_cases (by simpa using hn) with rfl | rfl | rfl | rfl <;> exact absurd h.1.1 (by decide)

theorem readNumber_digits (b : UInt8) {rest : List Char} (hr : endsNumber rest) :
    readNumber (digits b ++ rest) = .ok (some b.toNat, rest) := by
  obtain ⟨c, tail, hc, hd, -⟩ := digits_cons b
  have hminus : c ≠ '-' := by
    rintro rfl
    exact absurd hd (by decide)
  have hn := readNumeral_plainDigits (plainDigits_digits b) hr
  have hv : Numeral.natural? ⟨digits b, none, none⟩ = some b.toNat := by
    simp only [Numeral.natural?, takeDigits_digits]
  rw [hc, List.cons_append] at hn ⊢
  rw [hc] at hv
  unfold readNumber
  split
  · next signed body heq =>
    split at heq
    · next minus => exact absurd (List.cons.inj minus).1 hminus
    · cases heq
      simp only [hn, hv]
      rfl

theorem element_digits (b : UInt8) {rest : List Char} (hr : endsNumber rest) :
    readBytes.element (digits b ++ rest) = .ok (b, rest) := by
  obtain ⟨c, tail, hc, hd, hblank⟩ := digits_cons b
  have hs : skipBlank (digits b ++ rest) = c :: (tail ++ rest) := by
    rw [hc, List.cons_append]
    exact skipBlank_cons hblank _
  have hn := readNumber_digits b hr
  rw [hc, List.cons_append] at hn
  simp only [readBytes.element, hs, hn, hd, or_true, if_true, if_pos b.toNat_lt, UInt8.ofNat_toNat]

theorem endsNumber_of_elements {bs : List UInt8} {tokens : List (List Char)} {text : List Char}
    (h : Spread (elementTokens bs ++ tokens) text) : endsNumber text := by
  cases bs with
  | nil => exact endsNumber_of_spread h (.inr rfl)
  | cons b bs => exact endsNumber_of_spread h (.inl rfl)

theorem Spread.skip_digits {b : UInt8} {tokens : List (List Char)} {text : List Char}
    (h : Spread (digits b :: tokens) text) :
    ∃ c tail rest, digits b ++ rest = c :: tail ∧ isDigit c = true ∧ skipBlank text = c :: tail ∧
      Spread tokens rest := by
  obtain ⟨c, tail, hc, hd, hblank⟩ := digits_cons b
  rw [hc] at h ⊢
  obtain ⟨rest, hs, hr⟩ := h.skip hblank
  exact ⟨c, tail ++ rest, rest, rfl, hd, hs, hr⟩

theorem isDigit_ne_close {c : Char} (h : isDigit c = true) : c ≠ ']' := by
  rintro rfl
  exact absurd h (by decide)

theorem nextElement_first {b : UInt8} {tokens : List (List Char)} {text : List Char}
    (h : Spread (digits b :: tokens) text) :
    ∃ rest, nextElement true text = .ok (some (digits b ++ rest)) ∧ Spread tokens rest := by
  obtain ⟨c, tail, rest, hc, hd, hs, hr⟩ := h.skip_digits
  refine ⟨rest, ?_, hr⟩
  rw [nextElement, hs, hc]
  split
  · next heq => cases heq
  · next heq => exact absurd (List.cons.inj heq).1 (isDigit_ne_close hd)
  · next heq =>
    cases heq
    rfl

theorem nextElement_later {b : UInt8} {tokens : List (List Char)} {text : List Char}
    (h : Spread ([','] :: digits b :: tokens) text) :
    ∃ rest, nextElement false text = .ok (some (digits b ++ rest)) ∧ Spread tokens rest := by
  obtain ⟨behind, hs, hb⟩ := h.skip rfl
  obtain ⟨c, tail, rest, hc, hd, hsb, hr⟩ := hb.skip_digits
  refine ⟨rest, ?_, hr⟩
  rw [nextElement, hs]
  split
  · next heq => cases heq
  · next heq => cases heq
  · next heq =>
    cases heq
    rw [if_neg Bool.false_ne_true, if_pos rfl, List.nil_append, hsb, hc]
    split
    · next heq => cases heq
    · next heq => exact absurd (List.cons.inj heq).1 (isDigit_ne_close hd)
    · rfl

theorem elements_cons {b : UInt8} {bs : List UInt8} {fuel : ℕ} {first : Bool} {text behind rest : List Char}
    (hn : nextElement first text = .ok (some (digits b ++ behind))) (hb : endsNumber behind)
    (he : readBytes.elements fuel false behind = .ok (bs, rest)) :
    readBytes.elements (fuel + 1) first text = .ok (b :: bs, rest) := by
  simp only [readBytes.elements, hn, element_digits b hb, he, bind, Except.bind]
  rfl

theorem elements_nil {tokens : List (List Char)} {text : List Char} (h : Spread ([']'] :: tokens) text) (fuel : ℕ)
    (first : Bool) : ∃ rest, readBytes.elements (fuel + 1) first text = .ok ([], rest) ∧ Spread tokens rest := by
  obtain ⟨rest, he, hr⟩ := h.endArray
  obtain ⟨_, hs, -⟩ := h.skip rfl
  refine ⟨rest, ?_, hr⟩
  simp only [readBytes.elements, nextElement, hs, he, bind, Except.bind]
  rfl

theorem elements_of_spread {bs : List UInt8} {fuel : ℕ} (hf : bs.length < fuel) {tokens : List (List Char)}
    {text : List Char} (h : Spread (elementTokens bs ++ tokens) text) :
    ∃ rest, readBytes.elements fuel false text = .ok (bs, rest) ∧ Spread tokens rest := by
  induction bs generalizing fuel text with
  | nil =>
    obtain ⟨fuel, rfl⟩ := Nat.exists_eq_succ_of_ne_zero (by omega : fuel ≠ 0)
    exact elements_nil h fuel false
  | cons b bs ih =>
    obtain ⟨fuel, rfl⟩ := Nat.exists_eq_succ_of_ne_zero (by omega : fuel ≠ 0)
    obtain ⟨behind, hn, hb⟩ := nextElement_later h
    obtain ⟨rest, he, hr⟩ := ih (by simpa using hf) hb
    exact ⟨rest, elements_cons hn (endsNumber_of_elements hb) he, hr⟩

theorem Spread.length_le {tokens : List (List Char)} {text : List Char} (h : Spread tokens text) :
    tokens.flatten.length ≤ text.length := by
  induction h with
  | nil _ => exact Nat.zero_le _
  | cons _ _ ih =>
    simp only [List.flatten_cons, List.length_append]
    omega

theorem length_lt_elementTokens (bs : List UInt8) : bs.length < (elementTokens bs).flatten.length := by
  induction bs with
  | nil => decide
  | cons b bs ih =>
    simp only [elementTokens, List.flatten_cons, List.length_append, List.length_cons, List.length_nil]
    omega

theorem readBytes_of_spread {bs : List UInt8} {tokens : List (List Char)} {text : List Char}
    (h : Spread (bytesTokens bs ++ tokens) text) :
    ∃ rest, readBytes text = .ok (bs, rest) ∧ Spread tokens rest := by
  cases bs with
  | nil =>
    obtain ⟨inner, hs, hi⟩ := h.skip rfl
    obtain ⟨rest, he, hr⟩ := elements_nil hi inner.length true
    refine ⟨rest, ?_, hr⟩
    rw [readBytes, hs]
    exact he
  | cons b bs =>
    rw [bytesTokens, List.cons_append, List.cons_append] at h
    obtain ⟨inner, hs, hi⟩ := h.skip rfl
    have hlen : bs.length < inner.length := by
      have ht := length_lt_elementTokens bs
      have hl := hi.length_le
      simp only [List.flatten_cons, List.flatten_append, List.length_append] at hl
      omega
    obtain ⟨behind, hn, hb⟩ := nextElement_first hi
    obtain ⟨rest, he, hr⟩ := elements_of_spread hlen hb
    refine ⟨rest, ?_, hr⟩
    rw [readBytes, hs]
    exact elements_cons hn (endsNumber_of_elements hb) he

theorem intercalate_cons (x : List Char) (xs : List (List Char)) :
    [','].intercalate (x :: xs) = x ++ (xs.map (',' :: ·)).flatten := by
  induction xs generalizing x with
  | nil => simp
  | cons y ys ih => rw [List.intercalate_cons_cons, ih]; simp

theorem flatten_elementTokens (bs : List UInt8) :
    (elementTokens bs).flatten = ((bs.map digits).map (',' :: ·)).flatten ++ [']'] := by
  induction bs with
  | nil => rfl
  | cons b bs ih => simp [elementTokens, ih]

theorem flatten_bytesTokens (bs : List UInt8) : (bytesTokens bs).flatten = writeBytes bs := by
  cases bs with
  | nil => rfl
  | cons b bs =>
    have hd : (bs.map fun b => Nat.toDigits 10 b.toNat) = bs.map digits := rfl
    rw [writeBytes, List.map_cons, hd, intercalate_cons, bytesTokens, List.flatten_cons, List.flatten_cons,
      flatten_elementTokens]
    simp [digits]

def PlainKey (key : List Char) : Prop :=
  ∀ rest, readText (key ++ '"' :: rest) = .ok (key, rest)

variable {σ : Type} (member : σ → List Char → Reader σ) {key : List Char} {tokens : List (List Char)}
  {text : List Char}

theorem readMembers_first (hk : PlainKey key) (h : Spread (('"' :: (key ++ ['"'])) :: tokens) text) :
    ∃ behind, Spread tokens behind ∧ ∀ s s' rest fuel, member s key behind = .ok (s', rest) →
      readMembers member (fuel + 1) true s text = readMembers member fuel false s' rest := by
  obtain ⟨behind, hs, hb⟩ := h.skip rfl
  refine ⟨behind, hb, fun s s' rest fuel hm => ?_⟩
  rw [List.append_assoc, List.singleton_append] at hs
  simp [readMembers, hs, hk behind, bind, Except.bind, hm]

theorem readMembers_later (hk : PlainKey key) (h : Spread ([','] :: ('"' :: (key ++ ['"'])) :: tokens) text) :
    ∃ behind, Spread tokens behind ∧ ∀ s s' rest fuel, member s key behind = .ok (s', rest) →
      readMembers member (fuel + 1) false s text = readMembers member fuel false s' rest := by
  obtain ⟨inner, hs, hi⟩ := h.skip rfl
  obtain ⟨behind, hsi, hb⟩ := hi.skip rfl
  refine ⟨behind, hb, fun s s' rest fuel hm => ?_⟩
  rw [List.append_assoc, List.singleton_append] at hsi
  rw [List.nil_append] at hs
  simp [readMembers, hs, hsi, hk behind, bind, Except.bind, hm]

theorem readMembers_end (h : Spread (['}'] :: tokens) text) (s : σ) (fuel : ℕ) :
    ∃ rest, readMembers member (fuel + 1) false s text = .ok (s, rest) ∧ Spread tokens rest := by
  obtain ⟨rest, hs, hr⟩ := h.skip rfl
  refine ⟨rest, ?_, hr⟩
  rw [List.nil_append] at hs
  simp only [readMembers, hs]

end SealedLicense.Json
