import Mathlib
import SealedLicense.Bytes
import SealedLicense.Text.Base64

namespace SealedLicense.Base64

theorem symbol_table :
    ∀ v : Fin 64, value? (symbol v) = some v.val ∧ symbol v ≠ padding ∧ symbol v < 128 := by
  decide +kernel

theorem value?_symbol {v : ℕ} (h : v < 64) : value? (symbol v) = some v :=
  (symbol_table ⟨v, h⟩).1

theorem symbol_ne_padding {v : ℕ} (h : v < 64) : symbol v ≠ padding :=
  (symbol_table ⟨v, h⟩).2.1

theorem symbol_lt {v : ℕ} (h : v < 64) : symbol v < 128 :=
  (symbol_table ⟨v, h⟩).2.2

theorem toValues_lt (bs : Bytes) : ∀ v ∈ toValues bs, v < 64 := by
  fun_induction toValues bs with
  | case1 => simp
  | case2 a =>
    have ha := a.toNat_lt
    simp only [List.forall_mem_cons]
    exact ⟨by omega, by omega, by simp⟩
  | case3 a b =>
    have ha := a.toNat_lt
    have hb := b.toNat_lt
    simp only [List.forall_mem_cons]
    exact ⟨by omega, by omega, by omega, by simp⟩
  | case4 a b c rest ih =>
    have ha := a.toNat_lt
    have hb := b.toNat_lt
    have hc := c.toNat_lt
    simp only [List.forall_mem_cons]
    exact ⟨by omega, by omega, by omega, by omega, ih⟩

theorem ofNat_split (a x y : ℕ) (b : UInt8) (h : a * x + y = b.toNat) : UInt8.ofNat (a * x + y) = b := by
  rw [h, UInt8.ofNat_toNat]

theorem ofValues?_toValues (bs : Bytes) : ofValues? (toValues bs) = some bs := by
  fun_induction toValues bs with
  | case1 => rfl
  | case2 a =>
    rw [ofValues?, if_pos (by omega), ofNat_split _ _ _ a (by omega)]
  | case3 a b =>
    have hb := b.toNat_lt
    rw [ofValues?, if_pos (by omega), ofNat_split _ _ _ a (by omega), ofNat_split _ _ _ b (by omega)]
  | case4 a b c rest ih =>
    have hb := b.toNat_lt
    have hc := c.toNat_lt
    rw [ofValues?, ih, Option.map_some, ofNat_split _ _ _ a (by omega), ofNat_split _ _ _ b (by omega),
      ofNat_split _ _ _ c (by omega)]

theorem length_toValues_mod (bs : Bytes) : (toValues bs).length % 4 ≠ 1 := by
  fun_induction toValues bs with
  | case1 => decide
  | case2 a => simp
  | case3 a b => simp
  | case4 a b c rest ih =>
    simp only [List.length_cons]
    omega

theorem readValues_symbols {vs : List ℕ} (h : ∀ v ∈ vs, v < 64) (offset : ℕ) :
    readValues offset (vs.map symbol) = .ok vs := by
  induction vs generalizing offset with
  | nil => rfl
  | cons v vs ih =>
    obtain ⟨hv, hvs⟩ := List.forall_mem_cons.1 h
    simp only [List.map_cons, readValues, value?_symbol hv, ih hvs]
    rfl

theorem readLastGroup_symbols {vs : List ℕ} (h : ∀ v ∈ vs, v < 64) (start i : ℕ) :
    readLastGroup start i none (vs.map symbol) = .ok (vs, none) := by
  induction vs generalizing i with
  | nil => rfl
  | cons v vs ih =>
    obtain ⟨hv, hvs⟩ := List.forall_mem_cons.1 h
    simp only [List.map_cons, readLastGroup, if_neg (symbol_ne_padding hv), value?_symbol hv, ih hvs]
    rfl

theorem strayEnd?_symbols {vs : List ℕ} (h : ∀ v ∈ vs, v < 64) : strayEnd? (vs.map symbol) = none := by
  rw [strayEnd?]
  split
  · rw [List.getLast?_map]
    cases hl : vs.getLast? with
    | none => rfl
    | some v =>
      have hv := h v (List.mem_of_getLast? hl)
      simp [Option.filter, value?_symbol hv]
  · rfl

theorem two_le_last_group {n : ℕ} (h0 : n ≠ 0) (h1 : n % 4 ≠ 1) : 2 ≤ n - lastGroupStart n := by
  unfold lastGroupStart
  split <;> omega

theorem decode_symbols {vs : List ℕ} {out : Bytes} (h : ∀ v ∈ vs, v < 64) (h1 : vs.length % 4 ≠ 1)
    (hv : ofValues? vs = some out) : decode (vs.map symbol) = .ok out := by
  have hf := readValues_symbols (fun v hm => h v (List.mem_of_mem_take (i := lastGroupStart vs.length) hm)) 0
  have hb := readLastGroup_symbols (fun v hm => h v (List.mem_of_mem_drop (i := lastGroupStart vs.length) hm))
    (lastGroupStart vs.length) 0
  have hl : ¬ (vs.map symbol ≠ [] ∧ (vs.drop (lastGroupStart vs.length)).length < 2) := by
    rintro ⟨hne, hlt⟩
    have h0 : vs.length ≠ 0 := by simpa using hne
    have h2 := two_le_last_group h0 h1
    rw [List.length_drop] at hlt
    omega
  simp only [decode, strayEnd?_symbols h, List.length_map, ← List.map_take, ← List.map_drop, hf, hb,
    bind, Except.bind]
  rw [if_neg hl, List.take_append_drop, hv]
  rfl

theorem mem_encode {bs : Bytes} {b : UInt8} (h : b ∈ encode bs) : ∃ v < 64, symbol v = b := by
  obtain ⟨v, hv, hb⟩ := List.mem_map.1 h
  exact ⟨v, toValues_lt bs v hv, hb⟩

theorem decode_encode (bs : Bytes) : decode (encode bs) = .ok bs :=
  decode_symbols (toValues_lt bs) (length_toValues_mod bs) (ofValues?_toValues bs)

theorem value_table :
    ∀ b : Fin 256, ∀ v ∈ value? (UInt8.ofNat b), symbol v = UInt8.ofNat b ∧ v < 64 := by
  decide +kernel

theorem symbol_of_value? {b : UInt8} {v : ℕ} (h : value? b = some v) : symbol v = b ∧ v < 64 := by
  have ht := value_table ⟨b.toNat, b.toNat_lt⟩ v
  rw [UInt8.ofNat_toNat] at ht
  exact ht h

theorem toValues_of_ofValues? {vs : List ℕ} {out : Bytes} (hlt : ∀ v ∈ vs, v < 64) (h : ofValues? vs = some out) :
    toValues out = vs := by
  fun_induction ofValues? vs generalizing out with
  | case1 => cases h; rfl
  | case2 => cases h
  | case3 a b hz =>
    cases h
    simp only [List.forall_mem_cons] at hlt
    simp only [toValues, UInt8.toNat_ofNat', List.cons.injEq, and_true]
    omega
  | case4 => cases h
  | case5 a b c hz =>
    cases h
    simp only [List.forall_mem_cons] at hlt
    simp only [toValues, UInt8.toNat_ofNat', List.cons.injEq, and_true]
    omega
  | case6 => cases h
  | case7 a b c d rest ih =>
    obtain ⟨bs, hbs, rfl⟩ := Option.map_eq_some_iff.1 h
    simp only [List.forall_mem_cons] at hlt
    simp only [toValues, ih hlt.2.2.2.2 hbs, UInt8.toNat_ofNat', List.cons.injEq, and_true]
    omega

theorem symbols_of_readValues {offset : ℕ} {bs : Bytes} {vs : List ℕ} (h : readValues offset bs = .ok vs) :
    vs.map symbol = bs ∧ ∀ v ∈ vs, v < 64 := by
  induction bs generalizing offset vs with
  | nil => cases h; simp
  | cons b bs ih =>
    rw [readValues] at h
    split at h
    · cases h
    · next v hv =>
      obtain ⟨ws, hr, rfl⟩ := map_eq_ok_iff.1 h
      obtain ⟨hs, hlt⟩ := symbol_of_value? hv
      obtain ⟨hss, hlts⟩ := ih hr
      exact ⟨by rw [List.map_cons, hs, hss], List.forall_mem_cons.2 ⟨hlt, hlts⟩⟩

theorem symbols_of_readLastGroup {start i : ℕ} {padded : Option ℕ} {bs : Bytes} {vs : List ℕ}
    (h : readLastGroup start i padded bs = .ok (vs, none)) :
    padded = none ∧ vs.map symbol = bs ∧ ∀ v ∈ vs, v < 64 := by
  induction bs generalizing i padded vs with
  | nil => cases h; simp
  | cons b bs ih =>
    unfold readLastGroup at h
    split at h
    · split at h
      · cases h
      · -- a padding symbol is noted, and stays noted up to the end
        obtain ⟨hn, -⟩ := ih h
        cases padded <;> simp at hn
    · split at h
      · cases h
      · cases h
      · next v hv =>
        obtain ⟨⟨ws, last⟩, hr, h⟩ := map_eq_ok_iff.1 h
        cases h
        obtain ⟨hs, hlt⟩ := symbol_of_value? hv
        obtain ⟨-, hss, hlts⟩ := ih hr
        exact ⟨rfl, by rw [List.map_cons, hs, hss], List.forall_mem_cons.2 ⟨hlt, hlts⟩⟩

theorem encode_of_decode {bs out : Bytes} (h : decode bs = .ok out) : encode out = bs := by
  unfold decode at h
  split at h
  · cases h
  · obtain ⟨front, hf, h⟩ := bind_eq_ok_iff.1 h
    obtain ⟨⟨back, padded⟩, hb, h⟩ := bind_eq_ok_iff.1 h
    simp only at h
    split at h
    · cases h
    · split at h
      · cases h
      · next hn =>
        split at h
        · next ho =>
          cases h
          have hnone : padded = none := by simpa using hn
          obtain ⟨hfs, hflt⟩ := symbols_of_readValues hf
          obtain ⟨-, hbs, hblt⟩ := symbols_of_readLastGroup (hnone ▸ hb)
          have hlt : ∀ v ∈ front ++ back, v < 64 := List.forall_mem_append.2 ⟨hflt, hblt⟩
          rw [encode, toValues_of_ofValues? hlt ho, List.map_append, hfs, hbs, List.take_append_drop]
        · cases h

theorem decode_eq_ok_iff {bs out : Bytes} : decode bs = .ok out ↔ bs = encode out := by
  constructor
  · intro h
    exact (encode_of_decode h).symm
  · rintro rfl
    exact decode_encode out

end SealedLicense.Base64
