import Mathlib
import SealedLicense.Proofs.Sealing.Language

namespace SealedLicense

namespace Trailer

variable {filler : Filler} {data padded : Bytes} {least : Nat}

theorem pad_eq_ok_iff : pad filler data least = .ok padded ↔
    least - data.length < 255 ∧
      padded = data ++ filler.take (least - data.length) ++ [UInt8.ofNat (least - data.length + 1)] := by
  rcases Nat.lt_or_ge (least - data.length) 255 with hc | hc
  · rw [pad_of_le hc, Except.ok.injEq]
    exact ⟨fun h => ⟨hc, h.symm⟩, fun h => h.2.symm⟩
  · rw [pad_of_lt hc]
    constructor
    · intro h
      cases h
    · rintro ⟨hlt, -⟩
      omega

theorem pad_eq_error_iff {error : SealError} : pad filler data least = .error error ↔
    255 < least - data.length + 1 ∧ error = .paddingTooLong (least - data.length + 1) 255 := by
  rcases Nat.lt_or_ge (least - data.length) 255 with hc | hc
  · rw [pad_of_le hc]
    constructor
    · intro h
      cases h
    · rintro ⟨hlt, -⟩
      omega
  · rw [pad_of_lt hc, Except.error.injEq]
    exact ⟨fun h => ⟨by omega, h.symm⟩, fun h => h.2.symm⟩

theorem length_of_pad (h : pad filler data least = .ok padded) : padded.length = max data.length least + 1 := by
  obtain ⟨-, rfl⟩ := pad_eq_ok_iff.1 h
  simp only [List.length_append, Filler.length_take, List.length_singleton]
  omega

theorem prefix_of_pad (h : pad filler data least = .ok padded) : data <+: padded := by
  obtain ⟨-, rfl⟩ := pad_eq_ok_iff.1 h
  rw [List.append_assoc]
  exact List.prefix_append _ _

theorem getLast?_of_pad (h : pad filler data least = .ok padded) :
    ∃ last, padded.getLast? = some last ∧ last.toNat = least - data.length + 1 := by
  obtain ⟨hc, rfl⟩ := pad_eq_ok_iff.1 h
  refine ⟨UInt8.ofNat (least - data.length + 1), ?_, ?_⟩
  · rw [List.getLast?_append, List.getLast?_singleton, Option.some_or]
  · rw [UInt8.toNat_ofNat']
    omega

theorem exists_pad_of_unpad (h : unpad padded = .ok data) :
    ∃ filler, pad filler data (padded.length - 1) = .ok padded := by
  obtain ⟨filling, hl, rfl⟩ := unpad_eq_ok_iff.1 h
  obtain ⟨filler, hfiller⟩ := Filler.exists_take_eq filling
  have hcount : (data ++ filling ++ [UInt8.ofNat (filling.length + 1)]).length - 1 - data.length = filling.length := by
    simp only [List.length_append, List.length_singleton]
    omega
  refine ⟨filler, pad_eq_ok_iff.2 ?_⟩
  rw [hcount, hfiller]
  exact ⟨by omega, rfl⟩

theorem unpad_eq_ok_iff_exists_pad : unpad padded = .ok data ↔ ∃ least filler, pad filler data least = .ok padded := by
  constructor
  · intro h
    exact ⟨padded.length - 1, exists_pad_of_unpad h⟩
  · rintro ⟨least, filler, h⟩
    exact unpad_pad h

theorem unpad_eq_error_iff : unpad padded = .error .decryption ↔
    ∀ data least filler, pad filler data least ≠ .ok padded := by
  constructor
  · intro h data least filler hpad
    rw [unpad_pad hpad] at h
    cases h
  · intro h
    cases hd : unpad padded with
    | ok data =>
      obtain ⟨filler, hpad⟩ := exists_pad_of_unpad hd
      exact absurd hpad (h data _ filler)
    | error error => rw [error_of_unpad hd]

theorem pad_injective {filler₁ filler₂ : Filler} {data₁ data₂ : Bytes} {least₁ least₂ : Nat}
    (h₁ : pad filler₁ data₁ least₁ = .ok padded) (h₂ : pad filler₂ data₂ least₂ = .ok padded) :
    data₁ = data₂ ∧ filler₁.take (least₁ - data₁.length) = filler₂.take (least₂ - data₂.length) := by
  have hdata := (unpad_pad h₁).symm.trans (unpad_pad h₂)
  cases hdata
  obtain ⟨-, hp₁⟩ := pad_eq_ok_iff.1 h₁
  obtain ⟨-, hp₂⟩ := pad_eq_ok_iff.1 h₂
  have hfront := (List.append_inj' (hp₁.symm.trans hp₂) rfl).1
  exact ⟨rfl, List.append_cancel_left hfront⟩

end Trailer

theorem padding_bijective :
    (∀ filler data least,
      (∀ error, Trailer.pad filler data least = .error error ↔
        255 < least - data.length + 1 ∧ error = .paddingTooLong (least - data.length + 1) 255) ∧
      (least - data.length + 1 ≤ 255 → ∃ padded last, Trailer.pad filler data least = .ok padded ∧
        padded.length = max data.length least + 1 ∧ data <+: padded ∧
        padded.getLast? = some last ∧ last.toNat = least - data.length + 1 ∧ last ≠ 0 ∧
        Trailer.unpad padded = .ok data)) ∧
    (∀ padded data,
      (Trailer.unpad padded = .ok data ↔ ∃ least filler, Trailer.pad filler data least = .ok padded) ∧
      (Trailer.unpad padded = .ok data ↔ ∃ filler, Trailer.pad filler data (padded.length - 1) = .ok padded)) ∧
    (∀ padded, Trailer.unpad padded = .error .decryption ↔
      ∀ data least filler, Trailer.pad filler data least ≠ .ok padded) ∧
    ∀ {padded filler₁ data₁ least₁ filler₂ data₂ least₂}, Trailer.pad filler₁ data₁ least₁ = .ok padded →
      Trailer.pad filler₂ data₂ least₂ = .ok padded →
      data₁ = data₂ ∧ filler₁.take (least₁ - data₁.length) = filler₂.take (least₂ - data₂.length) := by
  refine ⟨fun filler data least => ⟨fun error => Trailer.pad_eq_error_iff, fun hc => ?_⟩,
    fun padded data => ⟨Trailer.unpad_eq_ok_iff_exists_pad, Trailer.exists_pad_of_unpad, ?_⟩,
    fun padded => Trailer.unpad_eq_error_iff, Trailer.pad_injective⟩
  · have hpad : Trailer.pad filler data least = .ok _ := Trailer.pad_of_le (by omega)
    obtain ⟨last, hlast, hn⟩ := Trailer.getLast?_of_pad hpad
    refine ⟨_, last, hpad, Trailer.length_of_pad hpad, Trailer.prefix_of_pad hpad, hlast, hn, ?_, Trailer.unpad_pad hpad⟩
    rintro rfl
    exact absurd hn.symm (Nat.succ_ne_zero _)
  · rintro ⟨filler, h⟩
    exact Trailer.unpad_pad h

theorem padding_bijective_filled :
    ∃ padded last, Trailer.pad (fun _ => 7) [5, 7, 11] 5 = .ok padded ∧ padded.length = 6 ∧ [5, 7, 11] <+: padded ∧
      padded.getLast? = some last ∧ last.toNat = 3 ∧ Trailer.unpad padded = .ok [5, 7, 11] ∧
      ∀ filler data least, Trailer.pad filler data least = .ok padded → [5, 7, 11] = data := by
  obtain ⟨hpad, -, -, hone⟩ := padding_bijective
  obtain ⟨padded, last, h, hl, hdata, hlast, hn, -, hu⟩ := (hpad (fun _ => 7) [5, 7, 11] 5).2 (by decide)
  exact ⟨padded, last, h, hl, hdata, hlast, hn, hu, fun filler data least h' => (hone h h').1⟩

end SealedLicense
