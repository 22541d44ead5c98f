namespace SealedLicense

abbrev Bytes := List UInt8

def chunks {α : Type} (n : Nat) (xs : List α) : List (List α) :=
  go xs.length xs
where
  go : Nat → List α → List (List α)
    | 0, _ => []
    | _, [] => []
    | left + 1, x :: xs => (x :: xs).take n :: go left ((x :: xs).drop n)

@[specialize] def foldChunks {α β : Type} (n : Nat) (f : β → List α → β) (start : β) (xs : List α) : β :=
  go xs.length start xs
where
  @[specialize] go : Nat → β → List α → β
    | 0, s, _ => s
    | _, s, [] => s
    | left + 1, s, x :: xs => go left (f s ((x :: xs).take n)) ((x :: xs).drop n)

theorem foldChunks_eq {α β : Type} (n : Nat) (f : β → List α → β) (start : β) (xs : List α) :
    foldChunks n f start xs = (chunks n xs).foldl f start := by
  suffices h : ∀ left s ys, foldChunks.go n f left s ys = (chunks.go n left ys).foldl f s from h _ _ _
  intro left
  induction left with
  | zero => intro s ys; rfl
  | succ left ih =>
    intro s ys
    cases ys with
    | nil => rfl
    | cons y ys => simp [foldChunks.go, chunks.go, ih]

namespace Bytes

def toNat (bs : Bytes) : Nat :=
  bs.foldl (fun n b => n * 256 + b.toNat) 0

def ofNatWidth : Nat → Nat → Bytes
  | 0, _ => []
  | w + 1, n => ofNatWidth w (n / 256) ++ [UInt8.ofNat (n % 256)]

def bitLength (n : Nat) : Nat :=
  if n = 0 then 0 else n.log2 + 1

def width (n : Nat) : Nat :=
  (bitLength n + 7) / 8

@[simp] theorem length_ofNatWidth (w n : Nat) : (ofNatWidth w n).length = w := by
  induction w generalizing n with
  | zero => rfl
  | succ w ih => simp [ofNatWidth, ih]

@[simp] theorem toNat_nil : toNat [] = 0 := rfl

@[simp] theorem toNat_append_singleton (bs : Bytes) (b : UInt8) :
    toNat (bs ++ [b]) = toNat bs * 256 + b.toNat := by
  simp [toNat]

theorem ofNatWidth_toNat_append (bs : Bytes) (b : UInt8) :
    ofNatWidth (bs.length + 1) (toNat (bs ++ [b])) = ofNatWidth bs.length (toNat bs) ++ [b] := by
  have hb := b.toNat_lt
  have hd : (toNat bs * 256 + b.toNat) / 256 = toNat bs := by omega
  have hm : (toNat bs * 256 + b.toNat) % 256 = b.toNat := by omega
  rw [toNat_append_singleton, ofNatWidth, hd, hm, UInt8.ofNat_toNat]

theorem ofNatWidth_toNat : ∀ (w : Nat) (bs : Bytes), bs.length = w → ofNatWidth w (toNat bs) = bs := by
  intro w
  induction w with
  | zero => intro bs h; simp [List.length_eq_zero_iff.1 h, ofNatWidth]
  | succ w ih =>
    intro bs h
    have hne : bs ≠ [] := by intro e; simp [e] at h
    have hl : bs.dropLast.length = w := by simp [h]
    have hs := List.dropLast_concat_getLast hne
    rw [← hs, ← hl, ofNatWidth_toNat_append, hl, ih _ hl]

end Bytes

variable {ε δ α β : Type}

theorem bind_eq_ok_iff {x : Except ε α} {f : α → Except ε β} {b : β} :
    x.bind f = .ok b ↔ ∃ a, x = .ok a ∧ f a = .ok b := by
  cases x <;> simp [Except.bind]

theorem map_eq_ok_iff {x : Except ε α} {f : α → β} {b : β} : x.map f = .ok b ↔ ∃ a, x = .ok a ∧ f a = b := by
  cases x <;> simp [Except.map]

theorem mapError_eq_ok_iff {x : Except ε α} {f : ε → δ} {a : α} : x.mapError f = .ok a ↔ x = .ok a := by
  cases x with
  | error _ => exact iff_of_false nofun nofun
  | ok b =>
    change (Except.ok b : Except δ α) = .ok a ↔ _
    simp only [Except.ok.injEq]

end SealedLicense
