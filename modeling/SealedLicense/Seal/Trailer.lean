import SealedLicense.Bytes

namespace SealedLicense

inductive KeySpecFault where
  | unprintable
  | stated (text : String)
  deriving DecidableEq, Repr

def KeySpecFault.message : KeySpecFault → String
  | .unprintable => "passphrase must contain printable ASCII characters only"
  | .stated text => text

inductive SealError where
  | invalidKeySpec (fault : KeySpecFault)
  | decryption
  | paddingTooLong (requested limit : Nat)
  | invalidKeyLength (expected actual : Nat)
  deriving DecidableEq, Repr

def SealError.message : SealError → String
  | .invalidKeySpec fault => "inappropriate key specification: " ++ fault.message
  | .decryption => "decryption failed"
  | .paddingTooLong requested limit =>
      "padding too long: " ++ toString requested ++ " bytes requested, at most " ++ toString limit ++ " supported"
  | .invalidKeyLength expected actual =>
      "invalid key length: expected " ++ toString expected ++ ", got " ++ toString actual

/-- A source of bytes without meaning: the byte for each place. -/
abbrev Filler := Nat → UInt8

def Filler.take (filler : Filler) (n : Nat) : Bytes :=
  (List.range n).map filler

@[simp] theorem Filler.length_take (filler : Filler) (n : Nat) : (filler.take n).length = n := by
  simp [Filler.take]

namespace Trailer

def maxCount : Nat := 255

def pad (filler : Filler) (data : Bytes) (least : Nat) : Except SealError Bytes :=
  let count := least - data.length + 1
  if maxCount < count then .error (.paddingTooLong count maxCount)
  else .ok (data ++ filler.take (least - data.length) ++ [UInt8.ofNat count])

def unpad (padded : Bytes) : Except SealError Bytes :=
  match padded.getLast? with
  | none => .error .decryption
  | some last =>
      if last.toNat = 0 ∨ padded.length < last.toNat then .error .decryption
      else .ok (padded.take (padded.length - last.toNat))

theorem pad_of_le {filler : Filler} {data : Bytes} {least : Nat} (h : least - data.length < 255) :
    pad filler data least = .ok (data ++ filler.take (least - data.length) ++
      [UInt8.ofNat (least - data.length + 1)]) := by
  exact if_neg (show ¬ 255 < least - data.length + 1 by omega)

theorem pad_of_lt {filler : Filler} {data : Bytes} {least : Nat} (h : 255 ≤ least - data.length) :
    pad filler data least = .error (.paddingTooLong (least - data.length + 1) 255) := by
  exact if_pos (show 255 < least - data.length + 1 by omega)

theorem unpad_append {data filling : Bytes} (h : filling.length < 255) :
    unpad (data ++ filling ++ [UInt8.ofNat (filling.length + 1)]) = .ok data := by
  have hn : (UInt8.ofNat (filling.length + 1)).toNat = filling.length + 1 := by
    rw [UInt8.toNat_ofNat']; omega
  simp only [unpad, List.getLast?_append, List.getLast?_singleton, Option.some_or, hn]
  rw [if_neg (by simp only [List.length_append, List.length_singleton]; omega)]
  simp

theorem unpad_pad {filler : Filler} {data padded : Bytes} {least : Nat}
    (h : pad filler data least = .ok padded) : unpad padded = .ok data := by
  rcases Nat.lt_or_ge (least - data.length) 255 with hc | hc
  · rw [pad_of_le hc] at h
    cases h
    have hu : unpad (data ++ filler.take (least - data.length) ++
        [UInt8.ofNat ((filler.take (least - data.length)).length + 1)]) = .ok data :=
      unpad_append (by simpa)
    simpa using hu
  · rw [pad_of_lt hc] at h
    cases h

end Trailer

end SealedLicense
