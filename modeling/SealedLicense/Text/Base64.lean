import SealedLicense.Bytes

/-!
Base64 with the alphabet for URLs and without padding. The decoder takes only what the encoder writes, and names the
first fault it meets.
-/

namespace SealedLicense.Base64

def symbol (v : Nat) : UInt8 :=
  if v < 26 then UInt8.ofNat (65 + v)
  else if v < 52 then UInt8.ofNat (71 + v)
  else if v < 62 then UInt8.ofNat (v - 4)
  else if v = 62 then 45
  else 95

def value? (b : UInt8) : Option Nat :=
  if 65 ≤ b ∧ b ≤ 90 then some (b.toNat - 65)
  else if 97 ≤ b ∧ b ≤ 122 then some (b.toNat - 71)
  else if 48 ≤ b ∧ b ≤ 57 then some (b.toNat + 4)
  else if b = 45 then some 62
  else if b = 95 then some 63
  else none

def padding : UInt8 := 61

inductive Fault where
  | symbol (byte : UInt8) (offset : Nat)
  | length (n : Nat)
  | padding
  | lastSymbol (byte : UInt8) (offset : Nat)
  deriving DecidableEq, Repr

def Fault.message : Fault → String
  | .symbol byte offset => "Invalid symbol " ++ toString byte ++ ", offset " ++ toString offset ++ "."
  | .length n => "Invalid input length: " ++ toString n
  | .padding => "Invalid padding"
  | .lastSymbol byte offset => "Invalid last symbol " ++ toString byte ++ ", offset " ++ toString offset ++ "."

def toValues : Bytes → List Nat
  | [] => []
  | [a] => [a.toNat / 4, a.toNat % 4 * 16]
  | [a, b] => [a.toNat / 4, a.toNat % 4 * 16 + b.toNat / 16, b.toNat % 16 * 4]
  | a :: b :: c :: rest =>
      a.toNat / 4 :: (a.toNat % 4 * 16 + b.toNat / 16) :: (b.toNat % 16 * 4 + c.toNat / 64) :: c.toNat % 64 ::
        toValues rest

def ofValues? : List Nat → Option Bytes
  | [] => some []
  | [_] => none
  | [a, b] => if b % 16 = 0 then some [UInt8.ofNat (a * 4 + b / 16)] else none
  | [a, b, c] =>
      if c % 4 = 0 then some [UInt8.ofNat (a * 4 + b / 16), UInt8.ofNat (b % 16 * 16 + c / 4)] else none
  | a :: b :: c :: d :: rest =>
      (ofValues? rest).map fun bs =>
        UInt8.ofNat (a * 4 + b / 16) :: UInt8.ofNat (b % 16 * 16 + c / 4) :: UInt8.ofNat (c % 4 * 64 + d) :: bs

def encode (bs : Bytes) : Bytes :=
  (toValues bs).map symbol

def readValues : Nat → Bytes → Except Fault (List Nat)
  | _, [] => .ok []
  | offset, b :: rest =>
      match value? b with
      | none => .error (.symbol b offset)
      | some v => (readValues (offset + 1) rest).map (v :: ·)

/-- The numbers of the symbols of the last group, which starts at `start`, and the place of the first padding symbol
in it. Padding is noted only behind two symbols, and no symbol may follow it. -/
def readLastGroup (start : Nat) : Nat → Option Nat → Bytes → Except Fault (List Nat × Option Nat)
  | _, padded, [] => .ok ([], padded)
  | i, padded, b :: rest =>
      if b = padding then
        if i < 2 then .error (.symbol b (start + i))
        else readLastGroup start (i + 1) (padded.or (some (start + i))) rest
      else
        match padded, value? b with
        | some offset, _ => .error (.symbol padding offset)
        | none, none => .error (.symbol b (start + i))
        | none, some v => (readLastGroup start (i + 1) none rest).map fun (vs, padded) => (v :: vs, padded)

/-- Where the last group starts: four symbols from the end, or at the symbols behind the last full group. -/
def lastGroupStart (n : Nat) : Nat :=
  if n % 4 = 0 then n - 4 else n - n % 4

def strayEnd? (bs : Bytes) : Option UInt8 :=
  if bs.length % 4 = 1 then
    bs.getLast?.filter fun b => b != padding && (value? b).isNone
  else none

def decode (bs : Bytes) : Except Fault Bytes :=
  match strayEnd? bs with
  | some b => .error (.symbol b (bs.length - 1))
  | none => do
      let start := lastGroupStart bs.length
      let front ← readValues 0 (bs.take start)
      let (back, padded) ← readLastGroup start 0 none (bs.drop start)
      if bs ≠ [] ∧ back.length < 2 then .error (.length (start + back.length))
      else if padded.isSome then .error .padding
      else
        match ofValues? (front ++ back) with
        | some out => .ok out
        | none => .error (.lastSymbol (bs.getLast?.getD 0) (start + back.length - 1))

end SealedLicense.Base64
