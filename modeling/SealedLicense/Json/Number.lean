import SealedLicense.Json.String

/-!
Only a natural number written with digits alone has a value here; any other number is passed over, and refused if it is
too large for a double.
-/

namespace SealedLicense.Json

/-- Rounds to 53 binary digits; a half goes to the even neighbour. -/
def roundDouble (n : Nat) : Nat :=
  if n < 1 <<< 53 then n
  else
    let unit := 1 <<< (n.log2 - 52)
    let whole := n / unit
    let rest := n % unit
    let up := unit < 2 * rest || (unit == 2 * rest && whole % 2 == 1)
    (if up then whole + 1 else whole) * unit

/-- Whether `m * 10 ^ e` is too large for a double: the factors are rounded first, then their product. -/
def overflows (m : Nat) (e : Int) : Bool :=
  if e < 0 then false
  else if e ≤ 308 then 1 <<< 1024 ≤ roundDouble (roundDouble m * roundDouble (Nat.pow 10 e.toNat))
  else m != 0

def digitValue (c : Char) : Nat :=
  c.toNat - 48

def takeDigits : Nat → List Char → Nat × List Char
  | m, [] => (m, [])
  | m, c :: cs =>
      let next := m * 10 + digitValue c
      if next < 1 <<< 64 then takeDigits next cs else (m, c :: cs)

def digitWanted (cs : List Char) : Fault :=
  if cs = [] then .unfinished else .malformed

structure Numeral where
  whole : List Char
  fraction : Option (List Char)
  exponent : Option (Bool × List Char)
  deriving DecidableEq, Repr

def readExponent (cs : List Char) : Except Fault ((Bool × List Char) × List Char) :=
  let (negative, cs) :=
    match cs with
    | '+' :: rest => (false, rest)
    | '-' :: rest => (true, rest)
    | cs => (false, cs)
  match cs.takeWhile isDigit with
  | [] => .error (digitWanted cs)
  | digits => .ok ((negative, digits), cs.dropWhile isDigit)

def readNumeralEnd (whole : List Char) (fraction : Option (List Char)) (cs : List Char) :
    Except Fault (Numeral × List Char) :=
  match cs with
  | c :: rest =>
      if c = 'e' ∨ c = 'E' then
        (readExponent rest).map fun (exponent, rest) => (⟨whole, fraction, some exponent⟩, rest)
      else .ok (⟨whole, fraction, none⟩, c :: rest)
  | [] => .ok (⟨whole, fraction, none⟩, [])

def readNumeral : Reader Numeral := fun cs =>
  match cs.takeWhile isDigit with
  | [] => .error (digitWanted cs)
  | '0' :: _ :: _ => .error .malformed
  | whole =>
      match cs.dropWhile isDigit with
      | '.' :: rest =>
          match rest.takeWhile isDigit with
          | [] => .error (digitWanted rest)
          | fraction => readNumeralEnd whole (some fraction) (rest.dropWhile isDigit)
      | rest => readNumeralEnd whole none rest

namespace Numeral

/-- The significant digits that fit 64 bits, and the power of ten that belongs to them. -/
def scaled (x : Numeral) : Nat × Int :=
  let (m, left) := takeDigits 0 x.whole
  let fraction := x.fraction.getD []
  let (m, unused) := takeDigits m fraction
  (m, left.length - (fraction.length - unused.length : Nat))

/-- Exponents of this size are not added up. -/
def exponentLimit : Nat := 1 <<< 31

def tooLarge (x : Numeral) : Bool :=
  let (m, e) := x.scaled
  match x.exponent with
  | none => overflows m e
  | some (negative, digits) =>
      let n := digits.foldl (fun n c => n * 10 + digitValue c) 0
      if exponentLimit ≤ n then m != 0 && !negative
      else overflows m (if negative then e - n else e + n)

def natural? (x : Numeral) : Option Nat :=
  match x.fraction, x.exponent, takeDigits 0 x.whole with
  | none, none, (n, []) => some n
  | _, _, _ => none

end Numeral

def readNumber : Reader (Option Nat) := fun cs =>
  let (signed, digits) :=
    match cs with
    | '-' :: rest => (true, rest)
    | cs => (false, cs)
  match readNumeral digits with
  | .error fault => .error fault
  | .ok (x, rest) =>
      match x.natural? with
      | some n => .ok (if signed then none else some n, rest)
      | none => if x.tooLarge then .error .malformed else .ok (none, rest)

/-- Passes over a number behind its sign, whatever its size. The end of the text where a digit is wanted is malformed
here. -/
def skipNumber (cs : List Char) : Except Fault (List Char) :=
  match readNumeral cs with
  | .ok (_, rest) => .ok rest
  | .error _ => .error .malformed

end SealedLicense.Json
