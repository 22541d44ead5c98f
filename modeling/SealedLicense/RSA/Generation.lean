import SealedLicense.RSA.Arithmetic
import SealedLicense.RSA.Key

/-!
The random numbers come from outside, one for each position of a supply.
-/

namespace SealedLicense.RSA

inductive GenerationFault where
  | tooFewPrimes
  | invalidModulus
  | supplyExhausted
  | stated (text : String)
  deriving DecidableEq, Repr

def GenerationFault.message : GenerationFault → String
  | .tooFewPrimes => "too few primes of given length to generate an RSA key"
  | .invalidModulus => "invalid modulus"
  | .supplyExhausted => "no primes among the random numbers"
  | .stated text => text

def smallPrimes : List Nat :=
  [2, 3, 5, 7, 11, 13, 17, 19, 23, 29, 31, 37, 41, 43, 47, 53, 59, 61, 67, 71, 73, 79, 83, 89, 97]

def meetsMinusOne (n : Nat) : Nat → Nat → Bool
  | 0, _ => false
  | s + 1, x => x == n - 1 || meetsMinusOne n s (x * x % n)

def oddPart (n : Nat) : Nat × Nat :=
  go n.log2 n 0
where
  go : Nat → Nat → Nat → Nat × Nat
    | 0, n, s => (n, s)
    | left + 1, n, s => if n % 2 = 0 then go left (n / 2) (s + 1) else (n, s)

def strongTest (n a : Nat) : Bool :=
  let (d, s) := oddPart (n - 1)
  let x := powMod a d n
  x == 1 || meetsMinusOne n s x

def probablyPrime (n : Nat) : Bool :=
  if n < 2 then false
  else if smallPrimes.contains n then true
  else smallPrimes.all (fun a => n % a != 0) && smallPrimes.all (strongTest n)

/-- A random number made odd and exactly `w` bits long, with the two top bits set. -/
def shape (w x : Nat) : Nat :=
  let unit := 1 <<< (w - 2)
  let top := 2 * unit + unit
  let low := x % unit
  top + low + (1 - low % 2)

def firstAccepted (supply : Nat → Nat) (w : Nat) (accept : Nat → Bool) : Nat → Nat → Option (Nat × Nat)
  | 0, _ => none
  | left + 1, position =>
      let n := shape w (supply position)
      if accept n then some (n, position + 1) else firstAccepted supply w accept left (position + 1)

def publicExponent : Nat := 65537

def leastBits : Nat := 12

def supplyLimit : Nat := 100000

def generate (bits : Nat) (supply : Nat → Nat) : Except GenerationFault PrivateKey :=
  if bits < leastBits then .error .tooFewPrimes
  else
    let usable (n : Nat) : Bool := probablyPrime n && Nat.gcd publicExponent (n - 1) == 1
    match firstAccepted supply (bits - bits / 2) usable supplyLimit 0 with
    | none => .error .supplyExhausted
    | some (p, position) =>
        match firstAccepted supply (bits / 2) (fun n => n != p && usable n) supplyLimit position with
        | none => .error .supplyExhausted
        | some (q, _) =>
            match inverse? publicExponent ((p - 1) * (q - 1)) with
            | none => .error .supplyExhausted
            | some d =>
                match PrivateKey.ofNumbers? (p * q) publicExponent d p q with
                | none => .error .invalidModulus
                | some k => .ok k

end SealedLicense.RSA
