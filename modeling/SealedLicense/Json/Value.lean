import SealedLicense.Json.Number
import SealedLicense.Json.String

namespace SealedLicense.Json

inductive Frame where
  | array
  | object
  deriving DecidableEq, Repr

inductive Expected where
  | value
  | key
  | ending
  deriving DecidableEq, Repr

def skipScalar : List Char → Except Fault (List Char)
  | 'n' :: rest => skipLiteral "ull".toList rest
  | 't' :: rest => skipLiteral "rue".toList rest
  | 'f' :: rest => skipLiteral "alse".toList rest
  | '"' :: rest => skipText rest
  | '-' :: rest => skipNumber rest
  | c :: rest => if isDigit c then skipNumber (c :: rest) else .error .malformed
  | [] => .error .unfinished

def skipKey : List Char → Except Fault (List Char)
  | '"' :: rest => do
      match skipBlank (← skipText rest) with
      | ':' :: rest => .ok rest
      | [] => .error .unfinished
      | _ => .error .malformed
  | [] => .error .unfinished
  | _ => .error .malformed

def skipFrames : Nat → List Frame → Expected → List Char → Except Fault (List Char)
  | 0, _, _, _ => .error .unfinished
  | left + 1, frames, .value, cs =>
      match skipBlank cs with
      | '[' :: rest =>
          match skipBlank rest with
          | [] => .error .unfinished
          | ']' :: rest => skipFrames left frames .ending rest
          | rest => skipFrames left (.array :: frames) .value rest
      | '{' :: rest =>
          match skipBlank rest with
          | [] => .error .unfinished
          | '}' :: rest => skipFrames left frames .ending rest
          | rest => skipFrames left (.object :: frames) .key rest
      | cs => do skipFrames left frames .ending (← skipScalar cs)
  | left + 1, frames, .key, cs => do
      skipFrames left frames .value (← skipKey (skipBlank cs))
  | _ + 1, [], .ending, cs => .ok cs
  | left + 1, frame :: frames, .ending, cs =>
      match frame, skipBlank cs with
      | _, [] => .error .unfinished
      | .array, ',' :: rest => skipFrames left (.array :: frames) .value rest
      | .object, ',' :: rest => skipFrames left (.object :: frames) .key rest
      | .array, ']' :: rest => skipFrames left frames .ending rest
      | .object, '}' :: rest => skipFrames left frames .ending rest
      | _, _ => .error .malformed

def skipValue (cs : List Char) : Except Fault (List Char) :=
  skipFrames (2 * cs.length + 2) [] .value cs

/-- The fault of a value that starts here and is of another kind than the wanted one. It counts as mismatched only if
it is well formed as far as one has to look. -/
def wrongKind : List Char → Fault
  | [] => .unfinished
  | '[' :: _ => .mismatched
  | '{' :: _ => .mismatched
  | 'n' :: rest => after (skipLiteral "ull".toList rest)
  | 't' :: rest => after (skipLiteral "rue".toList rest)
  | 'f' :: rest => after (skipLiteral "alse".toList rest)
  | '"' :: rest => after (readText rest)
  | c :: rest => if c = '-' ∨ isDigit c = true then after (readNumber (c :: rest)) else .malformed
where
  after {α : Type} : Except Fault α → Fault
    | .ok _ => .mismatched
    | .error fault => fault

def nextElement (first : Bool) (cs : List Char) : Except Fault (Option (List Char)) :=
  match skipBlank cs with
  | [] => .error .unfinished
  | ']' :: _ => .ok none
  | c :: rest =>
      if first then .ok (some (c :: rest))
      else if c = ',' then
        match skipBlank rest with
        | [] => .error .unfinished
        | ']' :: _ => .error .malformed
        | rest => .ok (some rest)
      else .error .malformed

def endArray (cs : List Char) : Except Fault (List Char) :=
  match skipBlank cs with
  | [] => .error .unfinished
  | ']' :: rest => .ok rest
  | _ => .error .malformed

def skipColon (cs : List Char) : Except Fault (List Char) :=
  match skipBlank cs with
  | [] => .error .unfinished
  | ':' :: rest => .ok rest
  | _ => .error .malformed

def readMembers {σ : Type} (member : σ → List Char → Reader σ) : Nat → Bool → σ → Reader σ
  | 0, _, _, _ => .error .unfinished
  | left + 1, first, s, cs =>
      match skipBlank cs with
      | [] => .error .unfinished
      | '}' :: rest => .ok (s, rest)
      | c :: rest =>
          let next := if first then some (c :: rest) else if c = ',' then some (skipBlank rest) else none
          match next with
          | none => .error .malformed
          | some [] => .error .unfinished
          | some ('"' :: rest) => do
              let (key, rest) ← readText rest
              let (s, rest) ← member s key rest
              readMembers member left false s rest
          | some _ => .error .malformed

def skipMember (cs : List Char) : Except Fault (List Char) := do
  skipValue (← skipColon cs)

def readBytes : Reader (List UInt8) := fun cs =>
  match skipBlank cs with
  | [] => .error .unfinished
  | '[' :: rest => elements (rest.length + 1) true rest
  | cs => .error (wrongKind cs)
where
  element : Reader UInt8 := fun cs =>
    match skipBlank cs with
    | [] => .error .unfinished
    | c :: rest =>
        if c = '-' ∨ isDigit c = true then
          match readNumber (c :: rest) with
          | .error fault => .error fault
          | .ok (some n, rest) => if n < 256 then .ok (UInt8.ofNat n, rest) else .error .mismatched
          | .ok (none, _) => .error .mismatched
        else .error (wrongKind (c :: rest))
  elements : Nat → Bool → Reader (List UInt8)
    | 0, _, _ => .error .unfinished
    | left + 1, first, cs => do
        match ← nextElement first cs with
        | none => return ([], ← endArray cs)
        | some cs =>
            let (b, rest) ← element cs
            let (bs, rest) ← elements left false rest
            return (b :: bs, rest)

def writeBytes (bs : List UInt8) : List Char :=
  '[' :: ([','].intercalate (bs.map fun b => Nat.toDigits 10 b.toNat) ++ [']'])

end SealedLicense.Json
