import SealedLicense.Digest
import SealedLicense.Json.Value

namespace SealedLicense

open Json

namespace Digest

def ofConfigName (name : List Char) : Except Fault Digest :=
  if name = "sha256".toList then .ok .sha256
  else if name = "sha512".toList then .ok .sha512
  else .error .mismatched

def skipNull (cs : List Char) : Except Fault (List Char) :=
  match skipBlank cs with
  | [] => .error .unfinished
  | 'n' :: rest => skipLiteral "ull".toList rest
  | rest => .error (wrongKind rest)

def endObject (cs : List Char) : Except Fault (List Char) :=
  match skipBlank cs with
  | [] => .error .unfinished
  | '}' :: rest => .ok rest
  | _ => .error .malformed

/-- The name alone, or an object whose only key is the name and whose only value is null. -/
def readJson : Reader Digest := fun cs =>
  match skipBlank cs with
  | [] => .error .unfinished
  | '"' :: rest => do
      let (name, rest) ← readText rest
      return (← ofConfigName name, rest)
  | '{' :: rest =>
      match skipBlank rest with
      | [] => .error .unfinished
      | '"' :: rest => do
          let (name, rest) ← readText rest
          let g ← ofConfigName name
          let rest ← skipNull (← skipColon rest)
          return (g, ← endObject rest)
      | rest => .error (wrongKind rest)
  | _ => .error .malformed

def toJson (g : Digest) : List Char :=
  writeText g.configName.toList

theorem readJson_toJson (g : Digest) (rest : List Char) : readJson (g.toJson ++ rest) = .ok (g, rest) := by
  cases g <;> rfl

end Digest

structure Parameters where
  digest : Digest := .standard
  deriving DecidableEq, Repr

namespace Parameters

def digestKey : List Char := "digest".toList

def readMember (seen : Option Digest) (key : List Char) : Reader (Option Digest) := fun cs =>
  if key = digestKey then
    match seen with
    | some _ => .error .mismatched
    | none => do
        let (g, rest) ← Digest.readJson (← skipColon cs)
        return (some g, rest)
  else do return (seen, ← skipMember cs)

/-- An object with the digest among its members, or an array with the digest alone. The digest may be left out. -/
def readJson : Reader Parameters := fun cs =>
  match skipBlank cs with
  | [] => .error .unfinished
  | '{' :: rest => do
      let (seen, rest) ← readMembers readMember (rest.length + 1) true none rest
      return (⟨seen.getD .standard⟩, rest)
  | '[' :: rest => do
      match ← nextElement true rest with
      | none => return (⟨.standard⟩, ← endArray rest)
      | some rest =>
          let (g, rest) ← Digest.readJson rest
          return (⟨g⟩, ← endArray rest)
  | rest => .error (wrongKind rest)

def ofJson (text : List Char) : Except Fault Parameters :=
  readAll readJson text

def toJson (c : Parameters) : List Char :=
  '{' :: (writeText digestKey ++ ':' :: c.digest.toJson ++ ['}'])

def debugText (c : Parameters) : String :=
  "SigningConfig \x7b digest: " ++ c.digest.debugName ++ " \x7d"

theorem ofJson_toJson (c : Parameters) : ofJson c.toJson = .ok c := by
  rcases c with ⟨g⟩
  cases g <;> rfl

end Parameters

end SealedLicense
