import SealedLicense.Artifact.Compact
import SealedLicense.Json.Value

namespace SealedLicense.Artifact

open Json

def payloadKey : List Char := "encrypted_payload".toList

def signatureKey : List Char := "signature".toList

structure Parts where
  payload : Option Bytes
  signature : Option Bytes
  deriving DecidableEq

def readPart (seen : Option Bytes) : Reader Bytes := fun cs =>
  if seen.isSome then .error .mismatched
  else do readBytes (← skipColon cs)

def readMember (parts : Parts) (key : List Char) : Reader Parts := fun cs =>
  if key = payloadKey then do
    let (bs, rest) ← readPart parts.payload cs
    return (⟨some bs, parts.signature⟩, rest)
  else if key = signatureKey then do
    let (bs, rest) ← readPart parts.signature cs
    return (⟨parts.payload, some bs⟩, rest)
  else do return (parts, ← skipMember cs)

def readElement (first : Bool) : Reader Bytes := fun cs => do
  match ← nextElement first cs with
  | none => .error .mismatched
  | some rest => readBytes rest

/-- An object with both parts in any order, or an array with the payload before the signature. -/
def readJson : Reader Artifact := fun cs =>
  match skipBlank cs with
  | [] => .error .unfinished
  | '{' :: rest => do
      let (parts, rest) ← readMembers readMember (rest.length + 1) true ⟨none, none⟩ rest
      match parts with
      | ⟨some payload, some signature⟩ => return (⟨payload, signature⟩, rest)
      | _ => .error .mismatched
  | '[' :: rest => do
      let (payload, rest) ← readElement true rest
      let (signature, rest) ← readElement false rest
      return (⟨payload, signature⟩, ← endArray rest)
  | rest => .error (wrongKind rest)

def ofJson (text : List Char) : Except Fault Artifact :=
  readAll readJson text

def toJson (a : Artifact) : List Char :=
  '{' :: (writeText payloadKey ++ ':' :: writeBytes a.payload ++
    ',' :: (writeText signatureKey ++ ':' :: writeBytes a.signature ++ ['}']))

end SealedLicense.Artifact
