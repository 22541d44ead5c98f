namespace SealedLicense.Json

inductive Fault where
  | unfinished
  | malformed
  | mismatched
  deriving DecidableEq, Repr

abbrev Reader (α : Type) := List Char → Except Fault (α × List Char)

def blank (c : Char) : Bool :=
  c == ' ' || c == '\n' || c == '\t' || c == '\r'

def skipBlank (cs : List Char) : List Char :=
  cs.dropWhile blank

def isDigit (c : Char) : Bool :=
  '0' ≤ c && c ≤ '9'

def skipLiteral : List Char → List Char → Except Fault (List Char)
  | [], cs => .ok cs
  | _ :: _, [] => .error .unfinished
  | w :: ws, c :: cs => if c = w then skipLiteral ws cs else .error .malformed

def readAll {α : Type} (read : Reader α) (text : List Char) : Except Fault α := do
  let (a, rest) ← read text
  if skipBlank rest = [] then .ok a else .error .malformed

def hexValue? (c : Char) : Option Nat :=
  if '0' ≤ c ∧ c ≤ '9' then some (c.toNat - 48)
  else if 'a' ≤ c ∧ c ≤ 'f' then some (c.toNat - 87)
  else if 'A' ≤ c ∧ c ≤ 'F' then some (c.toNat - 55)
  else none

def hex? (a b c d : Char) : Option Nat := do
  return (← hexValue? a) * 4096 + (← hexValue? b) * 256 + (← hexValue? c) * 16 + (← hexValue? d)

/-- The fault of fewer than four characters where four digits are wanted: the text is unfinished if it does not even
have four bytes. -/
def shortEscape (cs : List Char) : Fault :=
  if cs.foldl (fun n c => n + c.utf8Size) 0 < 4 then .unfinished else .malformed

def simpleEscape? : Char → Option Char
  | '"' => some '"'
  | '\\' => some '\\'
  | '/' => some '/'
  | 'b' => some '\x08'
  | 'f' => some '\x0c'
  | 'n' => some '\n'
  | 'r' => some '\r'
  | 't' => some '\t'
  | _ => none

def highSurrogate (n : Nat) : Bool :=
  0xd800 ≤ n && n ≤ 0xdbff

def lowSurrogate (n : Nat) : Bool :=
  0xdc00 ≤ n && n ≤ 0xdfff

def pairValue (high low : Nat) : Nat :=
  (high - 0xd800) * 0x400 + (low - 0xdc00) + 0x10000

def readText : Reader (List Char)
  | [] => .error .unfinished
  | '"' :: rest => .ok ([], rest)
  | '\\' :: [] => .error .unfinished
  | '\\' :: 'u' :: a :: b :: c :: d :: rest =>
      match hex? a b c d with
      | none => .error .malformed
      | some n =>
          if lowSurrogate n then .error .malformed
          else if highSurrogate n then
            match rest with
            | [] => .error .unfinished
            | '\\' :: [] => .error .unfinished
            | '\\' :: 'u' :: e :: f :: g :: h :: rest =>
                match hex? e f g h with
                | none => .error .malformed
                | some m =>
                    if lowSurrogate m then
                      (readText rest).map fun (text, rest) => (Char.ofNat (pairValue n m) :: text, rest)
                    else .error .malformed
            | '\\' :: 'u' :: short => .error (shortEscape short)
            | _ => .error .malformed
          else (readText rest).map fun (text, rest) => (Char.ofNat n :: text, rest)
  | '\\' :: 'u' :: short => .error (shortEscape short)
  | '\\' :: e :: rest =>
      match simpleEscape? e with
      | none => .error .malformed
      | some c => (readText rest).map fun (text, rest) => (c :: text, rest)
  | c :: rest =>
      if c.toNat < 0x20 then .error .malformed
      else (readText rest).map fun (text, rest) => (c :: text, rest)

/-- Passes over a string behind its opening quote. Any four digits make an escape. -/
def skipText : List Char → Except Fault (List Char)
  | [] => .error .unfinished
  | '"' :: rest => .ok rest
  | '\\' :: [] => .error .unfinished
  | '\\' :: 'u' :: a :: b :: c :: d :: rest =>
      match hex? a b c d with
      | none => .error .malformed
      | some _ => skipText rest
  | '\\' :: 'u' :: short => .error (shortEscape short)
  | '\\' :: e :: rest =>
      match simpleEscape? e with
      | none => .error .malformed
      | some _ => skipText rest
  | c :: rest => if c.toNat < 0x20 then .error .malformed else skipText rest

def hexDigit (n : Nat) : Char :=
  Nat.digitChar n

def escape (c : Char) : List Char :=
  match c with
  | '"' => ['\\', '"']
  | '\\' => ['\\', '\\']
  | '\x08' => ['\\', 'b']
  | '\x0c' => ['\\', 'f']
  | '\n' => ['\\', 'n']
  | '\r' => ['\\', 'r']
  | '\t' => ['\\', 't']
  | c =>
      if c.toNat < 0x20 then ['\\', 'u', '0', '0', hexDigit (c.toNat / 16), hexDigit (c.toNat % 16)] else [c]

def writeText (text : List Char) : List Char :=
  '"' :: (text.flatMap escape ++ ['"'])

end SealedLicense.Json
