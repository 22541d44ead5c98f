import SealedLicense.Json.String
import SealedLicense.Text.Quoted
import SealedLicense.View.Store

namespace SealedLicense.View

inductive Mutator (α : Type) where
  | add (x : α)
  | addAll (xs : List α)
  | remove (x : α)
  | retain (keep : α → Bool)
  | clear
  | set (i : Nat) (x : α)
  | insert (i : Nat) (x : α)
  | removeAt (i : Nat)

structure Unsupported where
  operation : String
  deriving DecidableEq, Repr

def Unsupported.message (u : Unsupported) : String :=
  "this view cannot be modified: " ++ u.operation ++ " is not supported"

def Mutator.refusal {α : Type} : Mutator α → Unsupported
  | .add _ => ⟨"add"⟩
  | .addAll _ => ⟨"add_all"⟩
  | .remove _ => ⟨"remove"⟩
  | .retain _ => ⟨"retain"⟩
  | .clear => ⟨"clear"⟩
  | .set .. => ⟨"set"⟩
  | .insert .. => ⟨"insert"⟩
  | .removeAt _ => ⟨"remove_at"⟩

def Unsupported.byCursor : Unsupported :=
  ⟨"iterator remove"⟩

inductive Value (α : Type) where
  | count (n : Nat)
  | flag (b : Bool)
  | item (x : Option α)
  | position (i : Option Nat)
  | items (xs : List α)
  | text (cs : List Char)
  deriving DecidableEq, Repr

structure Rendering (α : Type) where
  debug : α → List Char
  json : α → List Char

namespace Rendering

def text : Rendering String :=
  ⟨fun s => Text.quote s.toList, fun s => Json.writeText s.toList⟩

def number : Rendering Int :=
  ⟨fun n => (toString n).toList, fun n => (toString n).toList⟩

variable {α : Type} (r : Rendering α)

def debugList (xs : List α) : List Char :=
  '[' :: ([',', ' '].intercalate (xs.map r.debug) ++ [']'])

def debugSet (xs : List α) : List Char :=
  '\x7b' :: ([',', ' '].intercalate (xs.map r.debug) ++ ['\x7d'])

def jsonArray (xs : List α) : List Char :=
  '[' :: ([','].intercalate (xs.map r.json) ++ [']'])

end Rendering

inductive ListQuery (α : Type) where
  | length
  | isEmpty
  | contains (x : α)
  | elements
  | get (i : Nat)
  | first
  | last
  | indexOf (x : α)
  | lastIndexOf (x : α)
  | debug
  | json
  deriving DecidableEq, Repr

inductive SetQuery (α : Type) where
  | size
  | isEmpty
  | contains (x : α)
  | elements
  | toSet
  | isSubset (xs : List α)
  | debug
  | json
  deriving DecidableEq, Repr

variable {α : Type} [DecidableEq α]

def lastIndexOf? (x : α) : List α → Option Nat
  | [] => none
  | y :: ys =>
      match lastIndexOf? x ys with
      | some i => some (i + 1)
      | none => if y = x then some 0 else none

def ListQuery.answer (r : Rendering α) : ListQuery α → List α → Value α
  | .length, xs => .count xs.length
  | .isEmpty, xs => .flag (xs.length = 0)
  | .contains x, xs => .flag (x ∈ xs)
  | .elements, xs => .items xs
  | .get i, xs => .item xs[i]?
  | .first, xs => .item xs.head?
  | .last, xs => .item xs.getLast?
  | .indexOf x, xs => .position (xs.idxOf? x)
  | .lastIndexOf x, xs => .position (lastIndexOf? x xs)
  | .debug, xs => .text (r.debugList xs)
  | .json, xs => .text (r.jsonArray xs)

def SetQuery.answer (r : Rendering α) : SetQuery α → ElementSet α → Value α
  | .size, s => .count s.size
  | .isEmpty, s => .flag (s.size = 0)
  | .contains x, s => .flag (x ∈ s)
  | .elements, s => .items s.toList
  | .toSet, s => .items s.toList
  | .isSubset xs, s => .flag (s.toList.all (· ∈ xs))
  | .debug, s => .text (r.debugSet s.toList)
  | .json, s => .text (r.jsonArray s.toList)

end SealedLicense.View
