import SealedLicense.View.Hashing

namespace SealedLicense.View

structure IntegrityFault where
  expected : Nat
  actual : Nat
  deriving DecidableEq, Repr

namespace IntegrityFault

def message (f : IntegrityFault) : String :=
  "integrity fault: immutable view was modified out of band (size " ++ toString f.expected ++ " -> " ++
    toString f.actual ++ ")"

def notice : String :=
  "immutable view backing store was modified"

end IntegrityFault

/-- A store keeps a mark if a holder of its lock broke off; the mark has no effect. -/
structure Store (C : Type) where
  contents : C
  recorded : Fingerprint
  poisoned : Bool

structure Cursor (α : Type) where
  store : Nat
  position : Nat
  yielded : List α
  deriving DecidableEq, Repr

def Cursor.start {α : Type} (store : Nat) : Cursor α :=
  ⟨store, 0, []⟩

namespace Store

variable {C α β : Type} (b : Backing C α)

def ofContents (contents : C) : Store C :=
  ⟨contents, b.fingerprint contents, false⟩

def read (s : Store C) (f : C → β) : Except IntegrityFault β :=
  let live := b.fingerprint s.contents
  if live = s.recorded then .ok (f s.contents) else .error ⟨s.recorded.size, live.size⟩

theorem read_eq_ok_iff {s : Store C} {f : C → β} {x : β} :
    s.read b f = .ok x ↔ b.fingerprint s.contents = s.recorded ∧ f s.contents = x := by
  unfold read
  by_cases h : b.fingerprint s.contents = s.recorded <;> simp [h]

theorem read_eq_error_iff {s : Store C} {f : C → β} {fault : IntegrityFault} :
    s.read b f = .error fault ↔ b.fingerprint s.contents ≠ s.recorded ∧
      (⟨s.recorded.size, (b.fingerprint s.contents).size⟩ : IntegrityFault) = fault := by
  unfold read
  by_cases h : b.fingerprint s.contents = s.recorded <;> simp [h]

def next (s : Store C) (c : Cursor α) : Except IntegrityFault (Option α × Cursor α) :=
  s.read b fun contents =>
    match (b.elements contents)[c.position]? with
    | some x => (some x, { c with position := c.position + 1, yielded := c.yielded ++ [x] })
    | none => (none, c)

def remaining (s : Store C) (c : Cursor α) : Except IntegrityFault Nat :=
  s.read b fun contents => (b.elements contents).length - c.position

def sizeHint (s : Store C) (c : Cursor α) : Except IntegrityFault (Nat × Option Nat) :=
  (s.remaining b c).map fun n => (n, some n)

def advance (s : Store C) : Nat → Cursor α → Except IntegrityFault (Cursor α)
  | 0, c => .ok c
  | left + 1, c =>
      match s.next b c with
      | .error fault => .error fault
      | .ok (none, c) => .ok c
      | .ok (some _, c) => advance s left c

def drain (s : Store C) (c : Cursor α) : Except IntegrityFault (Cursor α) :=
  s.advance b ((b.elements s.contents).length + 1) c

def traverse (s : Store C) : Except IntegrityFault (List α) := do
  s.read b fun _ => ()
  return (← s.drain b (.start 0)).yielded

end Store

end SealedLicense.View
