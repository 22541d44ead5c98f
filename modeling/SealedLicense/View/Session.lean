import SealedLicense.View.Query

namespace SealedLicense.View

structure Session (C α : Type) where
  source : C
  stores : List (Store C)
  views : List Nat
  cursors : List (Cursor α)

/-- `tamper` and `poison` reach the store of a view without a check; `editSource` changes the container that the first
view was copied from. -/
inductive Step (C α : Type) where
  | read (view : Nat) (query : C → Value α)
  | mutate (view : Nat) (m : Mutator α)
  | iterate (view : Nat)
  | next (cursor : Nat)
  | hasNext (cursor : Nat)
  | remaining (cursor : Nat)
  | removeByCursor (cursor : Nat)
  | drain (cursor : Nat)
  | traverse (view : Nat)
  | inParallel (view : Nat) (threads : Nat)
  | clone (view : Nat)
  | copy (view : Nat)
  | tamper (view : Nat) (change : C → C)
  | poison (view : Nat)
  | editSource (change : C → C)

/-- `threads` holds what each thread saw, and nothing for a thread that met a fault; `absent` answers a number that no
view or cursor has. -/
inductive Reply (α : Type) where
  | value (v : Value α)
  | fault (f : IntegrityFault)
  | unsupported (u : Unsupported)
  | view (n : Nat)
  | cursor (n : Nat)
  | threads (seen : List (Option (List α)))
  | contentsSize (n : Nat)
  | done
  | absent
  deriving DecidableEq, Repr

namespace Reply

variable {α : Type}

def ofRead : Except IntegrityFault (Value α) → Reply α
  | .ok v => .value v
  | .error f => .fault f

def reported : Reply α → List IntegrityFault
  | .fault f => [f]
  | _ => []

end Reply

namespace Session

variable {C α : Type} (b : Backing C α)

def start (contents : C) : Session C α :=
  ⟨contents, [Store.ofContents b contents], [0], []⟩

def storeOf? (s : Session C α) (view : Nat) : Option (Nat × Store C) := do
  let i ← s.views[view]?
  return (i, ← s.stores[i]?)

def cursorOf? (s : Session C α) (cursor : Nat) : Option (Cursor α × Store C) := do
  let c ← s.cursors[cursor]?
  return (c, ← s.stores[c.store]?)

def sizeHint (s : Session C α) (cursor : Nat) : Option (Except IntegrityFault (Nat × Option Nat)) :=
  (s.cursorOf? cursor).map fun found => found.2.sizeHint b found.1

def step (s : Session C α) : Step C α → Session C α × Reply α
  | .read view query =>
      match s.storeOf? view with
      | none => (s, .absent)
      | some (_, store) => (s, .ofRead (store.read b query))
  | .mutate view m =>
      match s.storeOf? view with
      | none => (s, .absent)
      | some _ => (s, .unsupported m.refusal)
  | .iterate view =>
      match s.storeOf? view with
      | none => (s, .absent)
      | some (i, store) =>
          match store.read b fun _ => () with
          | .error f => (s, .fault f)
          | .ok _ => ({ s with cursors := s.cursors ++ [.start i] }, .cursor s.cursors.length)
  | .next cursor =>
      match s.cursorOf? cursor with
      | none => (s, .absent)
      | some (c, store) =>
          match store.next b c with
          | .error f => (s, .fault f)
          | .ok (x, c) => ({ s with cursors := s.cursors.set cursor c }, .value (.item x))
  | .hasNext cursor =>
      match s.cursorOf? cursor with
      | none => (s, .absent)
      | some (c, store) => (s, .ofRead ((store.remaining b c).map fun n => .flag (0 < n)))
  | .remaining cursor =>
      match s.cursorOf? cursor with
      | none => (s, .absent)
      | some (c, store) => (s, .ofRead ((store.remaining b c).map .count))
  | .removeByCursor cursor =>
      match s.cursorOf? cursor with
      | none => (s, .absent)
      | some _ => (s, .unsupported .byCursor)
  | .drain cursor =>
      match s.cursorOf? cursor with
      | none => (s, .absent)
      | some (c, store) =>
          match store.drain b c with
          | .error f => (s, .fault f)
          | .ok c => ({ s with cursors := s.cursors.set cursor c }, .value (.items c.yielded))
  | .traverse view =>
      match s.storeOf? view with
      | none => (s, .absent)
      | some (_, store) => (s, .ofRead ((store.traverse b).map .items))
  | .inParallel view threads =>
      match s.storeOf? view with
      | none => (s, .absent)
      | some (_, store) => (s, .threads (List.replicate threads (store.traverse b).toOption))
  | .clone view =>
      match s.storeOf? view with
      | none => (s, .absent)
      | some (i, _) => ({ s with views := s.views ++ [i] }, .view s.views.length)
  | .copy view =>
      match s.storeOf? view with
      | none => (s, .absent)
      | some (_, store) =>
          match store.read b id with
          | .error f => (s, .fault f)
          | .ok contents =>
              ({ s with
                stores := s.stores ++ [Store.ofContents b contents]
                views := s.views ++ [s.stores.length] }, .view s.views.length)
  | .tamper view change =>
      match s.storeOf? view with
      | none => (s, .absent)
      | some (i, store) =>
          let contents := change store.contents
          ({ s with stores := s.stores.set i { store with contents } },
            .contentsSize (b.elements contents).length)
  | .poison view =>
      match s.storeOf? view with
      | none => (s, .absent)
      | some (i, store) => ({ s with stores := s.stores.set i { store with poisoned := true } }, .done)
  | .editSource change =>
      let contents := change s.source
      ({ s with source := contents }, .contentsSize (b.elements contents).length)

def run (s : Session C α) : List (Step C α) → Session C α × List (Reply α)
  | [] => (s, [])
  | st :: steps =>
      let (s, reply) := s.step b st
      let (s, replies) := run s steps
      (s, reply :: replies)

end Session

end SealedLicense.View
