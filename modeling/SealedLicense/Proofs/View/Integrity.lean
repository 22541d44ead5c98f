import Mathlib
import SealedLicense.Proofs.View.Frame
import SealedLicense.View.Hashing

namespace SealedLicense.View

variable {C α : Type} {b : Backing C α}

namespace Store

variable {store : Store C} {c : Cursor α}

theorem next_of_some (h : b.fingerprint store.contents = store.recorded) {x : α}
    (hx : (b.elements store.contents)[c.position]? = some x) :
    store.next b c = .ok (some x, { c with position := c.position + 1, yielded := c.yielded ++ [x] }) := by
  rw [next, read_of_eq h, hx]

theorem next_of_none (h : b.fingerprint store.contents = store.recorded)
    (hx : (b.elements store.contents)[c.position]? = none) : store.next b c = .ok (none, c) := by
  rw [next, read_of_eq h, hx]

theorem exists_next (store : Store C) (h : b.fingerprint store.contents = store.recorded) (c : Cursor α) :
    ∃ c', store.next b c = .ok ((b.elements store.contents)[c.position]?, c') := by
  cases hx : (b.elements store.contents)[c.position]? with
  | none => exact ⟨_, next_of_none h hx⟩
  | some x => exact ⟨_, next_of_some h hx⟩

theorem exists_advance (h : b.fingerprint store.contents = store.recorded) {left : ℕ}
    (hl : (b.elements store.contents).length < c.position + left) :
    ∃ c', store.advance b left c = .ok c' ∧ c'.yielded = c.yielded ++ (b.elements store.contents).drop c.position := by
  -- the steps allowed outnumber the elements left, so the walk ends because nothing comes
  induction left generalizing c with
  | zero =>
    refine ⟨c, rfl, ?_⟩
    rw [List.drop_eq_nil_of_le (by omega), List.append_nil]
  | succ left ih =>
    rcases Nat.lt_or_ge c.position (b.elements store.contents).length with hlt | hge
    · obtain ⟨c', hc', hy⟩ := ih (c := { c with
        position := c.position + 1
        yielded := c.yielded ++ [(b.elements store.contents)[c.position]] }) (by simp only; omega)
      refine ⟨c', ?_, ?_⟩
      · rw [advance, next_of_some h (List.getElem?_eq_getElem hlt)]
        exact hc'
      · rw [hy, List.drop_eq_getElem_cons hlt, List.append_assoc, List.singleton_append]
    · refine ⟨c, ?_, ?_⟩
      · rw [advance, next_of_none h (List.getElem?_eq_none hge)]
      · rw [List.drop_eq_nil_of_le hge, List.append_nil]

theorem exists_drain (store : Store C) (h : b.fingerprint store.contents = store.recorded) (c : Cursor α) :
    ∃ c', store.drain b c = .ok c' ∧ c'.yielded = c.yielded ++ (b.elements store.contents).drop c.position :=
  exists_advance h (by omega)

theorem drain_of_ne (h : b.fingerprint store.contents ≠ store.recorded) (c : Cursor α) :
    store.drain b c = .error ⟨store.recorded.size, (b.fingerprint store.contents).size⟩ := by
  rw [drain, advance, next, read_of_ne h]

theorem traverse_of_eq (h : b.fingerprint store.contents = store.recorded) :
    store.traverse b = .ok (b.elements store.contents) := by
  obtain ⟨c', hc', hy⟩ := store.exists_drain h (.start 0)
  rw [traverse, read_of_eq h, hc']
  exact congrArg Except.ok hy

theorem traverse_of_ne (h : b.fingerprint store.contents ≠ store.recorded) :
    store.traverse b = .error ⟨store.recorded.size, (b.fingerprint store.contents).size⟩ := by
  rw [traverse, read_of_ne h]
  rfl

end Store

namespace Session

variable {s : Session C α} {i : ℕ} {origin contents : C} {st : Step C α} {reply : Reply α}

/-- The steps that look at store `i`, and what they reply when they take the contents as they are. -/
inductive Reads (b : Backing C α) (s : Session C α) (i : ℕ) (contents : C) : Step C α → Reply α → Prop
  | read {view} (hv : s.views[view]? = some i) (query : C → Value α) :
      Reads b s i contents (.read view query) (.value (query contents))
  | iterate {view} (hv : s.views[view]? = some i) :
      Reads b s i contents (.iterate view) (.cursor s.cursors.length)
  | next {cursor c} (hc : s.cursors[cursor]? = some c) (hi : c.store = i) :
      Reads b s i contents (.next cursor) (.value (.item (b.elements contents)[c.position]?))
  | hasNext {cursor c} (hc : s.cursors[cursor]? = some c) (hi : c.store = i) :
      Reads b s i contents (.hasNext cursor) (.value (.flag (c.position < (b.elements contents).length)))
  | remaining {cursor c} (hc : s.cursors[cursor]? = some c) (hi : c.store = i) :
      Reads b s i contents (.remaining cursor) (.value (.count ((b.elements contents).length - c.position)))
  | drain {cursor c} (hc : s.cursors[cursor]? = some c) (hi : c.store = i) :
      Reads b s i contents (.drain cursor) (.value (.items (c.yielded ++ (b.elements contents).drop c.position)))
  | traverse {view} (hv : s.views[view]? = some i) :
      Reads b s i contents (.traverse view) (.value (.items (b.elements contents)))
  | copy {view} (hv : s.views[view]? = some i) : Reads b s i contents (.copy view) (.view s.views.length)

theorem Reads.reply_eq (hr : Reads b s i contents st reply) (h : Holds b s i origin contents)
    (he : b.fingerprint contents = b.fingerprint origin) : (s.step b st).2 = reply := by
  obtain ⟨mark, hs⟩ := h
  cases hr with
  | read hv query =>
    simp only [step, storeOf?_eq_some_iff.2 ⟨hv, hs⟩]
    rw [Store.read_of_eq he]
    rfl
  | iterate hv =>
    simp only [step, storeOf?_eq_some_iff.2 ⟨hv, hs⟩]
    rw [Store.read_of_eq he]
  | @next _ c hc hi =>
    subst hi
    obtain ⟨c', hc'⟩ := Store.exists_next ⟨contents, b.fingerprint origin, mark⟩ he c
    simp only [step, cursorOf?_eq_some_iff.2 ⟨hc, hs⟩, hc']
  | hasNext hc hi =>
    subst hi
    simp only [step, cursorOf?_eq_some_iff.2 ⟨hc, hs⟩, Store.remaining]
    rw [Store.read_of_eq he]
    simp [Except.map, Reply.ofRead]
  | remaining hc hi =>
    subst hi
    simp only [step, cursorOf?_eq_some_iff.2 ⟨hc, hs⟩, Store.remaining]
    rw [Store.read_of_eq he]
    rfl
  | @drain _ c hc hi =>
    subst hi
    obtain ⟨c', hc', hy⟩ := Store.exists_drain ⟨contents, b.fingerprint origin, mark⟩ he c
    simp only [step, cursorOf?_eq_some_iff.2 ⟨hc, hs⟩, hc', hy]
  | traverse hv =>
    simp only [step, storeOf?_eq_some_iff.2 ⟨hv, hs⟩]
    rw [Store.traverse_of_eq he]
    rfl
  | copy hv =>
    simp only [step, storeOf?_eq_some_iff.2 ⟨hv, hs⟩]
    rw [Store.read_of_eq he]

theorem Reads.step_eq_fault (hr : Reads b s i contents st reply) (h : Holds b s i origin contents)
    (he : b.fingerprint contents ≠ b.fingerprint origin) :
    s.step b st = (s, .fault ⟨(b.fingerprint origin).size, (b.fingerprint contents).size⟩) := by
  obtain ⟨mark, hs⟩ := h
  cases hr with
  | read hv query =>
    simp only [step, storeOf?_eq_some_iff.2 ⟨hv, hs⟩]
    rw [Store.read_of_ne he]
    rfl
  | iterate hv =>
    simp only [step, storeOf?_eq_some_iff.2 ⟨hv, hs⟩]
    rw [Store.read_of_ne he]
  | next hc hi =>
    subst hi
    simp only [step, cursorOf?_eq_some_iff.2 ⟨hc, hs⟩, Store.next]
    rw [Store.read_of_ne he]
  | hasNext hc hi =>
    subst hi
    simp only [step, cursorOf?_eq_some_iff.2 ⟨hc, hs⟩, Store.remaining]
    rw [Store.read_of_ne he]
    rfl
  | remaining hc hi =>
    subst hi
    simp only [step, cursorOf?_eq_some_iff.2 ⟨hc, hs⟩, Store.remaining]
    rw [Store.read_of_ne he]
    rfl
  | drain hc hi =>
    subst hi
    simp only [step, cursorOf?_eq_some_iff.2 ⟨hc, hs⟩]
    rw [Store.drain_of_ne he]
  | traverse hv =>
    simp only [step, storeOf?_eq_some_iff.2 ⟨hv, hs⟩]
    rw [Store.traverse_of_ne he]
    rfl
  | copy hv =>
    simp only [step, storeOf?_eq_some_iff.2 ⟨hv, hs⟩]
    rw [Store.read_of_ne he]

theorem Reads.ne_fault (hr : Reads b s i contents st reply) (fault : IntegrityFault) : reply ≠ .fault fault := by
  rintro rfl
  cases hr

theorem Reads.faults_iff (hr : Reads b s i contents st reply) (h : Holds b s i origin contents) :
    (∃ fault, (s.step b st).2 = .fault fault) ↔ b.fingerprint contents ≠ b.fingerprint origin := by
  constructor
  · rintro ⟨fault, hf⟩ he
    rw [hr.reply_eq h he] at hf
    exact hr.ne_fault fault hf
  · intro he
    exact ⟨_, congrArg Prod.snd (hr.step_eq_fault h he)⟩

end Session

namespace Store

def unmarked (store : Store C) : Store C :=
  { store with poisoned := false }

@[simp] theorem unmarked_comp_unmarked : (unmarked ∘ unmarked : Store C → Store C) = unmarked :=
  rfl

@[simp] theorem read_unmarked {β : Type} (store : Store C) (f : C → β) : store.unmarked.read b f = store.read b f :=
  rfl

@[simp] theorem next_unmarked (store : Store C) (c : Cursor α) : store.unmarked.next b c = store.next b c :=
  rfl

@[simp] theorem remaining_unmarked (store : Store C) (c : Cursor α) :
    store.unmarked.remaining b c = store.remaining b c :=
  rfl

theorem advance_unmarked (store : Store C) (left : ℕ) (c : Cursor α) :
    store.unmarked.advance b left c = store.advance b left c := by
  induction left generalizing c with
  | zero => rfl
  | succ left ih =>
    simp only [advance, ih]
    rfl

@[simp] theorem drain_unmarked (store : Store C) (c : Cursor α) : store.unmarked.drain b c = store.drain b c :=
  store.advance_unmarked _ c

@[simp] theorem traverse_unmarked (store : Store C) : store.unmarked.traverse b = store.traverse b := by
  rw [traverse, drain_unmarked]
  rfl

end Store

namespace Session

variable {s : Session C α} {i : ℕ} {origin contents : C}

def unmarked (s : Session C α) : Session C α :=
  { s with stores := s.stores.map Store.unmarked }

theorem storeOf?_unmarked (s : Session C α) (view : ℕ) :
    s.unmarked.storeOf? view = (s.storeOf? view).map (Prod.map id Store.unmarked) := by
  simp only [storeOf?, unmarked, List.getElem?_map]
  cases s.views[view]? with
  | none => rfl
  | some i => cases hs : s.stores[i]? <;> simp [hs]

theorem cursorOf?_unmarked (s : Session C α) (cursor : ℕ) :
    s.unmarked.cursorOf? cursor = (s.cursorOf? cursor).map (Prod.map id Store.unmarked) := by
  simp only [cursorOf?, unmarked, List.getElem?_map]
  cases s.cursors[cursor]? with
  | none => rfl
  | some c => cases hs : s.stores[c.store]? <;> simp [hs]

theorem unmarked_step (s : Session C α) (st : Step C α) :
    (s.unmarked.step b st).1.unmarked = (s.step b st).1.unmarked ∧ (s.unmarked.step b st).2 = (s.step b st).2 := by
  cases st with
  | read view _ | mutate view _ | traverse view | inParallel view _ | clone view =>
    simp only [step, storeOf?_unmarked]
    rcases s.storeOf? view with _ | ⟨i, store⟩ <;> simp [unmarked]
  | iterate view | copy view =>
    simp only [step, storeOf?_unmarked]
    rcases s.storeOf? view with _ | ⟨i, store⟩
    · simp [unmarked]
    · simp only [Option.map_some, Prod.map_apply, Store.read_unmarked]
      split <;> simp [unmarked]
  | hasNext cursor | remaining cursor | removeByCursor cursor =>
    simp only [step, cursorOf?_unmarked]
    rcases s.cursorOf? cursor with _ | ⟨c, store⟩ <;> simp [unmarked]
  | next cursor | drain cursor =>
    simp only [step, cursorOf?_unmarked]
    rcases s.cursorOf? cursor with _ | ⟨c, store⟩
    · simp [unmarked]
    · simp only [Option.map_some, Prod.map_apply, Store.next_unmarked, Store.drain_unmarked, id_eq]
      split <;> simp [unmarked]
  | tamper view _ | poison view =>
    simp only [step, storeOf?_unmarked]
    rcases s.storeOf? view with _ | ⟨i, store⟩
    · simp [unmarked]
    · simp [unmarked, List.map_set, Store.unmarked]
  | editSource change => simp [step, unmarked]

theorem step_congr {s t : Session C α} (h : s.unmarked = t.unmarked) (st : Step C α) :
    (s.step b st).1.unmarked = (t.step b st).1.unmarked ∧ (s.step b st).2 = (t.step b st).2 := by
  obtain ⟨hs, hsr⟩ := unmarked_step (b := b) s st
  obtain ⟨ht, htr⟩ := unmarked_step (b := b) t st
  rw [← hs, ← hsr, ← ht, ← htr, h]
  exact ⟨rfl, rfl⟩

theorem replies_congr {s t : Session C α} (h : s.unmarked = t.unmarked) (steps : List (Step C α)) :
    (s.run b steps).2 = (t.run b steps).2 := by
  -- the sessions after the first step again differ in marks only
  induction steps generalizing s t with
  | nil => rfl
  | cons st steps ih =>
    obtain ⟨hst, hreply⟩ := step_congr (b := b) h st
    rw [run_cons, run_cons, hreply, ih hst]

theorem unmarked_poison (s : Session C α) (view : ℕ) : (s.step b (.poison view)).1.unmarked = s.unmarked := by
  simp only [step]
  split
  · rfl
  · next hv =>
    rw [unmarked, unmarked, map_set_of_eq (storeOf?_eq_some_iff.1 hv).2]
    rfl

theorem step_of_fault {st : Step C α} {fault : IntegrityFault} (h : (s.step b st).2 = .fault fault) :
    (s.step b st).1 = s := by
  revert h
  cases st with
  | read view _ | mutate view _ | traverse view | inParallel view _ | hasNext view | remaining view
  | removeByCursor view =>
    simp only [step]
    split <;> exact fun _ => rfl
  | iterate view | copy view | next cursor | drain cursor =>
    simp only [step]
    split
    · exact fun _ => rfl
    · split
      · exact fun _ => rfl
      · intro h
        cases h
  | clone view | tamper view _ | poison view =>
    simp only [step]
    split
    · exact fun _ => rfl
    · intro h
      cases h
  | editSource change =>
    intro h
    cases h

def Interrupts (b : Backing C α) (s : Session C α) (st : Step C α) : Prop :=
  (∃ fault, (s.step b st).2 = .fault fault) ∨ ∃ view, st = .poison view

theorem Interrupts.replies {st : Step C α} (h : Interrupts b s st) (later : List (Step C α)) :
    ((s.step b st).1.run b later).2 = (s.run b later).2 := by
  rcases h with ⟨fault, hf⟩ | ⟨view, rfl⟩
  · rw [step_of_fault hf]
  · exact replies_congr (s.unmarked_poison view) later

/-- What the views and the cursors of store `i` show, once it was made from `origin` and has come to hold `contents`. -/
structure Guarded (b : Backing C α) (s : Session C α) (i : ℕ) (origin contents : C) : Prop where
  faults : ∀ {st reply}, Reads b s i contents st reply →
    ((∃ fault, (s.step b st).2 = .fault fault) ↔ b.fingerprint contents ≠ b.fingerprint origin)
  answers : ∀ {st reply}, Reads b s i contents st reply → b.fingerprint contents = b.fingerprint origin →
    (s.step b st).2 = reply
  threads : ∀ {view}, s.views[view]? = some i → ∀ n, (s.step b (.inParallel view n)).2 =
    .threads (List.replicate n
      (if b.fingerprint contents = b.fingerprint origin then some (b.elements contents) else none))
  clones : ∀ {view}, s.views[view]? = some i → (s.step b (.clone view)).1.views = s.views ++ [i]
  cursors : ∀ {view}, s.views[view]? = some i → b.fingerprint contents = b.fingerprint origin →
    (s.step b (.iterate view)).1.cursorStores = s.cursorStores ++ [i]
  copies : ∀ {view}, s.views[view]? = some i → b.fingerprint contents = b.fingerprint origin →
    ∃ j, (s.step b (.copy view)).1.views = s.views ++ [j] ∧ Holds b (s.step b (.copy view)).1 j contents contents

theorem Holds.guarded (h : Holds b s i origin contents) : Guarded b s i origin contents := by
  obtain ⟨mark, hs⟩ := id h
  refine
    { faults := fun hr => hr.faults_iff h
      answers := fun hr he => hr.reply_eq h he
      threads := ?_
      clones := ?_
      cursors := ?_
      copies := ?_ }
  · intro view hv n
    simp only [Session.step, storeOf?_eq_some_iff.2 ⟨hv, hs⟩]
    split
    · next he =>
      rw [Store.traverse_of_eq he]
      rfl
    · next he =>
      rw [Store.traverse_of_ne he]
      rfl
  · intro view hv
    simp only [Session.step, storeOf?_eq_some_iff.2 ⟨hv, hs⟩]
  · intro view hv he
    simp only [Session.step, storeOf?_eq_some_iff.2 ⟨hv, hs⟩]
    rw [Store.read_of_eq he]
    exact List.map_append
  · intro view hv he
    refine ⟨s.stores.length, ?_⟩
    simp only [Session.step, storeOf?_eq_some_iff.2 ⟨hv, hs⟩]
    rw [Store.read_of_eq he]
    exact ⟨rfl, false, List.getElem?_concat_length⟩

end Session

open Session

theorem integrity_over_runs (b : Backing C α) :
    (∀ contents, (start b contents).views[0]? = some 0 ∧ Holds b (start b contents) 0 contents contents) ∧
      ∀ {s i origin contents}, Holds b s i origin contents → ∀ steps t now,
        (s.run b steps).1 = t → s.contentsAfter b i contents steps = now →
          s.views <+: t.views ∧ s.cursorStores <+: t.cursorStores ∧ Holds b t i origin now ∧
            Guarded b t i origin now ∧
              ∀ st, Interrupts b t st → ∀ later, ((t.step b st).1.run b later).2 = (t.run b later).2 := by
  refine ⟨fun contents => ⟨rfl, holds_start b contents⟩, ?_⟩
  intro s i origin contents h steps t now ht hnow
  subst ht hnow
  have hafter := h.run steps
  exact ⟨views_run steps, cursorStores_run steps, hafter, hafter.guarded, fun st hst later => hst.replies later⟩

def turned : List (Step (List ℤ) ℤ) :=
  [.clone 0, .iterate 1, .next 0, .tamper 0 List.reverse, .poison 1]

theorem integrity_over_runs_turned :
    (∃ fault, (((start Hashing.number.listBacking [1, 2, 3]).run Hashing.number.listBacking turned).1.step
      Hashing.number.listBacking (.next 0)).2 = .fault fault) ∧
    (((start Hashing.number.listBacking [1, 2, 3]).run Hashing.number.listBacking
      (turned ++ [.tamper 1 List.reverse])).1.step Hashing.number.listBacking (.next 0)).2 =
        .value (.item (some 2)) := by
  obtain ⟨hstart, hrun⟩ := integrity_over_runs Hashing.number.listBacking
  obtain ⟨-, -, -, hturned, -⟩ := hrun (hstart [1, 2, 3]).2 turned _ _ rfl rfl
  obtain ⟨-, -, -, hback, -⟩ := hrun (hstart [1, 2, 3]).2 (turned ++ [.tamper 1 List.reverse]) _ _ rfl rfl
  constructor
  · refine (hturned.faults (.next (c := ⟨0, 1, [1]⟩) ?_ rfl)).2 ?_
    · decide +kernel
    · decide +kernel
  · refine hback.answers (.next (c := ⟨0, 1, [1]⟩) ?_ rfl) ?_
    · decide +kernel
    · decide +kernel

end SealedLicense.View
