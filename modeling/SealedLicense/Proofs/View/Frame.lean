import Mathlib
import SealedLicense.View.Session

namespace SealedLicense.View

variable {C α : Type} {b : Backing C α}

theorem map_set_of_eq {A B : Type} {f : A → B} {xs : List A} {n : ℕ} {x y : A} (h : xs[n]? = some x)
    (hf : f y = f x) : (xs.set n y).map f = xs.map f := by
  obtain ⟨hn, rfl⟩ := List.getElem?_eq_some_iff.1 h
  rw [List.map_set, hf, ← List.getElem_map f, List.set_getElem_self]
  simpa using hn

namespace Store

variable {β : Type} {store : Store C}

theorem read_of_eq (h : b.fingerprint store.contents = store.recorded) (f : C → β) :
    store.read b f = .ok (f store.contents) :=
  (read_eq_ok_iff b).2 ⟨h, rfl⟩

theorem read_of_ne (h : b.fingerprint store.contents ≠ store.recorded) (f : C → β) :
    store.read b f = .error ⟨store.recorded.size, (b.fingerprint store.contents).size⟩ :=
  (read_eq_error_iff b).2 ⟨h, rfl⟩

theorem store_of_next {c c' : Cursor α} {x : Option α} (h : store.next b c = .ok (x, c')) : c'.store = c.store := by
  obtain ⟨-, hc⟩ := (read_eq_ok_iff b).1 h
  split at hc
  · cases hc
    rfl
  · cases hc
    rfl

theorem store_of_advance {left : ℕ} {c c' : Cursor α} (h : store.advance b left c = .ok c') :
    c'.store = c.store := by
  induction left generalizing c with
  | zero =>
    cases h
    rfl
  | succ left ih =>
    simp only [advance] at h
    split at h
    · cases h
    · next hn =>
      cases h
      exact store_of_next hn
    · next hn => exact (ih h).trans (store_of_next hn)

end Store

namespace Session

variable {s : Session C α}

theorem storeOf?_eq_some_iff {view i : ℕ} {store : Store C} :
    s.storeOf? view = some (i, store) ↔ s.views[view]? = some i ∧ s.stores[i]? = some store := by
  simp only [storeOf?, Option.bind_eq_bind, Option.bind_eq_some_iff, Option.pure_def, Option.some.injEq,
    Prod.mk.injEq]
  constructor
  · rintro ⟨j, hj, st, hst, rfl, rfl⟩
    exact ⟨hj, hst⟩
  · rintro ⟨hi, hst⟩
    exact ⟨i, hi, store, hst, rfl, rfl⟩

theorem cursorOf?_eq_some_iff {cursor : ℕ} {c : Cursor α} {store : Store C} :
    s.cursorOf? cursor = some (c, store) ↔ s.cursors[cursor]? = some c ∧ s.stores[c.store]? = some store := by
  simp only [cursorOf?, Option.bind_eq_bind, Option.bind_eq_some_iff, Option.pure_def, Option.some.injEq,
    Prod.mk.injEq]
  constructor
  · rintro ⟨d, hd, st, hst, rfl, rfl⟩
    exact ⟨hd, hst⟩
  · rintro ⟨hc, hst⟩
    exact ⟨c, hc, store, hst, rfl, rfl⟩

theorem run_cons (st : Step C α) (steps : List (Step C α)) :
    s.run b (st :: steps) =
      (((s.step b st).1.run b steps).1, (s.step b st).2 :: ((s.step b st).1.run b steps).2) :=
  rfl

def changed (s : Session C α) (i : ℕ) (contents : C) : Step C α → C
  | .tamper view change => if s.views[view]? = some i then change contents else contents
  | _ => contents

def contentsAfter (b : Backing C α) (s : Session C α) (i : ℕ) (contents : C) : List (Step C α) → C
  | [] => contents
  | st :: steps => contentsAfter b (s.step b st).1 i (s.changed i contents st) steps

inductive Transition (b : Backing C α) (s : Session C α) : Step C α → Session C α → Prop
  | stay {st} (h : ∀ i store, s.stores[i]? = some store → s.changed i store.contents st = store.contents) :
      Transition b s st s
  | opened {view i store} (hv : s.storeOf? view = some (i, store)) :
      Transition b s (.iterate view) { s with cursors := s.cursors ++ [.start i] }
  | advanced {cursor c store x c'} (hc : s.cursorOf? cursor = some (c, store)) (hn : store.next b c = .ok (x, c')) :
      Transition b s (.next cursor) { s with cursors := s.cursors.set cursor c' }
  | drained {cursor c store c'} (hc : s.cursorOf? cursor = some (c, store)) (hd : store.drain b c = .ok c') :
      Transition b s (.drain cursor) { s with cursors := s.cursors.set cursor c' }
  | cloned {view i store} (hv : s.storeOf? view = some (i, store)) :
      Transition b s (.clone view) { s with views := s.views ++ [i] }
  | copied {view i store contents} (hv : s.storeOf? view = some (i, store)) (hr : store.read b id = .ok contents) :
      Transition b s (.copy view)
        { s with
          stores := s.stores ++ [Store.ofContents b contents]
          views := s.views ++ [s.stores.length] }
  | tampered {view i store change} (hv : s.storeOf? view = some (i, store)) :
      Transition b s (.tamper view change)
        { s with stores := s.stores.set i { store with contents := change store.contents } }
  | poisoned {view i store} (hv : s.storeOf? view = some (i, store)) :
      Transition b s (.poison view) { s with stores := s.stores.set i { store with poisoned := true } }
  | edited {change} : Transition b s (.editSource change) { s with source := change s.source }

theorem changed_of_absent {view : ℕ} (h : s.storeOf? view = none) (change : C → C) (i : ℕ) (store : Store C)
    (hs : s.stores[i]? = some store) : s.changed i store.contents (.tamper view change) = store.contents := by
  refine if_neg fun hv => ?_
  rw [storeOf?_eq_some_iff.2 ⟨hv, hs⟩] at h
  cases h

theorem transition_step (st : Step C α) : Transition b s st (s.step b st).1 := by
  cases st with
  | read view query =>
    simp only [step]
    split <;> exact .stay fun _ _ _ => rfl
  | mutate view m =>
    simp only [step]
    split <;> exact .stay fun _ _ _ => rfl
  | iterate view =>
    simp only [step]
    split
    · exact .stay fun _ _ _ => rfl
    · next hv =>
      split
      · exact .stay fun _ _ _ => rfl
      · exact .opened hv
  | next cursor =>
    simp only [step]
    split
    · exact .stay fun _ _ _ => rfl
    · next hc =>
      split
      · exact .stay fun _ _ _ => rfl
      · next hn => exact .advanced hc hn
  | hasNext cursor =>
    simp only [step]
    split <;> exact .stay fun _ _ _ => rfl
  | remaining cursor =>
    simp only [step]
    split <;> exact .stay fun _ _ _ => rfl
  | removeByCursor cursor =>
    simp only [step]
    split <;> exact .stay fun _ _ _ => rfl
  | drain cursor =>
    simp only [step]
    split
    · exact .stay fun _ _ _ => rfl
    · next hc =>
      split
      · exact .stay fun _ _ _ => rfl
      · next hd => exact .drained hc hd
  | traverse view =>
    simp only [step]
    split <;> exact .stay fun _ _ _ => rfl
  | inParallel view threads =>
    simp only [step]
    split <;> exact .stay fun _ _ _ => rfl
  | clone view =>
    simp only [step]
    split
    · exact .stay fun _ _ _ => rfl
    · next hv => exact .cloned hv
  | copy view =>
    simp only [step]
    split
    · exact .stay fun _ _ _ => rfl
    · next hv =>
      split
      · exact .stay fun _ _ _ => rfl
      · next hr => exact .copied hv hr
  | tamper view change =>
    simp only [step]
    split
    · next hv => exact .stay (changed_of_absent hv change)
    · next hv => exact .tampered hv
  | poison view =>
    simp only [step]
    split
    · exact .stay fun _ _ _ => rfl
    · next hv => exact .poisoned hv
  | editSource change => exact .edited

/-- Store `i` was made from `origin` and has come to hold `contents`. -/
def Holds (b : Backing C α) (s : Session C α) (i : ℕ) (origin contents : C) : Prop :=
  ∃ poisoned, s.stores[i]? = some ⟨contents, b.fingerprint origin, poisoned⟩

variable {i : ℕ} {origin contents : C}

theorem holds_start (b : Backing C α) (contents : C) : Holds b (start b contents) 0 contents contents :=
  ⟨false, rfl⟩

theorem Holds.step (h : Holds b s i origin contents) (st : Step C α) :
    Holds b (s.step b st).1 i origin (s.changed i contents st) := by
  obtain ⟨mark, hs⟩ := h
  have ht := transition_step (b := b) (s := s) st
  generalize (s.step b st).1 = t at ht ⊢
  cases ht with
  | stay hstay =>
    rw [hstay i _ hs]
    exact ⟨mark, hs⟩
  | opened | advanced | drained | cloned | edited => exact ⟨mark, hs⟩
  | copied => exact ⟨mark, (List.getElem?_append_left (List.getElem?_eq_some_iff.1 hs).1).trans hs⟩
  | @tampered view j store change hv =>
    obtain ⟨hview, hstore⟩ := storeOf?_eq_some_iff.1 hv
    by_cases hij : j = i
    · subst hij
      rw [hs] at hstore
      cases hstore
      rw [changed, if_pos hview]
      exact ⟨mark, List.getElem?_set_self (List.getElem?_eq_some_iff.1 hs).1⟩
    · have hother : s.views[view]? ≠ some i := fun h => hij (Option.some.inj (hview.symm.trans h))
      rw [changed, if_neg hother]
      exact ⟨mark, (List.getElem?_set_ne hij).trans hs⟩
  | @poisoned view j store hv =>
    obtain ⟨-, hstore⟩ := storeOf?_eq_some_iff.1 hv
    by_cases hij : j = i
    · subst hij
      rw [hs] at hstore
      cases hstore
      exact ⟨true, List.getElem?_set_self (List.getElem?_eq_some_iff.1 hs).1⟩
    · exact ⟨mark, (List.getElem?_set_ne hij).trans hs⟩

theorem Holds.run (h : Holds b s i origin contents) (steps : List (Step C α)) :
    Holds b (s.run b steps).1 i origin (s.contentsAfter b i contents steps) := by
  induction steps generalizing s contents with
  | nil => exact h
  | cons st steps ih =>
    rw [run_cons]
    exact ih (h.step st)

theorem views_step (st : Step C α) : s.views <+: (s.step b st).1.views := by
  have ht := transition_step (b := b) (s := s) st
  generalize (s.step b st).1 = t at ht ⊢
  cases ht with
  | stay | opened | advanced | drained | tampered | poisoned | edited => exact List.prefix_rfl
  | cloned | copied => exact List.prefix_append _ _

theorem views_run (steps : List (Step C α)) : s.views <+: (s.run b steps).1.views := by
  induction steps generalizing s with
  | nil => exact List.prefix_rfl
  | cons st steps ih =>
    rw [run_cons]
    exact (views_step st).trans ih

def cursorStores (s : Session C α) : List ℕ :=
  s.cursors.map Cursor.store

theorem cursorStores_set {cursor : ℕ} {c c' : Cursor α} (hc : s.cursors[cursor]? = some c)
    (hs : c'.store = c.store) : ({ s with cursors := s.cursors.set cursor c' } : Session C α).cursorStores =
      s.cursorStores :=
  map_set_of_eq hc hs

theorem cursorStores_step (st : Step C α) : s.cursorStores <+: (s.step b st).1.cursorStores := by
  have ht := transition_step (b := b) (s := s) st
  generalize (s.step b st).1 = t at ht ⊢
  cases ht with
  | stay | cloned | copied | tampered | poisoned | edited => exact List.prefix_rfl
  | opened =>
    rw [cursorStores, cursorStores, List.map_append]
    exact List.prefix_append _ _
  | advanced hc hn =>
    rw [cursorStores_set (cursorOf?_eq_some_iff.1 hc).1 (Store.store_of_next hn)]
  | drained hc hd =>
    rw [cursorStores_set (cursorOf?_eq_some_iff.1 hc).1 (Store.store_of_advance hd)]

theorem cursorStores_run (steps : List (Step C α)) : s.cursorStores <+: (s.run b steps).1.cursorStores := by
  induction steps generalizing s with
  | nil => exact List.prefix_rfl
  | cons st steps ih =>
    rw [run_cons]
    exact (cursorStores_step st).trans ih

end Session

end SealedLicense.View
