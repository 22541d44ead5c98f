import Mathlib
import SealedLicense.Proofs.View.Integrity

namespace SealedLicense.View

variable {C α : Type} {b : Backing C α}

def gained (cursor : ℕ) (got : List α) : Step C α → Reply α → List α
  | .next n, .value (.item (some x)) => if n = cursor then got ++ [x] else got
  | .drain n, .value (.items xs) => if n = cursor then xs else got
  | _, _ => got

def received (cursor : ℕ) : List α → List (Step C α) → List (Reply α) → List α
  | got, st :: steps, reply :: replies => received cursor (gained cursor got st reply) steps replies
  | got, _, _ => got

namespace Cursor

variable {xs : List α} {c : Cursor α} {x : α}

def behind (c : Cursor α) (x : α) : Cursor α :=
  { c with position := c.position + 1, yielded := c.yielded ++ [x] }

/-- The cursor has given out a front of the elements and stands right behind it. -/
def Follows (xs : List α) (c : Cursor α) : Prop :=
  c.yielded <+: xs ∧ c.position = c.yielded.length

theorem follows_start (xs : List α) (i : ℕ) : (start i).Follows xs :=
  ⟨List.nil_prefix, rfl⟩

theorem Follows.behind (h : c.Follows xs) (hx : xs[c.position]? = some x) : (c.behind x).Follows xs := by
  obtain ⟨⟨rest, rfl⟩, hp⟩ := h
  rw [hp, List.getElem?_append_right le_rfl, Nat.sub_self] at hx
  cases rest with
  | nil => cases hx
  | cons y rest =>
    cases hx
    refine ⟨⟨rest, ?_⟩, ?_⟩
    · rw [Cursor.behind, List.append_assoc, List.singleton_append]
    · rw [Cursor.behind, List.length_append, List.length_singleton, hp]

theorem Follows.yielded_eq (h : c.Follows xs) (hx : xs[c.position]? = none) : c.yielded = xs := by
  obtain ⟨hfront, hp⟩ := h
  rw [hp, List.getElem?_eq_none_iff] at hx
  exact hfront.eq_of_length_le hx

end Cursor

def KeptOver (xs : List α) (P : Cursor α → Prop) : Prop :=
  ∀ c x, P c → xs[c.position]? = some x → P (c.behind x)

theorem keptOver_follows (xs : List α) : KeptOver xs (Cursor.Follows xs) :=
  fun _ _ h hx => h.behind hx

theorem keptOver_yielded (xs ys : List α) : KeptOver xs fun c => ys <+: c.yielded :=
  fun _ _ h _ => List.IsPrefix.trans h (List.prefix_append _ _)

namespace Store

variable {store : Store C} {c c' : Cursor α} {P : Cursor α → Prop}

theorem cases_next {x : Option α} (h : store.next b c = .ok (x, c')) :
    b.fingerprint store.contents = store.recorded ∧ x = (b.elements store.contents)[c.position]? ∧
      ((∃ y, x = some y ∧ c' = c.behind y) ∨ x = none ∧ c' = c) := by
  obtain ⟨hf, hc⟩ := (read_eq_ok_iff b).1 h
  refine ⟨hf, ?_⟩
  split at hc
  · next y hy =>
    cases hc
    exact ⟨hy.symm, .inl ⟨y, rfl, rfl⟩⟩
  · next hy =>
    cases hc
    exact ⟨hy.symm, .inr ⟨rfl, rfl⟩⟩

theorem kept_of_next {x : Option α} (hP : KeptOver (b.elements store.contents) P) (h : P c)
    (hn : store.next b c = .ok (x, c')) : P c' := by
  obtain ⟨-, hx, ⟨y, rfl, rfl⟩ | ⟨rfl, rfl⟩⟩ := cases_next hn
  · exact hP c y h hx.symm
  · exact h

theorem kept_of_advance {left : ℕ} (hP : KeptOver (b.elements store.contents) P) (h : P c)
    (ha : store.advance b left c = .ok c') : P c' := by
  induction left generalizing c with
  | zero =>
    cases ha
    exact h
  | succ left ih =>
    simp only [advance] at ha
    split at ha
    · cases ha
    · next hn =>
      cases ha
      exact kept_of_next hP h hn
    · next hn => exact ih (kept_of_next hP h hn) ha

theorem recorded_of_drain (hd : store.drain b c = .ok c') : b.fingerprint store.contents = store.recorded := by
  by_contra hne
  rw [drain_of_ne hne] at hd
  cases hd

end Store

namespace Session

variable {s : Session C α} {i : ℕ} {origin contents : C} {P : Cursor α → Prop}

def OverStore (s : Session C α) (i : ℕ) (P : Cursor α → Prop) : Prop :=
  ∀ c ∈ s.cursors, c.store = i → P c

theorem overStore_of_notMem (h : i ∉ s.cursorStores) : s.OverStore i P := by
  intro c hc hi
  exact absurd (hi ▸ List.mem_map_of_mem hc) h

theorem OverStore.set (h : s.OverStore i P) {cursor : ℕ} {c : Cursor α} (hc : c.store = i → P c) :
    OverStore { s with cursors := s.cursors.set cursor c } i P := by
  intro d hd hi
  rcases List.mem_or_eq_of_mem_set hd with hd | rfl
  · exact h d hd hi
  · exact hc hi

theorem Holds.overStore_step (h : Holds b s i origin contents) (hstart : P (.start i))
    (hP : b.fingerprint contents = b.fingerprint origin → KeptOver (b.elements contents) P) (hc : s.OverStore i P)
    (st : Step C α) : (s.step b st).1.OverStore i P := by
  obtain ⟨mark, hs⟩ := h
  have ht := transition_step (b := b) (s := s) st
  generalize (s.step b st).1 = t at ht ⊢
  cases ht with
  | stay | cloned | copied | tampered | poisoned | edited => exact hc
  | @opened view j store hv =>
    intro c hmem hi
    rcases List.mem_append.1 hmem with hmem | hmem
    · exact hc c hmem hi
    · rw [List.mem_singleton.1 hmem] at hi ⊢
      cases hi
      exact hstart
  | @advanced cursor c store x c' hcursor hn =>
    obtain ⟨hat, hstore⟩ := cursorOf?_eq_some_iff.1 hcursor
    refine hc.set fun hi => ?_
    rw [Store.store_of_next hn] at hi
    subst hi
    cases hs.symm.trans hstore
    exact Store.kept_of_next (hP (Store.cases_next hn).1) (hc c (List.mem_of_getElem? hat) rfl) hn
  | @drained cursor c store c' hcursor hd =>
    obtain ⟨hat, hstore⟩ := cursorOf?_eq_some_iff.1 hcursor
    refine hc.set fun hi => ?_
    rw [Store.store_of_advance hd] at hi
    subst hi
    cases hs.symm.trans hstore
    exact Store.kept_of_advance (hP (Store.recorded_of_drain hd)) (hc c (List.mem_of_getElem? hat) rfl) hd

def Along (b : Backing C α) (s : Session C α) (i : ℕ) (contents : C) (steps : List (Step C α)) (Q : C → Prop) : Prop :=
  ∀ front, front <+: steps → Q (s.contentsAfter b i contents front)

theorem along_cons {st : Step C α} {steps : List (Step C α)} {Q : C → Prop} :
    Along b s i contents (st :: steps) Q ↔
      Q contents ∧ Along b (s.step b st).1 i (s.changed i contents st) steps Q := by
  constructor
  · intro h
    refine ⟨h [] List.nil_prefix, fun front hfront => ?_⟩
    exact h (st :: front) ((List.prefix_cons_inj st).2 hfront)
  · rintro ⟨hnow, hlater⟩ front hfront
    rcases List.prefix_cons_iff.1 hfront with rfl | ⟨rest, rfl, hrest⟩
    · exact hnow
    · exact hlater rest hrest

theorem along_nil {Q : C → Prop} : Along b s i contents [] Q ↔ Q contents := by
  constructor
  · intro h
    exact h [] List.prefix_rfl
  · rintro h front hfront
    rw [List.prefix_nil.1 hfront]
    exact h

instance decidableAlong (b : Backing C α) (i : ℕ) (Q : C → Prop) [DecidablePred Q] :
    (steps : List (Step C α)) → (s : Session C α) → (contents : C) → Decidable (Along b s i contents steps Q)
  | [], _, _ => decidable_of_iff _ along_nil.symm
  | st :: steps, s, contents =>
      have := decidableAlong b i Q steps (s.step b st).1 (s.changed i contents st)
      decidable_of_iff _ along_cons.symm

theorem Along.imp {steps : List (Step C α)} {Q R : C → Prop} (h : Along b s i contents steps Q)
    (hQR : ∀ now, Q now → R now) : Along b s i contents steps R :=
  fun front hfront => hQR _ (h front hfront)

theorem Holds.overStore_run (h : Holds b s i origin contents) (hstart : P (.start i)) (hc : s.OverStore i P)
    {steps : List (Step C α)} (hP : Along b s i contents steps fun now =>
      b.fingerprint now = b.fingerprint origin → KeptOver (b.elements now) P) :
    (s.run b steps).1.OverStore i P := by
  induction steps generalizing s contents with
  | nil => exact hc
  | cons st steps ih =>
    obtain ⟨hnow, hlater⟩ := along_cons.1 hP
    rw [run_cons]
    exact ih (h.step st) (h.overStore_step hstart hnow hc st) hlater

def yieldedBy (s : Session C α) (cursor : ℕ) : List α :=
  (s.cursors[cursor]?.map Cursor.yielded).getD []

theorem yieldedBy_of_notMem (h : i ∉ s.cursorStores) {cursor : ℕ} {steps : List (Step C α)}
    (hi : (s.run b steps).1.cursorStores[cursor]? = some i) : s.yieldedBy cursor = [] := by
  -- a cursor that was there before would stand over store `i` from the beginning
  have hnone : s.cursors[cursor]? = none := by
    rw [List.getElem?_eq_none_iff]
    by_contra hlt
    obtain ⟨opened, hopened⟩ := cursorStores_run (b := b) (s := s) steps
    rw [← hopened, List.getElem?_append_left (by rw [cursorStores, List.length_map]; omega)] at hi
    exact h (List.mem_of_getElem? hi)
  rw [yieldedBy, hnone]
  rfl

theorem yieldedBy_of_getElem? {cursor : ℕ} {c : Cursor α} (hc : s.cursors[cursor]? = some c) :
    s.yieldedBy cursor = c.yielded := by
  rw [yieldedBy, hc]
  rfl

theorem yieldedBy_start (s : Session C α) (i cursor : ℕ) :
    ({ s with cursors := s.cursors ++ [.start i] } : Session C α).yieldedBy cursor = s.yieldedBy cursor := by
  simp only [yieldedBy]
  rcases Nat.lt_or_ge cursor s.cursors.length with hlt | hge
  · rw [List.getElem?_append_left hlt]
  · rw [List.getElem?_append_right hge, List.getElem?_eq_none hge]
    rcases Nat.eq_zero_or_pos (cursor - s.cursors.length) with hz | hpos
    · rw [hz]
      rfl
    · rw [List.getElem?_eq_none (by rw [List.length_singleton]; exact hpos)]

theorem yieldedBy_set {n : ℕ} {c : Cursor α} (hc : s.cursors[n]? = some c) (c' : Cursor α) (cursor : ℕ) :
    ({ s with cursors := s.cursors.set n c' } : Session C α).yieldedBy cursor =
      if n = cursor then c'.yielded else s.yieldedBy cursor := by
  simp only [yieldedBy]
  split
  · next h =>
    subst h
    rw [List.getElem?_set_self (List.getElem?_eq_some_iff.1 hc).1]
    rfl
  · next h => rw [List.getElem?_set_ne h]

theorem yieldedBy_step (cursor : ℕ) (st : Step C α) :
    (s.step b st).1.yieldedBy cursor = gained cursor (s.yieldedBy cursor) st (s.step b st).2 := by
  cases st with
  | read view _ | mutate view _ | traverse view | inParallel view _ | clone view | tamper view _ | poison view
  | hasNext view | remaining view | removeByCursor view =>
    simp only [step]
    split <;> rfl
  | editSource change => rfl
  | copy view =>
    simp only [step]
    split
    · rfl
    · split <;> rfl
  | iterate view =>
    simp only [step]
    split
    · rfl
    · split
      · rfl
      · exact yieldedBy_start s _ cursor
  | next n =>
    simp only [step]
    split
    · rfl
    · next c store hc =>
      have hat := (cursorOf?_eq_some_iff.1 hc).1
      split
      · rfl
      · next x c' hn =>
        rw [yieldedBy_set hat]
        obtain ⟨-, -, ⟨y, rfl, rfl⟩ | ⟨rfl, rfl⟩⟩ := Store.cases_next hn
        · simp only [gained]
          split
          · next h =>
            subst h
            rw [yieldedBy_of_getElem? hat, Cursor.behind]
          · rfl
        · refine ite_eq_right_iff.2 fun h => ?_
          subst h
          exact (yieldedBy_of_getElem? hat).symm
  | drain n =>
    simp only [step]
    split
    · rfl
    · next c store hc =>
      split
      · rfl
      · next c' hd => exact yieldedBy_set (cursorOf?_eq_some_iff.1 hc).1 c' cursor

theorem received_run (cursor : ℕ) (steps : List (Step C α)) :
    received cursor (s.yieldedBy cursor) steps (s.run b steps).2 = (s.run b steps).1.yieldedBy cursor := by
  induction steps generalizing s with
  | nil => rfl
  | cons st steps ih => rw [run_cons, received, ← yieldedBy_step, ih]

theorem yieldedBy_run (hnone : i ∉ s.cursorStores) {steps : List (Step C α)} {cursor : ℕ}
    (hi : (s.run b steps).1.cursorStores[cursor]? = some i) :
    (s.run b steps).1.yieldedBy cursor = received cursor [] steps (s.run b steps).2 := by
  rw [← received_run, yieldedBy_of_notMem hnone hi]

theorem yieldedBy_prefix_set {n : ℕ} {c c' : Cursor α} (hc : s.cursors[n]? = some c) (h : c.yielded <+: c'.yielded)
    (cursor : ℕ) :
    s.yieldedBy cursor <+: ({ s with cursors := s.cursors.set n c' } : Session C α).yieldedBy cursor := by
  rw [yieldedBy_set hc]
  split
  · next he =>
    rw [← he, yieldedBy_of_getElem? hc]
    exact h
  · exact List.prefix_rfl

theorem yieldedBy_prefix_step (cursor : ℕ) (st : Step C α) :
    s.yieldedBy cursor <+: (s.step b st).1.yieldedBy cursor := by
  have ht := transition_step (b := b) (s := s) st
  generalize (s.step b st).1 = t at ht ⊢
  cases ht with
  | stay | cloned | copied | tampered | poisoned | edited => exact List.prefix_rfl
  | opened => rw [yieldedBy_start]
  | advanced hc hn =>
    exact yieldedBy_prefix_set (cursorOf?_eq_some_iff.1 hc).1
      (Store.kept_of_next (keptOver_yielded _ _) List.prefix_rfl hn) cursor
  | drained hc hd =>
    exact yieldedBy_prefix_set (cursorOf?_eq_some_iff.1 hc).1
      (Store.kept_of_advance (keptOver_yielded _ _) List.prefix_rfl hd) cursor

theorem yieldedBy_prefix_run (cursor : ℕ) (steps : List (Step C α)) :
    s.yieldedBy cursor <+: (s.run b steps).1.yieldedBy cursor := by
  induction steps generalizing s with
  | nil => exact List.prefix_rfl
  | cons st steps ih =>
    rw [run_cons]
    exact (yieldedBy_prefix_step cursor st).trans ih

theorem cursor_of_cursorStores {cursor : ℕ} (h : s.cursorStores[cursor]? = some i) :
    ∃ c, s.cursors[cursor]? = some c ∧ c.store = i := by
  rw [cursorStores, List.getElem?_map, Option.map_eq_some_iff] at h
  exact h

theorem Holds.fingerprint_eq_of_answer (h : Holds b s i origin contents) {cursor : ℕ}
    (hi : s.cursorStores[cursor]? = some i) {v : Value α} (hv : (s.step b (.next cursor)).2 = .value v) :
    b.fingerprint contents = b.fingerprint origin := by
  obtain ⟨c, hat, hci⟩ := cursor_of_cursorStores hi
  by_contra hne
  rw [(Reads.next hat hci).step_eq_fault h hne] at hv
  cases hv

theorem Holds.received_of_end (h : Holds b s i origin contents) {xs : List α} (hc : s.OverStore i (Cursor.Follows xs))
    {cursor : ℕ} (hi : s.cursorStores[cursor]? = some i)
    (hnow : b.fingerprint contents = b.fingerprint origin → b.elements contents = xs)
    (hend : (s.step b (.next cursor)).2 = .value (.item none)) : s.yieldedBy cursor = xs := by
  have he := h.fingerprint_eq_of_answer hi hend
  obtain ⟨c, hat, hci⟩ := cursor_of_cursorStores hi
  rw [(Reads.next hat hci).reply_eq h he] at hend
  injection hend with hend
  injection hend with hend
  rw [hnow he] at hend
  rw [yieldedBy_of_getElem? hat]
  exact (hc c (List.mem_of_getElem? hat) hci).yielded_eq hend

theorem Holds.overStore_follows (h : Holds b s i origin contents) {xs : List α} (hc : s.OverStore i (Cursor.Follows xs))
    {steps : List (Step C α)}
    (hP : Along b s i contents steps fun now => b.fingerprint now = b.fingerprint origin → b.elements now = xs) :
    (s.run b steps).1.OverStore i (Cursor.Follows xs) := by
  refine h.overStore_run (Cursor.follows_start xs i) hc (hP.imp fun now hnow he => ?_)
  rw [hnow he]
  exact keptOver_follows xs

theorem OverStore.yieldedBy_front {xs : List α} (hc : s.OverStore i (Cursor.Follows xs)) {cursor : ℕ}
    (hi : s.cursorStores[cursor]? = some i) : s.yieldedBy cursor <+: xs := by
  obtain ⟨c, hat, hci⟩ := cursor_of_cursorStores hi
  rw [yieldedBy_of_getElem? hat]
  exact (hc c (List.mem_of_getElem? hat) hci).1

theorem Holds.received_in_order (h : Holds b s i origin contents) (hnone : i ∉ s.cursorStores) {xs : List α}
    {steps : List (Step C α)} {t : Session C α} {now : C} (ht : (s.run b steps).1 = t)
    (hnow : s.contentsAfter b i contents steps = now)
    (horder : Along b s i contents steps fun now => b.fingerprint now = b.fingerprint origin → b.elements now = xs)
    {cursor : ℕ} (hi : t.cursorStores[cursor]? = some i) {got : List α}
    (hgot : received cursor [] steps (s.run b steps).2 = got) :
    got <+: xs ∧
      ((t.step b (.next cursor)).2 = .value (.item none) → got = xs ∧
        ∀ later, (Along b t i now later fun now => b.fingerprint now = b.fingerprint origin → b.elements now = xs) →
          received cursor got later (t.run b later).2 = xs) := by
  subst ht hnow
  have hyielded : (s.run b steps).1.yieldedBy cursor = got := (yieldedBy_run hnone hi).trans hgot
  have hfollows := h.overStore_follows (overStore_of_notMem hnone) horder
  refine ⟨hyielded ▸ hfollows.yieldedBy_front hi, fun hend => ?_⟩
  have hwhole := (h.run steps).received_of_end hfollows hi (horder steps List.prefix_rfl) hend
  refine ⟨hyielded.symm.trans hwhole, fun later hlater => ?_⟩
  -- what is got only grows, and stays a front of the elements, which it already is as a whole
  have hstays : ((s.run b steps).1.run b later).1.cursorStores[cursor]? = some i := by
    obtain ⟨opened, hopened⟩ := cursorStores_run (b := b) (s := (s.run b steps).1) later
    rw [← hopened, List.getElem?_append_left (List.getElem?_eq_some_iff.1 hi).1]
    exact hi
  have hfront := ((h.run steps).overStore_follows hfollows hlater).yieldedBy_front hstays
  have hgrows := yieldedBy_prefix_run (b := b) (s := (s.run b steps).1) cursor later
  rw [hwhole] at hgrows
  rw [← hyielded, received_run]
  exact (hfront.eq_of_length_le hgrows.length_le)

end Session

open Session

theorem list_iteration_in_order (hash : List α → UInt64) :
    (∀ origin, Holds (.list hash) (start (.list hash) origin) 0 origin origin ∧
      0 ∉ (start (.list hash) origin).cursorStores) ∧
    ∀ {s i origin contents}, Holds (.list hash) s i origin contents → i ∉ s.cursorStores →
      ∀ steps t now, (s.run (.list hash) steps).1 = t → s.contentsAfter (.list hash) i contents steps = now →
        (Along (.list hash) s i contents steps fun now =>
          (Backing.list hash).fingerprint now = (Backing.list hash).fingerprint origin → now = origin) →
        ∀ cursor got, t.cursorStores[cursor]? = some i →
          received cursor [] steps (s.run (.list hash) steps).2 = got →
            got <+: origin ∧
            (∀ st fault, (t.step (.list hash) st).2 = .fault fault → (t.step (.list hash) st).1 = t) ∧
            ((t.step (.list hash) (.next cursor)).2 = .value (.item none) → got = origin ∧
              ∀ later, (Along (.list hash) t i now later fun now =>
                (Backing.list hash).fingerprint now = (Backing.list hash).fingerprint origin → now = origin) →
                received cursor got later (t.run (.list hash) later).2 = origin) := by
  refine ⟨fun origin => ⟨holds_start _ origin, List.not_mem_nil⟩, ?_⟩
  intro s i origin contents h hnone steps t now ht hnow hgenuine cursor got hi hgot
  obtain ⟨hfront, hend⟩ := h.received_in_order hnone ht hnow hgenuine hi hgot
  exact ⟨hfront, fun st fault hf => step_of_fault hf, hend⟩

def turnedBack : List (Step (List ℤ) ℤ) :=
  turned ++ [.next 0, .tamper 1 List.reverse, .next 0, .hasNext 0, .next 0]

def turnedTwice : List (Step (List ℤ) ℤ) :=
  [.tamper 0 List.reverse, .next 0, .tamper 1 List.reverse, .next 0]

theorem list_iteration_in_order_turnedBack :
    received 0 [] turnedBack ((start Hashing.number.listBacking [1, 2, 3]).run Hashing.number.listBacking turnedBack).2 =
      [1, 2, 3] ∧
    received 0 [1, 2, 3] turnedTwice
      (((start Hashing.number.listBacking [1, 2, 3]).run Hashing.number.listBacking turnedBack).1.run
        Hashing.number.listBacking turnedTwice).2 = [1, 2, 3] := by
  obtain ⟨hstart, hrun⟩ := list_iteration_in_order Hashing.number.sequence
  obtain ⟨hholds, hnone⟩ := hstart [1, 2, 3]
  have hall : received 0 [] turnedBack
      ((start Hashing.number.listBacking [1, 2, 3]).run Hashing.number.listBacking turnedBack).2 = [1, 2, 3] := by
    decide +kernel
  obtain ⟨-, -, hend⟩ := hrun hholds hnone turnedBack _ _ rfl rfl (by decide +kernel) 0 _ (by decide +kernel) hall
  obtain ⟨-, hlater⟩ := hend (by decide +kernel)
  exact ⟨hall, hlater turnedTwice (by decide +kernel)⟩

end SealedLicense.View
