import Mathlib
import SealedLicense.Proofs.View.Iteration

namespace SealedLicense.View

variable {C α : Type} {b : Backing C α}

inductive Mutator.Named : Mutator α → String → Prop
  | add (x : α) : Named (.add x) "add"
  | addAll (xs : List α) : Named (.addAll xs) "add_all"
  | remove (x : α) : Named (.remove x) "remove"
  | retain (keep : α → Bool) : Named (.retain keep) "retain"
  | clear : Named .clear "clear"
  | set (i : ℕ) (x : α) : Named (.set i x) "set"
  | insert (i : ℕ) (x : α) : Named (.insert i x) "insert"
  | removeAt (i : ℕ) : Named (.removeAt i) "remove_at"

theorem Mutator.Named.refusal_eq {m : Mutator α} {operation : String} (h : m.Named operation) :
    m.refusal = ⟨operation⟩ := by
  cases h <;> rfl

inductive Step.Mutates : Step C α → Prop
  | mutate (view : ℕ) (m : Mutator α) : Mutates (.mutate view m)
  | removeByCursor (cursor : ℕ) : Mutates (.removeByCursor cursor)

def kept {A : Type} (marked : List (A × Bool)) : List A :=
  (marked.filter Prod.snd).map Prod.fst

theorem kept_cons_true {A : Type} (x : A) (marked : List (A × Bool)) : kept ((x, true) :: marked) = x :: kept marked :=
  rfl

theorem kept_cons_false {A : Type} (x : A) (marked : List (A × Bool)) : kept ((x, false) :: marked) = kept marked :=
  rfl

theorem gained_of_mutates {st : Step C α} (h : st.Mutates) (cursor : ℕ) (got : List α) (reply : Reply α) :
    gained cursor got st reply = got := by
  cases h <;> rfl

namespace Session

variable {s : Session C α} {st : Step C α}

structure Founded (s : Session C α) : Prop where
  views : ∀ i ∈ s.views, i < s.stores.length
  cursors : ∀ i ∈ s.cursorStores, i < s.stores.length

theorem founded_start (b : Backing C α) (contents : C) : (start b contents).Founded := by
  refine ⟨fun i hi => ?_, fun i hi => absurd hi List.not_mem_nil⟩
  rw [List.mem_singleton.1 hi]
  exact Nat.one_pos

theorem store_lt {view i : ℕ} {store : Store C} (h : s.storeOf? view = some (i, store)) : i < s.stores.length :=
  (List.getElem?_eq_some_iff.1 (storeOf?_eq_some_iff.1 h).2).1

theorem Founded.step (h : s.Founded) (st : Step C α) : (s.step b st).1.Founded := by
  have ht := transition_step (b := b) (s := s) st
  generalize (s.step b st).1 = t at ht ⊢
  cases ht with
  | stay | edited => exact ⟨h.views, h.cursors⟩
  | opened hv =>
    have hlt := store_lt hv
    refine ⟨h.views, ?_⟩
    rw [cursorStores, List.map_append]
    exact List.forall_mem_append.2 ⟨h.cursors, List.forall_mem_singleton.2 hlt⟩
  | advanced hc hn =>
    refine ⟨h.views, ?_⟩
    rw [cursorStores_set (cursorOf?_eq_some_iff.1 hc).1 (Store.store_of_next hn)]
    exact h.cursors
  | drained hc hd =>
    refine ⟨h.views, ?_⟩
    rw [cursorStores_set (cursorOf?_eq_some_iff.1 hc).1 (Store.store_of_advance hd)]
    exact h.cursors
  | cloned hv =>
    have hlt := store_lt hv
    exact ⟨List.forall_mem_append.2 ⟨h.views, List.forall_mem_singleton.2 hlt⟩, h.cursors⟩
  | copied =>
    refine ⟨List.forall_mem_append.2 ⟨fun i hi => ?_, List.forall_mem_singleton.2 ?_⟩, fun i hi => ?_⟩
    all_goals rw [List.length_append, List.length_singleton]
    · exact Nat.lt_succ_of_lt (h.views i hi)
    · exact Nat.lt_succ_self _
    · exact Nat.lt_succ_of_lt (h.cursors i hi)
  | tampered | poisoned =>
    constructor
    all_goals rw [List.length_set]
    · exact h.views
    · exact h.cursors

theorem Founded.run (h : s.Founded) (steps : List (Step C α)) : (s.run b steps).1.Founded := by
  induction steps generalizing s with
  | nil => exact h
  | cons st steps ih =>
    rw [run_cons]
    exact ih (h.step st)

theorem Founded.exists_storeOf? (h : s.Founded) {view : ℕ} (hv : view < s.views.length) :
    ∃ found, s.storeOf? view = some found := by
  have hi := h.views _ (List.getElem_mem hv)
  exact ⟨_, storeOf?_eq_some_iff.2 ⟨List.getElem?_eq_getElem hv, List.getElem?_eq_getElem hi⟩⟩

theorem Founded.exists_cursorOf? (h : s.Founded) {cursor : ℕ} (hc : cursor < s.cursors.length) :
    ∃ found, s.cursorOf? cursor = some found := by
  have hi := h.cursors _ (List.mem_map_of_mem (List.getElem_mem hc))
  exact ⟨_, cursorOf?_eq_some_iff.2 ⟨List.getElem?_eq_getElem hc, List.getElem?_eq_getElem hi⟩⟩

inductive Refused (s : Session C α) : Step C α → String → Prop
  | mutate {view m operation} (hv : view < s.views.length) (hm : m.Named operation) :
      Refused s (.mutate view m) operation
  | removeByCursor {cursor} (hc : cursor < s.cursors.length) : Refused s (.removeByCursor cursor) "iterator remove"

theorem Founded.step_refused (h : s.Founded) {operation : String} (hr : s.Refused st operation) :
    s.step b st = (s, .unsupported ⟨operation⟩) := by
  cases hr with
  | mutate hv hm =>
    obtain ⟨found, hfound⟩ := h.exists_storeOf? hv
    simp only [Session.step, hfound, hm.refusal_eq]
  | removeByCursor hc =>
    obtain ⟨found, hfound⟩ := h.exists_cursorOf? hc
    simp only [Session.step, hfound, Unsupported.byCursor]

theorem step_of_mutates (h : st.Mutates) : (s.step b st).1 = s := by
  cases h with
  | mutate | removeByCursor =>
    simp only [step]
    split <;> rfl

theorem run_kept {marked : List (Step C α × Bool)} (h : ∀ st, (st, false) ∈ marked → st.Mutates) :
    s.run b (kept marked) =
      ((s.run b (marked.map Prod.fst)).1, kept ((s.run b (marked.map Prod.fst)).2.zip (marked.map Prod.snd))) := by
  induction marked generalizing s with
  | nil => rfl
  | cons entry marked ih =>
    obtain ⟨st, keep⟩ := entry
    have hrest : ∀ st, (st, false) ∈ marked → st.Mutates := fun st hst => h st (List.mem_cons_of_mem _ hst)
    rw [List.map_cons, List.map_cons, run_cons, List.zip_cons_cons]
    cases keep with
    | true => rw [kept_cons_true, kept_cons_true, run_cons, ih hrest]
    | false =>
      rw [kept_cons_false, kept_cons_false, step_of_mutates (h st List.mem_cons_self)]
      exact ih hrest

theorem received_kept {marked : List (Step C α × Bool)} (h : ∀ st, (st, false) ∈ marked → st.Mutates) (cursor : ℕ)
    (got : List α) :
    received cursor got (kept marked) (s.run b (kept marked)).2 =
      received cursor got (marked.map Prod.fst) (s.run b (marked.map Prod.fst)).2 := by
  induction marked generalizing s got with
  | nil => rfl
  | cons entry marked ih =>
    obtain ⟨st, keep⟩ := entry
    have hrest : ∀ st, (st, false) ∈ marked → st.Mutates := fun st hst => h st (List.mem_cons_of_mem _ hst)
    rw [List.map_cons, run_cons, received]
    cases keep with
    | true =>
      rw [kept_cons_true, run_cons, received]
      exact ih hrest _
    | false =>
      have hst := h st List.mem_cons_self
      rw [kept_cons_false, gained_of_mutates hst, step_of_mutates hst]
      exact ih hrest got

end Session

open Session

theorem mutators_inert (b : Backing C α) (origin : C) (steps : List (Step C α)) (t : Session C α)
    (ht : ((start b origin).run b steps).1 = t) :
    (∀ st operation, t.Refused st operation → t.step b st = (t, .unsupported ⟨operation⟩)) ∧
    ∀ marked : List (Step C α × Bool), (∀ st, (st, false) ∈ marked → st.Mutates) →
      ∀ last replies, t.run b (marked.map Prod.fst) = (last, replies) →
        t.run b (kept marked) = (last, kept (replies.zip (marked.map Prod.snd))) ∧
        ∀ cursor got, received cursor got (kept marked) (kept (replies.zip (marked.map Prod.snd))) =
          received cursor got (marked.map Prod.fst) replies := by
  subst ht
  have hfounded : ((start b origin).run b steps).1.Founded := (founded_start b origin).run steps
  refine ⟨fun st operation hr => hfounded.step_refused hr, fun marked hmarked last replies hrun => ?_⟩
  have hkept := run_kept (b := b) (s := ((start b origin).run b steps).1) hmarked
  rw [hrun] at hkept
  refine ⟨hkept, fun cursor got => ?_⟩
  have hreceived := received_kept (b := b) (s := ((start b origin).run b steps).1) hmarked cursor got
  rw [hkept, hrun] at hreceived
  exact hreceived

def cloned : Session (List ℤ) ℤ :=
  ((start Hashing.number.listBacking [1, 2, 3]).run Hashing.number.listBacking [.clone 0, .iterate 0]).1

def refusedBetween : List (Step (List ℤ) ℤ × Bool) :=
  [(.next 0, true), (.mutate 0 (.add 4), false), (.tamper 0 List.tail, true), (.mutate 1 (.set 0 9), false),
    (.next 0, true), (.removeByCursor 0, false), (.tamper 0 (1 :: ·), true), (.mutate 1 .clear, false), (.next 0, true)]

theorem mutators_inert_refusedBetween :
    cloned.step Hashing.number.listBacking (.mutate 1 (.removeAt 0)) = (cloned, .unsupported ⟨"remove_at"⟩) ∧
    (cloned.run Hashing.number.listBacking (refusedBetween.map Prod.fst)).2 =
      [.value (.item (some 1)), .unsupported ⟨"add"⟩, .contentsSize 2, .unsupported ⟨"set"⟩, .fault ⟨3, 2⟩,
        .unsupported ⟨"iterator remove"⟩, .contentsSize 3, .unsupported ⟨"clear"⟩, .value (.item (some 2))] ∧
    (cloned.run Hashing.number.listBacking (kept refusedBetween)).2 =
      [.value (.item (some 1)), .contentsSize 2, .fault ⟨3, 2⟩, .contentsSize 3, .value (.item (some 2))] := by
  obtain ⟨hrefused, hkept⟩ :=
    mutators_inert Hashing.number.listBacking [1, 2, 3] [.clone 0, .iterate 0] cloned rfl
  have hmarked : ∀ st, (st, false) ∈ refusedBetween → st.Mutates := by
    intro st hst
    simp only [refusedBetween, List.mem_cons, List.not_mem_nil, Prod.mk.injEq, Bool.false_eq_true, and_false, and_true,
      or_false, false_or] at hst
    rcases hst with rfl | rfl | rfl | rfl
    · exact .mutate 0 _
    · exact .mutate 1 _
    · exact .removeByCursor 0
    · exact .mutate 1 _
  have hwhole : (cloned.run Hashing.number.listBacking (refusedBetween.map Prod.fst)).2 =
      [.value (.item (some 1)), .unsupported ⟨"add"⟩, .contentsSize 2, .unsupported ⟨"set"⟩, .fault ⟨3, 2⟩,
        .unsupported ⟨"iterator remove"⟩, .contentsSize 3, .unsupported ⟨"clear"⟩, .value (.item (some 2))] := by
    decide +kernel
  refine ⟨hrefused _ _ (.mutate (by decide +kernel) (.removeAt 0)), hwhole, ?_⟩
  rw [(hkept refusedBetween hmarked _ _ Prod.mk.eta.symm).1, hwhole]
  rfl

end SealedLicense.View
