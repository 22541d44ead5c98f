import Mathlib
import SealedLicense.Proofs.View.Untampered

namespace SealedLicense.View

variable {α : Type} [DecidableEq α] {x : α} {xs : List α} {i : ℕ}

theorem idxOf?_eq_some_iff : xs.idxOf? x = some i ↔ xs[i]? = some x ∧ ∀ j < i, xs[j]? ≠ some x := by
  rw [List.idxOf?_eq_some_iff]
  constructor
  · rintro ⟨hi, hx, hfirst⟩
    refine ⟨List.getElem?_eq_some_iff.2 ⟨hi, hx⟩, fun j hj he => ?_⟩
    obtain ⟨_, hj'⟩ := List.getElem?_eq_some_iff.1 he
    exact hfirst j hj hj'
  · rintro ⟨hx, hfirst⟩
    obtain ⟨hi, hx⟩ := List.getElem?_eq_some_iff.1 hx
    refine ⟨hi, hx, fun j hj he => ?_⟩
    exact hfirst j hj (List.getElem?_eq_some_iff.2 ⟨hj.trans hi, he⟩)

theorem lastIndexOf?_eq_none_iff : lastIndexOf? x xs = none ↔ x ∉ xs := by
  induction xs with
  | nil => simp [lastIndexOf?]
  | cons y ys ih =>
    rw [lastIndexOf?, List.mem_cons, not_or]
    cases h : lastIndexOf? x ys with
    | some k => simp [← ih, h]
    | none => simp [ih.1 h, eq_comm]

theorem lastIndexOf?_cons_eq_some_zero_iff {y : α} : lastIndexOf? x (y :: xs) = some 0 ↔ y = x ∧ x ∉ xs := by
  rw [lastIndexOf?, ← lastIndexOf?_eq_none_iff]
  cases lastIndexOf? x xs <;> simp

theorem lastIndexOf?_cons_eq_some_succ_iff {y : α} :
    lastIndexOf? x (y :: xs) = some (i + 1) ↔ lastIndexOf? x xs = some i := by
  rw [lastIndexOf?]
  cases lastIndexOf? x xs <;> simp

theorem lastIndexOf?_eq_some_iff : lastIndexOf? x xs = some i ↔ xs[i]? = some x ∧ ∀ j, i < j → xs[j]? ≠ some x := by
  induction xs generalizing i with
  | nil => simp [lastIndexOf?]
  | cons y ys ih =>
    -- the head is the last one only where no other follows; further back the search is that of the tail
    cases i with
    | zero =>
      rw [lastIndexOf?_cons_eq_some_zero_iff, List.getElem?_cons_zero, Option.some.injEq]
      refine and_congr_right fun _ => ?_
      constructor
      · rintro hnone (_ | j) hj he
        · exact absurd hj (Nat.lt_irrefl 0)
        · exact hnone (List.mem_of_getElem? he)
      · intro hlast hmem
        obtain ⟨j, hj⟩ := List.mem_iff_getElem?.1 hmem
        exact hlast (j + 1) j.succ_pos hj
    | succ i =>
      rw [lastIndexOf?_cons_eq_some_succ_iff, ih, List.getElem?_cons_succ]
      refine and_congr_right fun _ => ?_
      constructor
      · rintro hlast (_ | j) hj
        · exact absurd hj (Nat.not_lt_zero _)
        · exact hlast j (Nat.lt_of_succ_lt_succ hj)
      · intro hlast j hj
        exact hlast (j + 1) (Nat.succ_lt_succ hj)

theorem isSome_idxOf?_iff : (xs.idxOf? x).isSome ↔ x ∈ xs := by
  rw [Option.isSome_iff_ne_none, Ne, List.idxOf?_eq_none_iff, not_not]

theorem isSome_lastIndexOf?_iff : (lastIndexOf? x xs).isSome ↔ x ∈ xs := by
  rw [Option.isSome_iff_ne_none, Ne, lastIndexOf?_eq_none_iff, not_not]

theorem idxOf?_le_lastIndexOf? {j : ℕ} (hi : xs.idxOf? x = some i) (hj : lastIndexOf? x xs = some j) : i ≤ j := by
  obtain ⟨hx, -⟩ := idxOf?_eq_some_iff.1 hi
  obtain ⟨-, hlast⟩ := lastIndexOf?_eq_some_iff.1 hj
  by_contra hlt
  exact hlast i (Nat.lt_of_not_le hlt) hx

namespace ListQuery

/-- All the answers are those of one list. The places where an element is found are told by the elements that stand at
each place. -/
structure Describes (ask : ListQuery α → Reply α) (xs : List α) : Prop where
  length : ask .length = .value (.count xs.length)
  elements : ask .elements = .value (.items xs)
  get : (List.range xs.length).map (fun i => ask (.get i)) = xs.map fun x => .value (.item (some x))
  get_beyond : ∀ i, xs.length ≤ i → ask (.get i) = .value (.item none)
  first : ask .first = ask (.get 0)
  last : ask .last = ask (.get (xs.length - 1))
  isEmpty : ask .isEmpty = .value (.flag (xs = []))
  first_none : ask .first = .value (.item none) ↔ ask .isEmpty = .value (.flag true)
  last_none : ask .last = .value (.item none) ↔ ask .isEmpty = .value (.flag true)
  indexOf : ∀ x, ∃ found, ask (.indexOf x) = .value (.position found) ∧ ∀ i, found = some i ↔
    ask (.get i) = .value (.item (some x)) ∧ ∀ j < i, ask (.get j) ≠ .value (.item (some x))
  lastIndexOf : ∀ x, ∃ found, ask (.lastIndexOf x) = .value (.position found) ∧ ∀ i, found = some i ↔
    ask (.get i) = .value (.item (some x)) ∧ ∀ j, i < j → ask (.get j) ≠ .value (.item (some x))
  contains : ∀ x, ∃ held front back, ask (.contains x) = .value (.flag held) ∧
    ask (.indexOf x) = .value (.position front) ∧ ask (.lastIndexOf x) = .value (.position back) ∧
    (held = true ↔ front.isSome) ∧ (held = true ↔ back.isSome) ∧ ∀ i ∈ front, ∀ j ∈ back, i ≤ j

theorem describes_answer (r : Rendering α) (xs : List α) : Describes (fun q => .value (q.answer r xs)) xs := by
  refine
    { length := rfl
      elements := rfl
      get := ?_
      get_beyond := fun i hi => ?_
      first := ?_
      last := ?_
      isEmpty := ?_
      first_none := ?_
      last_none := ?_
      indexOf := fun x => ⟨_, rfl, fun i => ?_⟩
      lastIndexOf := fun x => ⟨_, rfl, fun i => ?_⟩
      contains := fun x => ⟨_, _, _, rfl, rfl, rfl, ?_, ?_, fun i hi j hj => idxOf?_le_lastIndexOf? hi hj⟩ }
  · refine List.ext_getElem (by simp) fun i hi _ => ?_
    rw [List.length_map, List.length_range] at hi
    simp only [List.getElem_map, List.getElem_range, answer, List.getElem?_eq_getElem hi]
  · simp only [answer, List.getElem?_eq_none hi]
  · simp only [answer, List.head?_eq_getElem?]
  · simp only [answer, List.getLast?_eq_getElem?]
  · simp only [answer, List.length_eq_zero_iff]
  · simp [answer]
  · simp [answer]
  · simpa only [answer, Reply.value.injEq, Value.item.injEq, ne_eq] using idxOf?_eq_some_iff
  · simpa only [answer, Reply.value.injEq, Value.item.injEq, ne_eq] using lastIndexOf?_eq_some_iff
  · rw [decide_eq_true_iff, isSome_idxOf?_iff]
  · rw [decide_eq_true_iff, isSome_lastIndexOf?_iff]

end ListQuery

open Session

theorem list_view_is_its_list (hash : List α → UInt64) (r : Rendering α) :
    (∀ xs, (start (.list hash) xs).views[0]? = some 0 ∧ Holds (.list hash) (start (.list hash) xs) 0 xs xs) ∧
    ∀ {s i xs}, Holds (.list hash) s i xs xs →
      (∀ steps, Untampered steps →
        s.views <+: (s.run (.list hash) steps).1.views ∧ Holds (.list hash) (s.run (.list hash) steps).1 i xs xs) ∧
      ∀ view, s.views[view]? = some i →
        ListQuery.Describes (fun q => (s.step (.list hash) (.read view (q.answer r))).2) xs ∧
        Enumerates (.list hash) s view xs ∧
        ∃ j, (s.step (.list hash) (.copy view)).1.views = s.views ++ [j] ∧
          Holds (.list hash) (s.step (.list hash) (.copy view)).1 j xs xs := by
  refine ⟨fun xs => ⟨rfl, holds_start _ xs⟩, fun h => ⟨fun steps hsteps => ?_, fun view hv => ⟨?_, ?_, ?_⟩⟩⟩
  · exact ⟨views_run steps, h.run_untampered hsteps⟩
  · rw [h.asks rfl hv fun q => ListQuery.answer r q]
    exact ListQuery.describes_answer r _
  · exact h.enumerates rfl hv
  · exact h.guarded.copies hv rfl

theorem list_view_is_its_list_lookedAt :
    ListQuery.Describes (fun q => (((start Hashing.number.listBacking [3, 5, 3]).run
      Hashing.number.listBacking (lookedAt [])).1.step Hashing.number.listBacking (.read 1 (q.answer .number))).2)
        [3, 5, 3] ∧
    Enumerates Hashing.number.listBacking ((start Hashing.number.listBacking [3, 5, 3]).run
      Hashing.number.listBacking (lookedAt [])).1 1 [3, 5, 3] := by
  obtain ⟨hstart, hview⟩ := list_view_is_its_list Hashing.number.sequence .number
  obtain ⟨hrun, -⟩ := hview (hstart [3, 5, 3]).2
  obtain ⟨-, hafter⟩ := hrun _ (untampered_lookedAt [])
  obtain ⟨hanswers, hways, -⟩ := (hview hafter).2 1 (by decide +kernel)
  exact ⟨hanswers, hways⟩

end SealedLicense.View
