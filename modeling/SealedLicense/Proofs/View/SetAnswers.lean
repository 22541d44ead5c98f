import Mathlib
import SealedLicense.Proofs.View.Untampered

namespace SealedLicense.View

variable {α : Type}

namespace ElementSet

variable {s : ElementSet α} {items items' : List α}

def Collects (s : ElementSet α) (items : List α) : Prop :=
  ∀ x, x ∈ s ↔ x ∈ items

theorem Collects.of_same (h : s.Collects items) (hitems : ∀ x, x ∈ items ↔ x ∈ items') : s.Collects items' :=
  fun x => (h x).trans (hitems x)

variable [DecidableEq α]

theorem collects_ofList (layout : Layout α) (items : List α) : (ofList layout items).Collects items :=
  fun _ => mem_ofList

theorem Collects.toFinset_eq (h : s.Collects items) : s.toList.toFinset = items.toFinset := by
  ext x
  rw [List.mem_toFinset, List.mem_toFinset]
  exact h x

theorem Collects.size_eq (h : s.Collects items) : s.size = items.toFinset.card := by
  rw [← h.toFinset_eq, List.toFinset_card_of_nodup s.nodup, size]

theorem Collects.all_mem_eq (h : s.Collects items) (other : List α) :
    s.toList.all (· ∈ other) = decide (∀ x ∈ items, x ∈ other) := by
  rw [Bool.eq_iff_iff, decide_eq_true_iff]
  simp only [List.all_eq_true, decide_eq_true_eq]
  exact forall_congr' fun x => imp_congr_left (h x)

end ElementSet

variable [DecidableEq α]

namespace SetQuery

inductive Unordered : SetQuery α → Prop where
  | size : Unordered .size
  | isEmpty : Unordered .isEmpty
  | contains (x : α) : Unordered (.contains x)
  | isSubset (other : List α) : Unordered (.isSubset other)

/-- All the answers are those of the set of some items; `shown` are its elements in the order of the enumeration. -/
structure Describes (ask : SetQuery α → Reply α) (items shown : List α) : Prop where
  contains : ∀ x, ask (.contains x) = .value (.flag (x ∈ items))
  size : ask .size = .value (.count items.toFinset.card)
  isEmpty : ask .isEmpty = .value (.flag (items = []))
  elements : ask .elements = .value (.items shown)
  nodup : shown.Nodup
  length : shown.length = items.toFinset.card
  mem_iff : ∀ x, x ∈ shown ↔ x ∈ items
  toSet : ∃ copied, ask .toSet = .value (.items copied) ∧ copied.Nodup ∧ copied.toFinset = items.toFinset
  isSubset : ∀ other, ask (.isSubset other) = .value (.flag (∀ x ∈ items, x ∈ other))

theorem describes_answer (r : Rendering α) {s : ElementSet α} {items : List α} (h : s.Collects items) :
    Describes (fun q => .value (q.answer r s)) items s.toList := by
  refine
    { contains := fun x => ?_
      size := ?_
      isEmpty := ?_
      elements := rfl
      nodup := s.nodup
      length := h.size_eq
      mem_iff := h
      toSet := ⟨_, rfl, s.nodup, h.toFinset_eq⟩
      isSubset := fun other => ?_ }
  · simp only [answer, h x]
  · simp only [answer, h.size_eq]
  · simp [answer, h.size_eq]
  · simp only [answer, h.all_mem_eq other]

theorem Unordered.eq_of_describes {q : SetQuery α} (hq : Unordered q) {ask ask' : SetQuery α → Reply α}
    {items shown shown' : List α} (h : Describes ask items shown) (h' : Describes ask' items shown') :
    ask q = ask' q := by
  cases hq with
  | size => exact h.size.trans h'.size.symm
  | isEmpty => exact h.isEmpty.trans h'.isEmpty.symm
  | contains x => exact (h.contains x).trans (h'.contains x).symm
  | isSubset other => exact (h.isSubset other).trans (h'.isSubset other).symm

end SetQuery

open Session

theorem Session.Holds.describes_set {hash : α → UInt64} {s : Session (ElementSet α) α} {i view : ℕ} {set : ElementSet α}
    {items : List α} (h : Holds (.set hash) s i set set) (hc : set.Collects items) (hv : s.views[view]? = some i)
    (r : Rendering α) :
    SetQuery.Describes (fun q => (s.step (.set hash) (.read view (q.answer r))).2) items set.toList := by
  rw [h.asks rfl hv fun q => SetQuery.answer r q]
  exact SetQuery.describes_answer r hc

theorem set_view_is_its_items (hash : α → UInt64) (r : Rendering α) :
    (∀ (layout : Layout α) items, (ElementSet.ofList layout items).Collects items) ∧
    (∀ set, (start (.set hash) set).views[0]? = some 0 ∧ Holds (.set hash) (start (.set hash) set) 0 set set) ∧
    ∀ {s i set items}, set.Collects items → Holds (.set hash) s i set set →
      (∀ steps, Untampered steps →
        s.views <+: (s.run (.set hash) steps).1.views ∧ Holds (.set hash) (s.run (.set hash) steps).1 i set set) ∧
      ∀ view, s.views[view]? = some i →
        (∃ shown, SetQuery.Describes (fun q => (s.step (.set hash) (.read view (q.answer r))).2) items shown ∧
          Enumerates (.set hash) s view shown) ∧
        (∃ j, (s.step (.set hash) (.copy view)).1.views = s.views ++ [j] ∧
          Holds (.set hash) (s.step (.set hash) (.copy view)).1 j set set) ∧
        ∀ {s' i' set' items'}, set'.Collects items' → Holds (.set hash) s' i' set' set' →
          ∀ view', s'.views[view']? = some i' → (∀ x, x ∈ items ↔ x ∈ items') → ∀ q, SetQuery.Unordered q →
            (s.step (.set hash) (.read view (q.answer r))).2 =
              (s'.step (.set hash) (.read view' (q.answer r))).2 := by
  refine ⟨ElementSet.collects_ofList, fun set => ⟨rfl, holds_start _ set⟩, fun hc h => ⟨fun steps hsteps => ?_,
    fun view hv => ⟨⟨_, h.describes_set hc hv r, h.enumerates rfl hv⟩, h.guarded.copies hv rfl, ?_⟩⟩⟩
  · exact ⟨views_run steps, h.run_untampered hsteps⟩
  · intro s' i' set' items' hc' h' view' hv' hitems q hq
    exact hq.eq_of_describes (h.describes_set (hc.of_same hitems) hv r) (h'.describes_set hc' hv' r)

theorem set_view_is_its_items_lookedAt :
    (∃ shown,
      SetQuery.Describes (fun q => (((start Hashing.number.setBacking (.ofList (.arrival ℤ) [3, 5, 3])).run
        Hashing.number.setBacking (lookedAt .empty)).1.step Hashing.number.setBacking (.read 1 (q.answer .number))).2)
          [3, 5, 3] shown ∧
      Enumerates Hashing.number.setBacking ((start Hashing.number.setBacking (.ofList (.arrival ℤ) [3, 5, 3])).run
        Hashing.number.setBacking (lookedAt .empty)).1 1 shown) ∧
    ∀ q, SetQuery.Unordered q →
      (((start Hashing.number.setBacking (.ofList (.arrival ℤ) [3, 5, 3])).run
        Hashing.number.setBacking (lookedAt .empty)).1.step Hashing.number.setBacking (.read 1 (q.answer .number))).2 =
      ((start Hashing.number.setBacking (.ofList (.arrival ℤ) [5, 3])).step
        Hashing.number.setBacking (.read 0 (q.answer .number))).2 := by
  obtain ⟨hcollects, hstart, hview⟩ := set_view_is_its_items Hashing.number.element .number
  have htwice := hcollects (.arrival ℤ) [3, 5, 3]
  have honce := hcollects (.arrival ℤ) [5, 3]
  obtain ⟨hrun, -⟩ := hview htwice (hstart _).2
  obtain ⟨-, hafter⟩ := hrun _ (untampered_lookedAt .empty)
  obtain ⟨hanswers, -, hagree⟩ := (hview htwice hafter).2 1 (by decide +kernel)
  have hsame : ∀ x : ℤ, x ∈ [3, 5, 3] ↔ x ∈ [5, 3] := fun x => by
    simp only [List.mem_cons, List.not_mem_nil, or_false]
    tauto
  exact ⟨hanswers, hagree honce (hstart _).2 0 (hstart _).1 hsame⟩

end SealedLicense.View
