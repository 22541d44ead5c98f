import Mathlib
import SealedLicense.Proofs.View.Iteration

/-!
The fingerprint of a set does not tell its order. A set that is changed and changed back may show its elements in another
order, and a cursor that goes by places then gives one of them twice and another not at all.
-/

namespace SealedLicense.View

variable {α : Type}

theorem ElementSet.toList_perm {s t : ElementSet α} (h : ∀ x, x ∈ s ↔ x ∈ t) : s.toList.Perm t.toList :=
  (List.perm_ext_iff_of_nodup s.nodup t.nodup).2 h

theorem nodup_iff_complete {xs got : List α} (hxs : xs.Nodup) (hsub : ∀ x ∈ got, x ∈ xs)
    (hlength : got.length = xs.length) : got.Nodup ↔ ∀ x ∈ xs, x ∈ got := by
  constructor
  · intro hgot x hx
    have hperm := (List.subperm_of_subset hgot hsub).perm_of_length_le hlength.ge
    exact hperm.mem_iff.2 hx
  · intro hcomplete
    have hperm := (List.subperm_of_subset hxs hcomplete).perm_of_length_le hlength.le
    exact hperm.nodup_iff.1 hxs

/-- The cursor has given out some of the elements, and stands where a cursor that gave out so many stands. -/
structure Cursor.DrawsFrom (xs : List α) (c : Cursor α) : Prop where
  mem : ∀ x ∈ c.yielded, x ∈ xs
  position : c.position = c.yielded.length
  le : c.yielded.length ≤ xs.length

theorem Cursor.drawsFrom_start (xs : List α) (i : ℕ) : (start i).DrawsFrom xs :=
  ⟨fun _ hx => absurd hx List.not_mem_nil, rfl, Nat.zero_le _⟩

theorem keptOver_drawsFrom {xs ys : List α} (h : ys.Perm xs) : KeptOver ys (Cursor.DrawsFrom xs) := by
  intro c x hc hx
  obtain ⟨hlt, rfl⟩ := List.getElem?_eq_some_iff.1 hx
  have hposition := hc.position
  refine ⟨?_, ?_, ?_⟩
  · intro y hy
    rcases List.mem_append.1 hy with hy | hy
    · exact hc.mem y hy
    · rw [List.mem_singleton.1 hy]
      exact h.mem_iff.1 (List.getElem_mem hlt)
  · simp only [Cursor.behind, List.length_append, List.length_singleton, hposition]
  · have hl := h.length_eq
    simp only [Cursor.behind, List.length_append, List.length_singleton]
    omega

namespace Session

variable {C : Type} {hash : α → UInt64} {s : Session (ElementSet α) α} {i : ℕ} {origin contents : ElementSet α}

theorem Holds.overStore_drawsFrom (h : Holds (.set hash) s i origin contents)
    (hc : s.OverStore i (Cursor.DrawsFrom origin.toList)) {steps : List (Step (ElementSet α) α)}
    (hgenuine : Along (.set hash) s i contents steps fun now =>
      (Backing.set hash).fingerprint now = (Backing.set hash).fingerprint origin → ∀ x, x ∈ now ↔ x ∈ origin) :
    (s.run (.set hash) steps).1.OverStore i (Cursor.DrawsFrom origin.toList) := by
  refine h.overStore_run (Cursor.drawsFrom_start _ i) hc (hgenuine.imp fun now hnow he => ?_)
  exact keptOver_drawsFrom (ElementSet.toList_perm (hnow he))

theorem OverStore.yieldedBy_drawn {xs : List α} {t : Session C α} (hc : t.OverStore i (Cursor.DrawsFrom xs)) {cursor : ℕ}
    (hi : t.cursorStores[cursor]? = some i) :
    (∀ x ∈ t.yieldedBy cursor, x ∈ xs) ∧ (t.yieldedBy cursor).length ≤ xs.length := by
  obtain ⟨c, hat, hci⟩ := cursor_of_cursorStores hi
  have hdraws := hc c (List.mem_of_getElem? hat) hci
  rw [yieldedBy_of_getElem? hat]
  exact ⟨hdraws.mem, hdraws.le⟩

theorem Holds.next_cases (h : Holds (.set hash) s i origin contents)
    (hc : s.OverStore i (Cursor.DrawsFrom origin.toList))
    (hnow : (Backing.set hash).fingerprint contents = (Backing.set hash).fingerprint origin →
      ∀ x, x ∈ contents ↔ x ∈ origin) {cursor : ℕ} (hi : s.cursorStores[cursor]? = some i) :
    (∃ fault, s.step (.set hash) (.next cursor) = (s, .fault fault)) ∨
      (∃ x ∈ origin, (s.step (.set hash) (.next cursor)).2 = .value (.item (some x))) ∨
        (s.step (.set hash) (.next cursor)).2 = .value (.item none) ∧ (s.yieldedBy cursor).length = origin.size := by
  obtain ⟨c, hat, hci⟩ := cursor_of_cursorStores hi
  have hr : Reads (.set hash) s i contents (.next cursor)
    (.value (.item ((Backing.set hash).elements contents)[c.position]?)) := .next hat hci
  by_cases he : (Backing.set hash).fingerprint contents = (Backing.set hash).fingerprint origin
  · right
    rw [hr.reply_eq h he]
    cases hx : ((Backing.set hash).elements contents)[c.position]? with
    | some x => exact .inl ⟨x, (hnow he x).1 (List.mem_of_getElem? hx), rfl⟩
    | none =>
      refine .inr ⟨rfl, ?_⟩
      have hdraws := hc c (List.mem_of_getElem? hat) hci
      have hend : contents.toList.length ≤ c.position := List.getElem?_eq_none_iff.1 hx
      rw [(ElementSet.toList_perm (hnow he)).length_eq, hdraws.position] at hend
      rw [yieldedBy_of_getElem? hat, ElementSet.size]
      exact le_antisymm hdraws.le hend
  · exact .inl ⟨_, hr.step_eq_fault h he⟩

theorem Holds.received_of_order (h : Holds (.set hash) s i origin contents) (hnone : i ∉ s.cursorStores)
    {order now : ElementSet α} {steps : List (Step (ElementSet α) α)} {t : Session (ElementSet α) α}
    (ht : (s.run (.set hash) steps).1 = t) (hnow : s.contentsAfter (.set hash) i contents steps = now)
    (horder : Along (.set hash) s i contents steps fun now =>
      (Backing.set hash).fingerprint now = (Backing.set hash).fingerprint origin → now.toList = order.toList)
    (hsame : (Backing.set hash).fingerprint now = (Backing.set hash).fingerprint origin → ∀ x, x ∈ now ↔ x ∈ origin)
    {cursor : ℕ} (hi : t.cursorStores[cursor]? = some i) {got : List α}
    (hgot : received cursor [] steps (s.run (.set hash) steps).2 = got) :
    got.Nodup ∧ ((t.step (.set hash) (.next cursor)).2 = .value (.item none) → ∀ x ∈ origin, x ∈ got) := by
  obtain ⟨hfront, hend⟩ := h.received_in_order hnone ht hnow horder hi hgot
  refine ⟨order.nodup.sublist hfront.sublist, fun hlast x hx => ?_⟩
  have hafter : Holds (.set hash) t i origin now := ht ▸ hnow ▸ h.run steps
  have he := hafter.fingerprint_eq_of_answer hi hlast
  have hshown : now.toList = order.toList := hnow ▸ horder steps List.prefix_rfl (hnow ▸ he)
  rw [(hend hlast).1, ← hshown]
  exact (hsame he x).2 hx

end Session

open Session

theorem set_iteration_over_runs (hash : α → UInt64) :
    (∀ origin, Holds (.set hash) (start (.set hash) origin) 0 origin origin ∧
      0 ∉ (start (.set hash) origin).cursorStores) ∧
    ∀ {s i origin contents}, Holds (.set hash) s i origin contents → i ∉ s.cursorStores →
      ∀ steps t now, (s.run (.set hash) steps).1 = t → s.contentsAfter (.set hash) i contents steps = now →
        (Along (.set hash) s i contents steps fun now =>
          (Backing.set hash).fingerprint now = (Backing.set hash).fingerprint origin → ∀ x, x ∈ now ↔ x ∈ origin) →
        ∀ cursor got, t.cursorStores[cursor]? = some i →
          received cursor [] steps (s.run (.set hash) steps).2 = got →
            (∀ x ∈ got, x ∈ origin) ∧ got.length ≤ origin.size ∧
            ((∃ fault, t.step (.set hash) (.next cursor) = (t, .fault fault)) ∨
              (∃ x ∈ origin, (t.step (.set hash) (.next cursor)).2 = .value (.item (some x))) ∨
              (t.step (.set hash) (.next cursor)).2 = .value (.item none) ∧ got.length = origin.size ∧
                (got.Nodup ↔ ∀ x ∈ origin, x ∈ got)) ∧
            ∀ order : ElementSet α, (Along (.set hash) s i contents steps fun now =>
                (Backing.set hash).fingerprint now = (Backing.set hash).fingerprint origin →
                  now.toList = order.toList) →
              got.Nodup ∧
                ((t.step (.set hash) (.next cursor)).2 = .value (.item none) → ∀ x ∈ origin, x ∈ got) := by
  refine ⟨fun origin => ⟨holds_start _ origin, List.not_mem_nil⟩, ?_⟩
  intro s i origin contents h hnone steps t now ht hnow hgenuine cursor got hi hgot
  have hafter : Holds (.set hash) t i origin now := ht ▸ hnow ▸ h.run steps
  have hsame : (Backing.set hash).fingerprint now = (Backing.set hash).fingerprint origin → ∀ x, x ∈ now ↔ x ∈ origin :=
    hnow ▸ hgenuine steps List.prefix_rfl
  have hdraws : t.OverStore i (Cursor.DrawsFrom origin.toList) :=
    ht ▸ h.overStore_drawsFrom (overStore_of_notMem hnone) hgenuine
  have hyielded : t.yieldedBy cursor = got := ht ▸ (yieldedBy_run hnone (ht ▸ hi)).trans hgot
  obtain ⟨hmem, hle⟩ := hdraws.yieldedBy_drawn hi
  rw [hyielded] at hmem hle
  refine ⟨hmem, hle, ?_, ?_⟩
  · rcases hafter.next_cases hdraws hsame hi with hfault | hitem | ⟨hlast, hlength⟩
    · exact .inl hfault
    · exact .inr (.inl hitem)
    · rw [hyielded] at hlength
      exact .inr (.inr ⟨hlast, hlength, nodup_iff_complete origin.nodup hmem hlength⟩)
  · exact fun order horder => h.received_of_order hnone ht hnow horder hsame hi hgot

def numbers (xs : List ℤ) : ElementSet ℤ :=
  .ofList (.arrival ℤ) xs

def takenOut : List (Step (ElementSet ℤ) ℤ) :=
  [.iterate 0, .next 0, .tamper 0 (·.erase (.arrival ℤ) 3), .next 0, .tamper 0 (·.insert (.arrival ℤ) 3), .next 0, .next 0]

theorem set_iteration_over_runs_takenOut :
    received 0 [] takenOut ((start Hashing.number.setBacking (numbers [1, 2, 3])).run
      Hashing.number.setBacking takenOut).2 = [1, 2, 3] ∧ [(1 : ℤ), 2, 3].Nodup ∧
    ∀ x ∈ numbers [1, 2, 3], x ∈ [(1 : ℤ), 2, 3] := by
  obtain ⟨hstart, hrun⟩ := set_iteration_over_runs Hashing.number.element
  obtain ⟨hholds, hnone⟩ := hstart (numbers [1, 2, 3])
  have hkept : Along Hashing.number.setBacking (start Hashing.number.setBacking (numbers [1, 2, 3])) 0
      (numbers [1, 2, 3]) takenOut fun now =>
        Hashing.number.setBacking.fingerprint now =
          Hashing.number.setBacking.fingerprint (numbers [1, 2, 3]) → now.toList = [1, 2, 3] := by
    decide +kernel
  have hall : received 0 [] takenOut ((start Hashing.number.setBacking (numbers [1, 2, 3])).run
      Hashing.number.setBacking takenOut).2 = [1, 2, 3] := by
    decide +kernel
  obtain ⟨-, -, -, hordered⟩ := hrun hholds hnone takenOut _ _ rfl rfl
    (hkept.imp fun now hnow he x => by rw [ElementSet.mem_def, hnow he]; rfl) 0 _ (by decide +kernel) hall
  obtain ⟨hnodup, hend⟩ := hordered (numbers [1, 2, 3]) hkept
  exact ⟨hall, hnodup, hend (by decide +kernel)⟩

end SealedLicense.View
