import Mathlib
import SealedLicense.Proofs.View.Remaining

namespace SealedLicense.View

variable {C α : Type} {b : Backing C α}

def Untampered (steps : List (Step C α)) : Prop :=
  ∀ view change, .tamper view change ∉ steps

theorem Untampered.of_cons {st : Step C α} {steps : List (Step C α)} (h : Untampered (st :: steps)) :
    Untampered steps :=
  fun view change hmem => h view change (List.mem_cons_of_mem _ hmem)

def lookedAt (empty : C) : List (Step C α) :=
  [.editSource fun _ => empty, .clone 0, .iterate 1, .next 0, .mutate 0 .clear, .poison 0]

theorem untampered_lookedAt (empty : C) : Untampered (lookedAt empty : List (Step C α)) := by
  simp [Untampered, lookedAt]

namespace Session

variable {s : Session C α} {view i : ℕ} {origin contents : C}

theorem changed_of_untampered {st : Step C α} (h : ∀ view change, st ≠ .tamper view change) (s : Session C α) (i : ℕ)
    (contents : C) : s.changed i contents st = contents := by
  cases st with
  | tamper view change => exact absurd rfl (h view change)
  | _ => rfl

theorem contentsAfter_of_untampered {steps : List (Step C α)} (h : Untampered steps) (s : Session C α) (i : ℕ)
    (contents : C) : s.contentsAfter b i contents steps = contents := by
  induction steps generalizing s with
  | nil => rfl
  | cons st steps ih =>
    have hst : ∀ view change, st ≠ .tamper view change := fun view change he =>
      h view change (he ▸ List.mem_cons_self)
    rw [contentsAfter, changed_of_untampered hst, ih h.of_cons]

theorem Holds.run_untampered (h : Holds b s i origin contents) {steps : List (Step C α)} (hsteps : Untampered steps) :
    Holds b (s.run b steps).1 i origin contents := by
  have hafter := h.run steps
  rwa [contentsAfter_of_untampered hsteps] at hafter

structure Enumerates (b : Backing C α) (s : Session C α) (view : ℕ) (xs : List α) : Prop where
  traversed : (s.step b (.traverse view)).2 = .value (.items xs)
  drained : (s.run b [.iterate view, .drain s.cursors.length]).2 = [.cursor s.cursors.length, .value (.items xs)]
  asked : ∀ n, (s.run b (.iterate view :: List.replicate n (.next s.cursors.length))).2 =
    .cursor s.cursors.length :: (List.range n).map fun k => .value (.item xs[k]?)

theorem Holds.cursors_iterate (h : Holds b s i origin contents) (he : b.fingerprint contents = b.fingerprint origin)
    (hv : s.views[view]? = some i) :
    (s.step b (.iterate view)).1.cursors[s.cursors.length]? = some (.start i) := by
  obtain ⟨mark, hs⟩ := h
  simp only [Session.step, storeOf?_eq_some_iff.2 ⟨hv, hs⟩]
  rw [Store.read_of_eq he]
  exact List.getElem?_concat_length

theorem Holds.enumerates (h : Holds b s i origin contents) (he : b.fingerprint contents = b.fingerprint origin)
    (hv : s.views[view]? = some i) : Enumerates b s view (b.elements contents) := by
  have hopened := h.step (.iterate view)
  have hcursor := h.cursors_iterate he hv
  have hnumber : (s.step b (.iterate view)).2 = .cursor s.cursors.length := (Reads.iterate hv).reply_eq h he
  refine
    { traversed := (Reads.traverse hv).reply_eq h he
      drained := ?_
      asked := fun n => ?_ }
  · rw [run_cons, run_cons, hnumber, (Reads.drain hcursor rfl).reply_eq hopened he]
    rfl
  · rw [run_cons, hnumber, hopened.draw he hcursor rfl]
    rfl

theorem Holds.asks (h : Holds b s i origin contents) (he : b.fingerprint contents = b.fingerprint origin)
    (hv : s.views[view]? = some i) {Q : Type} (answer : Q → C → Value α) :
    (fun q => (s.step b (.read view (answer q))).2) = fun q => .value (answer q contents) :=
  funext fun q => (Reads.read hv (answer q)).reply_eq h he

end Session

end SealedLicense.View
