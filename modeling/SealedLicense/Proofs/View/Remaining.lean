import Mathlib
import SealedLicense.Proofs.View.Iteration

namespace SealedLicense.View

variable {C α : Type} {b : Backing C α}

namespace Cursor

def Within (n : ℕ) (c : Cursor α) : Prop :=
  c.position = c.yielded.length ∧ c.yielded.length ≤ n

theorem within_start (n i : ℕ) : (start i : Cursor α).Within n :=
  ⟨rfl, Nat.zero_le n⟩

end Cursor

theorem keptOver_within (xs : List α) : KeptOver xs (Cursor.Within xs.length) := by
  rintro c x ⟨hposition, -⟩ hx
  obtain ⟨hlt, -⟩ := List.getElem?_eq_some_iff.1 hx
  have hlength : (c.behind x).yielded.length = c.position + 1 := by
    rw [Cursor.behind, List.length_append, List.length_singleton, hposition]
  exact ⟨hlength.symm, hlength.trans_le hlt⟩

namespace Store

variable {store : Store C}

theorem sizeHint_of_eq (h : b.fingerprint store.contents = store.recorded) (c : Cursor α) :
    store.sizeHint b c =
      .ok ((b.elements store.contents).length - c.position, some ((b.elements store.contents).length - c.position)) := by
  rw [sizeHint, remaining, read_of_eq h]
  rfl

theorem sizeHint_of_ne (h : b.fingerprint store.contents ≠ store.recorded) (c : Cursor α) :
    store.sizeHint b c = .error ⟨store.recorded.size, (b.fingerprint store.contents).size⟩ := by
  rw [sizeHint, remaining, read_of_ne h]
  rfl

end Store

def nextReplies (cursor : ℕ) : List (Step C α) → List (Reply α) → List (Reply α)
  | .next n :: steps, reply :: replies =>
      if n = cursor then reply :: nextReplies cursor steps replies else nextReplies cursor steps replies
  | _ :: steps, _ :: replies => nextReplies cursor steps replies
  | _, _ => []

theorem nextReplies_cons_self (cursor : ℕ) (steps : List (Step C α)) (reply : Reply α) (replies : List (Reply α)) :
    nextReplies cursor (.next cursor :: steps) (reply :: replies) = reply :: nextReplies cursor steps replies := by
  rw [nextReplies, if_pos rfl]

theorem nextReplies_cons_of_ne {cursor : ℕ} {st : Step C α} (h : st ≠ .next cursor) (steps : List (Step C α))
    (reply : Reply α) (replies : List (Reply α)) :
    nextReplies cursor (st :: steps) (reply :: replies) = nextReplies cursor steps replies := by
  cases st with
  | next n => rw [nextReplies, if_neg fun hn => h (congrArg Step.next hn)]
  | _ => rfl

namespace Session

variable {s : Session C α} {i cursor : ℕ} {origin contents : C} {c : Cursor α}

theorem Holds.overStore_within (h : Holds b s i origin contents)
    (hc : s.OverStore i (Cursor.Within (b.fingerprint origin).size)) (steps : List (Step C α)) :
    (s.run b steps).1.OverStore i (Cursor.Within (b.fingerprint origin).size) := by
  -- contents with the recorded fingerprint have the recorded size, whatever was done to them in between
  refine h.overStore_run (Cursor.within_start _ i) hc fun front _ he => ?_
  have hsize := congrArg Fingerprint.size he
  rw [← hsize]
  exact keptOver_within _

theorem cursors_step_of_ne (hc : s.cursors[cursor]? = some c) {st : Step C α} (hn : st ≠ .next cursor)
    (hd : st ≠ .drain cursor) : (s.step b st).1.cursors[cursor]? = some c := by
  have ht := transition_step (b := b) (s := s) st
  generalize (s.step b st).1 = t at ht ⊢
  cases ht with
  | stay | cloned | copied | tampered | poisoned | edited => exact hc
  | opened => exact (List.getElem?_append_left (List.getElem?_eq_some_iff.1 hc).1).trans hc
  | advanced => exact (List.getElem?_set_ne fun he => hn (congrArg Step.next he)).trans hc
  | drained => exact (List.getElem?_set_ne fun he => hd (congrArg Step.drain he)).trans hc

theorem Holds.next_step (h : Holds b s i origin contents) (he : b.fingerprint contents = b.fingerprint origin)
    (hc : s.cursors[cursor]? = some c) (hi : c.store = i) :
    (s.step b (.next cursor)).2 = .value (.item ((b.elements contents).drop c.position)[0]?) ∧
      ∃ c', (s.step b (.next cursor)).1.cursors[cursor]? = some c' ∧ c'.store = i ∧
        (b.elements contents).drop c'.position = ((b.elements contents).drop c.position).tail := by
  have hreply := (Reads.next hc hi).reply_eq h he
  obtain ⟨mark, hs⟩ := h
  subst hi
  refine ⟨by rw [hreply, List.getElem?_drop, Nat.add_zero], ?_⟩
  simp only [Session.step, cursorOf?_eq_some_iff.2 ⟨hc, hs⟩]
  cases hx : (b.elements contents)[c.position]? with
  | none =>
    rw [Store.next_of_none he hx]
    refine ⟨c, List.getElem?_set_self (List.getElem?_eq_some_iff.1 hc).1, rfl, ?_⟩
    rw [List.drop_eq_nil_of_le (List.getElem?_eq_none_iff.1 hx)]
    rfl
  | some x =>
    rw [Store.next_of_some he hx]
    exact ⟨c.behind x, List.getElem?_set_self (List.getElem?_eq_some_iff.1 hc).1, rfl, List.tail_drop.symm⟩

theorem Holds.draw (h : Holds b s i origin contents) (he : b.fingerprint contents = b.fingerprint origin)
    (hc : s.cursors[cursor]? = some c) (hi : c.store = i) (n : ℕ) :
    (s.run b (List.replicate n (.next cursor))).2 =
      (List.range n).map fun k => .value (.item ((b.elements contents).drop c.position)[k]?) := by
  induction n generalizing s c with
  | zero => rfl
  | succ n ih =>
    obtain ⟨hreply, c', hc', hi', hdrop⟩ := h.next_step he hc hi
    rw [List.replicate_succ, run_cons, hreply, ih (h.step _) hc' hi', hdrop, List.range_succ_eq_map, List.map_cons,
      List.map_map]
    simp only [Function.comp_def, List.getElem?_tail]

theorem Holds.nextReplies_run (h : Holds b s i origin contents) (he : b.fingerprint contents = b.fingerprint origin)
    (hc : s.cursors[cursor]? = some c) (hi : c.store = i) {later : List (Step C α)}
    (hstill : Along b s i contents later (· = contents)) (hdrain : .drain cursor ∉ later) {k : ℕ} {reply : Reply α}
    (hk : (nextReplies cursor later (s.run b later).2)[k]? = some reply) :
    reply = .value (.item ((b.elements contents).drop c.position)[k]?) := by
  induction later generalizing s c k with
  | nil => cases hk
  | cons st later ih =>
    obtain ⟨hd, hrest⟩ := not_or.1 (mt List.mem_cons.2 hdrain)
    have hlater := (along_cons.1 hstill).2
    have hafter := h.step st
    have hsame : s.changed i contents st = contents := hlater [] List.nil_prefix
    rw [hsame] at hlater hafter
    rw [run_cons] at hk
    by_cases hn : st = .next cursor
    · subst hn
      obtain ⟨hreply, c', hc', hi', hdrop⟩ := h.next_step he hc hi
      rw [nextReplies_cons_self] at hk
      cases k with
      | zero => exact (Option.some.inj hk).symm.trans hreply
      | succ k =>
        have hgiven := ih hafter hc' hi' hlater hrest hk
        rwa [hdrop, List.getElem?_tail] at hgiven
    · rw [nextReplies_cons_of_ne hn] at hk
      exact ih hafter (cursors_step_of_ne hc hn (Ne.symm hd)) hi hlater hrest hk

/-- What a cursor tells and gives when `items` are to come, `now` being what its store holds: at once, when it alone is
asked, and in any run that leaves the store as it is and asks the cursor one element at a time. -/
structure Promises (b : Backing C α) (s : Session C α) (i : ℕ) (now : C) (cursor : ℕ) (items : List α) : Prop where
  sizeHint : s.sizeHint b cursor = some (.ok (items.length, some items.length))
  remaining : (s.step b (.remaining cursor)).2 = .value (.count items.length)
  hasNext : (s.step b (.hasNext cursor)).2 = .value (.flag (0 < items.length))
  next : (∃ x, (s.step b (.next cursor)).2 = .value (.item (some x))) ↔ 0 < items.length
  draw : ∀ n, (s.run b (List.replicate n (.next cursor))).2 =
    (List.range n).map fun k => Reply.value (.item items[k]?)
  replies : ∀ later, Along b s i now later (· = now) → .drain cursor ∉ later → ∀ (k : ℕ) (reply : Reply α),
    (nextReplies cursor later (s.run b later).2)[k]? = some reply → reply = .value (.item items[k]?)

theorem sizeHint_eq (hc : s.cursors[cursor]? = some c) {store : Store C} (hs : s.stores[c.store]? = some store) :
    s.sizeHint b cursor = some (store.sizeHint b c) := by
  rw [Session.sizeHint, cursorOf?_eq_some_iff.2 ⟨hc, hs⟩]
  rfl

theorem Holds.promises (h : Holds b s i origin contents) (he : b.fingerprint contents = b.fingerprint origin)
    (hc : s.cursors[cursor]? = some c) (hi : c.store = i) :
    Promises b s i contents cursor ((b.elements contents).drop c.position) := by
  have hlength : ((b.elements contents).drop c.position).length = (b.elements contents).length - c.position :=
    List.length_drop
  refine
    { sizeHint := ?_
      remaining := ?_
      hasNext := ?_
      next := ?_
      draw := h.draw he hc hi
      replies := fun later hstill hdrain k reply => h.nextReplies_run he hc hi hstill hdrain }
  · obtain ⟨mark, hs⟩ := h
    subst hi
    rw [sizeHint_eq hc hs, Store.sizeHint_of_eq he, hlength]
  · rw [(Reads.remaining hc hi).reply_eq h he, hlength]
  · rw [(Reads.hasNext hc hi).reply_eq h he, hlength]
    simp only [Nat.sub_pos_iff_lt]
  · rw [(h.next_step he hc hi).1]
    simp only [Reply.value.injEq, Value.item.injEq, List.getElem?_eq_some_iff]
    constructor
    · rintro ⟨x, hlt, -⟩
      exact hlt
    · intro hlt
      exact ⟨_, hlt, rfl⟩

structure Withholds (b : Backing C α) (s : Session C α) (cursor : ℕ) (fault : IntegrityFault) : Prop where
  sizeHint : s.sizeHint b cursor = some (.error fault)
  remaining : s.step b (.remaining cursor) = (s, .fault fault)
  hasNext : s.step b (.hasNext cursor) = (s, .fault fault)
  next : s.step b (.next cursor) = (s, .fault fault)

theorem Holds.withholds (h : Holds b s i origin contents) (he : b.fingerprint contents ≠ b.fingerprint origin)
    (hc : s.cursors[cursor]? = some c) (hi : c.store = i) :
    Withholds b s cursor ⟨(b.fingerprint origin).size, (b.fingerprint contents).size⟩ := by
  refine
    { sizeHint := ?_
      remaining := (Reads.remaining hc hi).step_eq_fault h he
      hasNext := (Reads.hasNext hc hi).step_eq_fault h he
      next := (Reads.next hc hi).step_eq_fault h he }
  obtain ⟨mark, hs⟩ := h
  subst hi
  rw [sizeHint_eq hc hs, Store.sizeHint_of_ne he]

end Session

open Session

theorem cursor_length_exact (b : Backing C α) :
    (∀ origin, Holds b (start b origin) 0 origin origin ∧ 0 ∉ (start b origin).cursorStores) ∧
    ∀ {s i origin contents}, Holds b s i origin contents → i ∉ s.cursorStores →
      ∀ steps t now, (s.run b steps).1 = t → s.contentsAfter b i contents steps = now →
        ∀ cursor got, t.cursorStores[cursor]? = some i → received cursor [] steps (s.run b steps).2 = got →
          got.length ≤ (b.fingerprint origin).size ∧
          (b.fingerprint now = b.fingerprint origin →
            (∀ view, t.views[view]? = some i →
              (t.step b (.read view fun contents => .count (b.elements contents).length)).2 =
                .value (.count (b.fingerprint origin).size)) ∧
            ∃ items, items.length + got.length = (b.fingerprint origin).size ∧ Promises b t i now cursor items) ∧
          (b.fingerprint now ≠ b.fingerprint origin →
            Withholds b t cursor ⟨(b.fingerprint origin).size, (b.fingerprint now).size⟩) := by
  refine ⟨fun origin => ⟨holds_start b origin, List.not_mem_nil⟩, ?_⟩
  intro s i origin contents h hnone steps t now ht hnow cursor got hi hgot
  subst ht hnow
  have hafter := h.run steps
  have hyielded := (yieldedBy_run hnone hi).trans hgot
  obtain ⟨c, hat, hci⟩ := cursor_of_cursorStores hi
  obtain ⟨hposition, hle⟩ := h.overStore_within (overStore_of_notMem hnone) steps c (List.mem_of_getElem? hat) hci
  rw [yieldedBy_of_getElem? hat] at hyielded
  rw [hyielded] at hposition hle
  refine ⟨hle, fun he => ⟨fun view hv => ?_, _, ?_, hafter.promises he hat hci⟩, fun he => hafter.withholds he hat hci⟩
  · rw [← he]
    exact (Reads.read hv _).reply_eq hafter he
  · have hsize : (b.elements (s.contentsAfter b i contents steps)).length = (b.fingerprint origin).size :=
      congrArg Fingerprint.size he
    rw [List.length_drop, hposition, hsize, Nat.sub_add_cancel hle]

def turnedBetween : List (Step (List ℤ) ℤ) :=
  [.iterate 0, .next 0, .tamper 0 List.reverse, .remaining 0, .removeByCursor 0, .tamper 0 List.reverse, .remaining 0]

theorem cursor_length_exact_turnedBetween :
    received 0 [] turnedBetween ((start Hashing.number.listBacking [1, 2, 3]).run
      Hashing.number.listBacking turnedBetween).2 = [1] ∧
    (∃ items, items.length + 1 = 3 ∧ Promises Hashing.number.listBacking ((start Hashing.number.listBacking [1, 2, 3]).run
      Hashing.number.listBacking turnedBetween).1 0 [1, 2, 3] 0 items) ∧
    Withholds Hashing.number.listBacking ((start Hashing.number.listBacking [1, 2, 3]).run
      Hashing.number.listBacking (turnedBetween ++ [.tamper 0 List.tail])).1 0 ⟨3, 2⟩ := by
  obtain ⟨hstart, hrun⟩ := cursor_length_exact Hashing.number.listBacking
  obtain ⟨hholds, hnone⟩ := hstart [1, 2, 3]
  have hgot : received 0 [] turnedBetween ((start Hashing.number.listBacking [1, 2, 3]).run
      Hashing.number.listBacking turnedBetween).2 = [1] := by
    decide +kernel
  obtain ⟨-, hkept, -⟩ := hrun hholds hnone turnedBetween _ [1, 2, 3] rfl (by decide +kernel) 0 [1]
    (by decide +kernel) hgot
  obtain ⟨-, -, hchanged⟩ := hrun hholds hnone (turnedBetween ++ [.tamper 0 List.tail]) _ [2, 3] rfl
    (by decide +kernel) 0 _ (by decide +kernel) rfl
  exact ⟨hgot, (hkept rfl).2, hchanged (by decide +kernel)⟩

end SealedLicense.View
