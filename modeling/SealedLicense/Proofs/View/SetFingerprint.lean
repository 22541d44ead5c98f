import Mathlib
import SealedLicense.Proofs.View.SetIteration

namespace SealedLicense.View

variable {α : Type} {hash : α → UInt64}

/-- The sum of the hashes as numbers without a bound. -/
def hashSum (hash : α → UInt64) (xs : List α) : ℕ :=
  (xs.map fun x => (hash x).toNat).sum

theorem hashSum_cons (x : α) (xs : List α) : hashSum hash (x :: xs) = (hash x).toNat + hashSum hash xs := by
  rw [hashSum, List.map_cons, List.sum_cons]
  rfl

theorem hashSum_append (xs ys : List α) : hashSum hash (xs ++ ys) = hashSum hash xs + hashSum hash ys := by
  rw [hashSum, List.map_append, List.sum_append]
  rfl

theorem hashSum_perm {xs ys : List α} (h : xs.Perm ys) : hashSum hash xs = hashSum hash ys :=
  (h.map _).sum_eq

theorem toNat_foldl_hash (start : UInt64) (xs : List α) :
    (xs.foldl (fun n x => n + hash x) start).toNat = (start.toNat + hashSum hash xs) % 2 ^ 64 := by
  induction xs generalizing start with
  | nil => exact (Nat.mod_eq_of_lt start.toNat_lt).symm
  | cons x xs ih => rw [List.foldl_cons, ih, UInt64.toNat_add, hashSum_cons, Nat.mod_add_mod, Nat.add_assoc]

theorem toNat_hash_set (s : ElementSet α) : ((Backing.set hash).hash s).toNat = hashSum hash s.toList % 2 ^ 64 := by
  rw [Backing.set, toNat_foldl_hash, UInt64.toNat_zero, Nat.zero_add]

theorem fingerprint_set_eq_iff {s t : ElementSet α} :
    (Backing.set hash).fingerprint s = (Backing.set hash).fingerprint t ↔
      s.size = t.size ∧ hashSum hash s.toList ≡ hashSum hash t.toList [MOD 2 ^ 64] := by
  rw [Backing.fingerprint, Backing.fingerprint, Fingerprint.mk.injEq, ← UInt64.toNat_inj, toNat_hash_set,
    toNat_hash_set]
  rfl

theorem fingerprint_set_congr {s t : ElementSet α} (h : ∀ x, x ∈ s ↔ x ∈ t) :
    (Backing.set hash).fingerprint s = (Backing.set hash).fingerprint t := by
  have hperm := ElementSet.toList_perm h
  refine fingerprint_set_eq_iff.2 ⟨hperm.length_eq, ?_⟩
  rw [hashSum_perm hperm]

namespace ElementSet

def single (x : α) : ElementSet α :=
  ⟨[x], List.nodup_singleton x⟩

structure Replaced (s removed added t : ElementSet α) : Prop where
  removed_mem : ∀ x ∈ removed, x ∈ s
  added_notMem : ∀ x ∈ added, x ∉ s
  mem_iff : ∀ x, x ∈ t ↔ x ∈ s ∧ x ∉ removed ∨ x ∈ added

variable {s t removed added : ElementSet α}

theorem Replaced.exists_kept (h : Replaced s removed added t) :
    ∃ kept, s.toList.Perm (kept ++ removed.toList) ∧ t.toList.Perm (kept ++ added.toList) := by
  classical
  have hkept : (s.toList.filter (· ∉ removed)).Nodup := s.nodup.filter _
  have hs : (s.toList.filter (· ∉ removed) ++ removed.toList).Nodup := by
    refine hkept.append removed.nodup fun x hx hr => ?_
    exact of_decide_eq_true (List.mem_filter.1 hx).2 hr
  have ht : (s.toList.filter (· ∉ removed) ++ added.toList).Nodup := by
    refine hkept.append added.nodup fun x hx ha => ?_
    exact h.added_notMem x ha (List.mem_filter.1 hx).1
  refine ⟨_, (List.perm_ext_iff_of_nodup s.nodup hs).2 fun x => ?_,
    (List.perm_ext_iff_of_nodup t.nodup ht).2 fun x => ?_⟩
  · rw [List.mem_append, List.mem_filter, decide_eq_true_eq]
    constructor
    · intro hx
      by_cases hr : x ∈ removed
      · exact .inr hr
      · exact .inl ⟨hx, hr⟩
    · rintro (⟨hx, -⟩ | hr)
      · exact hx
      · exact h.removed_mem x hr
  · rw [List.mem_append, List.mem_filter, decide_eq_true_eq]
    exact h.mem_iff x

variable [DecidableEq α] {layout : Layout α}

def insertAll (layout : Layout α) (xs : List α) (s : ElementSet α) : ElementSet α :=
  xs.foldl (fun s x => s.insert layout x) s

def eraseAll (layout : Layout α) (xs : List α) (s : ElementSet α) : ElementSet α :=
  xs.foldl (fun s x => s.erase layout x) s

theorem mem_insertAll {y : α} {xs : List α} : y ∈ s.insertAll layout xs ↔ y ∈ s ∨ y ∈ xs := by
  induction xs generalizing s with
  | nil => simp [insertAll]
  | cons x xs ih =>
    change y ∈ (s.insert layout x).insertAll layout xs ↔ _
    rw [ih, mem_insert, List.mem_cons, or_assoc]

theorem mem_eraseAll {y : α} {xs : List α} : y ∈ s.eraseAll layout xs ↔ y ∈ s ∧ y ∉ xs := by
  induction xs generalizing s with
  | nil => simp [eraseAll]
  | cons x xs ih =>
    change y ∈ (s.erase layout x).eraseAll layout xs ↔ _
    rw [ih, mem_erase, List.mem_cons, not_or, and_assoc]

theorem replaced_exchange (hr : ∀ x ∈ removed, x ∈ s) (ha : ∀ x ∈ added, x ∉ s) (layout layout' : Layout α) :
    Replaced s removed added ((s.eraseAll layout removed.toList).insertAll layout' added.toList) := by
  refine ⟨hr, ha, fun x => ?_⟩
  rw [mem_insertAll, mem_eraseAll]
  rfl

theorem replaced_insert {y : α} (hy : y ∉ s) (layout : Layout α) : Replaced s empty (single y) (s.insert layout y) := by
  refine replaced_exchange (fun x hx => absurd hx List.not_mem_nil) (fun x hx => ?_) layout layout
  rwa [List.mem_singleton.1 hx]

theorem replaced_erase {x : α} (hx : x ∈ s) (layout : Layout α) : Replaced s (single x) empty (s.erase layout x) := by
  refine replaced_exchange (fun y hy => ?_) (fun y hy => absurd hy List.not_mem_nil) layout layout
  rwa [List.mem_singleton.1 hy]

theorem replaced_erase_insert {x y : α} (hx : x ∈ s) (hy : y ∉ s) (layout layout' : Layout α) :
    Replaced s (single x) (single y) ((s.erase layout x).insert layout' y) := by
  refine replaced_exchange (fun z hz => ?_) (fun z hz => ?_) layout layout'
  · rwa [List.mem_singleton.1 hz]
  · rwa [List.mem_singleton.1 hz]

end ElementSet

open ElementSet

variable {s t removed added : ElementSet α}

theorem ElementSet.Replaced.fingerprint_eq_iff (h : Replaced s removed added t) :
    (Backing.set hash).fingerprint t = (Backing.set hash).fingerprint s ↔
      removed.size = added.size ∧ hashSum hash removed.toList ≡ hashSum hash added.toList [MOD 2 ^ 64] := by
  -- what both sets keep adds the same to either size and to either sum
  obtain ⟨kept, hs, ht⟩ := h.exists_kept
  have hsizes : s.size = kept.length + removed.size := by rw [size, hs.length_eq, List.length_append, size]
  have hsizet : t.size = kept.length + added.size := by rw [size, ht.length_eq, List.length_append, size]
  rw [fingerprint_set_eq_iff, hsizes, hsizet, hashSum_perm hs, hashSum_perm ht, hashSum_append, hashSum_append,
    Nat.add_left_cancel_iff]
  constructor
  · rintro ⟨hsize, hsum⟩
    exact ⟨hsize.symm, (Nat.ModEq.add_left_cancel' _ hsum).symm⟩
  · rintro ⟨hsize, hsum⟩
    exact ⟨hsize.symm, hsum.symm.add_left _⟩

theorem hashSum_single_modEq_iff {x y : α} :
    hashSum hash (single x).toList ≡ hashSum hash (single y).toList [MOD 2 ^ 64] ↔ hash x = hash y := by
  have hx : hashSum hash (single x).toList = (hash x).toNat := by rw [single, hashSum_cons]; rfl
  have hy : hashSum hash (single y).toList = (hash y).toNat := by rw [single, hashSum_cons]; rfl
  rw [hx, hy, Nat.ModEq, Nat.mod_eq_of_lt (hash x).toNat_lt, Nat.mod_eq_of_lt (hash y).toNat_lt, UInt64.toNat_inj]

open Session

theorem set_fingerprint_detects [DecidableEq α] (hash : α → UInt64) :
    (∀ s, (Backing.set hash).fingerprint s = ⟨s.size, .ofNat (hashSum hash s.toList)⟩) ∧
    (∀ s t : ElementSet α, (∀ x, x ∈ s ↔ x ∈ t) →
      (Backing.set hash).fingerprint s = (Backing.set hash).fingerprint t) ∧
    (∀ layout layout' (xs ys : List α), (∀ x, x ∈ xs ↔ x ∈ ys) →
      (Backing.set hash).fingerprint (.ofList layout xs) = (Backing.set hash).fingerprint (.ofList layout' ys)) ∧
    (∀ layout (s : ElementSet α) y, y ∉ s →
      (Backing.set hash).fingerprint (s.insert layout y) ≠ (Backing.set hash).fingerprint s) ∧
    (∀ layout (s : ElementSet α) x, x ∈ s →
      (Backing.set hash).fingerprint (s.erase layout x) ≠ (Backing.set hash).fingerprint s) ∧
    (∀ layout layout' (s : ElementSet α) x y, x ∈ s → y ∉ s →
      ((Backing.set hash).fingerprint ((s.erase layout x).insert layout' y) = (Backing.set hash).fingerprint s ↔
        hash x = hash y)) ∧
    ∀ {s removed added t : ElementSet α}, Replaced s removed added t →
      ((Backing.set hash).fingerprint t = (Backing.set hash).fingerprint s ↔
        removed.size = added.size ∧ hashSum hash removed.toList ≡ hashSum hash added.toList [MOD 2 ^ 64]) ∧
      ∀ {v : Session (ElementSet α) α} {i st reply}, Holds (.set hash) v i s t → Reads (.set hash) v i t st reply →
        ((∀ fault, (v.step (.set hash) st).2 ≠ .fault fault) ↔
          removed.size = added.size ∧ hashSum hash removed.toList ≡ hashSum hash added.toList [MOD 2 ^ 64]) := by
  refine ⟨fun s => ?_, fun s t h => fingerprint_set_congr h, fun layout layout' xs ys h => ?_,
    fun layout s y hy => ?_, fun layout s x hx => ?_, fun layout layout' s x y hx hy => ?_, fun h => ⟨?_, ?_⟩⟩
  · rw [Backing.fingerprint, Fingerprint.mk.injEq]
    refine ⟨rfl, UInt64.toNat_inj.1 ?_⟩
    rw [toNat_hash_set, UInt64.toNat_ofNat']
  · exact fingerprint_set_congr fun x => mem_ofList.trans ((h x).trans mem_ofList.symm)
  · rw [Ne, (replaced_insert hy layout).fingerprint_eq_iff]
    rintro ⟨hsize, -⟩
    cases hsize
  · rw [Ne, (replaced_erase hx layout).fingerprint_eq_iff]
    rintro ⟨hsize, -⟩
    cases hsize
  · rw [(replaced_erase_insert hx hy layout layout').fingerprint_eq_iff, hashSum_single_modEq_iff]
    exact and_iff_right rfl
  · exact h.fingerprint_eq_iff
  · intro v i st reply hholds hreads
    rw [← h.fingerprint_eq_iff, ← not_exists, hreads.faults_iff hholds, not_not]

/-- A hash under which 1 and 4 weigh as much together as 2 and 3. -/
def weight (n : ℤ) : UInt64 :=
  .ofNat n.toNat

def exchanged (added : List ℤ) : ElementSet ℤ :=
  ((numbers [1, 4, 7]).eraseAll (.arrival ℤ) [1, 4]).insertAll (.arrival ℤ) added

theorem replaced_exchanged (added : ElementSet ℤ) (h : ∀ x ∈ added.toList, x ∉ numbers [1, 4, 7]) :
    Replaced (numbers [1, 4, 7]) (numbers [1, 4]) added (exchanged added.toList) := by
  have hremoved : ∀ x ∈ numbers [1, 4], x ∈ numbers [1, 4, 7] := by decide +kernel
  exact replaced_exchange hremoved h (.arrival ℤ) (.arrival ℤ)

theorem set_fingerprint_detects_exchanged :
    (Backing.set weight).fingerprint (numbers [7, 1, 4, 1]) = (Backing.set weight).fingerprint (numbers [1, 4, 7]) ∧
    (Backing.set weight).fingerprint ((numbers [1, 4]).insert (.arrival ℤ) 7) ≠
      (Backing.set weight).fingerprint (numbers [1, 4]) ∧
    (Backing.set weight).fingerprint ((numbers [1, 4, 7]).erase (.arrival ℤ) 7) ≠
      (Backing.set weight).fingerprint (numbers [1, 4, 7]) ∧
    ((Backing.set weight).fingerprint (((numbers [1, 4]).erase (.arrival ℤ) 4).insert (.arrival ℤ) 7) =
      (Backing.set weight).fingerprint (numbers [1, 4]) ↔ weight 4 = weight 7) ∧
    (Backing.set weight).fingerprint (exchanged [2, 5]) ≠ (Backing.set weight).fingerprint (numbers [1, 4, 7]) ∧
    (Backing.set weight).fingerprint (exchanged [2, 3]) = (Backing.set weight).fingerprint (numbers [1, 4, 7]) ∧
    ∀ fault, (((start (.set weight) (numbers [1, 4, 7])).step (.set weight)
      (.tamper 0 fun _ => exchanged [2, 3])).1.step (.set weight) (.read 0 fun s => .count s.size)).2 ≠
        .fault fault := by
  obtain ⟨-, -, horder, hinsert, herase, hexchange, hreplaced⟩ := set_fingerprint_detects weight
  obtain ⟨hseen, -⟩ := hreplaced (replaced_exchanged (numbers [2, 5]) (by decide +kernel))
  obtain ⟨hunseen, hreads⟩ := hreplaced (replaced_exchanged (numbers [2, 3]) (by decide +kernel))
  have hholds := (holds_start (.set weight) (numbers [1, 4, 7])).step (.tamper 0 fun _ => exchanged [2, 3])
  refine ⟨horder _ _ [7, 1, 4, 1] [1, 4, 7] (by simp; tauto), hinsert _ _ 7 (by decide +kernel),
    herase _ _ 7 (by decide +kernel), hexchange _ _ _ 4 7 (by decide +kernel) (by decide +kernel), ?_,
    hunseen.2 (by decide +kernel), ?_⟩
  · rw [Ne, show exchanged [2, 5] = exchanged (numbers [2, 5]).toList from rfl, hseen]
    decide +kernel
  · exact (hreads hholds (.read (by rfl) _)).2 (by decide +kernel)

end SealedLicense.View
