namespace SealedLicense.View

/-- The order in which the elements of a set stand after a change. Nothing fixes it: it may be any, and need not be
the same for two changes that come to the same elements. -/
structure Layout (α : Type) where
  arrange : List α → List α
  perm : ∀ xs, (arrange xs).Perm xs

def Layout.arrival (α : Type) : Layout α :=
  ⟨id, fun xs => .refl xs⟩

def Layout.sorted {α : Type} (le : α → α → Bool) : Layout α :=
  ⟨fun xs => xs.mergeSort le, fun xs => List.mergeSort_perm xs le⟩

structure ElementSet (α : Type) where
  toList : List α
  nodup : toList.Nodup

namespace ElementSet

variable {α : Type}

def empty : ElementSet α :=
  ⟨[], .nil⟩

def size (s : ElementSet α) : Nat :=
  s.toList.length

instance : Membership α (ElementSet α) where
  mem s x := x ∈ s.toList

theorem mem_def {x : α} {s : ElementSet α} : x ∈ s ↔ x ∈ s.toList := Iff.rfl

theorem nodup_concat {x : α} {xs : List α} (hx : x ∉ xs) (h : xs.Nodup) : (xs ++ [x]).Nodup := by
  rw [List.nodup_append]
  refine ⟨h, by simp, ?_⟩
  intro a ha b hb
  rw [List.mem_singleton.1 hb]
  exact fun e => hx (e ▸ ha)

variable [DecidableEq α]

instance (x : α) (s : ElementSet α) : Decidable (x ∈ s) :=
  inferInstanceAs (Decidable (x ∈ s.toList))

def insert (layout : Layout α) (x : α) (s : ElementSet α) : ElementSet α :=
  if h : x ∈ s.toList then s
  else ⟨layout.arrange (s.toList ++ [x]), (layout.perm _).nodup_iff.2 (nodup_concat h s.nodup)⟩

def erase (layout : Layout α) (x : α) (s : ElementSet α) : ElementSet α :=
  if x ∈ s.toList then
    ⟨layout.arrange (s.toList.erase x), (layout.perm _).nodup_iff.2 (s.nodup.erase x)⟩
  else s

def ofList (layout : Layout α) (xs : List α) : ElementSet α :=
  xs.foldl (fun s x => s.insert layout x) empty

theorem mem_insert {layout : Layout α} {x y : α} {s : ElementSet α} :
    y ∈ s.insert layout x ↔ y ∈ s ∨ y = x := by
  unfold insert
  split
  · next h => exact ⟨Or.inl, fun hy => hy.elim id fun e => e ▸ h⟩
  · simp [mem_def, (layout.perm _).mem_iff]

theorem mem_erase {layout : Layout α} {x y : α} {s : ElementSet α} :
    y ∈ s.erase layout x ↔ y ∈ s ∧ y ≠ x := by
  unfold erase
  split
  · simp [mem_def, (layout.perm _).mem_iff, s.nodup.mem_erase_iff, and_comm]
  · next h => exact ⟨fun hy => ⟨hy, fun e => h (e ▸ hy)⟩, And.left⟩

theorem mem_ofList {layout : Layout α} {y : α} {xs : List α} : y ∈ ofList layout xs ↔ y ∈ xs := by
  suffices h : ∀ s : ElementSet α, y ∈ xs.foldl (fun s x => s.insert layout x) s ↔ y ∈ s ∨ y ∈ xs by
    simpa [ofList, empty, mem_def] using h empty
  induction xs with
  | nil => simp
  | cons x xs ih => intro s; simp [ih, mem_insert, or_assoc]

end ElementSet

end SealedLicense.View
