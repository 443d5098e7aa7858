import Mathlib.Data.List.Nodup

/-! # The list of a key under removals and arrivals

A table keeps a list of items for some of its keys. Taking items out deletes the key with its last
item and leaves a list from which nothing goes as it is; items that arrive stand at the end of the
list, under a new key if there was none.
-/

universe u

namespace KeyedList

variable {α : Type u}

/-- What is left of the list of a key when only the items with the property stay. -/
def kept (keep : α → Bool) (entry : Option (List α)) : Option (List α) :=
  entry.bind fun items =>
    if items ≠ [] ∧ items.filter keep = [] then none else some (items.filter keep)

/-- The list of a key after items have arrived. -/
def extended (arrived : List α) (entry : Option (List α)) : Option (List α) :=
  if arrived = [] then entry else some (entry.getD [] ++ arrived)

@[simp] theorem kept_none (keep : α → Bool) : kept keep none = none := rfl

theorem kept_some (keep : α → Bool) (items : List α) :
    kept keep (some items) =
      if items ≠ [] ∧ items.filter keep = [] then none else some (items.filter keep) := rfl

theorem kept_eq_self {keep : α → Bool} {entry : Option (List α)}
    (h : ∀ items, entry = some items → ∀ item ∈ items, keep item = true) : kept keep entry = entry := by
  cases entry with
  | none => rfl
  | some items =>
    rw [kept_some, List.filter_eq_self.mpr (h items rfl), if_neg]
    rintro ⟨hNe, hNil⟩
    exact hNe hNil

theorem kept_kept (first second : α → Bool) (entry : Option (List α)) :
    kept second (kept first entry) = kept (fun item => first item && second item) entry := by
  cases entry with
  | none => rfl
  | some items =>
    have hFilter : (items.filter first).filter second =
        items.filter fun item => first item && second item := by
      rw [List.filter_filter]
      apply List.filter_congr
      intro item _
      exact Bool.and_comm ..
    rw [kept_some, kept_some, ← hFilter]
    by_cases hNil : items.filter first = []
    · simp only [hNil, List.filter_nil]
      split
      · rfl
      · rename_i hItems
        simp [kept_some]
    · have hItems : items ≠ [] := by
        rintro rfl
        exact hNil rfl
      rw [if_neg fun h => hNil h.2, kept_some]
      simp [hNil, hItems]

theorem mem_kept {keep : α → Bool} {entry : Option (List α)} {item : α} :
    (∃ items, kept keep entry = some items ∧ item ∈ items) ↔
      (∃ items, entry = some items ∧ item ∈ items) ∧ keep item = true := by
  cases entry with
  | none => simp
  | some items =>
    rw [kept_some]
    constructor
    · rintro ⟨left, hLeft, hItem⟩
      split at hLeft
      · cases hLeft
      · cases hLeft
        obtain ⟨hMem, hKeep⟩ := List.mem_filter.mp hItem
        exact ⟨⟨items, rfl, hMem⟩, hKeep⟩
    · rintro ⟨⟨_, hItems, hMem⟩, hKeep⟩
      cases hItems
      have hLeft : item ∈ items.filter keep := List.mem_filter.mpr ⟨hMem, hKeep⟩
      rw [if_neg fun h => List.ne_nil_of_mem hLeft h.2]
      exact ⟨_, rfl, hLeft⟩

@[simp] theorem extended_nil (entry : Option (List α)) : extended [] entry = entry := rfl

theorem extended_extended (first second : List α) (entry : Option (List α)) :
    extended second (extended first entry) = extended (first ++ second) entry := by
  unfold extended
  by_cases hFirst : first = []
  · simp [hFirst]
  · by_cases hSecond : second = []
    · simp [hSecond]
    · simp [hFirst, hSecond]

theorem kept_map {β : Type u} (keep : β → Bool) (f : α → β) (entry : Option (List α)) :
    kept keep (entry.map (List.map f)) = (kept (fun item => keep (f item)) entry).map (List.map f) := by
  cases entry with
  | none => rfl
  | some items =>
    have hFilter : (items.map f).filter keep = (items.filter fun item => keep (f item)).map f :=
      List.filter_map
    rw [Option.map_some, kept_some, kept_some, hFilter]
    simp only [ne_eq, List.map_eq_nil_iff]
    split <;> rfl

theorem extended_map {β : Type u} (f : α → β) (arrived : List α) (entry : Option (List α)) :
    extended (arrived.map f) (entry.map (List.map f)) = (extended arrived entry).map (List.map f) := by
  unfold extended
  by_cases hNil : arrived = []
  · simp [hNil]
  · cases entry <;> simp [hNil]

/-! ## Items grouped by key -/

/-- The groups of distinct items under distinct keys hold every item that has a key, once. -/
theorem perm_flatMap_filter {κ : Type u} [DecidableEq κ] {owner : α → Option κ} {items : List α}
    (hItems : items.Nodup) {keys : List κ} (hKeys : keys.Nodup)
    (hCover : ∀ item ∈ items, ∀ key, owner item = some key → key ∈ keys) :
    (keys.flatMap fun key => items.filter fun item => owner item = some key).Perm
      (items.filter fun item => (owner item).isSome) := by
  have hGroups : (keys.flatMap fun key => items.filter fun item => owner item = some key).Nodup := by
    refine List.nodup_flatMap.mpr ⟨fun key _ => hItems.filter _, hKeys.imp ?_⟩
    intro key other hNe
    simp only [Function.onFun, List.disjoint_left, List.mem_filter, decide_eq_true_eq]
    rintro item ⟨-, hKey⟩ ⟨-, hOther⟩
    exact hNe (Option.some.inj (hKey.symm.trans hOther))
  apply (List.perm_ext_iff_of_nodup hGroups (hItems.filter _)).mpr
  intro item
  simp only [List.mem_flatMap, List.mem_filter, decide_eq_true_eq]
  constructor
  · rintro ⟨key, -, hItem, hOwner⟩
    exact ⟨hItem, Option.isSome_iff_exists.mpr ⟨key, hOwner⟩⟩
  · rintro ⟨hItem, hSome⟩
    obtain ⟨key, hOwner⟩ := Option.isSome_iff_exists.mp hSome
    exact ⟨key, hCover item hItem key hOwner, hItem, hOwner⟩

end KeyedList
