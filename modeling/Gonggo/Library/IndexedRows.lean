import Gonggo.Library.KeyedList
import Mathlib.Data.List.Nodup

/-! # Rows and their indexes

A list of rows with distinct keys, in the order they arrived. An index answers which row has a key, or
which rows have an attribute; it lists only attributes that some row has. The lemmas say what becomes
of an index when rows arrive, leave or change.
-/

universe u v w

namespace IndexedRows

open KeyedList

variable {α : Type u} {κ : Type v} {γ : Type w}

section Rows

variable [DecidableEq κ] (key : α → κ)

/-- The row with the key. -/
def row (rows : List α) (k : κ) : Option α := rows.find? fun a => key a = k

variable {key} {rows : List α} {k : κ} {a : α}

@[simp] theorem row_nil : row key [] k = none := rfl

theorem row_eq_none_iff : row key rows k = none ↔ k ∉ rows.map key := by
  simp [row, List.find?_eq_none]

theorem mem_of_row (h : row key rows k = some a) : a ∈ rows ∧ key a = k :=
  ⟨List.mem_of_find?_eq_some h, by simpa using List.find?_some h⟩

theorem row_of_mem (hDistinct : (rows.map key).Nodup) (h : a ∈ rows) : row key rows (key a) = some a := by
  cases hRow : row key rows (key a) with
  | none => exact absurd (List.mem_map_of_mem h) (row_eq_none_iff.mp hRow)
  | some b =>
    obtain ⟨hMem, hKey⟩ := mem_of_row hRow
    rw [List.inj_on_of_nodup_map hDistinct hMem h hKey]

theorem row_eq_some_iff (hDistinct : (rows.map key).Nodup) :
    row key rows k = some a ↔ a ∈ rows ∧ key a = k := by
  constructor
  · exact mem_of_row
  · rintro ⟨hMem, rfl⟩
    exact row_of_mem hDistinct hMem

theorem row_append (rows more : List α) (k : κ) :
    row key (rows ++ more) k = (row key rows k).or (row key more k) :=
  List.find?_append

/-- Rows leave by their keys. -/
theorem row_filter (keep : κ → Bool) (rows : List α) (k : κ) :
    row key (rows.filter fun a => keep (key a)) k = if keep k then row key rows k else none := by
  unfold row
  rw [List.find?_filter]
  by_cases hKeep : keep k = true
  · rw [if_pos hKeep]
    congr 1
    funext a
    by_cases hKey : key a = k
    · simp [hKey, hKeep]
    · simp [hKey]
  · rw [if_neg hKeep, List.find?_eq_none]
    rintro a -
    simp only [decide_eq_true_eq, not_and]
    rintro hStays rfl
    exact hKeep hStays

theorem row_map {f : α → α} (hKey : ∀ a, key (f a) = key a) (rows : List α) (k : κ) :
    row key (rows.map f) k = (row key rows k).map f := by
  unfold row
  rw [List.find?_map]
  simp only [Function.comp_def, hKey]

end Rows

section Groups

variable [DecidableEq γ] (attr : α → Option γ)

/-- The rows with the attribute, in their order; none when there is no such row. -/
def group (rows : List α) (c : γ) : Option (List α) :=
  extended (rows.filter fun a => attr a = some c) none

variable {attr} {rows more : List α} {c : γ}

theorem group_eq (rows : List α) (c : γ) :
    group attr rows c =
      if (rows.filter fun a => attr a = some c) = [] then none
      else some (rows.filter fun a => attr a = some c) := by
  simp [group, extended]

theorem getD_group (rows : List α) (c : γ) :
    (group attr rows c).getD [] = rows.filter fun a => attr a = some c := by
  rw [group_eq]
  split
  · rename_i hNil
    rw [hNil]
    rfl
  · rfl

theorem mem_group {a : α} :
    (∃ items, group attr rows c = some items ∧ a ∈ items) ↔ a ∈ rows ∧ attr a = some c := by
  have hMem : a ∈ (group attr rows c).getD [] ↔ a ∈ rows ∧ attr a = some c := by
    rw [getD_group, List.mem_filter, decide_eq_true_eq]
  rw [← hMem]
  cases group attr rows c <;> simp

theorem group_append (rows more : List α) (c : γ) :
    group attr (rows ++ more) c = extended (more.filter fun a => attr a = some c) (group attr rows c) := by
  rw [group, group, extended_extended, List.filter_append]

theorem group_filter (keep : α → Bool) (rows : List α) (c : γ) :
    group attr (rows.filter keep) c = kept keep (group attr rows c) := by
  have hComm : (rows.filter keep).filter (fun a => attr a = some c) =
      (rows.filter fun a => attr a = some c).filter keep := by
    rw [List.filter_filter, List.filter_filter]
    exact List.filter_congr fun a _ => Bool.and_comm ..
  rw [group_eq, group_eq, hComm]
  by_cases hNil : (rows.filter fun a => attr a = some c) = []
  · simp [hNil]
  · rw [if_neg hNil, kept_some]
    simp only [hNil, ne_eq, not_false_iff, true_and]

theorem group_map {f : α → α} (hAttr : ∀ a, attr (f a) = attr a) (rows : List α) (c : γ) :
    group attr (rows.map f) c = (group attr rows c).map (List.map f) := by
  have hFilter : (rows.map f).filter (fun a => attr a = some c) =
      (rows.filter fun a => attr a = some c).map f := by
    rw [List.filter_map]
    simp only [Function.comp_def, hAttr]
  rw [group, group, hFilter, ← extended_map]
  rfl

end Groups

end IndexedRows
