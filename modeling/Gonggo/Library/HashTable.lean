import Mathlib.Data.List.AList

/-! # Hash tables as finite maps

A table is a duplicate-free association list. The order in which an iterator visits the
keys is left open: a traversal is any permutation of the key list, chosen by the caller.
-/

universe u v

def HashTable (κ : Type u) (υ : Type v) := AList (fun _ : κ => υ)

namespace HashTable

variable {κ : Type u} {υ : Type v} [DecidableEq κ]

def empty : HashTable κ υ := (∅ : AList (fun _ : κ => υ))

def lookup (table : HashTable κ υ) (key : κ) : Option υ := AList.lookup key table

def insert (table : HashTable κ υ) (key : κ) (value : υ) : HashTable κ υ :=
  AList.insert key value table

def remove (table : HashTable κ υ) (key : κ) : HashTable κ υ := AList.erase key table

omit [DecidableEq κ] in
def keys (table : HashTable κ υ) : List κ := AList.keys table

omit [DecidableEq κ] in
theorem keys_nodup (table : HashTable κ υ) : table.keys.Nodup := AList.keys_nodup table

theorem mem_keys_iff (table : HashTable κ υ) (key : κ) :
    key ∈ table.keys ↔ ∃ value, table.lookup key = some value := by
  rw [← Option.isSome_iff_exists]
  exact AList.mem_keys.symm.trans AList.lookup_isSome.symm

@[simp] theorem lookup_empty (key : κ) : (empty : HashTable κ υ).lookup key = none :=
  AList.lookup_empty key

omit [DecidableEq κ] in
@[simp] theorem keys_empty : (empty : HashTable κ υ).keys = [] := AList.keys_empty

theorem lookup_insert (table : HashTable κ υ) (key other : κ) (value : υ) :
    (table.insert key value).lookup other = if other = key then some value else table.lookup other := by
  split
  · rename_i h
    subst h
    exact AList.lookup_insert table
  · rename_i h
    exact AList.lookup_insert_ne h

theorem lookup_remove (table : HashTable κ υ) (key other : κ) :
    (table.remove key).lookup other = if other = key then none else table.lookup other := by
  split
  · rename_i h
    subst h
    exact AList.lookup_erase other table
  · rename_i h
    exact AList.lookup_erase_ne h

@[simp] theorem lookup_insert_self (table : HashTable κ υ) (key : κ) (value : υ) :
    (table.insert key value).lookup key = some value := by
  rw [lookup_insert, if_pos rfl]

theorem lookup_insert_ne (table : HashTable κ υ) {key other : κ} (value : υ) (h : other ≠ key) :
    (table.insert key value).lookup other = table.lookup other := by
  rw [lookup_insert, if_neg h]

@[simp] theorem lookup_remove_self (table : HashTable κ υ) (key : κ) :
    (table.remove key).lookup key = none := by
  rw [lookup_remove, if_pos rfl]

theorem lookup_remove_ne (table : HashTable κ υ) {key other : κ} (h : other ≠ key) :
    (table.remove key).lookup other = table.lookup other := by
  rw [lookup_remove, if_neg h]

end HashTable

/-- The order in which one iterator visits the keys of a table. -/
structure Traversal (κ : Type u) where
  visit : List κ → List κ
  visit_perm : ∀ keys, (visit keys).Perm keys

namespace Traversal

variable {κ : Type u}

def inOrder : Traversal κ := ⟨id, fun _ => .refl _⟩

theorem mem_visit_iff (order : Traversal κ) (keys : List κ) (key : κ) :
    key ∈ order.visit keys ↔ key ∈ keys :=
  (order.visit_perm keys).mem_iff

theorem visit_nodup (order : Traversal κ) {keys : List κ} (h : keys.Nodup) :
    (order.visit keys).Nodup :=
  (order.visit_perm keys).nodup_iff.mpr h

end Traversal
