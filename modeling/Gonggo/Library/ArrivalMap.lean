import Mathlib.Data.List.Nodup
import Mathlib.Tactic.ByContra

/-! # Maps of keys to flagged items in arrival order

A key that is present has at least one item; the items of a key are distinct and stand in the
order they arrived, each with a flag. The map is the abstract state of a table that lists
pending work for each of its keys: an item is added unflagged, flagged when it is handed on,
and discarded when it is finished.
-/

universe u v

/-- The items of one key: distinct, flagged, at least one. -/
structure ArrivalList (ι : Type v) where
  entries : List (ι × Bool)
  distinct : (entries.map Prod.fst).Nodup
  nonempty : entries ≠ []

def ArrivalMap (κ : Type u) (ι : Type v) := κ → Option (ArrivalList ι)

namespace ArrivalMap

variable {κ : Type u} {ι : Type v}

def empty : ArrivalMap κ ι := fun _ => none

/-- The items of a key with their flags; none when the key is absent. -/
def entriesAt (m : ArrivalMap κ ι) (key : κ) : List (ι × Bool) :=
  ((m key).map ArrivalList.entries).getD []

def Lists (m : ArrivalMap κ ι) (key : κ) (item : ι) : Prop :=
  item ∈ (m.entriesAt key).map Prod.fst

instance decidableLists [DecidableEq ι] (m : ArrivalMap κ ι) (key : κ) (item : ι) :
    Decidable (m.Lists key item) :=
  inferInstanceAs (Decidable (item ∈ (m.entriesAt key).map Prod.fst))

theorem entriesAt_distinct (m : ArrivalMap κ ι) (key : κ) :
    ((m.entriesAt key).map Prod.fst).Nodup := by
  unfold entriesAt
  cases h : m key with
  | none => exact List.nodup_nil
  | some l => exact l.distinct

theorem eq_none_iff (m : ArrivalMap κ ι) (key : κ) : m key = none ↔ m.entriesAt key = [] := by
  unfold entriesAt
  cases h : m key with
  | none => simp
  | some l => simpa using l.nonempty

theorem map_entries (m : ArrivalMap κ ι) (key : κ) :
    (m key).map ArrivalList.entries =
      if m.entriesAt key = [] then none else some (m.entriesAt key) := by
  split
  · rename_i h
    rw [(m.eq_none_iff key).mpr h]
    rfl
  · rename_i h
    unfold entriesAt at h ⊢
    cases hKey : m key with
    | none => simp [hKey] at h
    | some l => rfl

section Updates

variable [DecidableEq κ]

/-- The key gets exactly these items, and is deleted when there are none. -/
def update (m : ArrivalMap κ ι) (key : κ) (entries : List (ι × Bool))
    (h : (entries.map Prod.fst).Nodup) : ArrivalMap κ ι := fun other =>
  if other = key then
    match entries, h with
    | [], _ => none
    | entry :: rest, h => some ⟨entry :: rest, h, List.cons_ne_nil entry rest⟩
  else m other

theorem entriesAt_update (m : ArrivalMap κ ι) (key other : κ) (entries : List (ι × Bool))
    (h : (entries.map Prod.fst).Nodup) :
    (m.update key entries h).entriesAt other =
      if other = key then entries else m.entriesAt other := by
  unfold entriesAt update
  split
  · cases entries <;> rfl
  · rfl

/-- The flags of all items of a key are cleared. -/
def unmark (m : ArrivalMap κ ι) (key : κ) : ArrivalMap κ ι :=
  m.update key ((m.entriesAt key).map fun entry => (entry.1, false)) (by
    rw [List.map_map]
    exact m.entriesAt_distinct key)

theorem entriesAt_unmark (m : ArrivalMap κ ι) (key other : κ) :
    (m.unmark key).entriesAt other =
      if other = key then (m.entriesAt key).map fun entry => (entry.1, false)
      else m.entriesAt other :=
  entriesAt_update ..

variable [DecidableEq ι]

/-- An item arrives at the end of the list, unflagged; an item that is there stays as it is. -/
def add (m : ArrivalMap κ ι) (key : κ) (item : ι) : ArrivalMap κ ι :=
  if h : m.Lists key item then m
  else m.update key (m.entriesAt key ++ [(item, false)]) (by
    rw [List.map_append]
    exact (m.entriesAt_distinct key).append (List.nodup_singleton item) (List.disjoint_singleton.mpr h))

/-- The flag of one item is set. -/
def mark (m : ArrivalMap κ ι) (key : κ) (item : ι) : ArrivalMap κ ι :=
  m.update key ((m.entriesAt key).map fun entry => if entry.1 = item then (entry.1, true) else entry) (by
    have hKeys : (Prod.fst ∘ fun entry : ι × Bool => if entry.1 = item then (entry.1, true) else entry) =
        Prod.fst := by
      funext entry
      show (if entry.1 = item then (entry.1, true) else entry).1 = entry.1
      split <;> rfl
    rw [List.map_map, hKeys]
    exact m.entriesAt_distinct key)

/-- One item is taken out; the key goes with its last item. -/
def discard (m : ArrivalMap κ ι) (key : κ) (item : ι) : ArrivalMap κ ι :=
  m.update key ((m.entriesAt key).filter fun entry => entry.1 ≠ item)
    ((m.entriesAt_distinct key).sublist (List.filter_sublist.map Prod.fst))

theorem entriesAt_add (m : ArrivalMap κ ι) (key other : κ) (item : ι) :
    (m.add key item).entriesAt other =
      if other = key ∧ ¬ m.Lists key item then m.entriesAt other ++ [(item, false)]
      else m.entriesAt other := by
  by_cases h : m.Lists key item
  · have hSame : m.add key item = m := dif_pos h
    simp [hSame, h]
  · have hAdd : m.add key item = m.update key _ _ := dif_neg h
    rw [hAdd, entriesAt_update]
    by_cases hKey : other = key
    · simp [hKey, h]
    · simp [hKey]

theorem entriesAt_mark (m : ArrivalMap κ ι) (key other : κ) (item : ι) :
    (m.mark key item).entriesAt other =
      if other = key then
        (m.entriesAt key).map fun entry => if entry.1 = item then (entry.1, true) else entry
      else m.entriesAt other :=
  entriesAt_update ..

theorem entriesAt_discard (m : ArrivalMap κ ι) (key other : κ) (item : ι) :
    (m.discard key item).entriesAt other =
      if other = key then (m.entriesAt key).filter fun entry => entry.1 ≠ item
      else m.entriesAt other :=
  entriesAt_update ..

end Updates

/-- All items of a key that is present. -/
def items (m : ArrivalMap κ ι) (key : κ) : Option (List ι) :=
  (m key).map fun l => l.entries.map Prod.fst

/-- The unflagged items of a key that is present. -/
def pending (m : ArrivalMap κ ι) (key : κ) : Option (List ι) :=
  (m key).map fun l => (l.entries.filter fun entry => !entry.2).map Prod.fst

end ArrivalMap
