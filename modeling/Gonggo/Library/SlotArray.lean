import Mathlib.Data.List.Basic

/-! # Arrays that are filled slot by slot

An array whose slots are undefined until they are written, filled from the front and closed by a
null slot, as C programs build lists of strings. A reader goes from the front to the first null
slot, and fails on a slot that was never written.
-/

universe u

inductive Slot (α : Type u)
  | undefined
  | null
  | value (item : α)
  deriving DecidableEq, Repr

namespace Slot

variable {α : Type u}

def allocate (size : Nat) : List (Slot α) := List.replicate size undefined

/-- Writing a slot; `none` is a write outside the array. -/
def write (slots : List (Slot α)) (index : Nat) (slot : Slot α) : Option (List (Slot α)) :=
  if index < slots.length then some (slots.set index slot) else none

/-- The items up to the first null slot; `none` when the reader meets an undefined slot first. -/
def untilNull : List (Slot α) → Option (List α)
  | value item :: rest => (untilNull rest).map (item :: ·)
  | null :: _ => some []
  | undefined :: _ => none
  | [] => none

/-- Every slot up to the first null slot, and that one, is written. -/
def Terminated (slots : List (Slot α)) : Prop :=
  ∃ (items : List α) (rest : List (Slot α)), slots = items.map value ++ null :: rest

theorem untilNull_terminated (items : List α) (rest : List (Slot α)) :
    untilNull (items.map value ++ null :: rest) = some items := by
  induction items with
  | nil => rfl
  | cons item items ih =>
    show (untilNull (items.map value ++ null :: rest)).map (item :: ·) = _
    rw [ih, Option.map_some]

theorem not_terminated_allocate (size : Nat) : ¬ Terminated (allocate size : List (Slot α)) := by
  rintro ⟨items, rest, hSlots⟩
  have hNull : (null : Slot α) ∈ allocate size := by
    rw [hSlots]
    exact List.mem_append_right _ List.mem_cons_self
  cases List.eq_of_mem_replicate hNull

/-- An array whose first slots hold the items and whose other slots are undefined. -/
def filled (items : List α) (free : Nat) : List (Slot α) := items.map value ++ allocate free

theorem write_filled (items : List α) (free : Nat) (slot : Slot α) :
    write (filled items (free + 1)) items.length slot =
      some (items.map value ++ slot :: allocate free) := by
  have hLength : items.length < (filled items (free + 1)).length := by
    simp [filled, allocate]
  have hSet := List.set_append_right (s := items.map (value (α := α))) (t := allocate (free + 1))
    items.length slot (by simp)
  rw [write, if_pos hLength, filled, hSet, List.length_map, Nat.sub_self]
  rfl

theorem write_value_filled (items : List α) (free : Nat) (item : α) :
    write (filled items (free + 1)) items.length (value item) =
      some (filled (items ++ [item]) free) := by
  rw [write_filled, filled, List.map_append, List.append_assoc]
  rfl

theorem exists_write_null (items : List α) (free : Nat) :
    ∃ slots, write (filled items (free + 1)) items.length null = some slots ∧ Terminated slots :=
  ⟨_, write_filled items free null, items, allocate free, rfl⟩

end Slot
