import Mathlib.Data.List.Pairwise
import Mathlib.Order.Lattice

/-! # Pages of a list that increases in a key

A reader takes the first few rows and goes on behind the key of the last one. In a list whose
keys strictly increase, the rows behind that key are exactly the rows that the page left over,
so a key is as good a bookmark as a position.
-/

universe u v

namespace KeysetPaging

variable {ρ : Type u} {κ : Type v} [LinearOrder κ] {key : ρ → κ}

def Increasing (key : ρ → κ) (rows : List ρ) : Prop := rows.Pairwise fun a b => key a < key b

theorem filter_behind {before after : List ρ} {last : ρ}
    (h : Increasing key (before ++ last :: after)) :
    (before ++ last :: after).filter (fun row => key last < key row) = after := by
  obtain ⟨-, hAfter, hBefore⟩ := List.pairwise_append.mp h
  have hNone : before.filter (fun row => key last < key row) = [] := by
    apply List.filter_eq_nil_iff.mpr
    intro row hRow
    simpa using (hBefore row hRow last List.mem_cons_self).le
  have hAll : after.filter (fun row => key last < key row) = after := by
    apply List.filter_eq_self.mpr
    intro row hRow
    simpa using (List.pairwise_cons.mp hAfter).1 row hRow
  rw [List.filter_append, hNone, List.filter_cons, if_neg (by simp), hAll, List.nil_append]

/-- What a page leaves over is what stands behind the key of its last row. -/
theorem drop_eq_filter {rows : List ρ} (h : Increasing key rows) {n : Nat} {last : ρ}
    (hLast : (rows.take n).getLast? = some last) :
    rows.drop n = rows.filter fun row => key last < key row := by
  obtain ⟨before, hBefore⟩ := List.getLast?_eq_some_iff.mp hLast
  have hRows : rows = before ++ last :: rows.drop n := by
    calc
      rows = rows.take n ++ rows.drop n := (List.take_append_drop n rows).symm
      _ = before ++ last :: rows.drop n := by rw [hBefore, List.append_assoc, List.singleton_append]
  have hFilter := filter_behind (hRows ▸ h)
  rw [← hRows] at hFilter
  exact hFilter.symm

/-- A row is on the page exactly when the reader's new bookmark is not before it. -/
theorem mem_take_iff {rows : List ρ} (h : Increasing key rows) {n : Nat} {last row : ρ}
    (hLast : (rows.take n).getLast? = some last) (hRow : row ∈ rows) :
    row ∈ rows.take n ↔ key row ≤ key last := by
  have hSplit : row ∈ rows.take n ∨ row ∈ rows.drop n := by
    rw [← List.mem_append, List.take_append_drop]
    exact hRow
  have hIncreasing := h
  rw [Increasing, ← List.take_append_drop n rows] at hIncreasing
  have hApart := (List.pairwise_append.mp hIncreasing).2.2
  have hBehind : row ∈ rows.drop n ↔ key last < key row := by
    rw [drop_eq_filter h hLast]
    simp [hRow]
  constructor
  · intro hTake
    by_contra hLess
    exact lt_irrefl _ (hApart row hTake row (hBehind.mpr (not_le.mp hLess)))
  · intro hLe
    rcases hSplit with hTake | hDrop
    · exact hTake
    · exact absurd (hBehind.mp hDrop) (not_lt.mpr hLe)

end KeysetPaging
