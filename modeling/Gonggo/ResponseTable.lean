import Gonggo.Define
import Gonggo.Library.KeysetPaging
import Mathlib.Data.Int.Interval
import Mathlib.Data.List.Sort

/-! # The table of responses

db.c: the rows of the SQLite table `request`, with the primary key (id, num), and the three
functions that add to it, purge it and read it. Each of them runs under the database lock. The
text of a response is opaque to all three, so its type is left open.
-/

namespace Gonggo

/-- A C `int`, as `sqlite3_bind_int` and `sqlite3_column_int` pass it. -/
def cInt (n : Int) : Int := n.bmod (2 ^ 32)

def cIntMax : Int := 2 ^ 31 - 1

theorem cInt_eq_self {n : Int} (hLow : 0 ≤ n) (hHigh : n ≤ cIntMax) : cInt n = n := by
  unfold cIntMax at hHigh
  apply Int.bmod_eq_of_le <;> omega

theorem cInt_le (n : Int) : cInt n ≤ cIntMax := by
  have h : cInt n < (((2 ^ 32 : Nat) : Int) + 1) / 2 := Int.bmod_lt (by decide)
  unfold cIntMax
  omega

structure ResponseRow (ρ : Type) where
  id : Rid
  num : Int
  respond : ρ
  ts : String
  deriving DecidableEq

namespace ResponseRow

variable {ρ : Type}

def key (row : ResponseRow ρ) : Rid × Int := (row.id, row.num)

end ResponseRow

/-- The rows with their primary key; every number was bound as an `int`. -/
structure ResponseTable (ρ : Type) where
  rows : List (ResponseRow ρ)
  keyed : (rows.map ResponseRow.key).Nodup
  bound : ∀ row ∈ rows, row.num ≤ cIntMax

namespace ResponseTable

variable {ρ : Type} (table : ResponseTable ρ) (rid : Rid)

def empty : ResponseTable ρ := ⟨[], List.nodup_nil, fun _ h => by cases h⟩

def rowsOf : List (ResponseRow ρ) := table.rows.filter fun row => row.id = rid

/-- `SELECT MAX(num) FROM request WHERE id = ?`, read as an `int`: 0 when there is no row. -/
def maxNum : Int := cInt (((table.rowsOf rid).map ResponseRow.num).max?.getD 0)

/-- `INSERT INTO request` with the number after `num`; it fails when the key is taken. -/
def insertAfter (num : Int) (respond : ρ) (ts : String) : Bool × ResponseTable ρ :=
  if h : (rid, cInt (num + 1)) ∈ table.rows.map ResponseRow.key then (false, table)
  else (true,
    { rows := table.rows ++ [⟨rid, cInt (num + 1), respond, ts⟩]
      keyed := by
        rw [List.map_append]
        exact table.keyed.append (List.nodup_singleton _) (List.disjoint_singleton.mpr h)
      bound := by
        intro row hRow
        rcases List.mem_append.mp hRow with hOld | hNew
        · exact table.bound row hOld
        · rw [List.mem_singleton.mp hNew]
          exact cInt_le _ })

/-- `db_respond_insert`; it fails when the key is taken. -/
def respondInsert (respond : ρ) (ts : String) : Bool × ResponseTable ρ :=
  table.insertAfter rid (table.maxNum rid) respond ts

/-- `DELETE FROM request WHERE ts < ?`. -/
def respondPurge (cutoff : String) : ResponseTable ρ where
  rows := table.rows.filter fun row => ¬ row.ts < cutoff
  keyed := table.keyed.sublist (List.filter_sublist.map _)
  bound row hRow := table.bound row (List.mem_of_mem_filter hRow)

/-- `WHERE id = ? AND num >= ? ORDER BY num`. -/
def selected (start : Int) : List (ResponseRow ρ) :=
  ((table.rowsOf rid).filter fun row => start ≤ row.num).insertionSort fun a b => a.num ≤ b.num

/-- `LIMIT ?`: a negative limit is none. -/
def limited (limit : Int) (rows : List (ResponseRow ρ)) : List (ResponseRow ρ) :=
  if limit < 0 then rows else rows.take limit.toNat

end ResponseTable

/-- What `db_respond_query` fills in, with the number of strings it allocated room for. -/
structure RespondPage (ρ : Type) where
  allocated : Int
  respond : List ρ
  stop : Int
  more : Int
  deriving DecidableEq

namespace RespondPage

variable {ρ : Type}

def empty : RespondPage ρ := { allocated := 0, respond := [], stop := 0, more := 0 }

/-- The loop over the rows: each one leaves its number in `stop` and its text in the array. -/
def fetch (page : RespondPage ρ) : List (ResponseRow ρ) → RespondPage ρ
  | [] => page
  | row :: rows => fetch { page with stop := row.num, respond := page.respond ++ [row.respond] } rows

end RespondPage

namespace ResponseTable

variable {ρ : Type} (table : ResponseTable ρ) (rid : Rid)

def respondQuery (start size : Int) : RespondPage ρ :=
  let total := cInt (table.selected rid start).length
  if total < 1 then .empty
  else
    let count := if total > size then size else total
    RespondPage.fetch
      { allocated := count, respond := [], stop := 0, more := if total > size then total - size else 0 }
      (limited count (table.selected rid start))

variable {table rid}

/-! ## The rows that a query selects -/

theorem mem_rowsOf {row : ResponseRow ρ} : row ∈ table.rowsOf rid ↔ row ∈ table.rows ∧ row.id = rid := by
  simp [rowsOf]

theorem mem_selected {start : Int} {row : ResponseRow ρ} :
    row ∈ table.selected rid start ↔ row ∈ table.rows ∧ row.id = rid ∧ start ≤ row.num := by
  unfold selected
  rw [List.mem_insertionSort, List.mem_filter, mem_rowsOf, and_assoc, decide_eq_true_iff]

theorem nums_nodup : ((table.rowsOf rid).map ResponseRow.num).Nodup := by
  have hKeys : ((table.rowsOf rid).map ResponseRow.key).Nodup :=
    table.keyed.sublist (List.filter_sublist.map _)
  have hPairs : (table.rowsOf rid).map ResponseRow.key =
      ((table.rowsOf rid).map ResponseRow.num).map fun num => (rid, num) := by
    rw [List.map_map]
    apply List.map_congr_left
    intro row hRow
    exact Prod.ext (mem_rowsOf.mp hRow).2 rfl
  rw [hPairs] at hKeys
  exact hKeys.of_map _

theorem max?_nums {row : ResponseRow ρ} (h : row ∈ table.rowsOf rid) :
    ∃ num, ((table.rowsOf rid).map ResponseRow.num).max? = some num ∧ row.num ≤ num ∧ num ≤ cIntMax := by
  have hMem : row.num ∈ (table.rowsOf rid).map ResponseRow.num := List.mem_map_of_mem h
  cases hMax : ((table.rowsOf rid).map ResponseRow.num).max? with
  | none =>
    rw [List.max?_eq_none_iff.mp hMax] at hMem
    cases hMem
  | some num =>
    obtain ⟨hNum, hLe⟩ := List.max?_eq_some_iff.mp hMax
    obtain ⟨last, hLast, rfl⟩ := List.mem_map.mp hNum
    exact ⟨last.num, rfl, hLe _ hMem, table.bound last (mem_rowsOf.mp hLast).1⟩

theorem le_maxNum (hNumbered : ∀ row ∈ table.rowsOf rid, 1 ≤ row.num) {row : ResponseRow ρ}
    (h : row ∈ table.rowsOf rid) : row.num ≤ table.maxNum rid := by
  obtain ⟨num, hMax, hLe, hBound⟩ := max?_nums h
  have hLow := hNumbered row h
  rw [maxNum, hMax, Option.getD_some, cInt_eq_self (by omega) hBound]
  exact hLe

theorem maxNum_nonneg (hNumbered : ∀ row ∈ table.rowsOf rid, 1 ≤ row.num) : 0 ≤ table.maxNum rid := by
  cases hRows : table.rowsOf rid with
  | nil => simp [maxNum, hRows, cInt]
  | cons row rows =>
    have hMem : row ∈ table.rowsOf rid := hRows ▸ List.mem_cons_self
    have hLow := hNumbered row hMem
    have hLe := le_maxNum hNumbered hMem
    omega

theorem rowsOf_respondPurge (cutoff : String) {row : ResponseRow ρ}
    (h : row ∈ (table.respondPurge cutoff).rowsOf rid) : row ∈ table.rowsOf rid := by
  obtain ⟨hMem, hId⟩ := mem_rowsOf.mp h
  exact mem_rowsOf.mpr ⟨List.mem_of_mem_filter hMem, hId⟩

theorem rows_respondInsert {id : Rid} {respond : ρ} {ts : String}
    (h : (table.respondInsert id respond ts).1 = true) :
    (table.respondInsert id respond ts).2.rows =
      table.rows ++ [⟨id, cInt (table.maxNum id + 1), respond, ts⟩] := by
  unfold respondInsert insertAfter at h ⊢
  split at h
  · cases h
  · rename_i hFree
    rw [dif_neg hFree]

theorem selected_increasing (start : Int) :
    KeysetPaging.Increasing ResponseRow.num (table.selected rid start) := by
  have hSorted : (table.selected rid start).Pairwise fun a b => a.num ≤ b.num :=
    List.pairwise_insertionSort ..
  have hNodup : ((table.selected rid start).map ResponseRow.num).Nodup := by
    have hPerm := (List.perm_insertionSort (fun a b : ResponseRow ρ => a.num ≤ b.num)
      ((table.rowsOf rid).filter fun row => start ≤ row.num)).map ResponseRow.num
    exact hPerm.nodup_iff.mpr (nums_nodup.sublist (List.filter_sublist.map _))
  exact (hSorted.and (List.pairwise_map.mp hNodup)).imp fun h => lt_of_le_of_ne h.1 h.2

theorem selected_filter {start later : Int} (h : start ≤ later) :
    (table.selected rid start).filter (fun row => later ≤ row.num) = table.selected rid later := by
  have hLeft : ((table.selected rid start).filter fun row => later ≤ row.num).Pairwise
      fun a b => a.num < b.num := (selected_increasing start).filter _
  refine List.Perm.eq_of_pairwise (fun a b _ _ hab hba => absurd hab hba.asymm) hLeft
    (selected_increasing later) ?_
  apply (List.perm_ext_iff_of_nodup (hLeft.imp fun hLess hEq => ?_)
    ((selected_increasing later).imp fun hLess hEq => ?_)).mpr
  · intro row
    rw [List.mem_filter, mem_selected, mem_selected, decide_eq_true_iff]
    constructor
    · rintro ⟨⟨hMem, hId, -⟩, hNum⟩
      exact ⟨hMem, hId, hNum⟩
    · rintro ⟨hMem, hId, hNum⟩
      exact ⟨⟨hMem, hId, h.trans hNum⟩, hNum⟩
  · exact absurd (hEq ▸ hLess) (lt_irrefl _)
  · exact absurd (hEq ▸ hLess) (lt_irrefl _)

/-- The count is an `int`: the selected rows have different positive numbers. -/
theorem length_selected_le {start : Int} (hStart : 1 ≤ start) :
    ((table.selected rid start).length : Int) ≤ cIntMax := by
  have hNodup : ((table.selected rid start).map ResponseRow.num).Nodup :=
    List.pairwise_map.mpr ((selected_increasing start).imp ne_of_lt)
  have hRange : ((table.selected rid start).map ResponseRow.num).toFinset ⊆ Finset.Icc 1 cIntMax := by
    intro num hNum
    obtain ⟨row, hRow, rfl⟩ := List.mem_map.mp (List.mem_toFinset.mp hNum)
    obtain ⟨hMem, -, hLow⟩ := mem_selected.mp hRow
    exact Finset.mem_Icc.mpr ⟨hStart.trans hLow, table.bound row hMem⟩
  have hCard := Finset.card_le_card hRange
  rw [List.toFinset_card_of_nodup hNodup, List.length_map, Int.card_Icc] at hCard
  unfold cIntMax at hCard ⊢
  omega

end ResponseTable

theorem RespondPage.fetch_eq {ρ : Type} (page : RespondPage ρ) (rows : List (ResponseRow ρ)) :
    page.fetch rows =
      { page with
        respond := page.respond ++ rows.map ResponseRow.respond
        stop := (rows.getLast?.map ResponseRow.num).getD page.stop } := by
  induction rows generalizing page with
  | nil => simp [fetch]
  | cons row rows ih =>
    rw [fetch, ih]
    cases hRows : rows.getLast? with
    | none => simp [List.getLast?_cons, hRows]
    | some last => simp [List.getLast?_cons, hRows]

namespace ResponseTable

variable {ρ : Type} {table : ResponseTable ρ} {rid : Rid}

theorem exists_last_of_ne_nil {start size : Int} (hSize : 1 ≤ size)
    (h : table.selected rid start ≠ []) :
    ∃ last, ((table.selected rid start).take size.toNat).getLast? = some last := by
  have hTake : (table.selected rid start).take size.toNat ≠ [] := by
    rw [ne_eq, List.take_eq_nil_iff]
    rintro (hZero | hNil)
    · omega
    · exact h hNil
  exact ⟨_, List.getLast?_eq_some_getLast hTake⟩

theorem respondQuery_of_none {start : Int} (h : table.selected rid start = []) (size : Int) :
    table.respondQuery rid start size = .empty := by
  simp [respondQuery, h, cInt]

/-- A query that finds something takes the first rows in the order of their numbers. -/
theorem respondQuery_of_some {start size : Int} (hStart : 1 ≤ start) (hSize : 1 ≤ size)
    {last : ResponseRow ρ}
    (hLast : ((table.selected rid start).take size.toNat).getLast? = some last) :
    table.respondQuery rid start size =
      { allocated := min size (table.selected rid start).length
        respond := ((table.selected rid start).take size.toNat).map ResponseRow.respond
        stop := last.num
        more := ((table.selected rid start).drop size.toNat).length } := by
  have hPos : 0 < (table.selected rid start).length := by
    apply List.length_pos_of_ne_nil
    intro hNil
    rw [hNil, List.take_nil] at hLast
    cases hLast
  have hTotal : cInt (table.selected rid start).length = (table.selected rid start).length :=
    cInt_eq_self (Int.natCast_nonneg _) (length_selected_le hStart)
  have hLimited : limited (if ((table.selected rid start).length : Int) > size then size
      else (table.selected rid start).length) (table.selected rid start) =
        (table.selected rid start).take size.toNat := by
    unfold limited
    split
    · rw [if_neg (by omega)]
    · rw [if_neg (by omega), Int.toNat_natCast, List.take_length, List.take_of_length_le (by omega)]
  unfold respondQuery
  simp only [hTotal]
  rw [if_neg (by omega), hLimited, RespondPage.fetch_eq, hLast, List.length_drop]
  simp only [RespondPage.mk.injEq, List.nil_append, Option.map_some, Option.getD_some, true_and]
  constructor
  · split <;> omega
  · split <;> omega

end ResponseTable

end Gonggo
