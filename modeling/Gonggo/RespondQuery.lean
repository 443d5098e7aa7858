import Gonggo.Library.LockTrace
import Gonggo.Library.SlotArray
import Gonggo.ResponseTable

/-! # The result of a response query

`db_respond_query` with the memory that it fills in and the status of every SQLite call. The array
of texts is allocated between the two statements, and only the end of the loop over the rows puts
the null slot behind them.
-/

namespace Gonggo

inductive SqliteStatus
  | ok
  | row
  | done
  | error (code : Int)
  deriving DecidableEq, Repr

/-- `db_error` apart from its log. -/
def dbError (status : SqliteStatus) : Bool := decide (status ≠ .ok)

/-- The statuses of the calls in their order. Stepping through the rows follows the table, except
at a turn that has an error of its own. -/
structure QueryStatuses where
  opened : SqliteStatus
  countPrepared : SqliteStatus
  countRidBound : SqliteStatus
  countStartBound : SqliteStatus
  countStepped : SqliteStatus
  rowsPrepared : SqliteStatus
  rowsRidBound : SqliteStatus
  rowsStartBound : SqliteStatus
  rowsLimitBound : SqliteStatus
  rowsError : Nat → Option Int

structure RespondQueryReturn (ρ : Type) where
  result : Bool
  respond : Option (List (Slot ρ))
  stop : Int
  more : Int
  locking : List LockAction

variable {ρ : Type}

/-- `malloc((count + 1) * sizeof(char*))`: a sum that overflows asks for more than there is. -/
def respondAllocate (count : Int) : Option (List (Slot ρ)) :=
  if cInt (count + 1) < 0 then none else some (Slot.allocate (cInt (count + 1)).toNat)

/-- The loop over the rows, from the slot that `run` points to; `none` is a write outside the array.
The value says whether the loop came to the end of the rows. -/
def respondFetch (rowsError : Nat → Option Int) (slots : List (Slot ρ)) (run : Nat) (stop : Int) :
    List (ResponseRow ρ) → Option (Bool × List (Slot ρ) × Int)
  | [] =>
      (Slot.write slots run .null).map fun slots => ((rowsError run).isNone, slots, stop)
  | row :: rest =>
      match rowsError run with
      | some _ => (Slot.write slots run .null).map fun slots => (false, slots, stop)
      | none => (Slot.write slots run (.value row.respond)).bind fun slots =>
          respondFetch rowsError slots (run + 1) row.num rest

/-- `db_respond_query` from its allocation on. -/
def respondRows (statuses : QueryStatuses) (table : ResponseTable ρ) (rid : Rid) (start count more : Int) :
    Option (RespondQueryReturn ρ) :=
  let unread : RespondQueryReturn ρ :=
    { result := false, respond := respondAllocate count, stop := 0, more := more,
      locking := [.lock, .unlock] }
  if dbError statuses.rowsPrepared then some unread
  else if dbError statuses.rowsRidBound then some unread
  else if dbError statuses.rowsStartBound then some unread
  else if dbError statuses.rowsLimitBound then some unread
  else
    unread.respond.bind fun slots =>
      (respondFetch statuses.rowsError slots 0 0
        (ResponseTable.limited count (table.selected rid start))).map fun fetched =>
          { unread with result := fetched.1, respond := some fetched.2.1, stop := fetched.2.2 }

/-- `none` when the query writes through a null pointer or outside the array. -/
def dbRespondQuery (statuses : QueryStatuses) (table : ResponseTable ρ) (rid : Rid)
    (start size : Int) : Option (RespondQueryReturn ρ) :=
  let failed : RespondQueryReturn ρ :=
    { result := false, respond := none, stop := 0, more := 0, locking := [.lock, .unlock] }
  if dbError statuses.opened then some failed
  else if dbError statuses.countPrepared then some failed
  else if dbError statuses.countRidBound then some failed
  else if dbError statuses.countStartBound then some failed
  else if statuses.countStepped ≠ .row ∧ statuses.countStepped ≠ .done then some failed
  else
    let total := if statuses.countStepped = .row then cInt (table.selected rid start).length else 0
    if total < 1 then some { failed with result := true }
    else
      respondRows statuses table rid start (if total > size then size else total)
        (if total > size then total - size else 0)

/-- `db_respond_query_result_destroy`, with the texts that it frees; `none` when it reads a slot
that was never written. -/
def dbRespondQueryResultDestroy (respond : Option (List (Slot ρ))) : Option (List ρ) :=
  match respond with
  | none => some []
  | some slots => Slot.untilNull slots

/-! ## The loop over the rows -/

/-- An array with room for all rows and the null slot is terminated, wherever the loop ends. -/
theorem terminated_respondFetch (rowsError : Nat → Option Int) (items : List ρ) (stop : Int)
    {rows : List (ResponseRow ρ)} {free : Nat} (hRoom : rows.length ≤ free) :
    ∃ fetched, respondFetch rowsError (Slot.filled items (free + 1)) items.length stop rows =
      some fetched ∧ Slot.Terminated fetched.2.1 := by
  obtain ⟨slots, hWrite, hTerminated⟩ := Slot.exists_write_null items free
  induction rows generalizing items stop free slots with
  | nil =>
    rw [respondFetch, hWrite]
    exact ⟨_, rfl, hTerminated⟩
  | cons row rest ih =>
    unfold respondFetch
    cases rowsError items.length with
    | some code =>
      rw [hWrite]
      exact ⟨_, rfl, hTerminated⟩
    | none =>
      rw [List.length_cons] at hRoom
      obtain ⟨left, rfl⟩ : ∃ left, free = left + 1 := Nat.exists_eq_add_of_le' (by omega)
      obtain ⟨next, hNext, hNextTerminated⟩ := Slot.exists_write_null (items ++ [row.respond]) left
      rw [Slot.write_value_filled, Option.bind_some]
      have hRest := ih (items ++ [row.respond]) row.num (by omega : rest.length ≤ left) next hNext hNextTerminated
      rwa [List.length_append, List.length_singleton] at hRest

/-- Without an error the loop comes to the end and fills in all rows. -/
theorem respondFetch_of_no_error (items : List ρ) (stop : Int) {rows : List (ResponseRow ρ)}
    {free : Nat} (hRoom : rows.length ≤ free) :
    respondFetch (fun _ => none) (Slot.filled items (free + 1)) items.length stop rows =
      some (true, (items ++ rows.map ResponseRow.respond).map Slot.value ++
          Slot.null :: Slot.allocate (free - rows.length),
        (rows.getLast?.map ResponseRow.num).getD stop) := by
  induction rows generalizing items stop free with
  | nil =>
    rw [respondFetch, Slot.write_filled]
    simp
  | cons row rest ih =>
    obtain ⟨left, rfl⟩ : ∃ left, free = left + 1 := Nat.exists_eq_add_of_le' (by
      rw [List.length_cons] at hRoom
      omega)
    have hFits : rest.length ≤ left := by simpa using hRoom
    have hNext := ih (items ++ [row.respond]) row.num hFits
    rw [List.length_append, List.length_singleton] at hNext
    unfold respondFetch
    simp only [Slot.write_value_filled, Option.bind_some, hNext]
    cases hLast : rest.getLast? with
    | none => simp [List.getLast?_cons, hLast]
    | some last => simp [List.getLast?_cons, hLast]

/-! ## Consumable results -/

/-- The array has its null slot behind written ones, the reader gets to it, and the database lock is
free. -/
structure Consumable (ret : RespondQueryReturn ρ) : Prop where
  terminated : ∀ slots, ret.respond = some slots → Slot.Terminated slots
  freed : ∃ texts, dbRespondQueryResultDestroy ret.respond = some texts
  released : LockAction.Balanced ret.locking

theorem consumable_of_terminated {ret : RespondQueryReturn ρ}
    (h : ∀ slots, ret.respond = some slots → Slot.Terminated slots)
    (hLocking : ret.locking = [.lock, .unlock]) : Consumable ret where
  terminated := h
  freed := by
    cases hRespond : ret.respond with
    | none => exact ⟨[], rfl⟩
    | some slots =>
      obtain ⟨items, rest, rfl⟩ := h slots hRespond
      exact ⟨items, Slot.untilNull_terminated items rest⟩
  released := by
    rw [hLocking]
    decide

/-- The first statement has counted the rows. -/
structure QueryStatuses.Counted (statuses : QueryStatuses) : Prop where
  opened : statuses.opened = .ok
  countPrepared : statuses.countPrepared = .ok
  countRidBound : statuses.countRidBound = .ok
  countStartBound : statuses.countStartBound = .ok
  countStepped : statuses.countStepped = .row

/-- The second statement is ready for its first step. -/
structure QueryStatuses.RowsReady (statuses : QueryStatuses) : Prop where
  rowsPrepared : statuses.rowsPrepared = .ok
  rowsRidBound : statuses.rowsRidBound = .ok
  rowsStartBound : statuses.rowsStartBound = .ok
  rowsLimitBound : statuses.rowsLimitBound = .ok

theorem dbError_eq_false {status : SqliteStatus} : dbError status = false ↔ status = .ok :=
  decide_eq_false_iff_not.trans not_not

/-! ## What a query returns -/

variable {statuses : QueryStatuses} {table : ResponseTable ρ} {rid : Rid} {start size : Int}

/-- The number of texts that the query has to find room for. -/
def respondCount (table : ResponseTable ρ) (rid : Rid) (start size : Int) : Int :=
  min size (table.selected rid start).length

theorem respondAllocate_of_lt {count : Int} (hLow : 0 ≤ count) (hHigh : count < cIntMax) :
    respondAllocate (ρ := ρ) count = some (Slot.filled [] (count.toNat + 1)) := by
  have hSum : cInt (count + 1) = count + 1 := cInt_eq_self (by omega) (by omega)
  rw [respondAllocate, hSum, if_neg (by omega), Int.toNat_add hLow (by decide)]
  rfl

theorem respondAllocate_cIntMax : respondAllocate (ρ := ρ) cIntMax = none := by
  rw [respondAllocate, if_pos (by decide)]

/-- The first statement fails, so there is no array. -/
theorem dbRespondQuery_of_not_counted (table : ResponseTable ρ) (rid : Rid) (start size : Int)
    (h : ¬ statuses.Counted) :
    ∃ ret, dbRespondQuery statuses table rid start size = some ret ∧ ret.respond = none ∧
      ret.locking = [.lock, .unlock] := by
  cases hOpened : dbError statuses.opened with
  | true => exact ⟨_, by rw [dbRespondQuery, if_pos hOpened], rfl, rfl⟩
  | false =>
    rw [dbRespondQuery, if_neg (by simp [hOpened])]
    cases hPrepared : dbError statuses.countPrepared with
    | true => exact ⟨_, by rw [if_pos rfl], rfl, rfl⟩
    | false =>
      rw [if_neg (by decide)]
      cases hRid : dbError statuses.countRidBound with
      | true => exact ⟨_, by rw [if_pos rfl], rfl, rfl⟩
      | false =>
        rw [if_neg (by decide)]
        cases hBound : dbError statuses.countStartBound with
        | true => exact ⟨_, by rw [if_pos rfl], rfl, rfl⟩
        | false =>
          rw [if_neg (by decide)]
          rw [dbError_eq_false] at hOpened hPrepared hRid hBound
          cases hStepped : statuses.countStepped with
          | row => exact absurd ⟨hOpened, hPrepared, hRid, hBound, hStepped⟩ h
          | done =>
            have hTotal : (if SqliteStatus.done = .row then cInt (table.selected rid start).length
                else 0) < 1 := by
              rw [if_neg (by decide)]
              decide
            exact ⟨_, by rw [if_neg (by decide), if_pos hTotal], rfl, rfl⟩
          | ok => exact ⟨_, by rw [if_pos (by decide)], rfl, rfl⟩
          | error code => exact ⟨_, by rw [if_pos (by simp)], rfl, rfl⟩

theorem dbRespondQuery_counted (h : statuses.Counted) :
    dbRespondQuery statuses table rid start size =
      let total := cInt (table.selected rid start).length
      if total < 1 then
        some { result := true, respond := none, stop := 0, more := 0, locking := [.lock, .unlock] }
      else respondRows statuses table rid start (if total > size then size else total)
        (if total > size then total - size else 0) := by
  rw [dbRespondQuery, h.opened, h.countPrepared, h.countRidBound, h.countStartBound, h.countStepped]
  rw [if_neg (by decide), if_neg (by decide), if_neg (by decide), if_neg (by decide),
    if_neg (by decide)]
  simp only [if_true]

/-- Nothing is found, so there is no array. -/
theorem dbRespondQuery_of_nil (h : statuses.Counted) (hNil : table.selected rid start = []) :
    dbRespondQuery statuses table rid start size =
      some { result := true, respond := none, stop := 0, more := 0, locking := [.lock, .unlock] } := by
  rw [dbRespondQuery_counted h, hNil, List.length_nil]
  exact if_pos (by decide)

theorem dbRespondQuery_of_counted (hStart : 1 ≤ start) (h : statuses.Counted)
    (hSome : table.selected rid start ≠ []) :
    dbRespondQuery statuses table rid start size =
      respondRows statuses table rid start (respondCount table rid start size)
        ((table.selected rid start).length - respondCount table rid start size) := by
  have hTotal : cInt (table.selected rid start).length = (table.selected rid start).length :=
    cInt_eq_self (Int.natCast_nonneg _) (ResponseTable.length_selected_le hStart)
  have hPos : 0 < (table.selected rid start).length := List.length_pos_of_ne_nil hSome
  have hCount : (if ((table.selected rid start).length : Int) > size then size
      else (table.selected rid start).length) = respondCount table rid start size := by
    unfold respondCount
    split <;> omega
  have hMore : (if ((table.selected rid start).length : Int) > size then
      ((table.selected rid start).length : Int) - size else 0) =
        (table.selected rid start).length - respondCount table rid start size := by
    unfold respondCount
    split <;> omega
  rw [dbRespondQuery_counted h]
  simp only [hTotal]
  rw [if_neg (by omega), hCount, hMore]

/-- The second statement fails before its first step, which leaves the array as it was allocated. -/
theorem respondRows_of_not_ready (table : ResponseTable ρ) (rid : Rid) (start count more : Int)
    (h : ¬ statuses.RowsReady) :
    ∃ ret, respondRows statuses table rid start count more = some ret ∧
      ret.respond = respondAllocate count ∧ ret.locking = [.lock, .unlock] := by
  cases hPrepared : dbError statuses.rowsPrepared with
  | true => exact ⟨_, by rw [respondRows, if_pos hPrepared], rfl, rfl⟩
  | false =>
    rw [respondRows, if_neg (by simp [hPrepared])]
    cases hRid : dbError statuses.rowsRidBound with
    | true => exact ⟨_, by rw [if_pos rfl], rfl, rfl⟩
    | false =>
      rw [if_neg (by decide)]
      cases hBound : dbError statuses.rowsStartBound with
      | true => exact ⟨_, by rw [if_pos rfl], rfl, rfl⟩
      | false =>
        rw [if_neg (by decide)]
        cases hLimit : dbError statuses.rowsLimitBound with
        | true => exact ⟨_, by rw [if_pos rfl], rfl, rfl⟩
        | false =>
          rw [dbError_eq_false] at hPrepared hRid hBound hLimit
          exact absurd ⟨hPrepared, hRid, hBound, hLimit⟩ h

theorem respondRows_of_ready (h : statuses.RowsReady) (count more : Int) :
    respondRows statuses table rid start count more =
      (respondAllocate count).bind fun slots =>
        (respondFetch statuses.rowsError slots 0 0
          (ResponseTable.limited count (table.selected rid start))).map fun fetched =>
            { result := fetched.1, respond := some fetched.2.1, stop := fetched.2.2, more := more,
              locking := [.lock, .unlock] } := by
  rw [respondRows, h.rowsPrepared, h.rowsRidBound, h.rowsStartBound, h.rowsLimitBound]
  rw [if_neg (by decide), if_neg (by decide), if_neg (by decide), if_neg (by decide)]

theorem respondCount_bounds (hStart : 1 ≤ start) (hSize : 1 ≤ size)
    (hSome : table.selected rid start ≠ []) :
    1 ≤ respondCount table rid start size ∧ respondCount table rid start size ≤ cIntMax := by
  have hPos : 0 < (table.selected rid start).length := List.length_pos_of_ne_nil hSome
  have hBound : ((table.selected rid start).length : Int) ≤ cIntMax :=
    ResponseTable.length_selected_le hStart
  unfold respondCount
  omega

theorem limited_respondCount (hSize : 1 ≤ size) :
    ResponseTable.limited (respondCount table rid start size) (table.selected rid start) =
      (table.selected rid start).take size.toNat := by
  unfold ResponseTable.limited respondCount
  rw [if_neg (by omega)]
  rcases le_total size ((table.selected rid start).length : Int) with hLe | hLe
  · rw [min_eq_left hLe]
  · rw [min_eq_right hLe, Int.toNat_natCast, List.take_length, List.take_of_length_le (by omega)]

theorem length_limited_le {count : Int} (hCount : 0 ≤ count) (rows : List (ResponseRow ρ)) :
    (ResponseTable.limited count rows).length ≤ count.toNat := by
  rw [ResponseTable.limited, if_neg (by omega)]
  exact List.length_take_le ..

/-- A query that has counted rows and then either fails before its first row, or reads with more
slots asked for than an `int` counts. -/
structure Spoiled (statuses : QueryStatuses) (table : ResponseTable ρ) (rid : Rid)
    (start size : Int) : Prop where
  counted : statuses.Counted
  found : table.selected rid start ≠ []
  unread : statuses.RowsReady ↔ respondCount table rid start size = cIntMax

/-- The query returns, with a result that can be consumed. -/
def ReturnsConsumable (statuses : QueryStatuses) (table : ResponseTable ρ) (rid : Rid)
    (start size : Int) : Prop :=
  ∃ ret, dbRespondQuery statuses table rid start size = some ret ∧ Consumable ret

theorem Spoiled.not_returnsConsumable (hStart : 1 ≤ start) (hSize : 1 ≤ size)
    (h : Spoiled statuses table rid start size) : ¬ ReturnsConsumable statuses table rid start size := by
  rintro ⟨ret, hRet, hConsumable⟩
  obtain ⟨hLow, hHigh⟩ := respondCount_bounds hStart hSize h.found
  rw [dbRespondQuery_of_counted hStart h.counted h.found] at hRet
  by_cases hReady : statuses.RowsReady
  · rw [respondRows_of_ready hReady, h.unread.mp hReady, respondAllocate_cIntMax] at hRet
    cases hRet
  · obtain ⟨left, hLeft, hRespond, -⟩ := respondRows_of_not_ready table rid start
      (respondCount table rid start size)
      ((table.selected rid start).length - respondCount table rid start size) hReady
    have hSame : left = ret := Option.some.inj (hLeft.symm.trans hRet)
    rw [hSame, respondAllocate_of_lt (by omega) (lt_of_le_of_ne hHigh (mt h.unread.mpr hReady))] at hRespond
    exact Slot.not_terminated_allocate _ (hConsumable.terminated _ hRespond)

theorem returnsConsumable_of_found (hStart : 1 ≤ start) (hSize : 1 ≤ size)
    (hCounted : statuses.Counted) (hSome : table.selected rid start ≠ [])
    (h : ¬ (statuses.RowsReady ↔ respondCount table rid start size = cIntMax)) :
    ReturnsConsumable statuses table rid start size := by
  obtain ⟨hLow, hHigh⟩ := respondCount_bounds hStart hSize hSome
  unfold ReturnsConsumable
  rw [dbRespondQuery_of_counted hStart hCounted hSome]
  by_cases hReady : statuses.RowsReady
  · have hLess : respondCount table rid start size < cIntMax :=
      lt_of_le_of_ne hHigh fun hMax => h ⟨fun _ => hMax, fun _ => hReady⟩
    obtain ⟨fetched, hFetched, hTerminated⟩ := terminated_respondFetch statuses.rowsError [] 0
      (length_limited_le (by omega) (table.selected rid start) :
        (ResponseTable.limited (respondCount table rid start size) _).length ≤ _)
    rw [List.length_nil] at hFetched
    rw [respondRows_of_ready hReady, respondAllocate_of_lt (by omega) hLess, Option.bind_some, hFetched,
      Option.map_some]
    refine ⟨_, rfl, consumable_of_terminated ?_ rfl⟩
    rintro slots ⟨⟩
    exact hTerminated
  · -- The array is not even there.
    have hMax : respondCount table rid start size = cIntMax := by
      by_contra hMax
      exact h ⟨fun hYes => absurd hYes hReady, fun hYes => absurd hYes hMax⟩
    obtain ⟨ret, hRet, hRespond, hLocking⟩ := respondRows_of_not_ready table rid start
      (respondCount table rid start size)
      ((table.selected rid start).length - respondCount table rid start size) hReady
    refine ⟨ret, hRet, consumable_of_terminated ?_ hLocking⟩
    intro slots hSlots
    rw [hRespond, hMax, respondAllocate_cIntMax] at hSlots
    cases hSlots

theorem returnsConsumable_of_not_spoiled (hStart : 1 ≤ start) (hSize : 1 ≤ size)
    (h : ¬ Spoiled statuses table rid start size) : ReturnsConsumable statuses table rid start size := by
  by_cases hCounted : statuses.Counted
  · by_cases hNil : table.selected rid start = []
    · refine ⟨_, dbRespondQuery_of_nil hCounted hNil, consumable_of_terminated ?_ rfl⟩
      rintro slots ⟨⟩
    · exact returnsConsumable_of_found hStart hSize hCounted hNil fun hUnread =>
        h ⟨hCounted, hNil, hUnread⟩
  · obtain ⟨ret, hRet, hRespond, hLocking⟩ := dbRespondQuery_of_not_counted table rid start size
      hCounted
    refine ⟨ret, hRet, consumable_of_terminated ?_ hLocking⟩
    intro slots hSlots
    rw [hRespond] at hSlots
    cases hSlots

/-! ## Queries without a failure -/

def QueryStatuses.succeeding : QueryStatuses where
  opened := .ok
  countPrepared := .ok
  countRidBound := .ok
  countStartBound := .ok
  countStepped := .row
  rowsPrepared := .ok
  rowsRidBound := .ok
  rowsStartBound := .ok
  rowsLimitBound := .ok
  rowsError _ := none

/-- A query whose calls succeed returns the page of the table. -/
theorem dbRespondQuery_succeeding (hStart : 1 ≤ start) (hSize : 1 ≤ size)
    (hFits : respondCount table rid start size < cIntMax) :
    ∃ ret, dbRespondQuery .succeeding table rid start size = some ret ∧ ret.result = true ∧
      dbRespondQueryResultDestroy ret.respond = some (table.respondQuery rid start size).respond ∧
      ret.stop = (table.respondQuery rid start size).stop ∧
      ret.more = (table.respondQuery rid start size).more := by
  have hCounted : QueryStatuses.succeeding.Counted := ⟨rfl, rfl, rfl, rfl, rfl⟩
  have hReady : QueryStatuses.succeeding.RowsReady := ⟨rfl, rfl, rfl, rfl⟩
  by_cases hNil : table.selected rid start = []
  · rw [ResponseTable.respondQuery_of_none hNil]
    exact ⟨_, dbRespondQuery_of_nil hCounted hNil, rfl, rfl, rfl, rfl⟩
  · obtain ⟨hLow, hHigh⟩ := respondCount_bounds hStart hSize hNil
    have hTake : ResponseTable.limited (respondCount table rid start size) (table.selected rid start) =
        (table.selected rid start).take size.toNat := limited_respondCount hSize
    obtain ⟨last, hLast⟩ := ResponseTable.exists_last_of_ne_nil hSize hNil
    have hFetched := respondFetch_of_no_error [] 0
      (length_limited_le (by omega) (table.selected rid start) :
        (ResponseTable.limited (respondCount table rid start size) _).length ≤ _)
    rw [List.length_nil, hTake, hLast] at hFetched
    rw [dbRespondQuery_of_counted hStart hCounted hNil, respondRows_of_ready hReady,
      respondAllocate_of_lt (by omega) hFits, Option.bind_some, hTake,
      show QueryStatuses.succeeding.rowsError = fun _ => none from rfl, hFetched, Option.map_some,
      ResponseTable.respondQuery_of_some hStart hSize hLast]
    refine ⟨_, rfl, rfl, Slot.untilNull_terminated _ _, rfl, ?_⟩
    show ((table.selected rid start).length : Int) - respondCount table rid start size =
      ((table.selected rid start).drop size.toNat).length
    rw [List.length_drop]
    unfold respondCount
    omega

/-! ## Queries with a failure -/

/-- The second statement cannot be prepared. -/
def QueryStatuses.unprepared : QueryStatuses := { succeeding with rowsPrepared := .error 11 }

def oneResponse : ResponseTable String := (ResponseTable.empty.respondInsert "r" "first" "").2

theorem spoiled_unprepared : Spoiled .unprepared oneResponse "r" 1 5 where
  counted := ⟨rfl, rfl, rfl, rfl, rfl⟩
  found := by decide
  unread := by
    refine ⟨fun hReady => ?_, fun hMax => ?_⟩
    · cases hReady.rowsPrepared
    · exact absurd hMax (by decide)

/-- One row is counted, the second statement cannot be prepared, and the reader meets an undefined
slot. -/
theorem not_query_consumable :
    ¬ ∀ (statuses : QueryStatuses) (table : ResponseTable String) (rid : Rid) (start size : Int),
      1 ≤ start → 1 ≤ size → ReturnsConsumable statuses table rid start size := by
  intro h
  exact spoiled_unprepared.not_returnsConsumable (by decide) (by decide)
    (h .unprepared oneResponse "r" 1 5 (by decide) (by decide))

/-- A result can be consumed unless the query has counted rows and fails before it reads them, or
asks for more slots than an `int` counts. -/
theorem query_consumable_iff (statuses : QueryStatuses) (table : ResponseTable ρ) (rid : Rid)
    {start size : Int} (hStart : 1 ≤ start) (hSize : 1 ≤ size) :
    ReturnsConsumable statuses table rid start size ↔ ¬ Spoiled statuses table rid start size :=
  ⟨fun h hSpoiled => hSpoiled.not_returnsConsumable hStart hSize h,
    returnsConsumable_of_not_spoiled hStart hSize⟩

theorem query_consumable_iff_unprepared :
    ReturnsConsumable .unprepared oneResponse "r" 1 5 ↔ ¬ Spoiled .unprepared oneResponse "r" 1 5 :=
  query_consumable_iff .unprepared oneResponse "r" (by decide) (by decide)

end Gonggo
