import Gonggo.Library.CriticalSection
import Gonggo.ResponsePurge
import Gonggo.RespondQuery

/-! # The calls of db.c under their lock

`db_respond_insert`, `db_respond_purge` and `db_respond_query` with the status of every SQLite call, as
any number of threads make them. What a call does to the table `request` it does in one or two steps of a
statement, and a step of a statement is atomic. What it opens and prepares it closes and finalizes.
-/

namespace Gonggo

/-! ## The connection and the statement -/

inductive SqlEvent
  | opened
  | prepared
  | finalized
  | closed
  deriving DecidableEq, Repr

namespace SqlEvent

/-- Whether there is a connection, and a statement of it; `none` when one is lost or used after its
end. -/
def next : Bool × Bool → SqlEvent → Option (Bool × Bool)
  | (false, false), .opened => some (true, false)
  | (true, false), .prepared => some (true, true)
  | (true, true), .finalized => some (true, false)
  | (true, false), .closed => some (false, false)
  | _, _ => none

def holding (held : Bool × Bool) (events : List SqlEvent) : Option (Bool × Bool) := events.foldlM next held

def Released (events : List SqlEvent) : Prop := holding (false, false) events = some (false, false)

instance (events : List SqlEvent) : Decidable (Released events) := inferInstanceAs (Decidable (_ = _))

end SqlEvent

/-- What is left to do at the end of a call: `p_stmt` and `p_db` are not null. -/
def dbRelease (stmt db : Bool) : List SqlEvent :=
  (if stmt then [.finalized] else []) ++ (if db then [.closed] else [])

/-! ## The statuses -/

/-- `handle` says that `p_db` is not null, which it need not be after an open that fails. -/
structure OpenStatus where
  opened : SqliteStatus
  handle : Bool
  valid : dbError opened = false → handle = true

def OpenStatus.succeeding : OpenStatus := ⟨.ok, true, fun _ => rfl⟩

/-- `SELECT MAX` has a row unless there is an error. -/
structure InsertStatuses where
  opening : OpenStatus
  maxPrepared : SqliteStatus
  maxRidBound : SqliteStatus
  maxError : Option Int
  insertPrepared : SqliteStatus
  insertRidBound : SqliteStatus
  insertNumBound : SqliteStatus
  insertRespondBound : SqliteStatus
  insertError : Option Int

structure PurgeStatuses where
  opening : OpenStatus
  prepared : SqliteStatus
  timeBound : SqliteStatus
  deleteError : Option Int

/-! ## The calls -/

inductive DbValue
  | flag (result : Bool)
  | page (ret : Option (RespondQueryReturn DatedResponse))

structure DbReturn where
  value : DbValue
  sql : List SqlEvent

abbrev DbSection : Type := CriticalSection (ResponseTable DatedResponse) DbReturn

/-- The step of the insert: without a time the row violates `NOT NULL`. -/
def dbInsertStep (tz : TimeZone) (error : Option Int) (rid : Rid) (num : Int) (respond : String) (now : Time)
    (table : ResponseTable DatedResponse) : Bool × ResponseTable DatedResponse :=
  match error, tz.datetime now with
  | none, some ts => table.insertAfter rid num ⟨respond, now⟩ ts
  | _, _ => (false, table)

/-- What a call returns that had these SQLite calls before its end. -/
def dbReturn (opening : OpenStatus) (value : DbValue) (sql : List SqlEvent) (stmt : Bool) : DbReturn :=
  ⟨value, (if opening.handle then [.opened] else []) ++ sql ++ dbRelease stmt opening.handle⟩

/-- From the second statement of the insert on. -/
def dbInsertSecond (tz : TimeZone) (statuses : InsertStatuses) (rid : Rid) (num : Int) (respond : String)
    (now : Time) : DbSection :=
  let insert := dbInsertStep tz statuses.insertError rid num respond now
  let unread := dbReturn statuses.opening (.flag false) [.prepared, .finalized, .prepared] true
  .stopIf (dbError statuses.insertPrepared)
    (dbReturn statuses.opening (.flag false) [.prepared, .finalized] false) <|
  .stopIf (dbError statuses.insertRidBound) unread <|
  .stopIf (dbError statuses.insertNumBound) unread <|
  .stopIf (dbError statuses.insertRespondBound) unread <|
  .access (fun table => (insert table).2) fun table =>
    .stopIf (!(insert table).1) unread <|
    .done (dbReturn statuses.opening (.flag true) [.prepared, .finalized, .prepared, .finalized] false)

def dbRespondInsertSection (tz : TimeZone) (statuses : InsertStatuses) (rid : Rid) (respond : String)
    (now : Time) : DbSection :=
  let unread := dbReturn statuses.opening (.flag false) [.prepared] true
  .stopIf (dbError statuses.opening.opened) (dbReturn statuses.opening (.flag false) [] false) <|
  .stopIf (dbError statuses.maxPrepared) (dbReturn statuses.opening (.flag false) [] false) <|
  .stopIf (dbError statuses.maxRidBound) unread <|
  .access id fun table =>
    .stopIf statuses.maxError.isSome unread <|
    dbInsertSecond tz statuses rid (table.maxNum rid) respond now

/-- The text that is bound; `rest` is what the buffer holds when the text does not fit. -/
def purgeText (tz : TimeZone) (overdue : Int) (now : Time) (rest : String) : String :=
  (purgeTmstr tz (now - overdue)).getD rest

def dbRespondPurgeSection (statuses : PurgeStatuses) (tmstr : String) : DbSection :=
  let unread := dbReturn statuses.opening (.flag false) [.prepared] true
  .stopIf (dbError statuses.opening.opened) (dbReturn statuses.opening (.flag false) [] false) <|
  .stopIf (dbError statuses.prepared) (dbReturn statuses.opening (.flag false) [] false) <|
  .stopIf (dbError statuses.timeBound) unread <|
  .access (fun table => if statuses.deleteError.isSome then table else table.respondPurge tmstr) fun _ =>
    .stopIf statuses.deleteError.isSome unread <|
    .done (dbReturn statuses.opening (.flag true) [.prepared, .finalized] false)

/-- One turn of the loop over the rows, at the slot that `run` points to. The `sqlite3_step` reads the
table, and a row without a slot is written outside the array. -/
def dbRowsTurn (statuses : QueryStatuses) (rid : Rid) (start count : Int)
    (finish : Option (Bool × List (Slot DatedResponse) × Int) → DbReturn)
    (next : List (Slot DatedResponse) → Nat → Int → DbSection) (slots : List (Slot DatedResponse))
    (run : Nat) (stop : Int) : DbSection :=
  .access id fun table =>
    match (ResponseTable.limited count (table.selected rid start))[run]?, statuses.rowsError run with
    | some row, none =>
        match Slot.write slots run (.value row.respond) with
        | some slots => next slots (run + 1) row.num
        | none => .done (finish none)
    | found, error =>
        .done (finish ((Slot.write slots run .null).map fun slots =>
          (found.isNone && error.isNone, slots, stop)))

/-- The loop; it takes no more turns than the array has slots. -/
def dbRowsSection (statuses : QueryStatuses) (rid : Rid) (start count : Int)
    (finish : Option (Bool × List (Slot DatedResponse) × Int) → DbReturn) :
    Nat → List (Slot DatedResponse) → Nat → Int → DbSection
  | 0 => dbRowsTurn statuses rid start count finish fun _ _ _ => .done (finish none)
  | room + 1 =>
      dbRowsTurn statuses rid start count finish (dbRowsSection statuses rid start count finish room)

/-- The second statement of the query; an array that was not allocated is a null pointer. -/
def dbQuerySecond (opening : OpenStatus) (statuses : QueryStatuses) (rid : Rid) (start count more : Int) :
    DbSection :=
  let unfilled : RespondQueryReturn DatedResponse :=
    { result := false, respond := respondAllocate count, stop := 0, more := more,
      locking := [.lock, .unlock] }
  let unread := dbReturn opening (.page (some unfilled)) [.prepared, .finalized, .prepared] true
  let finish (fetched : Option (Bool × List (Slot DatedResponse) × Int)) : DbReturn :=
    dbReturn opening
      (.page (fetched.map fun fetched =>
        { unfilled with result := fetched.1, respond := some fetched.2.1, stop := fetched.2.2 }))
      [.prepared, .finalized, .prepared] true
  .stopIf (dbError statuses.rowsPrepared)
    (dbReturn opening (.page (some unfilled)) [.prepared, .finalized] false) <|
  .stopIf (dbError statuses.rowsRidBound) unread <|
  .stopIf (dbError statuses.rowsStartBound) unread <|
  .stopIf (dbError statuses.rowsLimitBound) unread <|
    match respondAllocate count with
    | none => .access id fun _ => .done (finish none)
    | some slots => dbRowsSection statuses rid start count finish slots.length slots 0 0

/-- The count and the rows are read by two statements. -/
def dbRespondQuerySection (opening : OpenStatus) (statuses : QueryStatuses) (rid : Rid) (start size : Int) :
    DbSection :=
  let failed : RespondQueryReturn DatedResponse :=
    { result := false, respond := none, stop := 0, more := 0, locking := [.lock, .unlock] }
  let unread := dbReturn opening (.page (some failed)) [.prepared] true
  .stopIf (dbError opening.opened) (dbReturn opening (.page (some failed)) [] false) <|
  .stopIf (dbError statuses.countPrepared) (dbReturn opening (.page (some failed)) [] false) <|
  .stopIf (dbError statuses.countRidBound) unread <|
  .stopIf (dbError statuses.countStartBound) unread <|
  .access id fun table =>
    let total := if statuses.countStepped = .row then cInt (table.selected rid start).length else 0
    .stopIf (statuses.countStepped ≠ .row && statuses.countStepped ≠ .done) unread <|
    .stopIf (total < 1)
      (dbReturn opening (.page (some { failed with result := true })) [.prepared, .finalized] false) <|
    dbQuerySecond opening statuses rid start (if total > size then size else total)
      (if total > size then total - size else 0)

inductive DbCall
  | insert (statuses : InsertStatuses) (rid : Rid) (respond : String) (now : Time)
  | purge (statuses : PurgeStatuses) (overdue : Int) (now : Time) (rest : String)
  | query (opening : OpenStatus) (statuses : QueryStatuses) (rid : Rid) (start size : Int)

namespace DbCall

variable (tz : TimeZone)

def code : DbCall → DbSection
  | .insert statuses rid respond now => dbRespondInsertSection tz statuses rid respond now
  | .purge statuses overdue now rest => dbRespondPurgeSection statuses (purgeText tz overdue now rest)
  | .query opening statuses rid start size => dbRespondQuerySection opening statuses rid start size

/-- The second statement of an insert comes to its step. -/
def insertReady (statuses : InsertStatuses) : Bool :=
  !dbError statuses.insertPrepared && !dbError statuses.insertRidBound &&
    !dbError statuses.insertNumBound && !dbError statuses.insertRespondBound

/-- No SQLite call of an insert fails by itself. -/
def inserts (statuses : InsertStatuses) : Bool :=
  !dbError statuses.opening.opened && !dbError statuses.maxPrepared && !dbError statuses.maxRidBound &&
    statuses.maxError.isNone && insertReady statuses && statuses.insertError.isNone

def purges (statuses : PurgeStatuses) : Bool :=
  !dbError statuses.opening.opened && !dbError statuses.prepared && !dbError statuses.timeBound &&
    statuses.deleteError.isNone

/-- The call as one operation on the table. -/
def atomic (table : ResponseTable DatedResponse) : DbCall → DbValue × ResponseTable DatedResponse
  | .insert statuses rid respond now =>
      match inserts statuses, tz.datetime now with
      | true, some ts =>
          (.flag (table.respondInsert rid ⟨respond, now⟩ ts).1,
            (table.respondInsert rid ⟨respond, now⟩ ts).2)
      | _, _ => (.flag false, table)
  | .purge statuses overdue now rest =>
      if purges statuses then (.flag true, table.respondPurge (purgeText tz overdue now rest))
      else (.flag false, table)
  | .query opening statuses rid start size =>
      (.page (dbRespondQuery { statuses with opened := opening.opened } table rid start size), table)

/-! ## One call -/

variable {tz}

/-- The step of the insert as the operation on the table. -/
theorem dbInsertStep_maxNum (error : Option Int) (rid : Rid) (respond : String) (now : Time)
    (table : ResponseTable DatedResponse) :
    dbInsertStep tz error rid (table.maxNum rid) respond now table =
      match error.isNone, tz.datetime now with
      | true, some ts => table.respondInsert rid ⟨respond, now⟩ ts
      | _, _ => (false, table) := by
  unfold dbInsertStep
  cases error with
  | some error => rfl
  | none =>
    generalize tz.datetime now = text
    cases text with
    | none => rfl
    | some ts => rfl

/-- The call alone is the operation. -/
def Agrees (tz : TimeZone) (call : DbCall) : Prop :=
  ∀ table, ((call.code tz).run table).1.value = (call.atomic tz table).1 ∧
    ((call.code tz).run table).2 = (call.atomic tz table).2

theorem agrees_purge (statuses : PurgeStatuses) (overdue : Int) (now : Time) (rest : String) :
    Agrees tz (.purge statuses overdue now rest) := by
  intro table
  simp only [code, dbRespondPurgeSection, atomic, purges, CriticalSection.run_stopIf, CriticalSection.run]
  by_cases hOpened : dbError statuses.opening.opened = true
  · simp [hOpened, dbReturn]
  by_cases hPrepared : dbError statuses.prepared = true
  · simp [hOpened, hPrepared, dbReturn]
  by_cases hTimeBound : dbError statuses.timeBound = true
  · simp [hOpened, hPrepared, hTimeBound, dbReturn]
  have hNone : statuses.deleteError.isNone = !statuses.deleteError.isSome := by
    cases statuses.deleteError <;> rfl
  by_cases hError : statuses.deleteError.isSome = true <;>
    simp [hOpened, hPrepared, hTimeBound, hError, hNone, dbReturn]

/-- The second statement of the insert alone. -/
theorem run_dbInsertSecond (statuses : InsertStatuses) (rid : Rid) (num : Int) (respond : String)
    (now : Time) (table : ResponseTable DatedResponse) :
    ((dbInsertSecond tz statuses rid num respond now).run table).1.value =
      .flag (insertReady statuses && (dbInsertStep tz statuses.insertError rid num respond now table).1) ∧
    ((dbInsertSecond tz statuses rid num respond now).run table).2 =
      bif insertReady statuses then (dbInsertStep tz statuses.insertError rid num respond now table).2
      else table := by
  unfold insertReady
  simp only [dbInsertSecond, CriticalSection.run_stopIf, CriticalSection.run]
  by_cases hPrepared : dbError statuses.insertPrepared = true
  · simp [hPrepared, dbReturn]
  by_cases hRidBound : dbError statuses.insertRidBound = true
  · simp [hPrepared, hRidBound, dbReturn]
  by_cases hNumBound : dbError statuses.insertNumBound = true
  · simp [hPrepared, hRidBound, hNumBound, dbReturn]
  by_cases hRespondBound : dbError statuses.insertRespondBound = true
  · simp [hPrepared, hRidBound, hNumBound, hRespondBound, dbReturn]
  cases (dbInsertStep tz statuses.insertError rid num respond now table).1 <;>
    simp [hPrepared, hRidBound, hNumBound, hRespondBound, dbReturn]

theorem agrees_insert (statuses : InsertStatuses) (rid : Rid) (respond : String) (now : Time) :
    Agrees tz (.insert statuses rid respond now) := by
  intro table
  obtain ⟨hValue, hTable⟩ :=
    @run_dbInsertSecond tz statuses rid (table.maxNum rid) respond now table
  simp only [code, dbRespondInsertSection, atomic, inserts, CriticalSection.run_stopIf,
    CriticalSection.run, id]
  by_cases hOpened : dbError statuses.opening.opened = true
  · simp [hOpened, dbReturn]
  by_cases hMaxPrepared : dbError statuses.maxPrepared = true
  · simp [hOpened, hMaxPrepared, dbReturn]
  by_cases hMaxRidBound : dbError statuses.maxRidBound = true
  · simp [hOpened, hMaxPrepared, hMaxRidBound, dbReturn]
  have hMaxNone : statuses.maxError.isNone = !statuses.maxError.isSome := by
    cases statuses.maxError <;> rfl
  by_cases hMaxError : statuses.maxError.isSome = true
  · simp [hOpened, hMaxPrepared, hMaxRidBound, hMaxError, hMaxNone, dbReturn]
  simp only [hOpened, hMaxPrepared, hMaxRidBound, hMaxError, hMaxNone, Bool.false_eq_true, if_false,
    Bool.not_false, Bool.true_and, hValue, hTable]
  rw [dbInsertStep_maxNum]
  generalize tz.datetime now = text
  cases insertReady statuses <;> cases statuses.insertError.isNone <;> cases text <;>
    exact ⟨rfl, rfl⟩

/-- A turn ends the loop as `respondFetch` does, or goes on with the next row. -/
theorem run_dbRowsTurn {statuses : QueryStatuses} {rid : Rid} {start count : Int}
    {finish : Option (Bool × List (Slot DatedResponse) × Int) → DbReturn}
    {next : List (Slot DatedResponse) → Nat → Int → DbSection} {table : ResponseTable DatedResponse}
    {slots : List (Slot DatedResponse)} {run : Nat}
    (hNext : ∀ row : ResponseRow DatedResponse, run < slots.length →
      (next (slots.set run (.value row.respond)) (run + 1) row.num).run table =
        (finish (respondFetch statuses.rowsError (slots.set run (.value row.respond)) (run + 1) row.num
          ((ResponseTable.limited count (table.selected rid start)).drop (run + 1))), table))
    (stop : Int) :
    (dbRowsTurn statuses rid start count finish next slots run stop).run table =
      (finish (respondFetch statuses.rowsError slots run stop
        ((ResponseTable.limited count (table.selected rid start)).drop run)), table) := by
  rw [dbRowsTurn, CriticalSection.run]
  cases hRow : (ResponseTable.limited count (table.selected rid start))[run]? with
  | none =>
    rw [List.drop_eq_nil_of_le (List.getElem?_eq_none_iff.mp hRow), respondFetch]
    cases statuses.rowsError run <;> rfl
  | some row =>
    obtain ⟨hLt, rfl⟩ := List.getElem?_eq_some_iff.mp hRow
    rw [List.drop_eq_getElem_cons hLt, respondFetch]
    cases statuses.rowsError run with
    | some code => rfl
    | none =>
      by_cases hRoom : run < slots.length
      · simp only [Slot.write, if_pos hRoom, Option.bind_some]
        exact hNext _ hRoom
      · simp only [Slot.write, if_neg hRoom, Option.bind_none]
        rfl

/-- The loop alone fetches the rows of the table it finds. -/
theorem run_dbRowsSection (statuses : QueryStatuses) (rid : Rid) (start count : Int)
    (finish : Option (Bool × List (Slot DatedResponse) × Int) → DbReturn)
    (table : ResponseTable DatedResponse) {room run : Nat} {slots : List (Slot DatedResponse)}
    (hRoom : slots.length = run + room) (stop : Int) :
    (dbRowsSection statuses rid start count finish room slots run stop).run table =
      (finish (respondFetch statuses.rowsError slots run stop
        ((ResponseTable.limited count (table.selected rid start)).drop run)), table) := by
  induction room generalizing slots run stop with
  | zero => exact run_dbRowsTurn (fun row hLt => absurd hLt (by omega)) stop
  | succ room ih =>
    refine run_dbRowsTurn (fun row hLt => ih ?_ row.num) stop
    rw [List.length_set]
    omega

theorem run_dbQuerySecond (opening : OpenStatus) (statuses : QueryStatuses) (rid : Rid)
    (start count more : Int) (table : ResponseTable DatedResponse) :
    ((dbQuerySecond opening statuses rid start count more).run table).1.value =
      .page (respondRows statuses table rid start count more) ∧
    ((dbQuerySecond opening statuses rid start count more).run table).2 = table := by
  simp only [dbQuerySecond, respondRows, CriticalSection.run_stopIf]
  by_cases hPrepared : dbError statuses.rowsPrepared = true
  · simp [hPrepared, dbReturn]
  by_cases hRidBound : dbError statuses.rowsRidBound = true
  · simp [hPrepared, hRidBound, dbReturn]
  by_cases hStartBound : dbError statuses.rowsStartBound = true
  · simp [hPrepared, hRidBound, hStartBound, dbReturn]
  by_cases hLimitBound : dbError statuses.rowsLimitBound = true
  · simp [hPrepared, hRidBound, hStartBound, hLimitBound, dbReturn]
  simp only [hPrepared, hRidBound, hStartBound, hLimitBound, Bool.false_eq_true, if_false]
  cases respondAllocate (ρ := DatedResponse) count with
  | none => exact ⟨rfl, rfl⟩
  | some slots =>
    simp only [run_dbRowsSection _ _ _ _ _ _ (Nat.zero_add slots.length).symm, List.drop_zero, dbReturn,
      Option.bind_some, and_self]

theorem agrees_query (opening : OpenStatus) (statuses : QueryStatuses) (rid : Rid) (start size : Int) :
    Agrees tz (.query opening statuses rid start size) := by
  intro table
  simp only [code, dbRespondQuerySection, atomic, dbRespondQuery, CriticalSection.run_stopIf,
    CriticalSection.run, id]
  by_cases hOpened : dbError opening.opened = true
  · simp [hOpened, dbReturn]
  by_cases hPrepared : dbError statuses.countPrepared = true
  · simp [hOpened, hPrepared, dbReturn]
  by_cases hRidBound : dbError statuses.countRidBound = true
  · simp [hOpened, hPrepared, hRidBound, dbReturn]
  by_cases hStartBound : dbError statuses.countStartBound = true
  · simp [hOpened, hPrepared, hRidBound, hStartBound, dbReturn]
  by_cases hStepped : statuses.countStepped ≠ .row ∧ statuses.countStepped ≠ .done
  · simp [hOpened, hPrepared, hRidBound, hStartBound, hStepped, dbReturn]
  have hNot : (decide (statuses.countStepped ≠ .row) && decide (statuses.countStepped ≠ .done)) = false := by
    rw [← Bool.decide_and, decide_eq_false hStepped]
  simp only [hOpened, hPrepared, hRidBound, hStartBound, hNot, if_neg hStepped]
  generalize (if statuses.countStepped = .row then cInt (table.selected rid start).length else 0) = total
  by_cases hTotal : total < 1
  · simp [hTotal, dbReturn]
  · simp only [hTotal, decide_false, Bool.false_eq_true, if_false]
    exact run_dbQuerySecond ..

theorem agrees (call : DbCall) : Agrees tz call := by
  cases call with
  | insert statuses rid respond now => exact agrees_insert statuses rid respond now
  | purge statuses overdue now rest => exact agrees_purge statuses overdue now rest
  | query opening statuses rid start size => exact agrees_query opening statuses rid start size

/-! ## What a call opens and prepares -/

theorem released_unopened (opening : OpenStatus) (value : DbValue) :
    SqlEvent.Released (dbReturn opening value [] false).sql := by
  unfold dbReturn
  cases opening.handle <;> rfl

theorem released_dbReturn {opening : OpenStatus} (hOpened : dbError opening.opened = false)
    (value : DbValue) {sql : List SqlEvent} {stmt : Bool}
    (hSql : SqlEvent.holding (true, false) sql = some (true, stmt)) :
    SqlEvent.Released (dbReturn opening value sql stmt).sql := by
  unfold SqlEvent.holding at hSql
  simp only [SqlEvent.Released, SqlEvent.holding, dbReturn, opening.valid hOpened, if_true,
    List.foldlM_append, List.foldlM_cons, List.foldlM_nil, SqlEvent.next, Option.pure_def,
    Option.bind_eq_bind, Option.bind_some, hSql]
  cases stmt <;> rfl

theorem yields_dbRowsSection {P : DbReturn → Prop} (statuses : QueryStatuses) (rid : Rid)
    (start count : Int) {finish : Option (Bool × List (Slot DatedResponse) × Int) → DbReturn}
    (hFinish : ∀ fetched, P (finish fetched)) (room : Nat) (slots : List (Slot DatedResponse))
    (run : Nat) (stop : Int) :
    (dbRowsSection statuses rid start count finish room slots run stop).Yields P := by
  have hTurn {next : List (Slot DatedResponse) → Nat → Int → DbSection}
      (hNext : ∀ slots run stop, (next slots run stop).Yields P) (slots : List (Slot DatedResponse))
      (run : Nat) (stop : Int) :
      (dbRowsTurn statuses rid start count finish next slots run stop).Yields P := by
    intro table
    cases hRow : (ResponseTable.limited count (table.selected rid start))[run]? with
    | none =>
      simp only [hRow]
      exact hFinish _
    | some row =>
      cases hError : statuses.rowsError run with
      | some code =>
        simp only [hRow]
        exact hFinish _
      | none =>
        cases hSlots : Slot.write slots run (.value row.respond) with
        | none =>
          simp only [hRow, hSlots]
          exact hFinish none
        | some slots =>
          simp only [hRow, hSlots]
          exact hNext slots (run + 1) row.num
  induction room generalizing slots run stop with
  | zero =>
    refine hTurn ?_ slots run stop
    exact fun _ _ _ => hFinish none
  | succ room ih => exact hTurn ih slots run stop

theorem released_dbQuerySecond {opening : OpenStatus} (hOpened : dbError opening.opened = false)
    (statuses : QueryStatuses) (rid : Rid) (start count more : Int) :
    (dbQuerySecond opening statuses rid start count more).Yields
      fun ret => SqlEvent.Released ret.sql := by
  refine CriticalSection.yields_stopIf (fun _ => released_dbReturn hOpened _ rfl) fun _ => ?_
  refine CriticalSection.yields_stopIf (fun _ => released_dbReturn hOpened _ rfl) fun _ => ?_
  refine CriticalSection.yields_stopIf (fun _ => released_dbReturn hOpened _ rfl) fun _ => ?_
  refine CriticalSection.yields_stopIf (fun _ => released_dbReturn hOpened _ rfl) fun _ => ?_
  cases respondAllocate (ρ := DatedResponse) count with
  | none => exact fun _ => released_dbReturn hOpened _ rfl
  | some slots =>
    exact yields_dbRowsSection _ _ _ _ (fun _ => released_dbReturn hOpened _ rfl) _ _ _ _

/-- Every call closes its connection and finalizes its statements, whichever SQLite call fails. -/
theorem released (call : DbCall) : (call.code tz).Yields fun ret => SqlEvent.Released ret.sql := by
  cases call with
  | insert statuses rid respond now =>
    refine CriticalSection.yields_stopIf (fun _ => released_unopened _ _) fun hOpened => ?_
    refine CriticalSection.yields_stopIf (fun _ => released_unopened _ _) fun _ => ?_
    refine CriticalSection.yields_stopIf (fun _ => released_dbReturn hOpened _ rfl) fun _ table => ?_
    refine CriticalSection.yields_stopIf (fun _ => released_dbReturn hOpened _ rfl) fun _ => ?_
    refine CriticalSection.yields_stopIf (fun _ => released_dbReturn hOpened _ rfl) fun _ => ?_
    refine CriticalSection.yields_stopIf (fun _ => released_dbReturn hOpened _ rfl) fun _ => ?_
    refine CriticalSection.yields_stopIf (fun _ => released_dbReturn hOpened _ rfl) fun _ => ?_
    refine CriticalSection.yields_stopIf (fun _ => released_dbReturn hOpened _ rfl) fun _ table => ?_
    exact CriticalSection.yields_stopIf (fun _ => released_dbReturn hOpened _ rfl)
      fun _ => released_dbReturn hOpened _ rfl
  | purge statuses overdue now rest =>
    refine CriticalSection.yields_stopIf (fun _ => released_unopened _ _) fun hOpened => ?_
    refine CriticalSection.yields_stopIf (fun _ => released_unopened _ _) fun _ => ?_
    refine CriticalSection.yields_stopIf (fun _ => released_dbReturn hOpened _ rfl) fun _ table => ?_
    exact CriticalSection.yields_stopIf (fun _ => released_dbReturn hOpened _ rfl)
      fun _ => released_dbReturn hOpened _ rfl
  | query opening statuses rid start size =>
    refine CriticalSection.yields_stopIf (fun _ => released_unopened _ _) fun hOpened => ?_
    refine CriticalSection.yields_stopIf (fun _ => released_unopened _ _) fun _ => ?_
    refine CriticalSection.yields_stopIf (fun _ => released_dbReturn hOpened _ rfl) fun _ => ?_
    refine CriticalSection.yields_stopIf (fun _ => released_dbReturn hOpened _ rfl) fun _ table => ?_
    refine CriticalSection.yields_stopIf (fun _ => released_dbReturn hOpened _ rfl) fun _ => ?_
    exact CriticalSection.yields_stopIf (fun _ => released_dbReturn hOpened _ rfl)
      fun _ => released_dbQuerySecond hOpened ..

/-! ## The calls of all threads -/

variable {θ : Type} [DecidableEq θ]

/-- `db_lock` with the calls of any number of threads. -/
def system (tz : TimeZone) (s₀ : ResponseTable DatedResponse) :
    TransitionSystem (CriticalSection.Threads (ResponseTable DatedResponse) DbReturn DbCall θ)
      (CriticalSection.Event DbCall θ) :=
  CriticalSection.system (code tz) s₀

instance decidableGuard (tz : TimeZone) (s₀ : ResponseTable DatedResponse)
    (s : CriticalSection.Threads (ResponseTable DatedResponse) DbReturn DbCall θ)
    (e : CriticalSection.Event DbCall θ) : Decidable ((system tz s₀).guard s e) :=
  CriticalSection.decidableGuard s e

/-- In every interleaving of the steps of all calls, the calls that have returned are the operations one
after the other, who returned earlier before who was called later, and a free lock finds the table that
they lead to. None of them leaves a connection or a statement behind. -/
theorem serial_of_admits {s₀ : ResponseTable DatedResponse} {before after : List (CriticalSection.Event DbCall θ)}
    {s t : CriticalSection.Threads (ResponseTable DatedResponse) DbReturn DbCall θ}
    (hBefore : s = (system tz s₀).run (CriticalSection.start s₀) before)
    (hAfter : t = (system tz s₀).run s after)
    (h : (system tz s₀).Admits (fun _ _ => True) (CriticalSection.start s₀) (before ++ after)) :
    s.history <+: t.history ∧ (∀ entry ∈ t.history, SqlEvent.Released entry.2.2.sql) ∧
    ∃ table, CriticalSection.Replays (fun call table => call.atomic tz table) s₀
      (t.history.map fun entry => (entry.1, entry.2.1, entry.2.2.value)) table ∧
      (t.owner = none → t.state = table) := by
  have hReach : (system tz s₀).Reachable t := by
    have hRun := TransitionSystem.ReachableWhen.run (.init rfl) (before ++ after) h
    rwa [TransitionSystem.run, List.foldl_append, ← TransitionSystem.run, ← TransitionSystem.run,
      ← hBefore, ← hAfter] at hRun
  obtain ⟨table, hReplays, hFree⟩ := CriticalSection.replays_of_reachable hReach
  refine ⟨?_, ?_, table, ?_, hFree⟩
  · rw [hAfter]
    exact CriticalSection.history_prefix s after
  · exact hReplays.forall (P := fun ret => SqlEvent.Released ret.sql)
      fun call table => (released call).run table
  · exact hReplays.map fun call table => agrees call table

/-- A query that waits for the end of an insert, and reads its row. -/
def sampleInsert : DbCall :=
  .insert ⟨.succeeding, .ok, .ok, none, .ok, .ok, .ok, .ok, none⟩ "r" "answer" 1000

def sampleQuery : DbCall := .query .succeeding .succeeding "r" 1 5

def sampleCalls : List (CriticalSection.Event DbCall Bool) :=
  [.call false sampleInsert, .call true sampleQuery, .enter false, .access false, .access false,
    .leave false]

def sampleCallsLater : List (CriticalSection.Event DbCall Bool) :=
  [.enter true, .access true, .access true, .access true, .leave true]

theorem serial_of_admits_sampleCalls :
    ∃ table, CriticalSection.Replays (fun call table => call.atomic utc table) .empty
      (((system utc .empty).run (CriticalSection.start .empty)
        (sampleCalls ++ sampleCallsLater)).history.map
          fun entry => (entry.1, entry.2.1, entry.2.2.value)) table ∧
      table.rows.map (fun row => (row.id, row.num, row.respond.text)) = [("r", 1, "answer")] := by
  have hAdmits : (system utc .empty).Admits (fun _ _ => True) (CriticalSection.start .empty)
      (sampleCalls ++ sampleCallsLater) := by decide +kernel
  obtain ⟨-, -, table, hReplays, hFree⟩ := serial_of_admits rfl rfl hAdmits
  refine ⟨table, hReplays, ?_⟩
  rw [← hFree (by decide +kernel)]
  decide +kernel

end DbCall

end Gonggo
