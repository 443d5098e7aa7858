import Gonggo.ResponseTable
import Gonggo.Library.TransitionSystem

/-! # A client that reads the responses of a request as they come

Responses are inserted and purged by age while a client reads one request: first from start 1,
then from behind the largest number it got. Numbers are one above the highest that is still
stored, so a purge of the last rows lets them begin again below the client's position.
-/

namespace Gonggo

/-- What SQLite and `strftime` make of a clock value: the local time, and the name of its zone. -/
structure LocalTime where
  text : Time → String
  zone : Time → String

def LocalTime.cutoff (localTime : LocalTime) (t : Time) : String :=
  localTime.text t ++ " " ++ localTime.zone t

/-- A response with its place in the order of all inserts. -/
structure StoredResponse where
  serial : Nat
  text : String
  deriving DecidableEq

/-- A query of the client, with the rows of its request that were stored at the time. -/
structure ResponseQuery where
  stored : List (ResponseRow StoredResponse)
  size : Int
  page : RespondPage StoredResponse
  deriving DecidableEq

namespace ResponseQuery

def received (queries : List ResponseQuery) : List StoredResponse :=
  queries.flatMap fun query => query.page.respond

def largestStop (queries : List ResponseQuery) : Int :=
  queries.foldl (fun top query => max top query.page.stop) 0

/-- The page is not filled up by responses that were inserted before this one. -/
def Reaches (query : ResponseQuery) (response : StoredResponse) : Prop :=
  query.page.respond.length < query.size ∨
    ∃ got ∈ query.page.respond, response.serial ≤ got.serial

instance (query : ResponseQuery) (response : StoredResponse) : Decidable (query.Reaches response) :=
  inferInstanceAs (Decidable (_ ∨ _))

theorem received_append (queries : List ResponseQuery) (query : ResponseQuery) :
    received (queries ++ [query]) = received queries ++ query.page.respond := by
  simp [received]

theorem largestStop_append (queries : List ResponseQuery) (query : ResponseQuery) :
    largestStop (queries ++ [query]) = max (largestStop queries) query.page.stop := by
  simp [largestStop]

end ResponseQuery

structure ResponseReading where
  clock : Time
  table : ResponseTable StoredResponse
  inserted : Nat
  queries : List ResponseQuery

inductive ReadingEvent
  | tick (now : Time)
  | insert (id : Rid) (text : String)
  | purge (overdue : Int)
  | query (size : Int)
  deriving DecidableEq

namespace ResponseReading

def started : ResponseReading := { clock := 0, table := .empty, inserted := 0, queries := [] }

variable (localTime : LocalTime) (rid : Rid) (s : ResponseReading)

def insertion (id : Rid) (text : String) : Bool × ResponseTable StoredResponse :=
  s.table.respondInsert id ⟨s.inserted, text⟩ (localTime.text s.clock)

/-- The clock does not go back, no insert fails, and a page has room for a response. -/
def guard : ReadingEvent → Prop
  | .tick now => s.clock ≤ now
  | .insert id text => (s.insertion localTime id text).1 = true
  | .purge _ => True
  | .query size => 1 ≤ size

instance decidableGuard (e : ReadingEvent) : Decidable (s.guard localTime e) := by
  unfold guard
  cases e <;> infer_instance

def start : Int := cInt (ResponseQuery.largestStop s.queries + 1)

def ask (size : Int) : ResponseQuery where
  stored := s.table.rowsOf rid
  size := size
  page := s.table.respondQuery rid s.start size

theorem page_ask (size : Int) :
    (s.ask rid size).page = s.table.respondQuery rid s.start size := by
  rw [ask]

def effect : ReadingEvent → ResponseReading
  | .tick now => { s with clock := now }
  | .insert id text =>
      { s with table := (s.insertion localTime id text).2, inserted := s.inserted + 1 }
  | .purge overdue => { s with table := s.table.respondPurge (localTime.cutoff (s.clock - overdue)) }
  | .query size => { s with queries := s.queries ++ [s.ask rid size] }

end ResponseReading

def responseReadingSystem (localTime : LocalTime) (rid : Rid) :
    TransitionSystem ResponseReading ReadingEvent where
  init s := s = .started
  guard := ResponseReading.guard localTime
  effect := ResponseReading.effect localTime rid

instance (localTime : LocalTime) (rid : Rid) (s : ResponseReading) (e : ReadingEvent) :
    Decidable ((responseReadingSystem localTime rid).guard s e) :=
  inferInstanceAs (Decidable (s.guard localTime e))

namespace ResponseReading

/-- The client gets responses once and in the order of their inserts, and every one that is still
stored when a page reaches it. -/
structure CursorValid (s : ResponseReading) : Prop where
  inOrder : (ResponseQuery.received s.queries).Pairwise fun a b => a.serial < b.serial
  complete : ∀ before query after, s.queries = before ++ query :: after →
    ∀ row ∈ query.stored, query.Reaches row.respond →
      row.respond ∈ ResponseQuery.received (before ++ [query])

/-- An insert for the request finds its highest number at or above the client's position, with room
for two more. -/
def KeepsPosition (rid : Rid) (s : ResponseReading) : ReadingEvent → Prop
  | .insert id _ => id = rid →
      ResponseQuery.largestStop s.queries ≤ s.table.maxNum rid ∧ s.table.maxNum rid < cIntMax - 1
  | _ => True

instance decidableKeepsPosition (rid : Rid) (s : ResponseReading) (e : ReadingEvent) :
    Decidable (s.KeepsPosition rid e) := by
  unfold KeepsPosition
  cases e <;> infer_instance

/-- Numbers and inserts have the same order, and the client's position divides what it has got
from what it has not. -/
structure Positioned (rid : Rid) (s : ResponseReading) : Prop where
  numbered : ∀ row ∈ s.table.rowsOf rid, 1 ≤ row.num ∧ row.num < cIntMax
  past : ∀ row ∈ s.table.rowsOf rid, row.respond.serial < s.inserted
  ordered : ∀ a ∈ s.table.rowsOf rid, ∀ b ∈ s.table.rowsOf rid, a.num < b.num →
    a.respond.serial < b.respond.serial
  position : 0 ≤ ResponseQuery.largestStop s.queries ∧ ResponseQuery.largestStop s.queries < cIntMax
  got : ∀ row ∈ s.table.rowsOf rid, row.num ≤ ResponseQuery.largestStop s.queries →
    row.respond ∈ ResponseQuery.received s.queries
  ahead : ∀ row ∈ s.table.rowsOf rid, ResponseQuery.largestStop s.queries < row.num →
    ∀ response ∈ ResponseQuery.received s.queries, response.serial < row.respond.serial
  receivedPast : ∀ response ∈ ResponseQuery.received s.queries, response.serial < s.inserted

namespace Positioned

variable {localTime : LocalTime} {rid : Rid} {s : ResponseReading}

theorem started : Positioned rid ResponseReading.started where
  numbered row hRow := by cases hRow
  past row hRow := by cases hRow
  ordered a hA := by cases hA
  position := by decide
  got row hRow := by cases hRow
  ahead row hRow := by cases hRow
  receivedPast response hResponse := by cases hResponse

theorem of_subset (h : Positioned rid s) {next : ResponseReading}
    (hRows : ∀ row ∈ next.table.rowsOf rid, row ∈ s.table.rowsOf rid)
    (hInserted : s.inserted ≤ next.inserted)
    (hStop : ResponseQuery.largestStop next.queries = ResponseQuery.largestStop s.queries)
    (hReceived : ResponseQuery.received next.queries = ResponseQuery.received s.queries) :
    Positioned rid next where
  numbered row hRow := h.numbered row (hRows row hRow)
  past row hRow := (h.past row (hRows row hRow)).trans_le hInserted
  ordered a hA b hB := h.ordered a (hRows a hA) b (hRows b hB)
  position := hStop ▸ h.position
  got row hRow := hReceived ▸ hStop ▸ h.got row (hRows row hRow)
  ahead row hRow := hReceived ▸ hStop ▸ h.ahead row (hRows row hRow)
  receivedPast response hResponse :=
    (h.receivedPast response (hReceived ▸ hResponse)).trans_le hInserted

theorem rowsOf_insertion {id : Rid} {text : String}
    (hGuard : (s.insertion localTime id text).1 = true) {row : ResponseRow StoredResponse} :
    row ∈ (s.insertion localTime id text).2.rowsOf rid ↔
      row ∈ s.table.rowsOf rid ∨ id = rid ∧
        row = ⟨id, cInt (s.table.maxNum id + 1), ⟨s.inserted, text⟩, localTime.text s.clock⟩ := by
  rw [ResponseTable.mem_rowsOf, insertion, ResponseTable.rows_respondInsert hGuard, List.mem_append,
    List.mem_singleton, ResponseTable.mem_rowsOf]
  constructor
  · rintro ⟨hOld | rfl, hId⟩
    · exact .inl ⟨hOld, hId⟩
    · exact .inr ⟨hId, rfl⟩
  · rintro (⟨hOld, hId⟩ | ⟨hId, rfl⟩)
    · exact ⟨.inl hOld, hId⟩
    · exact ⟨.inr rfl, hId⟩

theorem insert (h : Positioned rid s) {id : Rid} {text : String}
    (hGuard : (s.insertion localTime id text).1 = true)
    (hKeeps : s.KeepsPosition rid (.insert id text)) :
    Positioned rid (s.effect localTime rid (.insert id text)) := by
  by_cases hId : id = rid
  · subst hId
    obtain ⟨hTop, hRoom⟩ := hKeeps rfl
    have hLow := fun row hRow => (h.numbered row hRow).1
    have hNonneg := ResponseTable.maxNum_nonneg hLow
    have hLe : ∀ row ∈ s.table.rowsOf id, row.num ≤ s.table.maxNum id :=
      fun _ hRow => ResponseTable.le_maxNum hLow hRow
    have hNum : cInt (s.table.maxNum id + 1) = s.table.maxNum id + 1 :=
      cInt_eq_self (by omega) (by omega)
    have hRows : ∀ row, row ∈ (s.insertion localTime id text).2.rowsOf id →
        row ∈ s.table.rowsOf id ∨ row.num = s.table.maxNum id + 1 ∧ row.respond.serial = s.inserted := by
      intro row hRow
      rcases (rowsOf_insertion hGuard).mp hRow with hOld | ⟨-, rfl⟩
      · exact .inl hOld
      · exact .inr ⟨hNum, rfl⟩
    refine ⟨?_, ?_, ?_, h.position, ?_, ?_, ?_⟩
    · intro row hRow
      rcases hRows row hRow with hOld | ⟨hNew, -⟩
      · exact h.numbered row hOld
      · omega
    · intro row hRow
      rcases hRows row hRow with hOld | ⟨-, hNew⟩
      · exact (h.past row hOld).trans (Nat.lt_succ_self _)
      · exact hNew ▸ Nat.lt_succ_self _
    · intro a hA b hB hLess
      rcases hRows a hA with hOldA | ⟨hNewA, hSerialA⟩ <;> rcases hRows b hB with hOldB | ⟨hNewB, hSerialB⟩
      · exact h.ordered a hOldA b hOldB hLess
      · exact hSerialB ▸ h.past a hOldA
      · have := hLe b hOldB
        omega
      · omega
    · intro row hRow hBehind
      rcases hRows row hRow with hOld | ⟨hNew, -⟩
      · exact h.got row hOld hBehind
      · have hAt : row.num ≤ ResponseQuery.largestStop s.queries := hBehind
        omega
    · intro row hRow hAhead response hResponse
      rcases hRows row hRow with hOld | ⟨-, hNew⟩
      · exact h.ahead row hOld hAhead response hResponse
      · exact hNew ▸ h.receivedPast response hResponse
    · exact fun response hResponse => (h.receivedPast response hResponse).trans (Nat.lt_succ_self _)
  · refine h.of_subset ?_ (Nat.le_succ _) rfl rfl
    intro row hRow
    rcases (rowsOf_insertion hGuard).mp hRow with hOld | ⟨hSame, -⟩
    · exact hOld
    · exact absurd hSame hId

theorem start_eq (h : Positioned rid s) : s.start = ResponseQuery.largestStop s.queries + 1 := by
  have := h.position
  exact cInt_eq_self (by omega) (by omega)

theorem mem_selected_iff (h : Positioned rid s) {row : ResponseRow StoredResponse} :
    row ∈ s.table.selected rid s.start ↔
      row ∈ s.table.rowsOf rid ∧ ResponseQuery.largestStop s.queries < row.num := by
  rw [ResponseTable.mem_selected, h.start_eq, ResponseTable.mem_rowsOf, and_assoc, Int.lt_iff_add_one_le]

/-- What the next query brings: nothing, or the first rows behind the client's position. -/
theorem ask_cases (h : Positioned rid s) {size : Int} (hSize : 1 ≤ size) :
    (s.ask rid size).page = .empty ∧ s.table.selected rid s.start = [] ∨
    ∃ last, ((s.table.selected rid s.start).take size.toNat).getLast? = some last ∧
      (s.ask rid size).page.respond =
        ((s.table.selected rid s.start).take size.toNat).map ResponseRow.respond ∧
      (s.ask rid size).page.stop = last.num ∧ ResponseQuery.largestStop s.queries < last.num := by
  by_cases hNil : s.table.selected rid s.start = []
  · exact .inl ⟨(page_ask ..).trans (ResponseTable.respondQuery_of_none hNil size), hNil⟩
  · obtain ⟨last, hLast⟩ := ResponseTable.exists_last_of_ne_nil hSize hNil
    have hStart : 1 ≤ s.start := by
      have := h.position
      rw [h.start_eq]
      omega
    have hPage := (page_ask rid s size).trans (ResponseTable.respondQuery_of_some hStart hSize hLast)
    have hMem := h.mem_selected_iff.mp (List.mem_of_mem_take (List.mem_of_getLast? hLast))
    exact .inr ⟨last, hLast, congrArg RespondPage.respond hPage, congrArg RespondPage.stop hPage, hMem.2⟩

theorem query (h : Positioned rid s) {size : Int} (hSize : 1 ≤ size) :
    Positioned rid { s with queries := s.queries ++ [s.ask rid size] } := by
  have hReceived := ResponseQuery.received_append s.queries (s.ask rid size)
  have hStop := ResponseQuery.largestStop_append s.queries (s.ask rid size)
  have hNonneg := h.position.1
  rcases h.ask_cases hSize with ⟨hEmpty, -⟩ | ⟨last, hLast, hRespond, hAt, hAhead⟩
  · rw [hEmpty] at hReceived hStop
    refine h.of_subset (fun _ hRow => hRow) (Nat.le_refl _) (hStop.trans (max_eq_left hNonneg)) ?_
    exact hReceived.trans (List.append_nil _)
  · rw [hRespond] at hReceived
    rw [hAt, max_eq_right hAhead.le] at hStop
    have hIncreasing := @ResponseTable.selected_increasing _ s.table rid s.start
    have hLastRow := h.mem_selected_iff.mp (List.mem_of_mem_take (List.mem_of_getLast? hLast))
    have hTaken : ∀ row ∈ s.table.rowsOf rid, ResponseQuery.largestStop s.queries < row.num →
        (row ∈ (s.table.selected rid s.start).take size.toNat ↔ row.num ≤ last.num) :=
      fun row hRow hNum =>
        KeysetPaging.mem_take_iff hIncreasing hLast (h.mem_selected_iff.mpr ⟨hRow, hNum⟩)
    -- what is received now was received before, or stands on the page up to its last number
    have hOld : ∀ response ∈ ResponseQuery.received (s.queries ++ [s.ask rid size]),
        response ∈ ResponseQuery.received s.queries ∨
          ∃ row ∈ s.table.rowsOf rid, row.num ≤ last.num ∧ row.respond = response := by
      intro response hResponse
      rw [hReceived] at hResponse
      rcases List.mem_append.mp hResponse with hOld | hNew
      · exact .inl hOld
      · obtain ⟨row, hRow, rfl⟩ := List.mem_map.mp hNew
        obtain ⟨hMem, hNum⟩ := h.mem_selected_iff.mp (List.mem_of_mem_take hRow)
        exact .inr ⟨row, hMem, (hTaken row hMem hNum).mp hRow, rfl⟩
    refine ⟨h.numbered, h.past, h.ordered, ?_, ?_, ?_, ?_⟩
    · have := h.numbered last hLastRow.1
      exact hStop ▸ ⟨by omega, this.2⟩
    · intro row hRow hBehind
      show row.respond ∈ ResponseQuery.received (s.queries ++ [s.ask rid size])
      rw [hReceived]
      rcases lt_or_ge (ResponseQuery.largestStop s.queries) row.num with hNum | hNum
      · exact List.mem_append_right _
          (List.mem_map_of_mem ((hTaken row hRow hNum).mpr (hStop ▸ hBehind)))
      · exact List.mem_append_left _ (h.got row hRow hNum)
    · intro row hRow hBeyond response hResponse
      have hNum : last.num < row.num := hStop ▸ hBeyond
      rcases hOld response hResponse with hGot | ⟨other, hOther, hUpTo, rfl⟩
      · exact h.ahead row hRow (hAhead.trans hNum) response hGot
      · exact h.ordered other hOther row hRow (hUpTo.trans_lt hNum)
    · intro response hResponse
      rcases hOld response hResponse with hGot | ⟨other, hOther, -, rfl⟩
      · exact h.receivedPast response hGot
      · exact h.past other hOther

theorem effect (h : Positioned rid s) {e : ReadingEvent} (hGuard : s.guard localTime e)
    (hKeeps : s.KeepsPosition rid e) : Positioned rid (s.effect localTime rid e) := by
  cases e with
  | tick now => exact h.of_subset (fun _ hRow => hRow) (Nat.le_refl _) rfl rfl
  | insert id text => exact h.insert hGuard hKeeps
  | purge overdue =>
    exact h.of_subset (fun _ hRow => ResponseTable.rowsOf_respondPurge _ hRow) (Nat.le_refl _) rfl rfl
  | query size => exact h.query hGuard

/-- A response that the page reaches is on it, or was received before. -/
theorem received_of_reaches (h : Positioned rid s) {size : Int} (hSize : 1 ≤ size)
    {row : ResponseRow StoredResponse} (hRow : row ∈ s.table.rowsOf rid)
    (hReaches : (s.ask rid size).Reaches row.respond) :
    row.respond ∈ ResponseQuery.received (s.queries ++ [s.ask rid size]) := by
  apply (h.query hSize).got row hRow
  show row.num ≤ ResponseQuery.largestStop (s.queries ++ [s.ask rid size])
  rw [ResponseQuery.largestStop_append]
  by_contra hBeyond
  obtain ⟨hNum, hStop⟩ := max_lt_iff.mp (not_le.mp hBeyond)
  have hSelected := h.mem_selected_iff.mpr ⟨hRow, hNum⟩
  rcases h.ask_cases hSize with ⟨-, hNil⟩ | ⟨last, hLast, hRespond, hAt, -⟩
  · rw [hNil] at hSelected
    cases hSelected
  · have hIncreasing := @ResponseTable.selected_increasing _ s.table rid s.start
    have hNot : row ∉ (s.table.selected rid s.start).take size.toNat := by
      rw [KeysetPaging.mem_take_iff hIncreasing hLast hSelected, not_le, ← hAt]
      exact hStop
    rcases hReaches with hRoom | ⟨got, hGot, hSerial⟩
    · -- a page with room left holds all rows that were selected
      have hSame : (s.ask rid size).size = size := rfl
      rw [hRespond, List.length_map, List.length_take, hSame] at hRoom
      rw [List.take_of_length_le (by omega)] at hNot
      exact hNot hSelected
    · rw [hRespond] at hGot
      obtain ⟨other, hOther, rfl⟩ := List.mem_map.mp hGot
      obtain ⟨hMem, -⟩ := h.mem_selected_iff.mp (List.mem_of_mem_take hOther)
      have hUpTo := (KeysetPaging.mem_take_iff hIncreasing hLast (List.mem_of_mem_take hOther)).mp hOther
      exact absurd (h.ordered other hMem row hRow (hUpTo.trans_lt (hAt ▸ hStop))) (not_lt.mpr hSerial)

end Positioned

theorem CursorValid.query {rid : Rid} {s : ResponseReading} (h : s.CursorValid)
    (hAt : Positioned rid s) {size : Int} (hSize : 1 ≤ size) :
    CursorValid { s with queries := s.queries ++ [s.ask rid size] } where
  inOrder := by
    show (ResponseQuery.received (s.queries ++ [s.ask rid size])).Pairwise _
    rw [ResponseQuery.received_append]
    rcases hAt.ask_cases hSize with ⟨hEmpty, -⟩ | ⟨last, hLast, hRespond, -, -⟩
    · rw [hEmpty]
      simpa [RespondPage.empty] using h.inOrder
    · rw [hRespond]
      have hMem : ∀ row ∈ (s.table.selected rid s.start).take size.toNat,
          row ∈ s.table.rowsOf rid ∧ ResponseQuery.largestStop s.queries < row.num :=
        fun row hRow => hAt.mem_selected_iff.mp (List.mem_of_mem_take hRow)
      have hIncreasing := (@ResponseTable.selected_increasing _ s.table rid s.start).sublist
        (List.take_sublist size.toNat _)
      refine List.pairwise_append.mpr ⟨h.inOrder, List.pairwise_map.mpr ?_, ?_⟩
      · exact hIncreasing.imp_of_mem fun hA hB hLess =>
          hAt.ordered _ (hMem _ hA).1 _ (hMem _ hB).1 hLess
      · intro response hResponse got hGot
        obtain ⟨row, hRow, rfl⟩ := List.mem_map.mp hGot
        exact hAt.ahead row (hMem row hRow).1 (hMem row hRow).2 response hResponse
  complete before query after hSplit row hRow hReaches := by
    have hAppend : s.queries ++ [s.ask rid size] = before ++ query :: after := hSplit
    rcases List.eq_nil_or_concat after with rfl | ⟨rest, final, rfl⟩
    · obtain ⟨rfl, hQuery⟩ := List.append_inj' hAppend rfl
      rw [List.cons.injEq] at hQuery
      obtain ⟨rfl, -⟩ := hQuery
      exact hAt.received_of_reaches hSize hRow hReaches
    · rw [List.concat_eq_append, ← List.cons_append, ← List.append_assoc] at hAppend
      obtain ⟨hOld, -⟩ := List.append_inj' hAppend rfl
      exact h.complete before query rest hOld row hRow hReaches

/-- In a run whose inserts keep the client's position, the client gets every response that its pages
reach, once and in order. -/
theorem cursorValid_of_reachable {localTime : LocalTime} {rid : Rid} {s : ResponseReading}
    (h : (responseReadingSystem localTime rid).ReachableWhen (KeepsPosition rid) s) : s.CursorValid := by
  have hPositioned : ∀ s, (responseReadingSystem localTime rid).ReachableWhen (KeepsPosition rid) s →
      Positioned rid s := fun s hReach =>
    hReach.invariant (Positioned rid) (by rintro s rfl; exact .started)
      fun s e hs hGuard hKeeps => hs.effect hGuard hKeeps
  refine TransitionSystem.ReachableWhen.invariant_with hPositioned CursorValid ?_ ?_ h
  · rintro s rfl
    exact ⟨.nil, fun before query after hSplit => by simp [started] at hSplit⟩
  · intro s e hAt hs hGuard _
    cases e with
    | query size => exact hs.query hAt hGuard
    | tick now => exact ⟨hs.inOrder, hs.complete⟩
    | insert id text => exact ⟨hs.inOrder, hs.complete⟩
    | purge overdue => exact ⟨hs.inOrder, hs.complete⟩

def twoDigits (n : Int) : List Char :=
  [Char.ofNat (48 + (n / 10).toNat), Char.ofNat (48 + (n % 10).toNat)]

/-- UTC in the first hour of the epoch. -/
def firstHour : LocalTime where
  text t := String.ofList ("1970-01-01 00:".toList ++ twoDigits (t / 60) ++ ':' :: twoDigits (t % 60))
  zone _ := "UTC"

/-- Old responses are purged, but never the last one. -/
def readBetweenPurges : List ReadingEvent :=
  [.insert "r" "a", .query 5, .tick 100, .insert "r" "b", .purge 10, .insert "r" "c", .query 1,
    .query 5]

theorem cursorValid_of_reachable_readBetweenPurges :
    ((responseReadingSystem firstHour "r").run started readBetweenPurges).CursorValid :=
  cursorValid_of_reachable ((TransitionSystem.ReachableWhen.init rfl).run readBetweenPurges
    (by decide +kernel))

/-- The only response is read and purged before the next one comes. -/
def purgedAfterReading : List ReadingEvent :=
  [.insert "r" "a", .query 5, .tick 100, .purge 10, .insert "r" "b", .query 5]

theorem not_cursorValid :
    ¬ ∀ s, (responseReadingSystem firstHour "r").Reachable s → s.CursorValid := by
  intro h
  have hReach : (responseReadingSystem firstHour "r").Reachable
      ((responseReadingSystem firstHour "r").run started purgedAfterReading) :=
    (TransitionSystem.ReachableWhen.init rfl).run purgedAfterReading (by decide +kernel)
  have hSplit : ((responseReadingSystem firstHour "r").run started purgedAfterReading).queries =
      [⟨[⟨"r", 1, ⟨0, "a"⟩, "1970-01-01 00:00:00"⟩], 5, ⟨1, [⟨0, "a"⟩], 1, 0⟩⟩] ++
        ⟨[⟨"r", 1, ⟨1, "b"⟩, "1970-01-01 00:01:40"⟩], 5, .empty⟩ :: [] := by decide +kernel
  have hMissed := (h _ hReach).complete _ _ _ hSplit _ List.mem_cons_self (by decide)
  revert hMissed
  decide

end ResponseReading

end Gonggo
