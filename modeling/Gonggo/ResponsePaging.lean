import Gonggo.ResponseTable

/-! # Reading all responses page by page

A client asks for the responses of a request from start 1, and goes on behind the last number it
got while `more` says that something is left. The table does not change meanwhile.
-/

namespace Gonggo

namespace ResponseTable

variable {ρ : Type} {table : ResponseTable ρ} {rid : Rid}

/-- The pages that a client gets from a start on, up to the one that leaves nothing over. -/
inductive Follows (table : ResponseTable ρ) (rid : Rid) (size : Int) : Int → List (RespondPage ρ) → Prop
  | last {start : Int} : (table.respondQuery rid start size).more ≤ 0 →
      Follows table rid size start [table.respondQuery rid start size]
  | next {start : Int} {pages : List (RespondPage ρ)} :
      0 < (table.respondQuery rid start size).more →
      Follows table rid size ((table.respondQuery rid start size).stop + 1) pages →
      Follows table rid size start (table.respondQuery rid start size :: pages)

theorem Follows.unique {size start : Int} {pages other : List (RespondPage ρ)}
    (h : Follows table rid size start pages) (hOther : Follows table rid size start other) :
    other = pages := by
  induction h generalizing other with
  | last hNone =>
    cases hOther with
    | last => rfl
    | next hMore => exact absurd hMore (not_lt.mpr hNone)
  | next hMore _ ih =>
    cases hOther with
    | last hNone => exact absurd hMore (not_lt.mpr hNone)
    | next _ hRest => rw [ih hRest]

/-- What a page leaves over is what the next query selects. -/
theorem drop_selected {start size : Int} {last : ResponseRow ρ}
    (hLast : ((table.selected rid start).take size.toNat).getLast? = some last) :
    (table.selected rid start).drop size.toNat = table.selected rid (last.num + 1) := by
  have hMem : last ∈ table.selected rid start :=
    List.mem_of_mem_take (List.mem_of_getLast? hLast)
  have hLater : start ≤ last.num + 1 := by
    have := (mem_selected.mp hMem).2.2
    omega
  rw [KeysetPaging.drop_eq_filter (selected_increasing start) hLast, ← selected_filter hLater]
  apply List.filter_congr
  intro row _
  exact decide_eq_decide.mpr Int.lt_iff_add_one_le

/-- The pages from a start on are the rows from there on, in the order of their numbers. -/
theorem exists_follows {start size : Int} (hStart : 1 ≤ start) (hSize : 1 ≤ size) :
    ∃ pages, Follows table rid size start pages ∧
      pages.flatMap RespondPage.respond = (table.selected rid start).map ResponseRow.respond := by
  -- a page takes at least one row, so fewer are left for the next one
  induction hLen : (table.selected rid start).length using Nat.strong_induction_on
    generalizing start with
  | _ n ih =>
    by_cases hNil : table.selected rid start = []
    · have hPage := respondQuery_of_none hNil size
      refine ⟨[table.respondQuery rid start size], .last ?_, ?_⟩
      · rw [hPage]
        exact Int.le_refl 0
      · rw [hPage, hNil]
        rfl
    · obtain ⟨last, hLast⟩ := exists_last_of_ne_nil hSize hNil
      have hPage := respondQuery_of_some hStart hSize hLast
      have hRest := drop_selected hLast
      have hSplit : (table.respondQuery rid start size).respond ++
          (table.selected rid (last.num + 1)).map ResponseRow.respond =
            (table.selected rid start).map ResponseRow.respond := by
        rw [hPage, ← hRest, ← List.map_append, List.take_append_drop]
      by_cases hMore : 0 < (table.respondQuery rid start size).more
      · have hPos : 0 < (table.selected rid start).length := List.length_pos_of_ne_nil hNil
        have hLess : (table.selected rid (last.num + 1)).length < n := by
          rw [← hRest, List.length_drop]
          omega
        have hNext : 1 ≤ last.num + 1 := by
          have := (mem_selected.mp (List.mem_of_mem_take (List.mem_of_getLast? hLast))).2.2
          omega
        obtain ⟨pages, hPages, hRespond⟩ := ih _ hLess hNext rfl
        have hStop : (table.respondQuery rid start size).stop = last.num := by rw [hPage]
        refine ⟨_ :: pages, .next hMore (hStop.symm ▸ hPages), ?_⟩
        rw [List.flatMap_cons, hRespond, hSplit]
      · have hNone : table.selected rid (last.num + 1) = [] := by
          rw [hPage, hRest] at hMore
          exact List.length_eq_zero_iff.mp (by simpa using hMore)
        refine ⟨[_], .last (not_lt.mp hMore), ?_⟩
        rw [← hSplit, hNone, List.flatMap_singleton, List.map_nil, List.append_nil]

/-- What one query returns when the request has a response from the start on. -/
structure ExactPage (table : ResponseTable ρ) (rid : Rid) (start size : Int) (page : RespondPage ρ)
    (rows : List (ResponseRow ρ)) : Prop where
  respond : page.respond = rows.map ResponseRow.respond
  stop : rows.getLast?.map ResponseRow.num = some page.stop
  taken : ∀ row, row ∈ rows ↔
    row ∈ table.rows ∧ row.id = rid ∧ start ≤ row.num ∧ row.num ≤ page.stop
  increasing : rows.Pairwise fun a b => a.num < b.num
  full : rows.length ≤ size
  more : page.more = (table.rows.filter fun row => row.id = rid ∧ page.stop < row.num).length
  room : page.respond.length ≤ page.allocated

theorem exactPage {start size : Int} (hStart : 1 ≤ start) (hSize : 1 ≤ size)
    (h : ∃ row ∈ table.rows, row.id = rid ∧ start ≤ row.num) :
    ∃ rows, ExactPage table rid start size (table.respondQuery rid start size) rows := by
  obtain ⟨found, hFound⟩ := h
  have hNe : table.selected rid start ≠ [] := List.ne_nil_of_mem (mem_selected.mpr hFound)
  obtain ⟨last, hLast⟩ := exists_last_of_ne_nil hSize hNe
  have hIncreasing : KeysetPaging.Increasing ResponseRow.num (table.selected rid start) :=
    selected_increasing start
  have hLater : ((table.selected rid start).drop size.toNat).length =
      (table.rows.filter fun row => row.id = rid ∧ last.num < row.num).length := by
    rw [drop_selected hLast, selected, List.length_insertionSort, rowsOf, List.filter_filter]
    congr 1
    apply List.filter_congr
    intro row _
    rw [← Bool.decide_and]
    exact decide_eq_decide.mpr (and_comm.trans (and_congr_right' Int.lt_iff_add_one_le.symm))
  rw [respondQuery_of_some hStart hSize hLast]
  refine ⟨(table.selected rid start).take size.toNat, rfl, ?_, ?_, hIncreasing.sublist (List.take_sublist ..), ?_, ?_, ?_⟩
  · rw [hLast]
    rfl
  · intro row
    constructor
    · intro hRow
      have hSelected := List.mem_of_mem_take hRow
      obtain ⟨hMem, hId, hNum⟩ := mem_selected.mp hSelected
      exact ⟨hMem, hId, hNum, (KeysetPaging.mem_take_iff hIncreasing hLast hSelected).mp hRow⟩
    · rintro ⟨hMem, hId, hNum, hStop⟩
      have hSelected : row ∈ table.selected rid start := mem_selected.mpr ⟨hMem, hId, hNum⟩
      exact (KeysetPaging.mem_take_iff hIncreasing hLast hSelected).mpr hStop
  · rw [List.length_take]
    omega
  · exact congrArg Nat.cast hLater
  · simp only [List.length_map, List.length_take]
    omega

/-- Paging is exact. Every page is exact, and the pages from start 1 on come to an end and hold
every response of the request once, in the order of their numbers. -/
theorem paging_exact (table : ResponseTable ρ) (hNumbered : ∀ row ∈ table.rows, 1 ≤ row.num)
    (rid : Rid) {size : Int} (hSize : 1 ≤ size) :
    (∃ (pages : List (RespondPage ρ)) (rows : List (ResponseRow ρ)), Follows table rid size 1 pages ∧
      (∀ other, Follows table rid size 1 other → other = pages) ∧
      pages.flatMap RespondPage.respond = rows.map ResponseRow.respond ∧
      rows.Pairwise (fun a b => a.num < b.num) ∧
      ∀ row, row ∈ rows ↔ row ∈ table.rows ∧ row.id = rid) ∧
    ∀ start, 1 ≤ start → (∃ row ∈ table.rows, row.id = rid ∧ start ≤ row.num) →
      ∃ rows, ExactPage table rid start size (table.respondQuery rid start size) rows := by
  refine ⟨?_, fun start hStart h => exactPage hStart hSize h⟩
  obtain ⟨pages, hPages, hRespond⟩ :=
    @exists_follows _ table rid 1 size (Int.le_refl 1) hSize
  refine ⟨pages, table.selected rid 1, hPages, fun _ => hPages.unique, hRespond,
    selected_increasing 1, ?_⟩
  intro row
  rw [mem_selected]
  constructor
  · rintro ⟨hMem, hId, -⟩
    exact ⟨hMem, hId⟩
  · rintro ⟨hMem, hId⟩
    exact ⟨hMem, hId, hNumbered row hMem⟩

/-- Three responses of one request, one of them purged, beside a response of another request. -/
def sampleResponses : ResponseTable String where
  rows := [⟨"r", 3, "third", "2024-01-01 00:00:03"⟩, ⟨"q", 1, "other", "2024-01-01 00:00:00"⟩,
    ⟨"r", 1, "first", "2024-01-01 00:00:01"⟩, ⟨"r", 4, "fourth", "2024-01-01 00:00:04"⟩]
  keyed := by decide
  bound := by decide

theorem paging_exact_sampleResponses :
    (∃ (pages : List (RespondPage String)) (rows : List (ResponseRow String)),
      Follows sampleResponses "r" 2 1 pages ∧
      (∀ other, Follows sampleResponses "r" 2 1 other → other = pages) ∧
      pages.flatMap RespondPage.respond = rows.map ResponseRow.respond ∧
      rows.Pairwise (fun a b => a.num < b.num) ∧
      ∀ row, row ∈ rows ↔ row ∈ sampleResponses.rows ∧ row.id = "r") ∧
    ∀ start, 1 ≤ start → (∃ row ∈ sampleResponses.rows, row.id = "r" ∧ start ≤ row.num) →
      ∃ rows, ExactPage sampleResponses "r" start 2 (sampleResponses.respondQuery "r" start 2) rows :=
  paging_exact sampleResponses (by decide) "r" (by decide)

end ResponseTable

end Gonggo
