import Gonggo.ResponseTable
import Gonggo.Library.CivilTime
import Gonggo.Library.Decimal
import Gonggo.Library.TransitionSystem

/-! # Responses that are purged by their age

The age of a row is compared through two texts: the local time at its insert, as SQLite writes it, and
the local time that many seconds before the purge, as `strftime` writes it with the name of the zone
behind. SQLite writes years in four digits, and `strftime` without padding.
-/

namespace Gonggo

open Decimal

/-- The local time at a clock value: its offset in seconds, and the name of the zone. -/
structure TimeZone where
  off : Time → Int
  zone : Time → String

namespace TimeZone

variable (tz : TimeZone)

def localtime (t : Time) : CivilTime := .ofSeconds (t + tz.off t)

/-- The texts of both sides behind the year. -/
def behindYear (tm : CivilTime) : List Char :=
  '-' :: (padded 2 tm.month.toNat ++ '-' :: (padded 2 tm.day.toNat ++ ' ' ::
    (padded 2 tm.hour.toNat ++ ':' :: (padded 2 tm.minute.toNat ++ ':' :: padded 2 tm.second.toNat))))

/-- `datetime(CURRENT_TIMESTAMP, 'localtime')`, which is NULL outside of the years 0000 to 9999. -/
def datetime (t : Time) : Option String :=
  if 0 ≤ (tz.localtime t).year ∧ (tz.localtime t).year ≤ 9999 then
    some (String.ofList (padded 4 (tz.localtime t).year.toNat ++ behindYear (tz.localtime t)))
  else none

/-- `%Y`. -/
def strftimeYear (year : Int) : List Char :=
  if year < 0 then '-' :: Nat.toDigits 10 year.natAbs else Nat.toDigits 10 year.toNat

/-- `%Y-%m-%d %H:%M:%S %Z`. -/
def strftime (t : Time) : String :=
  String.ofList (strftimeYear (tz.localtime t).year ++
    (behindYear (tz.localtime t) ++ ' ' :: (tz.zone t).toList))

end TimeZone

def tmStrBufLen : Nat := 35

/-- `localtime` can hold the year in an `int`, and the text with its terminator fits the buffer. -/
def TextFits (tz : TimeZone) (t : Time) : Prop :=
  -(2 ^ 31) ≤ (tz.localtime t).year - 1900 ∧ (tz.localtime t).year - 1900 < 2 ^ 31 ∧
    (tz.strftime t).utf8ByteSize < tmStrBufLen

instance (tz : TimeZone) (t : Time) : Decidable (TextFits tz t) := inferInstanceAs (Decidable (_ ∧ _))

/-- The text that the purge compares with. -/
def purgeTmstr (tz : TimeZone) (t : Time) : Option String :=
  if TextFits tz t then some (tz.strftime t) else none

/-- A response, and when it was inserted. -/
structure DatedResponse where
  text : String
  insertedAt : Time
  deriving DecidableEq

/-- `db_respond_insert`: without a time the row violates `NOT NULL`. -/
def dbRespondInsert (tz : TimeZone) (table : ResponseTable DatedResponse) (rid : Rid) (respond : String)
    (now : Time) : ResponseTable DatedResponse :=
  match tz.datetime now with
  | none => table
  | some ts => (table.respondInsert rid ⟨respond, now⟩ ts).2

/-- `db_respond_purge`; `none` stands for a text that is not there. -/
def dbRespondPurge (tz : TimeZone) (table : ResponseTable DatedResponse) (overdue : Int) (now : Time) :
    Option (ResponseTable DatedResponse) :=
  (purgeTmstr tz (now - overdue)).map table.respondPurge

/-! ## The order of the texts -/

namespace TimeZone

variable {tz : TimeZone}

theorem padded_two_lt_iff {m n : Int} (hM : 0 ≤ m ∧ m < 100) (hN : 0 ≤ n ∧ n < 100) (x y : List Char) :
    padded 2 m.toNat ++ x < padded 2 n.toNat ++ y ↔ m < n ∨ m = n ∧ x < y := by
  have hWidth : (10 : Nat) ^ 2 = 100 := rfl
  have hLess : m.toNat < n.toNat ↔ m < n := by omega
  have hEq : m.toNat = n.toNat ↔ m = n := by omega
  rw [padded_append_lt_iff (by omega) (by omega), hLess, hEq]

/-- Behind equal years the text with the name of a zone is the larger one of two equal times. -/
theorem behindYear_lt_iff {a b : CivilTime} (hA : a.TwoDigits) (hB : b.TwoDigits) (hYear : a.year = b.year)
    (zone : List Char) :
    behindYear a < behindYear b ++ ' ' :: zone ↔ a.Before b ∨ a = b := by
  have hLast : padded 2 a.second.toNat < padded 2 b.second.toNat ++ ' ' :: zone ↔
      a.second < b.second ∨ a.second = b.second := by
    have hOrder := padded_two_lt_iff hA.second hB.second [] (' ' :: zone)
    have hNil : ([] : List Char) < ' ' :: zone := List.nil_lt_cons ..
    rwa [List.append_nil, iff_true_intro hNil, and_true] at hOrder
  have hEq : a = b ↔ a.month = b.month ∧ a.day = b.day ∧ a.hour = b.hour ∧ a.minute = b.minute ∧
      a.second = b.second := by
    cases a
    cases b
    simp_all
  simp only [behindYear, List.cons_append, List.append_assoc, List.cons_lt_cons_self, padded_two_lt_iff hA.month hB.month, padded_two_lt_iff hA.day hB.day,
    padded_two_lt_iff hA.hour hB.hour, padded_two_lt_iff hA.minute hB.minute, hLast, CivilTime.Before, hEq]
  omega

/-- What a year says in its first four digits, where the hyphen behind it counts as less than a
digit. -/
def firstDigits (year : Nat) : Nat :=
  year * 10 ^ (4 - (Nat.toDigits 10 year).length) / 10 ^ ((Nat.toDigits 10 year).length - 4)

theorem digitChar_hyphen : ∀ d < 10, '-' < Nat.digitChar d ∧ ¬ Nat.digitChar d < '-' ∧ Nat.digitChar d ≠ '-' := by
  decide

theorem exists_digit (width n : Nat) :
    ∃ d, d < 10 ∧ ∃ rest, padded (width + 1) n = Nat.digitChar d :: rest := by
  have hSplit := padded_add 1 width n
  rw [Nat.add_comm 1 width] at hSplit
  exact ⟨n / 10 ^ width % 10, Nat.mod_lt _ (by decide), padded width n, hSplit⟩

theorem not_padded_lt_hyphen {width : Nat} (hWidth : 0 < width) (n : Nat) (x y : List Char) :
    ¬ padded width n ++ x < '-' :: y := by
  obtain ⟨width, rfl⟩ := Nat.exists_eq_succ_of_ne_zero hWidth.ne'
  obtain ⟨d, hDigit, rest, hPadded⟩ := exists_digit width n
  obtain ⟨-, hLess, hEq⟩ := digitChar_hyphen d hDigit
  rw [Nat.succ_eq_add_one, hPadded, List.cons_append, List.cons_lt_cons_iff]
  exact not_or_intro hLess fun h => hEq h.1

theorem hyphen_lt_padded {width : Nat} (hWidth : 0 < width) (n : Nat) (x y : List Char) :
    '-' :: x < padded width n ++ y := by
  obtain ⟨width, rfl⟩ := Nat.exists_eq_succ_of_ne_zero hWidth.ne'
  obtain ⟨d, hDigit, rest, hPadded⟩ := exists_digit width n
  rw [Nat.succ_eq_add_one, hPadded, List.cons_append, List.cons_lt_cons_iff]
  exact .inl (digitChar_hyphen d hDigit).1

/-- A year of less than four digits stands for the years that begin with less. -/
theorem padded_lt_shorter {year other width : Nat} (hYear : year < 10 ^ 4) (hWidth : width < 4)
    (hOther : other < 10 ^ width) (x y : List Char) :
    padded 4 year ++ x < padded width other ++ '-' :: y ↔ year < other * 10 ^ (4 - width) := by
  have hSplit := padded_add width (4 - width) year
  rw [show width + (4 - width) = 4 by omega] at hSplit
  have hFits : year / 10 ^ (4 - width) < 10 ^ width := by
    apply Nat.div_lt_of_lt_mul
    rwa [← Nat.pow_add, show 4 - width + width = 4 by omega]
  rw [hSplit, List.append_assoc, padded_append_lt_iff hFits hOther,
    iff_false_intro (not_padded_lt_hyphen (by omega) year x y), and_false, or_false,
    Nat.div_lt_iff_lt_mul (Nat.pow_pos (by decide))]

/-- A year of more than four digits stands for the years up to its first four. -/
theorem padded_lt_longer {year other width : Nat} (hYear : year < 10 ^ 4) (hWidth : 4 < width)
    (hOther : other < 10 ^ width) (x y : List Char) :
    padded 4 year ++ '-' :: x < padded width other ++ y ↔
      year < other / 10 ^ (width - 4) ∨ year = other / 10 ^ (width - 4) := by
  have hSplit := padded_add 4 (width - 4) other
  rw [show 4 + (width - 4) = width by omega] at hSplit
  have hFits : other / 10 ^ (width - 4) < 10 ^ 4 := by
    apply Nat.div_lt_of_lt_mul
    rwa [← Nat.pow_add, show width - 4 + 4 = width by omega]
  rw [hSplit, List.append_assoc, padded_append_lt_iff hYear hFits,
    iff_true_intro (hyphen_lt_padded (by omega) other x y), and_true]

/-- The row is older than the text of the purge, by the kind of the purge's year. -/
def Precedes (tz : TimeZone) (inserted cutoff : Int) : Prop :=
  if (tz.localtime cutoff).year < 0 then False
  else if 1000 ≤ (tz.localtime cutoff).year ∧ (tz.localtime cutoff).year ≤ 9999 then
    inserted + tz.off inserted ≤ cutoff + tz.off cutoff
  else (tz.localtime inserted).year.toNat < firstDigits (tz.localtime cutoff).year.toNat ∨
    (tz.localtime inserted).year.toNat = firstDigits (tz.localtime cutoff).year.toNat ∧
      9999 < (tz.localtime cutoff).year

theorem localtime_le_iff (tz : TimeZone) (a b : Int) :
    (tz.localtime a).Before (tz.localtime b) ∨ tz.localtime a = tz.localtime b ↔
      a + tz.off a ≤ b + tz.off b := by
  have hEq : tz.localtime a = tz.localtime b ↔ a + tz.off a = b + tz.off b :=
    ⟨CivilTime.ofSeconds_injective, fun h => by rw [localtime, localtime, h]⟩
  rw [hEq, localtime, localtime, CivilTime.before_ofSeconds_iff]
  exact Int.le_iff_lt_or_eq.symm

/-- With four digits on both sides the texts are in the order of the local times. -/
theorem fourDigits_lt_iff (tz : TimeZone) {a b : Int} (hA : 0 ≤ (tz.localtime a).year)
    (hB : 0 ≤ (tz.localtime b).year) (hAFits : (tz.localtime a).year.toNat < 10 ^ 4)
    (hBFits : (tz.localtime b).year.toNat < 10 ^ 4) (zone : List Char) :
    padded 4 (tz.localtime a).year.toNat ++ behindYear (tz.localtime a) <
        padded 4 (tz.localtime b).year.toNat ++ (behindYear (tz.localtime b) ++ ' ' :: zone) ↔
      a + tz.off a ≤ b + tz.off b := by
  have hBehind := behindYear_lt_iff (a := tz.localtime a) (b := tz.localtime b)
    (CivilTime.twoDigits_ofSeconds _) (CivilTime.twoDigits_ofSeconds _)
  rw [padded_append_lt_iff hAFits hBFits, ← localtime_le_iff]
  constructor
  · rintro (hYear | ⟨hYear, hRest⟩)
    · exact .inl (.inl (by omega))
    · exact (hBehind (by omega) zone).mp hRest
  · intro hOrder
    by_cases hYear : (tz.localtime a).year = (tz.localtime b).year
    · exact .inr ⟨by rw [hYear], (hBehind hYear zone).mpr hOrder⟩
    · rcases hOrder with (hLess | ⟨hSame, -⟩) | hEq
      · exact .inl (by omega)
      · exact absurd hSame hYear
      · exact absurd (congrArg CivilTime.year hEq) hYear

theorem datetime_lt_strftime_iff (tz : TimeZone) {inserted cutoff : Int} {ts : String}
    (h : tz.datetime inserted = some ts) : ts < tz.strftime cutoff ↔ tz.Precedes inserted cutoff := by
  unfold datetime at h
  split at h
  · rename_i hRange
    rw [← Option.some.inj h, String.lt_iff, strftime, String.toList_ofList, String.toList_ofList]
    unfold Precedes
    have hWidth : (10 : Nat) ^ 4 = 10000 := rfl
    have hYear : (tz.localtime inserted).year.toNat < 10 ^ 4 := by omega
    by_cases hNegative : (tz.localtime cutoff).year < 0
    · rw [strftimeYear, if_pos hNegative, if_pos hNegative, iff_false]
      exact not_padded_lt_hyphen (by decide) _ _ _
    rw [strftimeYear, if_neg hNegative, if_neg hNegative]
    have hShort : ∀ width, 0 < width → ((Nat.toDigits 10 (tz.localtime cutoff).year.toNat).length ≤ width ↔
        (tz.localtime cutoff).year.toNat < 10 ^ width) := fun width hPos =>
      Nat.length_toDigits_le_iff (by decide) hPos
    have hThree := hShort 3 (by decide)
    have hFour := hShort 4 (by decide)
    have hOwn := (hShort _ Nat.length_toDigits_pos).mp le_rfl
    have hDigits := toDigits_eq_padded (tz.localtime cutoff).year.toNat
    unfold firstDigits
    generalize (Nat.toDigits 10 (tz.localtime cutoff).year.toNat).length = width at *
    rw [hDigits]
    rcases Nat.lt_trichotomy width 4 with hLess | hExact | hMore
    · have hSmall := hThree.mp (by omega)
      have hCut : width - 4 = 0 := by omega
      rw [if_neg (by omega), hCut, Nat.pow_zero, Nat.div_one, or_iff_left (by omega)]
      exact padded_lt_shorter hYear hLess hOwn (behindYear (tz.localtime inserted)) _
    · subst hExact
      have hLarge := mt hThree.mpr (by omega)
      rw [if_pos (by omega)]
      exact fourDigits_lt_iff tz hRange.1 (by omega) hYear hOwn _
    · have hLarge := mt hFour.mpr (by omega)
      have hScale : 4 - width = 0 := by omega
      have hLate : 9999 < (tz.localtime cutoff).year := by omega
      rw [if_neg (by omega), hScale, Nat.pow_zero, Nat.mul_one, iff_true_intro hLate, and_true]
      exact padded_lt_longer hYear hMore hOwn _ _
  · cases h

/-- The text of the purge puts a row on the side of its age. With four digits in the year no row was
inserted in the very second of the purge's time, and no change of the offset in between makes up for
the time between them; otherwise it is the first digits of the years that have to fall so. -/
def OnItsSide (tz : TimeZone) (inserted cutoff : Int) : Prop :=
  if (tz.localtime cutoff).year < 0 then cutoff ≤ inserted
  else if 1000 ≤ (tz.localtime cutoff).year ∧ (tz.localtime cutoff).year ≤ 9999 then
    inserted ≠ cutoff ∧
      (inserted < cutoff → tz.off inserted - tz.off cutoff ≤ cutoff - inserted) ∧
      (cutoff < inserted → tz.off cutoff - tz.off inserted < inserted - cutoff)
  else
    ((tz.localtime inserted).year.toNat < firstDigits (tz.localtime cutoff).year.toNat ∨
      (tz.localtime inserted).year.toNat = firstDigits (tz.localtime cutoff).year.toNat ∧
        9999 < (tz.localtime cutoff).year ↔ inserted < cutoff)

theorem precedes_iff_onItsSide (tz : TimeZone) (inserted cutoff : Int) :
    (tz.Precedes inserted cutoff ↔ inserted < cutoff) ↔ tz.OnItsSide inserted cutoff := by
  unfold Precedes OnItsSide
  split
  · rw [false_iff, not_lt]
  split
  · rcases Int.lt_trichotomy inserted cutoff with hLess | rfl | hMore
    · have hNe : inserted ≠ cutoff := Int.ne_of_lt hLess
      have hNot : ¬ cutoff < inserted := by omega
      simp only [hLess, hNe, hNot, ne_eq, not_false_eq_true, true_and, false_imp_iff, and_true, iff_true,
        true_imp_iff]
      omega
    · simp
    · have hNe : inserted ≠ cutoff := Int.ne_of_gt hMore
      have hNot : ¬ inserted < cutoff := by omega
      simp only [hMore, hNe, hNot, ne_eq, not_false_eq_true, true_and, false_imp_iff, iff_false,
        true_imp_iff]
      omega
  · exact Iff.rfl

end TimeZone

/-! ## Inserts and purges -/

structure RespondStore where
  table : ResponseTable DatedResponse
  clock : Time

inductive RespondCall
  | insert (rid : Rid) (respond : String) (now : Time)
  | purge (overdue : Int) (now : Time)

namespace RespondStore

variable (tz : TimeZone) (s : RespondStore)

/-- The clock does not go back, and a purge finds its text. -/
def guard : RespondCall → Prop
  | .insert _ _ now => s.clock ≤ now
  | .purge overdue now => s.clock ≤ now ∧ 0 ≤ overdue ∧ (purgeTmstr tz (now - overdue)).isSome

instance decidableGuard (e : RespondCall) : Decidable (s.guard tz e) := by
  unfold guard
  cases e <;> infer_instance

def effect : RespondCall → RespondStore
  | .insert rid respond now => { table := dbRespondInsert tz s.table rid respond now, clock := now }
  | .purge overdue now =>
      { table := (dbRespondPurge tz s.table overdue now).getD s.table, clock := now }

end RespondStore

def respondStoreSystem (tz : TimeZone) : TransitionSystem RespondStore RespondCall where
  init s := s.table = .empty
  guard := RespondStore.guard tz
  effect := RespondStore.effect tz

/-- Every row has the text of the time when it was inserted. -/
def Dated (tz : TimeZone) (table : ResponseTable DatedResponse) : Prop :=
  ∀ row ∈ table.rows, tz.datetime row.respond.insertedAt = some row.ts

variable {tz : TimeZone} {table : ResponseTable DatedResponse}

theorem Dated.dbRespondInsert (h : Dated tz table) (rid : Rid) (respond : String) (now : Time) :
    Dated tz (dbRespondInsert tz table rid respond now) := by
  unfold Gonggo.dbRespondInsert
  cases hText : tz.datetime now with
  | none => exact h
  | some ts =>
    intro row hRow
    simp only at hRow
    by_cases hInserted : (table.respondInsert rid ⟨respond, now⟩ ts).1 = true
    · rw [ResponseTable.rows_respondInsert hInserted, List.mem_append, List.mem_singleton] at hRow
      rcases hRow with hOld | rfl
      · exact h row hOld
      · exact hText
    · have hSame : (table.respondInsert rid ⟨respond, now⟩ ts).2 = table := by
        unfold ResponseTable.respondInsert ResponseTable.insertAfter at hInserted ⊢
        split at hInserted
        · rename_i hTaken
          rw [dif_pos hTaken]
        · exact absurd rfl hInserted
      rw [hSame] at hRow
      exact h row hRow

theorem Dated.respondPurge (h : Dated tz table) (cutoff : String) : Dated tz (table.respondPurge cutoff) :=
  fun row hRow => h row (List.mem_of_mem_filter hRow)

theorem dated_of_reachable {s : RespondStore} (h : (respondStoreSystem tz).Reachable s) :
    Dated tz s.table := by
  refine h.invariant (fun s => Dated tz s.table) ?_ ?_
  · intro s hInit row hRow
    rw [hInit] at hRow
    cases hRow
  · intro s e hDated _
    cases e with
    | insert rid respond now => exact hDated.dbRespondInsert rid respond now
    | purge overdue now =>
      show Dated tz ((dbRespondPurge tz s.table overdue now).getD s.table)
      unfold dbRespondPurge
      cases purgeTmstr tz (now - overdue) with
      | none => exact hDated
      | some cutoff => exact hDated.respondPurge cutoff

/-- The purge takes out the rows that were inserted more than that many seconds ago, and no others. -/
def PurgesExactly (tz : TimeZone) (table : ResponseTable DatedResponse) (overdue : Int) (now : Time) : Prop :=
  ∃ after, dbRespondPurge tz table overdue now = some after ∧
    ∀ row ∈ table.rows, row ∉ after.rows ↔ overdue < now - row.respond.insertedAt

theorem mem_respondPurge {cutoff : String} {row : ResponseRow DatedResponse} (h : row ∈ table.rows) :
    row ∉ (table.respondPurge cutoff).rows ↔ row.ts < cutoff := by
  simp [ResponseTable.respondPurge, h]

theorem Dated.purgesExactly_iff (h : Dated tz table) (overdue : Int) (now : Time) :
    PurgesExactly tz table overdue now ↔ TextFits tz (now - overdue) ∧
      ∀ row ∈ table.rows, tz.OnItsSide row.respond.insertedAt (now - overdue) := by
  unfold PurgesExactly dbRespondPurge purgeTmstr
  by_cases hFits : TextFits tz (now - overdue)
  · rw [if_pos hFits, Option.map_some]
    have hRow : ∀ row ∈ table.rows, ((row ∉ (table.respondPurge (tz.strftime (now - overdue))).rows ↔
        overdue < now - row.respond.insertedAt) ↔
          tz.OnItsSide row.respond.insertedAt (now - overdue)) := by
      intro row hMem
      rw [mem_respondPurge hMem, TimeZone.datetime_lt_strftime_iff tz (h row hMem), lt_sub_comm,
        TimeZone.precedes_iff_onItsSide]
    constructor
    · rintro ⟨after, ⟨⟩, hExact⟩
      exact ⟨hFits, fun row hMem => (hRow row hMem).mp (hExact row hMem)⟩
    · rintro ⟨-, hSides⟩
      exact ⟨_, rfl, fun row hMem => (hRow row hMem).mpr (hSides row hMem)⟩
  · rw [if_neg hFits, Option.map_none]
    refine iff_of_false ?_ fun hBoth => hFits hBoth.1
    rintro ⟨after, ⟨⟩, -⟩

/-- In every run of inserts and purges a purge is exact exactly if its text fits and puts every row
that is stored on its side. -/
theorem respondPurge_exact_iff {s : RespondStore} (h : (respondStoreSystem tz).Reachable s)
    (overdue : Int) (now : Time) :
    PurgesExactly tz s.table overdue now ↔ TextFits tz (now - overdue) ∧
      ∀ row ∈ s.table.rows, tz.OnItsSide row.respond.insertedAt (now - overdue) :=
  (dated_of_reachable h).purgesExactly_iff overdue now

/-! ## Rows on both sides of the change of the offset -/

/-- Two hours ahead until the end of October 2023, one hour from then on. -/
def summerTime : TimeZone where
  off t := if t < 1698541200 then 7200 else 3600
  zone t := if t < 1698541200 then "CEST" else "CET"

/-- A response of the summer time and two of the time after it. -/
def sampleInserts : List RespondCall :=
  [.insert "r1" "first" 1698540000, .insert "r2" "second" 1699990000, .insert "r3" "third" 1700000090]

def threeRespondStore : RespondStore :=
  (respondStoreSystem summerTime).run { table := .empty, clock := 0 } sampleInserts

/-- The purge of what is older than 50 seconds takes out the first two, and exactly those. -/
theorem respondPurge_exact_iff_threeRespond :
    PurgesExactly summerTime threeRespondStore.table 50 1700000100 ∧
      (dbRespondPurge summerTime threeRespondStore.table 50 1700000100).map
        (fun after => after.rows.map (·.id)) = some ["r3"] := by
  have hReach : (respondStoreSystem summerTime).Reachable threeRespondStore :=
    .run (.init rfl) sampleInserts
      ⟨show (0 : Int) ≤ 1698540000 by decide, trivial, show (1698540000 : Int) ≤ 1699990000 by decide, trivial,
        show (1699990000 : Int) ≤ 1700000090 by decide, trivial, trivial⟩
  refine ⟨(respondPurge_exact_iff hReach 50 1700000100).mpr ⟨by decide +kernel, fun row hRow => ?_⟩,
    by decide +kernel⟩
  have hTimes : ∀ t ∈ threeRespondStore.table.rows.map (·.respond.insertedAt),
      summerTime.OnItsSide t 1700000050 := by
    unfold TimeZone.OnItsSide
    decide +kernel
  exact hTimes _ (List.mem_map_of_mem hRow)

/-! ## A row of the very second -/

def utc : TimeZone where
  off _ := 0
  zone _ := "UTC"

/-- One response in November 2023. -/
def oneRespondStore : RespondStore :=
  (respondStoreSystem utc).effect { table := .empty, clock := 0 } (.insert "r" "answer" 1700000000)

theorem reachable_oneRespondStore : (respondStoreSystem utc).Reachable oneRespondStore :=
  .step (.init rfl) (show (0 : Int) ≤ 1700000000 by decide) trivial

/-- A row that is overdue to the second, and not more, is deleted. -/
theorem not_respondPurge_exact :
    ¬ ∀ (tz : TimeZone) (s : RespondStore), (respondStoreSystem tz).Reachable s →
      ∀ (overdue : Int) (now : Time), s.clock ≤ now → 0 ≤ overdue →
        PurgesExactly tz s.table overdue now := by
  intro h
  have hExact := h utc oneRespondStore reachable_oneRespondStore 5 1700000005 (by decide) (by decide)
  obtain ⟨-, hSides⟩ :=
    ((dated_of_reachable reachable_oneRespondStore).purgesExactly_iff 5 1700000005).mp hExact
  have hSide : utc.OnItsSide 1700000000 1700000000 := hSides _ List.mem_cons_self
  rw [TimeZone.OnItsSide, if_neg (by decide), if_pos (by decide)] at hSide
  exact hSide.1 rfl

end Gonggo
