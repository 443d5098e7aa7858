import Gonggo.Confvar
import Gonggo.Library.Decimal
import Mathlib.Algebra.Order.Ring.Int

/-! # Numbers in the configuration

`confvar_long` looks at `errno` after `strtol` and never clears it before. `strtol` sets it when a
number does not fit a `long` and leaves it alone otherwise, so a failure of one call is seen by all
the calls after it.
-/

namespace Gonggo

open CString Decimal

def longMin : Int := -2 ^ 63

def longMax : Int := 2 ^ 63 - 1

def cErange : Int := 34

/-- The numbers of a `long`. -/
def FitsLong (n : Int) : Prop := longMin ≤ n ∧ n ≤ longMax

instance (n : Int) : Decidable (FitsLong n) := inferInstanceAs (Decidable (_ ∧ _))

/-- What `strtol` returns, with the text at `endptr`. -/
structure Strtol where
  result : Int
  endptr : List Char
  errno : Int

def strtol (nptr : List Char) (errno : Int) : Strtol :=
  match leadingNumber nptr with
  | none => { result := 0, endptr := nptr, errno := errno }
  | some (n, endptr) =>
      if FitsLong n then { result := n, endptr := endptr, errno := errno }
      else { result := if n < 0 then longMin else longMax, endptr := endptr, errno := cErange }

/-- What `confvar_long` returns, and what it stores through its pointer. -/
structure LongRead where
  result : Bool
  stored : Option Int
  errno : Int

def confvarLong (head : List ConfVar) (key : String) (errno : Int) : LongRead :=
  match confvarValue head key with
  | none => { result := false, stored := none, errno := errno }
  | some s =>
      let l := strtol s.toList errno
      if l.errno = cErange then { result := false, stored := none, errno := l.errno }
      else { result := decide (l.endptr = []), stored := some l.result, errno := l.errno }

/-! ## One call -/

/-- The key's value is from end to end a number, and one that a `long` holds. -/
def HasLong (head : List ConfVar) (key : String) (n : Int) : Prop :=
  ∃ s, confvarValue head key = some s ∧ Numeral s.toList n ∧ FitsLong n

/-- The key's value begins with a number that no `long` holds. -/
def Overflows (head : List ConfVar) (key : String) : Prop :=
  ∃ s n rest, confvarValue head key = some s ∧ leadingNumber s.toList = some (n, rest) ∧ ¬ FitsLong n

/-- A call succeeds exactly on the numbers, and stores the number. -/
structure ReadsExactly (head : List ConfVar) (key : String) (read : LongRead) : Prop where
  result : read.result = true ↔ ∃ n, HasLong head key n
  stored : ∀ n, HasLong head key n → read.result = true → read.stored = some n

variable {head : List ConfVar} {key : String} {errno : Int}

theorem confvarValue_ne_empty {s : String} (h : confvarValue head key = some s) : s ≠ "" := by
  obtain ⟨p, -, rfl⟩ := Option.map_eq_some_iff.mp h
  exact p.filled

/-- A call that leaves the error behind fails, whichever call it comes from. -/
theorem failed_of_errno (h : (confvarLong head key errno).errno = cErange) :
    confvarLong head key errno = { result := false, stored := none, errno := cErange } := by
  unfold confvarLong at h ⊢
  split
  · rename_i hValue
    simp only [hValue] at h
    rw [h]
  · rename_i s hValue
    simp only [hValue] at h
    by_cases hErange : (strtol s.toList errno).errno = cErange
    · simp only [if_pos hErange]
      rw [hErange]
    · simp only [if_neg hErange] at h
      exact absurd h hErange

theorem errno_strtol (nptr : List Char) (errno : Int) :
    (strtol nptr errno).errno = cErange ↔
      errno = cErange ∨ ∃ n rest, leadingNumber nptr = some (n, rest) ∧ ¬ FitsLong n := by
  cases hLeading : leadingNumber nptr with
  | none => simp [strtol, hLeading]
  | some found =>
    obtain ⟨n, endptr⟩ := found
    by_cases hFits : FitsLong n
    · simp [strtol, hLeading, hFits]
    · simp [strtol, hLeading, hFits]

theorem overflows_iff {s : String} (h : confvarValue head key = some s) :
    Overflows head key ↔ ∃ n rest, leadingNumber s.toList = some (n, rest) ∧ ¬ FitsLong n := by
  simp [Overflows, h]

theorem errno_confvarLong (head : List ConfVar) (key : String) (errno : Int) :
    (confvarLong head key errno).errno = cErange ↔ errno = cErange ∨ Overflows head key := by
  cases hValue : confvarValue head key with
  | none => simp [confvarLong, hValue, Overflows]
  | some s =>
    have hErrno : (confvarLong head key errno).errno = (strtol s.toList errno).errno := by
      simp only [confvarLong, hValue]
      split <;> rfl
    rw [hErrno, errno_strtol, overflows_iff hValue]

theorem confvarLong_of_hasLong (h : errno ≠ cErange) {n : Int} (hLong : HasLong head key n) :
    confvarLong head key errno = { result := true, stored := some n, errno := errno } := by
  obtain ⟨s, hValue, hNumeral, hFits⟩ := hLong
  have hLeading := leadingNumber_whole_iff.mpr hNumeral
  simp [confvarLong, strtol, hValue, hLeading, hFits, h]

/-- A call that meets no error reads exactly. -/
theorem readsExactly_confvarLong (h : errno ≠ cErange) :
    ReadsExactly head key (confvarLong head key errno) := by
  refine { result := ⟨?_, ?_⟩, stored := ?_ }
  · intro hResult
    cases hValue : confvarValue head key with
    | none => simp [confvarLong, hValue] at hResult
    | some s =>
      cases hLeading : leadingNumber s.toList with
      | none =>
        -- Without a number `endptr` is where it began, and a value is not empty.
        simp only [confvarLong, strtol, hValue, hLeading, if_neg h, decide_eq_true_eq] at hResult
        exact absurd (String.toList_eq_nil_iff.mp hResult) (confvarValue_ne_empty hValue)
      | some found =>
        obtain ⟨n, rest⟩ := found
        by_cases hFits : FitsLong n
        · simp only [confvarLong, strtol, hValue, hLeading, if_pos hFits, if_neg h,
            decide_eq_true_eq] at hResult
          subst hResult
          exact ⟨n, s, hValue, leadingNumber_whole_iff.mp hLeading, hFits⟩
        · simp [confvarLong, strtol, hValue, hLeading, hFits] at hResult
  · rintro ⟨n, hLong⟩
    rw [confvarLong_of_hasLong h hLong]
  · intro n hLong _
    rw [confvarLong_of_hasLong h hLong]

theorem confvarLong_of_result (h : (confvarLong head key errno).result = true) :
    errno ≠ cErange ∧ ∃ n, HasLong head key n ∧
      confvarLong head key errno = { result := true, stored := some n, errno := errno } := by
  have hErrno : errno ≠ cErange := by
    intro hErange
    rw [failed_of_errno ((errno_confvarLong ..).mpr (.inl hErange))] at h
    cases h
  obtain ⟨n, hLong⟩ := (readsExactly_confvarLong hErrno).result.mp h
  exact ⟨hErrno, n, hLong, confvarLong_of_hasLong hErrno hLong⟩

/-! ## Calls one after the other -/

structure LongCall where
  head : List ConfVar
  key : String

/-- The error state behind a sequence of calls. -/
def errnoAfter (errno : Int) (calls : List LongCall) : Int :=
  calls.foldl (fun errno call => (confvarLong call.head call.key errno).errno) errno

theorem errnoAfter_eq_cErange_iff (errno : Int) (calls : List LongCall) :
    errnoAfter errno calls = cErange ↔
      errno = cErange ∨ ∃ call ∈ calls, Overflows call.head call.key := by
  induction calls generalizing errno with
  | nil => simp [errnoAfter]
  | cons call calls ih =>
    have hCons : errnoAfter errno (call :: calls) =
        errnoAfter (confvarLong call.head call.key errno).errno calls := rfl
    rw [hCons, ih, errno_confvarLong, or_assoc]
    simp only [List.mem_cons, exists_eq_or_imp]

/-- After any calls a call reads exactly, unless an earlier one met a number that no `long` holds and
this one would have a number to read. -/
theorem readsExactly_after_iff (errno : Int) (calls : List LongCall) (head : List ConfVar)
    (key : String) :
    ReadsExactly head key (confvarLong head key (errnoAfter errno calls)) ↔
      ¬ ((errno = cErange ∨ ∃ call ∈ calls, Overflows call.head call.key) ∧
        ∃ n, HasLong head key n) := by
  rw [← errnoAfter_eq_cErange_iff]
  by_cases hErange : errnoAfter errno calls = cErange
  · have hFails : (confvarLong head key (errnoAfter errno calls)).result = false := by
      rw [failed_of_errno ((errno_confvarLong ..).mpr (.inl hErange))]
    constructor
    · rintro hReads ⟨-, hLong⟩
      rw [hReads.result.mpr hLong] at hFails
      cases hFails
    · intro hNot
      have hNone : ¬ ∃ n, HasLong head key n := fun hLong => hNot ⟨hErange, hLong⟩
      refine { result := ?_, stored := ?_ }
      · simp only [hFails, hNone, Bool.false_eq_true]
      · intro n hLong
        exact absurd ⟨n, hLong⟩ hNone
  · exact iff_of_true (readsExactly_confvarLong hErange) fun hBoth => hErange hBoth.1

/-! ## Validation and use -/

def confPidfile : String := "pidfile"
def confLogpath : String := "logpath"
def confPort : String := "port"
def confGonggo : String := "gonggo"
def confDbpath : String := "dbpath"
def confResponddrainoverdue : String := "responddrainoverdue"
def confResponddrainperiod : String := "responddrainperiod"
def confRespondquerysize : String := "respondquerysize"
def confClienttimeoutperiod : String := "clienttimeoutperiod"
def confPing : String := "pingms"

def mandatory : List String :=
  [confPidfile, confLogpath, confPort, confGonggo, confDbpath, confResponddrainoverdue,
    confResponddrainperiod, confRespondquerysize, confClienttimeoutperiod, confPing]

/-- The first mandatory key without a value, as much of it as the buffer takes. -/
def confvarAbsent (head : List ConfVar) (buflen : Nat) : String :=
  match mandatory.find? fun key => confvarValue head key = none with
  | none => ""
  | some key => String.ofList (key.toList.take (buflen - 1))

def confvarBuflen : Nat := 50

/-- A number that `confvar_validate` reads, with the bound that its error names. -/
structure NumberCheck where
  key : String
  least : Int
  bound : String

def numberChecks : List NumberCheck :=
  [⟨confResponddrainoverdue, 1, "> 0"⟩, ⟨confResponddrainperiod, 1, "> 0"⟩,
    ⟨confRespondquerysize, 1, "> 0"⟩, ⟨confClienttimeoutperiod, 1, "> 0"⟩, ⟨confPing, 0, ">= 0"⟩]

/-- The checks in their order, up to the first error. -/
def numbersValidate (head : List ConfVar) : List NumberCheck → Int → Option String × Int
  | [], errno => (none, errno)
  | check :: checks, errno =>
      let read := confvarLong head check.key errno
      if read.result = false then
        (some ("configuration file with key " ++ check.key ++ " has invalid number"), read.errno)
      else if read.stored.getD 0 < check.least then
        (some ("configuration file with key " ++ check.key ++ " value must be " ++ check.bound),
          read.errno)
      else numbersValidate head checks read.errno

def confvarValidate (file : Option String) (errno : Int) : Except String (List ConfVar) × Int :=
  let cv := confvarCreate file
  if cv = [] then (.error "invalid configuration file content", errno)
  else if 0 < (confvarAbsent cv confvarBuflen).length then
    (.error ("configuration file does not have key " ++ confvarAbsent cv confvarBuflen), errno)
  else
    match numbersValidate cv numberChecks errno with
    | (some error, errno) => (.error error, errno)
    | (none, errno) => (.ok cv, errno)

/-- The numbers that `work` has in its local variables. -/
structure WorkNumbers where
  respondDrainOverdue : Int
  respondDrainPeriod : Int
  clienttimeoutPeriod : Int
  ping : Int

/-- The reads of `work`, which looks at no result. -/
def workNumbers (cvHead : List ConfVar) (locals : WorkNumbers) (errno : Int) : WorkNumbers :=
  let overdue := confvarLong cvHead confResponddrainoverdue errno
  let period := confvarLong cvHead confResponddrainperiod overdue.errno
  let clienttimeout := confvarLong cvHead confClienttimeoutperiod period.errno
  let ping := confvarLong cvHead confPing clienttimeout.errno
  { respondDrainOverdue := overdue.stored.getD locals.respondDrainOverdue
    respondDrainPeriod := period.stored.getD locals.respondDrainPeriod
    clienttimeoutPeriod := clienttimeout.stored.getD locals.clienttimeoutPeriod
    ping := ping.stored.getD locals.ping }

/-- The numbers of the file are those, and in the bounds of the validation. -/
structure ValidNumbers (cv : List ConfVar) (numbers : WorkNumbers) : Prop where
  respondDrainOverdue : HasLong cv confResponddrainoverdue numbers.respondDrainOverdue ∧
    0 < numbers.respondDrainOverdue
  respondDrainPeriod : HasLong cv confResponddrainperiod numbers.respondDrainPeriod ∧
    0 < numbers.respondDrainPeriod
  clienttimeoutPeriod : HasLong cv confClienttimeoutperiod numbers.clienttimeoutPeriod ∧
    0 < numbers.clienttimeoutPeriod
  ping : HasLong cv confPing numbers.ping ∧ 0 ≤ numbers.ping

/-- The numbers pass every check, and the error state stays clear. -/
theorem numbersValidate_eq_none {checks : List NumberCheck} {errno' : Int}
    (h : numbersValidate head checks errno = (none, errno')) :
    errno' = errno ∧ ∀ check ∈ checks, errno ≠ cErange ∧
      ∃ n, HasLong head check.key n ∧ check.least ≤ n := by
  induction checks with
  | nil =>
    cases h
    exact ⟨rfl, nofun⟩
  | cons check checks ih =>
    unfold numbersValidate at h
    by_cases hResult : (confvarLong head check.key errno).result = true
    · obtain ⟨hErrno, n, hLong, hRead⟩ := confvarLong_of_result hResult
      simp only [hRead, Option.getD_some, Bool.true_eq_false, if_false] at h
      by_cases hLeast : n < check.least
      · rw [if_pos hLeast] at h
        cases h
      · rw [if_neg hLeast] at h
        obtain ⟨hSame, hChecks⟩ := ih h
        refine ⟨hSame, ?_⟩
        intro other hOther
        rcases List.mem_cons.mp hOther with rfl | hOther
        · exact ⟨hErrno, n, hLong, Int.not_lt.mp hLeast⟩
        · exact hChecks other hOther
    · simp only [Bool.not_eq_true] at hResult
      simp only [hResult, if_true] at h
      cases h

/-- A file that is accepted has valid numbers, and no error is left behind. -/
theorem validNumbers_of_confvarValidate {file : Option String} {cv : List ConfVar} {errno' : Int}
    (h : confvarValidate file errno = (.ok cv, errno')) :
    errno' ≠ cErange ∧ ∃ numbers, ValidNumbers cv numbers := by
  unfold confvarValidate at h
  simp only at h
  split at h
  · cases h
  · split at h
    · cases h
    · split at h
      · cases h
      · rename_i hNumbers
        cases h
        obtain ⟨rfl, hChecks⟩ := numbersValidate_eq_none hNumbers
        obtain ⟨hErrno, overdue, hOverdue, hOverdueLeast⟩ :=
          hChecks ⟨confResponddrainoverdue, 1, "> 0"⟩ (by simp [numberChecks])
        obtain ⟨-, period, hPeriod, hPeriodLeast⟩ :=
          hChecks ⟨confResponddrainperiod, 1, "> 0"⟩ (by simp [numberChecks])
        obtain ⟨-, timeout, hTimeout, hTimeoutLeast⟩ :=
          hChecks ⟨confClienttimeoutperiod, 1, "> 0"⟩ (by simp [numberChecks])
        obtain ⟨-, ping, hPing, hPingLeast⟩ := hChecks ⟨confPing, 0, ">= 0"⟩ (by simp [numberChecks])
        exact ⟨hErrno, ⟨overdue, period, timeout, ping⟩, ⟨hOverdue, hOverdueLeast⟩,
          ⟨hPeriod, hPeriodLeast⟩, ⟨hTimeout, hTimeoutLeast⟩, ⟨hPing, hPingLeast⟩⟩

theorem workNumbers_of_valid {numbers : WorkNumbers} (h : ValidNumbers head numbers)
    (hErrno : errno ≠ cErange) (locals : WorkNumbers) : workNumbers head locals errno = numbers := by
  simp only [workNumbers, confvarLong_of_hasLong hErrno h.respondDrainOverdue.1,
    confvarLong_of_hasLong hErrno h.respondDrainPeriod.1,
    confvarLong_of_hasLong hErrno h.clienttimeoutPeriod.1, confvarLong_of_hasLong hErrno h.ping.1,
    Option.getD_some]

/-- With the error left behind, `work` goes on with what its variables held. -/
theorem workNumbers_cErange (head : List ConfVar) (locals : WorkNumbers) :
    workNumbers head locals cErange = locals := by
  have hFails : ∀ key, confvarLong head key cErange =
      { result := false, stored := none, errno := cErange } := fun key =>
    failed_of_errno ((errno_confvarLong ..).mpr (.inl rfl))
  simp only [workNumbers, hFails, Option.getD_none]

theorem workNumbers_after_iff {numbers : WorkNumbers} (h : ValidNumbers head numbers)
    (hErrno : errno ≠ cErange) (calls : List LongCall) :
    (∀ locals, workNumbers head locals (errnoAfter errno calls) = numbers) ↔
      ¬ ∃ call ∈ calls, Overflows call.head call.key := by
  have hAfter : errnoAfter errno calls = cErange ↔ ∃ call ∈ calls, Overflows call.head call.key := by
    rw [errnoAfter_eq_cErange_iff, or_iff_right hErrno]
  rw [← hAfter]
  constructor
  · intro hAll hErange
    have hSame := hAll { numbers with ping := numbers.ping + 1 }
    rw [hErange, workNumbers_cErange] at hSame
    have hPing : numbers.ping + 1 = numbers.ping := congrArg WorkNumbers.ping hSame
    omega
  · intro hClear locals
    exact workNumbers_of_valid h hClear locals

/-- A call reads exactly unless a number out of range was met before, and `work` reads what was
validated unless one was met in between. -/
theorem confvarLong_exact_iff (errno : Int) :
    (∀ (calls : List LongCall) (head : List ConfVar) (key : String),
      ReadsExactly head key (confvarLong head key (errnoAfter errno calls)) ↔
        ¬ ((errno = cErange ∨ ∃ call ∈ calls, Overflows call.head call.key) ∧
          ∃ n, HasLong head key n)) ∧
    ∀ (file : Option String) (cv : List ConfVar) (errno' : Int),
      confvarValidate file errno = (.ok cv, errno') →
      ∃ numbers, ValidNumbers cv numbers ∧ ∀ calls,
        ((∀ locals, workNumbers cv locals (errnoAfter errno' calls) = numbers) ↔
          ¬ ∃ call ∈ calls, Overflows call.head call.key) := by
  refine ⟨readsExactly_after_iff errno, ?_⟩
  intro file cv errno' h
  obtain ⟨hErrno, numbers, hValid⟩ := validNumbers_of_confvarValidate h
  exact ⟨numbers, hValid, fun calls => workNumbers_after_iff hValid hErrno calls⟩

/-! ## A number out of range -/

def sampleText : List Char :=
  ["pidfile=p", "logpath=l", "port=8877s", "gonggo=g", "dbpath=d", "responddrainoverdue=900 # s",
    "responddrainperiod=5", "respondquerysize=5", "clienttimeoutperiod=5", "pingms=10000"].flatMap
      fun line => line.toList ++ ['\n']

def sampleConf : String := String.ofList sampleText

def sampleConfVars : List ConfVar :=
  [⟨"pidfile", "p", by decide⟩, ⟨"logpath", "l", by decide⟩, ⟨"port", "8877s", by decide⟩,
    ⟨"gonggo", "g", by decide⟩, ⟨"dbpath", "d", by decide⟩, ⟨"responddrainoverdue", "900", by decide⟩,
    ⟨"responddrainperiod", "5", by decide⟩, ⟨"respondquerysize", "5", by decide⟩,
    ⟨"clienttimeoutperiod", "5", by decide⟩, ⟨"pingms", "10000", by decide⟩]

theorem confvarCreate_sampleConf : confvarCreate (some sampleConf) = sampleConfVars := by
  have hParsed : (getlines sampleText).filterMap (fun line => ConfVar.parse (strdup line)) =
      sampleConfVars := by
    decide +kernel
  rw [← hParsed, confvarCreate, ConfVar.create, sampleConf, String.toList_ofList]

theorem confvarValidate_sampleConf :
    confvarValidate (some sampleConf) 0 = (.ok sampleConfVars, 0) := by
  have hNumbers : numbersValidate sampleConfVars numberChecks 0 = (none, 0) := by decide
  unfold confvarValidate
  simp only [confvarCreate_sampleConf, hNumbers]
  rw [if_neg (by decide), if_neg (by decide)]

theorem confvarLong_exact_iff_sampleConf :
    (ReadsExactly sampleConfVars confPing (confvarLong sampleConfVars confPing (errnoAfter 0 [])) ↔
      ¬ ((0 = cErange ∨ ∃ call ∈ ([] : List LongCall), Overflows call.head call.key) ∧
        ∃ n, HasLong sampleConfVars confPing n)) ∧
    ∃ numbers, ValidNumbers sampleConfVars numbers :=
  ⟨(confvarLong_exact_iff 0).1 [] _ _,
    ((confvarLong_exact_iff 0).2 _ _ _ confvarValidate_sampleConf).imp fun _ h => h.1⟩

def longValues : List ConfVar :=
  [⟨"big", "9223372036854775808", by decide⟩, ⟨"small", "5", by decide⟩]

theorem hasLong_small : HasLong longValues "small" 5 :=
  ⟨"5", by decide, leadingNumber_whole_iff.mp (by decide), by decide⟩

/-- After a number out of range the next number is not read. -/
theorem not_confvarLong_exact :
    ¬ ∀ (errno : Int) (calls : List LongCall) (head : List ConfVar) (key : String), errno ≠ cErange →
      ReadsExactly head key (confvarLong head key (errnoAfter errno calls)) := by
  intro h
  have hOverflows : Overflows longValues "big" :=
    ⟨"9223372036854775808", 2 ^ 63, [], by decide, by decide, by decide⟩
  have hReads := h 0 [⟨longValues, "big"⟩] longValues "small" (by decide)
  exact (readsExactly_after_iff ..).mp hReads
    ⟨.inr ⟨_, List.mem_singleton_self _, hOverflows⟩, 5, hasLong_small⟩

end Gonggo
