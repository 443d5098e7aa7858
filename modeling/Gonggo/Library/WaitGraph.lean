import Mathlib.Logic.Relation

/-! # Waits-for graphs and robust mutexes

A deadlock is a cycle of threads each waiting for the next one. A rank that drops along every
waits-for edge rules cycles out.
-/

universe u

def Deadlock {τ : Type u} (waits : τ → τ → Prop) : Prop := ∃ t, Relation.TransGen waits t t

theorem rank_lt_of_transGen {τ : Type u} {waits : τ → τ → Prop} (rank : τ → Nat)
    (hRank : ∀ t u, waits t u → rank u < rank t) {t u : τ} (h : Relation.TransGen waits t u) :
    rank u < rank t := by
  induction h with
  | single h => exact hRank _ _ h
  | tail _ h ih => exact Nat.lt_trans (hRank _ _ h) ih

theorem not_deadlock_of_rank {τ : Type u} {waits : τ → τ → Prop} (rank : τ → Nat)
    (hRank : ∀ t u, waits t u → rank u < rank t) : ¬ Deadlock waits := by
  rintro ⟨t, h⟩
  exact Nat.lt_irrefl _ (rank_lt_of_transGen rank hRank h)

/-- A robust mutex remembers that its last owner died while holding it; the next thread to lock
it is told so and makes it consistent again. -/
structure RobustMutex (τ : Type u) where
  owner : Option τ
  ownerDead : Bool
  deriving DecidableEq, Repr

namespace RobustMutex

variable {τ : Type u}

def free : RobustMutex τ := ⟨none, false⟩

def lockedBy (t : τ) : RobustMutex τ := ⟨some t, false⟩

def abandoned : RobustMutex τ := ⟨none, true⟩

/-- What becomes of the mutex when the thread `t` ends. -/
def afterExit [DecidableEq τ] (m : RobustMutex τ) (t : τ) : RobustMutex τ :=
  if m.owner = some t then abandoned else m

end RobustMutex

/-- The threads parked on a condition variable. -/
abbrev Waiters (τ : Type u) := List τ

namespace Waiters

variable {τ : Type u}

/-- One of the parked threads, selected by `pick`, is woken; with none parked the signal is lost. -/
def signal (waiters : Waiters τ) (pick : Nat) : Waiters τ := waiters.eraseIdx (pick % waiters.length)

theorem mem_of_mem_signal {waiters : Waiters τ} {pick : Nat} {t : τ} (h : t ∈ waiters.signal pick) :
    t ∈ waiters := List.mem_of_mem_eraseIdx h

theorem eq_of_not_mem_signal {waiters : Waiters τ} {pick : Nat} {t u : τ} (ht : t ∈ waiters)
    (ht' : t ∉ waiters.signal pick) (hu : u ∈ waiters) (hu' : u ∉ waiters.signal pick) : t = u := by
  have hAt : ∀ v ∈ waiters, v ∉ waiters.signal pick → waiters[pick % waiters.length]? = some v := by
    intro v hv hv'
    obtain ⟨i, hi⟩ := List.mem_iff_getElem?.mp hv
    by_cases h : i = pick % waiters.length
    · rw [← h, hi]
    · exact absurd (List.mem_eraseIdx_iff_getElem?.mpr ⟨i, h, hi⟩) hv'
  exact Option.some.inj ((hAt t ht ht').symm.trans (hAt u hu hu'))

@[simp] theorem signal_singleton (t : τ) (pick : Nat) : signal [t] pick = [] := by
  simp [signal, Nat.mod_one]

end Waiters
