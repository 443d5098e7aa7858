import Mathlib.Data.Option.Basic

/-! # What one thread does to one lock

A trace of locking, unlocking and waiting on a condition, which gives the lock back meanwhile. A
trace is sound when nothing is done with a lock that is not held; it is balanced when it also ends
without the lock.
-/

inductive LockAction
  | lock
  | wait
  | unlock
  deriving DecidableEq, Repr

namespace LockAction

/-- Whether the lock is held at the end, unless something is done without it. -/
def holding (held : Bool) : List LockAction → Option Bool
  | [] => some held
  | lock :: rest => holding true rest
  | wait :: rest => if held then holding true rest else none
  | unlock :: rest => if held then holding false rest else none

def Balanced (trace : List LockAction) : Prop := holding false trace = some false

instance (trace : List LockAction) : Decidable (Balanced trace) :=
  inferInstanceAs (Decidable (_ = _))

/-- The trace ends with the lock held. -/
def Leaks (trace : List LockAction) : Prop := holding false trace = some true

theorem holding_append (held : Bool) (first second : List LockAction) :
    holding held (first ++ second) = (holding held first).bind fun now => holding now second := by
  induction first generalizing held with
  | nil => rfl
  | cons action rest ih =>
    cases action with
    | lock => exact ih true
    | wait =>
      cases held with
      | false => rfl
      | true => exact ih true
    | unlock =>
      cases held with
      | false => rfl
      | true => exact ih false

theorem balanced_nil : Balanced [] := rfl

theorem Leaks.unbalanced {trace : List LockAction} (h : Leaks trace) : ¬ Balanced trace := by
  intro hBalanced
  rw [Leaks, hBalanced] at h
  cases h

/-- Behind a balanced trace another one starts anew. -/
theorem Balanced.append_iff {first : List LockAction} (h : Balanced first) (second : List LockAction) :
    Balanced (first ++ second) ↔ Balanced second := by
  rw [Balanced, holding_append, h]
  rfl

theorem Leaks.append {first second : List LockAction} (hFirst : Balanced first) (h : Leaks second) :
    Leaks (first ++ second) := by
  rw [Leaks, holding_append, hFirst]
  exact h

/-- Whoever holds the lock may wait for a condition and then has to unlock. -/
theorem Leaks.unlock {trace : List LockAction} (h : Leaks trace) :
    Balanced (trace ++ [LockAction.unlock]) := by
  rw [Balanced, holding_append, h]
  rfl

theorem Leaks.wait_unlock {trace : List LockAction} (h : Leaks trace) :
    Balanced (trace ++ [LockAction.wait, LockAction.unlock]) := by
  rw [Balanced, holding_append, h]
  rfl

end LockAction
