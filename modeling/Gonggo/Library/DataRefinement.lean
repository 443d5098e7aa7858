import Mathlib.Logic.Relation

/-! # Data refinement of a component with calls and answers

A component answers each call and moves to a next state. A specification says which answers a
call may have and what it does to an abstract state. The forward simulation rule lifts the
agreement of one call to every sequence of calls.
-/

universe u v w x

/-- What each call may answer and do, over an abstract state. -/
structure CallSpec (α : Type u) (call : Type v) (answer : Type w) where
  init : α
  allows : α → call → answer → α → Prop

namespace CallSpec

variable {α : Type u} {call : Type v} {answer : Type w} {σ : Type x}

/-- A sequence of calls with the answers that the specification allows. -/
inductive Run (spec : CallSpec α call answer) : α → List call → List answer → α → Prop
  | nil {a : α} : Run spec a [] [] a
  | cons {a b c : α} {op : call} {ops : List call} {reply : answer} {replies : List answer} :
      spec.allows a op reply b → Run spec b ops replies c → Run spec a (op :: ops) (reply :: replies) c

def answers (step : σ → call → answer × σ) : σ → List call → List answer × σ
  | s, [] => ([], s)
  | s, op :: ops =>
      ((step s op).1 :: (answers step (step s op).2 ops).1, (answers step (step s op).2 ops).2)

/-- One call of the component is one call of the specification, with the same answer. -/
def Simulates (spec : CallSpec α call answer) (step : σ → call → answer × σ)
    (represents : σ → α → Prop) : Prop :=
  ∀ s a op, represents s a → ∃ b, spec.allows a op (step s op).1 b ∧ represents (step s op).2 b

/-- The forward simulation rule. -/
theorem Simulates.run {spec : CallSpec α call answer} {step : σ → call → answer × σ}
    {represents : σ → α → Prop} (h : spec.Simulates step represents) {s : σ} {a : α}
    (hStart : represents s a) (ops : List call) :
    ∃ b, spec.Run a ops (answers step s ops).1 b ∧ represents (answers step s ops).2 b := by
  induction ops generalizing s a with
  | nil => exact ⟨a, .nil, hStart⟩
  | cons op ops ih =>
    obtain ⟨b, hAllows, hNext⟩ := h s a op hStart
    obtain ⟨c, hRun, hEnd⟩ := ih hNext
    exact ⟨c, .cons hAllows hRun, hEnd⟩

end CallSpec
