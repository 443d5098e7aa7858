import Gonggo.Library.TransitionSystem
import Mathlib.Data.List.Forall2

/-! # Forward simulation of guarded transition systems

A relation between the states of two systems lifts from single steps to whole runs: every admitted run
of the one is matched, event by event, by a run of the other that ends in a related state.
-/

universe u v w x

namespace TransitionSystem

variable {σ : Type u} {ε : Type v} {τ : Type w} {δ : Type x}

/-- Each admitted step from a related state is a step of the other system by a matching event. -/
def Simulates (M : TransitionSystem σ ε) (N : TransitionSystem τ δ) (cond : σ → ε → Prop)
    (matching : ε → δ → Prop) (related : σ → τ → Prop) : Prop :=
  ∀ s t e, related s t → M.guard s e → cond s e →
    ∃ d, matching e d ∧ N.guard t d ∧ related (M.effect s e) (N.effect t d)

theorem Simulates.run {M : TransitionSystem σ ε} {N : TransitionSystem τ δ} {cond : σ → ε → Prop}
    {matching : ε → δ → Prop} {related : σ → τ → Prop} (h : M.Simulates N cond matching related)
    {s : σ} {t : τ} (hStart : related s t) {events : List ε} (hAdmits : M.Admits cond s events) :
    ∃ steps, List.Forall₂ matching events steps ∧ N.Admits (fun _ _ => True) t steps ∧
      related (M.run s events) (N.run t steps) := by
  induction events generalizing s t with
  | nil => exact ⟨[], .nil, trivial, hStart⟩
  | cons e events ih =>
    obtain ⟨hGuard, hCond, hRest⟩ := hAdmits
    obtain ⟨d, hMatch, hGuard', hNext⟩ := h s t e hStart hGuard hCond
    obtain ⟨steps, hMatches, hSteps, hEnd⟩ := ih hNext hRest
    exact ⟨d :: steps, .cons hMatch hMatches, ⟨hGuard', trivial, hSteps⟩, hEnd⟩

end TransitionSystem
