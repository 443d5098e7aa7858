import Mathlib.Logic.Relation

/-! # Guarded transition systems

A system is a set of initial states together with guarded events: `guard s e` says that `e` can
happen in `s`, and `effect s e` is the state after it. One reachability predicate carries a
condition on every step of the run, so that the unrestricted runs, the runs that satisfy an
assumption and the runs that avoid a faulty branch all share one induction.
-/

universe u v

structure TransitionSystem (σ : Type u) (ε : Type v) where
  init : σ → Prop
  guard : σ → ε → Prop
  effect : σ → ε → σ

namespace TransitionSystem

variable {σ : Type u} {ε : Type v}

/-- The states at the end of a run all of whose steps meet `cond`. -/
inductive ReachableWhen (M : TransitionSystem σ ε) (cond : σ → ε → Prop) : σ → Prop
  | init {s : σ} : M.init s → ReachableWhen M cond s
  | step {s : σ} {e : ε} :
      ReachableWhen M cond s → M.guard s e → cond s e → ReachableWhen M cond (M.effect s e)

def Reachable (M : TransitionSystem σ ε) : σ → Prop := M.ReachableWhen fun _ _ => True

variable {M : TransitionSystem σ ε} {cond : σ → ε → Prop}

theorem ReachableWhen.mono {cond' : σ → ε → Prop} (h : ∀ s e, cond s e → cond' s e) {s : σ}
    (hReach : M.ReachableWhen cond s) : M.ReachableWhen cond' s := by
  induction hReach with
  | init hInit => exact .init hInit
  | step _ hGuard hCond ih => exact .step ih hGuard (h _ _ hCond)

/-- The invariant rule: what holds initially and survives every admitted step holds at the end
of every admitted run. -/
theorem ReachableWhen.invariant (inv : σ → Prop) (hInit : ∀ s, M.init s → inv s)
    (hStep : ∀ s e, inv s → M.guard s e → cond s e → inv (M.effect s e)) {s : σ}
    (h : M.ReachableWhen cond s) : inv s := by
  induction h with
  | init hs => exact hInit _ hs
  | step _ hGuard hCond ih => exact hStep _ _ ih hGuard hCond

/-- The invariant rule over a fact that is known of the states of the run. -/
theorem ReachableWhen.invariant_with {base : σ → Prop} (hBase : ∀ s, M.ReachableWhen cond s → base s)
    (inv : σ → Prop) (hInit : ∀ s, M.init s → inv s)
    (hStep : ∀ s e, base s → inv s → M.guard s e → cond s e → inv (M.effect s e)) {s : σ}
    (h : M.ReachableWhen cond s) : inv s := by
  induction h with
  | init hs => exact hInit _ hs
  | step hReach hGuard hCond ih => exact hStep _ _ (hBase _ hReach) ih hGuard hCond

theorem Reachable.invariant (inv : σ → Prop) (hInit : ∀ s, M.init s → inv s)
    (hStep : ∀ s e, inv s → M.guard s e → inv (M.effect s e)) {s : σ}
    (h : M.Reachable s) : inv s :=
  ReachableWhen.invariant inv hInit (fun s e hs hGuard _ => hStep s e hs hGuard) h

def run (M : TransitionSystem σ ε) (s : σ) (events : List ε) : σ := events.foldl M.effect s

/-- Every event of the list is enabled when its turn comes and meets the condition. -/
def Admits (M : TransitionSystem σ ε) (cond : σ → ε → Prop) : σ → List ε → Prop
  | _, [] => True
  | s, e :: events => M.guard s e ∧ cond s e ∧ Admits M cond (M.effect s e) events

instance decidableAdmits (M : TransitionSystem σ ε) (cond : σ → ε → Prop)
    [∀ s e, Decidable (M.guard s e)] [∀ s e, Decidable (cond s e)] :
    ∀ (s : σ) (events : List ε), Decidable (M.Admits cond s events)
  | _, [] => inferInstanceAs (Decidable True)
  | s, e :: events =>
      have := decidableAdmits M cond (M.effect s e) events
      inferInstanceAs (Decidable (M.guard s e ∧ cond s e ∧ M.Admits cond (M.effect s e) events))

theorem Admits.mono {cond' : σ → ε → Prop} (h : ∀ s e, cond s e → cond' s e) {s : σ} {events : List ε}
    (hAdmits : M.Admits cond s events) : M.Admits cond' s events := by
  induction events generalizing s with
  | nil => trivial
  | cons e events ih => exact ⟨hAdmits.1, h s e hAdmits.2.1, ih hAdmits.2.2⟩

/-- A condition on the events alone is a matter of the list. -/
theorem Admits.of_forall {s : σ} {events : List ε} (h : M.Admits (fun _ _ => True) s events)
    (hCond : ∀ e ∈ events, ∀ s, cond s e) : M.Admits cond s events := by
  induction events generalizing s with
  | nil => trivial
  | cons e events ih =>
    exact ⟨h.1, hCond e List.mem_cons_self s,
      ih h.2.2 fun e' h' => hCond e' (List.mem_cons_of_mem _ h')⟩

/-- Own steps that each lower a potential, which the other steps raise by at most a constant, are bounded
by the other steps. -/
theorem countP_own_le (potential : σ → Nat) (own : ε → Bool) (price : Nat) (inv : σ → Prop)
    (hInv : ∀ s e, inv s → M.guard s e → inv (M.effect s e))
    (hOwn : ∀ s e, inv s → M.guard s e → own e = true → potential (M.effect s e) < potential s)
    (hOther : ∀ s e, inv s → M.guard s e → own e = false →
      potential (M.effect s e) ≤ potential s + price)
    {s : σ} (hs : inv s) {events : List ε} (h : M.Admits cond s events) :
    events.countP own + potential (M.run s events) ≤
      potential s + price * events.countP (fun e => !own e) := by
  induction events generalizing s with
  | nil => simp [TransitionSystem.run]
  | cons e events ih =>
    obtain ⟨hGuard, -, hRest⟩ := h
    have hStep := ih (hInv s e hs hGuard) hRest
    have hRun : M.run s (e :: events) = M.run (M.effect s e) events := rfl
    rw [hRun]
    cases hCase : own e with
    | true =>
      have hLess := hOwn s e hs hGuard hCase
      simp only [List.countP_cons, hCase, if_true, Bool.not_true, Bool.false_eq_true, if_false,
        Nat.add_zero]
      omega
    | false =>
      have hLe := hOther s e hs hGuard hCase
      simp only [List.countP_cons, hCase, Bool.not_false, if_true, Bool.false_eq_true, if_false,
        Nat.mul_add, Nat.mul_one, Nat.add_zero]
      omega

theorem ReachableWhen.run {s : σ} (h : M.ReachableWhen cond s) (events : List ε)
    (hAdmits : M.Admits cond s events) : M.ReachableWhen cond (M.run s events) := by
  induction events generalizing s with
  | nil => exact h
  | cons e events ih => exact ih (h.step hAdmits.1 hAdmits.2.1) hAdmits.2.2

end TransitionSystem
