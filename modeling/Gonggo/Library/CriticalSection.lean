import Mathlib.Logic.Function.Basic
import Gonggo.Library.TransitionSystem

/-! # Critical sections of one lock

Threads make calls to an object behind a lock. A call is a section of atomic accesses to the shared
state, each of which may depend on what the earlier ones read, so that a section of another thread could
come between any two of them. The lock makes every run one of whole sections, in the order in which they
leave.
-/

universe u v w x

inductive CriticalSection (σ : Type u) (ρ : Type v)
  | done (result : ρ)
  | access (write : σ → σ) (next : σ → CriticalSection σ ρ)

namespace CriticalSection

variable {σ : Type u} {ρ : Type v} {κ : Type w} {θ : Type x}

/-- The section without anybody else. -/
def run : CriticalSection σ ρ → σ → ρ × σ
  | .done result, s => (result, s)
  | .access write next, s => (next s).run (write s)

/-- The section is over when something failed. -/
def stopIf (failed : Bool) (result : ρ) (rest : CriticalSection σ ρ) : CriticalSection σ ρ :=
  if failed then .done result else rest

theorem run_stopIf (failed : Bool) (result : ρ) (rest : CriticalSection σ ρ) (s : σ) :
    (stopIf failed result rest).run s = if failed then (result, s) else rest.run s := by
  cases failed <;> rfl

/-- Whatever the section reads, its result is one of these. -/
def Yields (P : ρ → Prop) : CriticalSection σ ρ → Prop
  | .done result => P result
  | .access _ next => ∀ s, (next s).Yields P

theorem Yields.run {P : ρ → Prop} {code : CriticalSection σ ρ} (h : code.Yields P) (s : σ) :
    P (code.run s).1 := by
  induction code generalizing s with
  | done result => exact h
  | access write next ih => exact ih s (h s) (write s)

theorem yields_stopIf {P : ρ → Prop} {failed : Bool} {result : ρ} {rest : CriticalSection σ ρ}
    (hFailed : failed = true → P result) (hRest : failed = false → rest.Yields P) :
    (stopIf failed result rest).Yields P := by
  cases failed with
  | true => exact hFailed rfl
  | false => exact hRest rfl

inductive Phase (σ : Type u) (ρ : Type v) (κ : Type w)
  | idle
  | called (call : κ)
  | inside (call : κ) (rest : CriticalSection σ ρ)

structure Threads (σ : Type u) (ρ : Type v) (κ : Type w) (θ : Type x) where
  state : σ
  owner : Option θ
  phase : θ → Phase σ ρ κ
  history : List (θ × κ × ρ)

inductive Event (κ : Type w) (θ : Type x)
  | call (thread : θ) (call : κ)
  | enter (thread : θ)
  | access (thread : θ)
  | leave (thread : θ)

def guard (s : Threads σ ρ κ θ) : Event κ θ → Prop
  | .call thread _ => s.phase thread = .idle
  | .enter thread => s.owner = none ∧ ∃ call, s.phase thread = .called call
  | .access thread => ∃ call write next, s.phase thread = .inside call (.access write next)
  | .leave thread => ∃ call result, s.phase thread = .inside call (.done result)

instance decidableGuard [DecidableEq θ] (s : Threads σ ρ κ θ) : ∀ e, Decidable (guard s e)
  | .call thread _ =>
      match h : s.phase thread with
      | .idle => isTrue h
      | .called _ | .inside _ _ => isFalse fun hIdle => by cases h.symm.trans hIdle
  | .enter thread =>
      match h : s.phase thread with
      | .called call => decidable_of_iff (s.owner = none) ⟨fun hFree => ⟨hFree, call, h⟩, And.left⟩
      | .idle | .inside _ _ => isFalse fun ⟨_, _, hCalled⟩ => by cases h.symm.trans hCalled
  | .access thread =>
      match h : s.phase thread with
      | .inside call (.access write next) => isTrue ⟨call, write, next, h⟩
      | .idle | .called _ | .inside _ (.done _) =>
          isFalse fun ⟨_, _, _, hAccess⟩ => by cases h.symm.trans hAccess
  | .leave thread =>
      match h : s.phase thread with
      | .inside call (.done result) => isTrue ⟨call, result, h⟩
      | .idle | .called _ | .inside _ (.access _ _) =>
          isFalse fun ⟨_, _, hDone⟩ => by cases h.symm.trans hDone

variable (sections : κ → CriticalSection σ ρ)

def effect [DecidableEq θ] (s : Threads σ ρ κ θ) : Event κ θ → Threads σ ρ κ θ
  | .call thread call => { s with phase := Function.update s.phase thread (.called call) }
  | .enter thread =>
      match s.phase thread with
      | .called call =>
          { s with
            owner := some thread
            phase := Function.update s.phase thread (.inside call (sections call)) }
      | _ => s
  | .access thread =>
      match s.phase thread with
      | .inside call (.access write next) =>
          { s with
            state := write s.state
            phase := Function.update s.phase thread (.inside call (next s.state)) }
      | _ => s
  | .leave thread =>
      match s.phase thread with
      | .inside call (.done result) =>
          { s with
            owner := none
            phase := Function.update s.phase thread .idle
            history := s.history ++ [(thread, call, result)] }
      | _ => s

/-- Nobody has called yet. -/
def start (s : σ) : Threads σ ρ κ θ := ⟨s, none, fun _ => .idle, []⟩

def system [DecidableEq θ] (s₀ : σ) : TransitionSystem (Threads σ ρ κ θ) (Event κ θ) where
  init s := s = start s₀
  guard := guard
  effect := effect sections

/-- The calls give these results, one after the other. -/
def Replays (exec : κ → σ → ρ × σ) : σ → List (θ × κ × ρ) → σ → Prop
  | s, [], t => t = s
  | s, (_, call, result) :: rest, t =>
      result = (exec call s).1 ∧ Replays exec (exec call s).2 rest t

variable {sections} {exec : κ → σ → ρ × σ}

theorem Replays.snoc {s t : σ} {history : List (θ × κ × ρ)} (h : Replays exec s history t) (thread : θ)
    (call : κ) : Replays exec s (history ++ [(thread, call, (exec call t).1)]) (exec call t).2 := by
  induction history generalizing s with
  | nil =>
    obtain rfl : t = s := h
    exact ⟨rfl, rfl⟩
  | cons entry history ih => exact ⟨h.1, ih h.2⟩

/-- What holds of the result of every call holds of the history. -/
theorem Replays.forall {P : ρ → Prop} (hExec : ∀ call s, P (exec call s).1) {s t : σ}
    {history : List (θ × κ × ρ)} (h : Replays exec s history t) : ∀ entry ∈ history, P entry.2.2 := by
  induction history generalizing s with
  | nil => intro entry hMem; cases hMem
  | cons head history ih =>
    intro entry hMem
    rcases List.mem_cons.mp hMem with rfl | hMem
    · rw [h.1]
      exact hExec _ _
    · exact ih h.2 entry hMem

/-- The calls as other operations that do the same. -/
theorem Replays.map {ρ' : Type v} {exec' : κ → σ → ρ' × σ} {f : ρ → ρ'}
    (hExec : ∀ call s, f (exec call s).1 = (exec' call s).1 ∧ (exec call s).2 = (exec' call s).2) {s t : σ}
    {history : List (θ × κ × ρ)} (h : Replays exec s history t) :
    Replays exec' s (history.map fun entry => (entry.1, entry.2.1, f entry.2.2)) t := by
  induction history generalizing s with
  | nil => exact h
  | cons head history ih =>
    obtain ⟨hResult, hRest⟩ := h
    obtain ⟨hValue, hState⟩ := hExec head.2.1 s
    refine ⟨?_, ?_⟩
    · simp only [hResult, hValue]
    · rw [← hState]
      exact ih hRest

/-- The thread with the lock is the one inside, with the rest of its section before it. -/
structure Serial (sections : κ → CriticalSection σ ρ) (s₀ : σ) (s : Threads σ ρ κ θ) : Prop where
  inside : ∀ thread call rest, s.phase thread = .inside call rest → s.owner = some thread
  free : s.owner = none → Replays (fun call => (sections call).run) s₀ s.history s.state
  taken : ∀ thread, s.owner = some thread → ∃ call rest base, s.phase thread = .inside call rest ∧
    Replays (fun call => (sections call).run) s₀ s.history base ∧
    rest.run s.state = (sections call).run base

theorem serial_start (s₀ : σ) : Serial (θ := θ) sections s₀ (start s₀) where
  inside _ _ _ h := by cases h
  free _ := rfl
  taken _ h := by cases h

section

variable [DecidableEq θ] {s₀ : σ} {s : Threads σ ρ κ θ}

theorem Serial.call (h : Serial sections s₀ s) {thread : θ} (call : κ)
    (hGuard : guard s (.call thread call)) : Serial sections s₀ (effect sections s (.call thread call)) := by
  have hIdle : s.phase thread = .idle := hGuard
  constructor
  case inside =>
    intro other call' rest hPhase
    by_cases hEq : other = thread
    · subst hEq
      simp [effect] at hPhase
    · exact h.inside other call' rest (by simpa [effect, hEq] using hPhase)
  case free => exact h.free
  case taken =>
    intro other hOwner
    obtain ⟨call', rest, base, hPhase, hBase⟩ := h.taken other hOwner
    have hEq : other ≠ thread := fun hEq => by rw [hEq, hIdle] at hPhase; cases hPhase
    exact ⟨call', rest, base, by simpa [effect, hEq] using hPhase, hBase⟩

theorem Serial.enter (h : Serial sections s₀ s) {thread : θ} (hGuard : guard s (.enter thread)) :
    Serial sections s₀ (effect sections s (.enter thread)) := by
  obtain ⟨hFree, call, hCalled⟩ := hGuard
  simp only [effect, hCalled]
  constructor
  case inside =>
    intro other call' rest hPhase
    by_cases hEq : other = thread
    · rw [hEq]
    · have hOwner := h.inside other call' rest (by simpa [hEq] using hPhase)
      rw [hFree] at hOwner
      cases hOwner
  case free => intro hOwner; cases hOwner
  case taken =>
    intro other hOwner
    obtain rfl := Option.some.inj hOwner
    exact ⟨call, sections call, s.state, by simp, h.free hFree, rfl⟩

theorem Serial.access (h : Serial sections s₀ s) {thread : θ} (hGuard : guard s (.access thread)) :
    Serial sections s₀ (effect sections s (.access thread)) := by
  obtain ⟨call, write, next, hInside⟩ := hGuard
  have hOwner := h.inside thread call _ hInside
  simp only [effect, hInside]
  constructor
  case inside =>
    intro other call' rest hPhase
    by_cases hEq : other = thread
    · rw [hEq]
      exact hOwner
    · exact h.inside other call' rest (by simpa [hEq] using hPhase)
  case free =>
    intro hFree
    rw [hOwner] at hFree
    cases hFree
  case taken =>
    intro other hOther
    obtain rfl := Option.some.inj (hOwner.symm.trans hOther)
    obtain ⟨call', rest, base, hPhase, hBase, hRun⟩ := h.taken thread hOwner
    obtain ⟨rfl, rfl⟩ : call = call' ∧ .access write next = rest := by
      simpa [hInside] using hPhase
    exact ⟨call, next s.state, base, by simp, hBase, hRun⟩

theorem Serial.leave (h : Serial sections s₀ s) {thread : θ} (hGuard : guard s (.leave thread)) :
    Serial sections s₀ (effect sections s (.leave thread)) := by
  obtain ⟨call, result, hInside⟩ := hGuard
  have hOwner := h.inside thread call _ hInside
  simp only [effect, hInside]
  constructor
  case inside =>
    intro other call' rest hPhase
    by_cases hEq : other = thread
    · subst hEq
      simp at hPhase
    · have hOther := h.inside other call' rest (by simpa [hEq] using hPhase)
      exact absurd (Option.some.inj (hOther.symm.trans hOwner)) hEq
  case free =>
    intro _
    obtain ⟨call', rest, base, hPhase, hBase, hRun⟩ := h.taken thread hOwner
    obtain ⟨rfl, rfl⟩ : call = call' ∧ .done result = rest := by simpa [hInside] using hPhase
    have hEnd : (result, s.state) = (sections call).run base := hRun
    have hSnoc := hBase.snoc thread call
    simp only [← hEnd] at hSnoc
    exact hSnoc
  case taken => intro other hNone; cases hNone

/-- Who has returned stays before everyone who comes later. -/
theorem history_prefix (s : Threads σ ρ κ θ) (events : List (Event κ θ)) :
    s.history <+: ((system sections s₀).run s events).history := by
  induction events generalizing s with
  | nil => exact List.prefix_rfl
  | cons e events ih =>
    refine List.IsPrefix.trans ?_ (ih (effect sections s e))
    cases e with
    | call => exact List.prefix_rfl
    | enter | access =>
      simp only [effect]
      split <;> exact List.prefix_rfl
    | leave =>
      simp only [effect]
      split
      · exact List.prefix_append _ _
      · exact List.prefix_rfl

theorem serial_of_reachable (h : (system sections s₀).Reachable s) : Serial sections s₀ s := by
  refine h.invariant (Serial sections s₀) (by rintro _ rfl; exact serial_start s₀) ?_
  intro s e hSerial hGuard
  cases e with
  | call thread call => exact hSerial.call call hGuard
  | enter thread => exact hSerial.enter hGuard
  | access thread => exact hSerial.access hGuard
  | leave thread => exact hSerial.leave hGuard

/-- In every run the calls that have returned give their results one after the other, and the state that
they lead to is the one that a free lock finds. -/
theorem replays_of_reachable (h : (system sections s₀).Reachable s) :
    ∃ base, Replays (fun call => (sections call).run) s₀ s.history base ∧
      (s.owner = none → s.state = base) := by
  have hSerial := serial_of_reachable h
  cases hOwner : s.owner with
  | none => exact ⟨s.state, hSerial.free hOwner, fun _ => rfl⟩
  | some thread =>
    obtain ⟨-, -, base, -, hBase, -⟩ := hSerial.taken thread hOwner
    exact ⟨base, hBase, fun hNone => by cases hNone⟩

end

end CriticalSection
