import Gonggo.Library.TransitionSystem

/-! # A thread that works in a loop until it is told to stop

The thread holds a lock except while it waits on a condition or pauses in its work. Whoever stops it
sets a flag and signals the condition under the lock; other callers may signal it too. The stop is never
lost: the thread tests the flag under the lock on its way to each wait.
-/

/-- Where the thread is; it may pause in its work so many times more. -/
inductive LoopPc
  | absent
  | created
  | locking
  | testing
  | waiting
  | woken
  | working (pauses : Nat)
  | paused (pauses : Nat)
  | leaving
  | finished
  deriving DecidableEq, Repr

/-- Whether the thread says that it has started only with the lock in hand, waits before it works, works
once more when it is woken after the stop, and how often it pauses in its work. A thread that goes from
its work to its wait must not pause, or it could miss the stop. -/
structure LoopShape where
  locksFirst : Bool
  waitsFirst : Bool
  drains : Bool
  pauses : Nat
  attentive : waitsFirst = false → pauses = 0

inductive LoopOwner
  | thread
  | stopper
  | caller
  deriving DecidableEq, Repr

structure StoppableLoop where
  pc : LoopPc
  ended : Bool
  owner : Option LoopOwner
  deriving DecidableEq

namespace StoppableLoop

variable (shape : LoopShape) (l : StoppableLoop)

def absent : StoppableLoop := ⟨.absent, false, none⟩

/-- The thread does nothing any more, or was never made. -/
def gone : Bool :=
  match l.pc with
  | .absent | .finished => true
  | _ => false

/-- The thread has said that it has started. -/
def started : Bool :=
  match l.pc with
  | .absent | .created => false
  | .locking => !shape.locksFirst
  | _ => true

/-- The thread is in its work. -/
def isWorking : Bool :=
  match l.pc with
  | .working _ => true
  | _ => false

/-- A parked thread is woken. -/
def wake : StoppableLoop :=
  match l.pc with
  | .waiting => { l with pc := .woken }
  | _ => l

def lockBy (owner : LoopOwner) : StoppableLoop := { l with owner := some owner }

def unlock : StoppableLoop := { l with owner := none }

/-- The thread is able to run. -/
def enabled : Bool :=
  match l.pc with
  | .absent | .waiting | .finished => false
  | .locking | .woken | .paused _ => l.owner.isNone
  | .created | .testing | .working _ | .leaving => true

/-- What follows the work. -/
def afterWork : StoppableLoop :=
  if shape.waitsFirst then { l with pc := .testing } else { l with pc := .waiting, owner := none }

/-- One step of the thread; `pause` chooses to pause in the work. -/
def run (pause : Bool) : StoppableLoop :=
  match l.pc with
  | .absent | .waiting | .finished => l
  | .created => { l with pc := .locking }
  | .locking => { l with pc := .testing, owner := some .thread }
  | .testing =>
      if l.ended then { l with pc := .leaving }
      else if shape.waitsFirst then { l with pc := .waiting, owner := none }
      else { l with pc := .working shape.pauses }
  | .woken =>
      if shape.waitsFirst then
        { l with
          pc := if l.ended && !shape.drains then .leaving else .working shape.pauses
          owner := some .thread }
      else { l with pc := .testing, owner := some .thread }
  | .working 0 => l.afterWork shape
  | .working (n + 1) =>
      if pause then { l with pc := .paused n, owner := none } else l.afterWork shape
  | .paused n => { l with pc := .working n, owner := some .thread }
  | .leaving => { l with pc := .finished, owner := none }

/-- The stop under the lock: the flag is set and the condition signalled. -/
def stop : StoppableLoop := { l.wake with ended := true, owner := none }

/-- A caller signals the condition and gives the lock back. -/
def call : StoppableLoop := l.wake.unlock

/-- The thread has the lock in hand. -/
def holds : Bool :=
  match l.pc with
  | .testing | .working _ | .leaving => true
  | _ => false

/-- The thread owns the lock exactly where it does not wait or pause, and a thread that was told to stop
does not wait. -/
structure Sound : Prop where
  owner : l.owner = some .thread ↔ l.holds = true
  pauses : ∀ n, l.pc = .paused n → n < shape.pauses
  allowed : ∀ n, l.pc = .working n → n ≤ shape.pauses
  busy : shape.waitsFirst = false → ∀ n, l.pc = .working n → l.ended = false
  notLost : l.ended = true → l.pc ≠ .waiting

/-- A bound on the steps that the thread takes before it waits or ends. -/
def rank : Nat :=
  match l.pc with
  | .absent | .finished => 0
  | .leaving => 1
  | .waiting => 2
  | .testing => if shape.waitsFirst then 3 else 6 + 2 * shape.pauses
  | .working n => if shape.waitsFirst then 4 + 2 * n else 3 + 2 * n
  | .paused n => if shape.waitsFirst then 5 + 2 * n else 4 + 2 * n
  | .woken => if shape.waitsFirst then 5 + 2 * shape.pauses else 7 + 2 * shape.pauses
  | .locking => 8 + 2 * shape.pauses
  | .created => 9 + 2 * shape.pauses

variable {shape l}

theorem sound_absent : absent.Sound shape := 
  ⟨by decide, by simp [absent], by simp [absent], by simp [absent], by simp [absent]⟩

theorem gone_iff : l.gone = true ↔ l.pc = .absent ∨ l.pc = .finished := by
  unfold gone
  split <;> simp_all

theorem Sound.create (h : l.Sound shape) (hAbsent : l.pc = .absent) :
    ({ l with pc := .created } : StoppableLoop).Sound shape := by
  have hOwner := h.owner
  simp only [holds, hAbsent] at hOwner
  exact ⟨hOwner, by simp, by simp, by simp, by simp⟩

theorem Sound.lockBy (h : l.Sound shape) (hFree : l.owner = none) {owner : LoopOwner}
    (hOwner : owner ≠ .thread) : (l.lockBy owner).Sound shape := by
  have hNot : ¬ l.holds = true := fun hHolds => by
    rw [h.owner.mpr hHolds] at hFree
    cases hFree
  exact ⟨iff_of_false (fun hEq => hOwner (Option.some.inj hEq)) hNot, h.pauses, h.allowed, h.busy,
    h.notLost⟩

theorem Sound.unlock (h : l.Sound shape) (hOwner : l.owner ≠ some .thread) : l.unlock.Sound shape :=
  ⟨iff_of_false (fun hEq => by cases hEq) (fun hHolds => hOwner (h.owner.mpr hHolds)), h.pauses,
    h.allowed, h.busy, h.notLost⟩

theorem wake_of_waiting (h : l.pc = .waiting) : l.wake = { l with pc := .woken } := by
  rw [wake, h]

theorem wake_of_ne (h : l.pc ≠ .waiting) : l.wake = l := by
  unfold wake
  split
  · exact absurd ‹_› h
  · rfl

theorem owner_wake : l.wake.owner = l.owner := by
  unfold wake
  split <;> rfl

theorem pc_wake_ne : l.wake.pc ≠ .waiting := by
  by_cases h : l.pc = .waiting
  · simp [wake_of_waiting h]
  · rwa [wake_of_ne h]

theorem Sound.wake (h : l.Sound shape) : l.wake.Sound shape := by
  by_cases hPc : l.pc = .waiting
  · have hOwner := h.owner
    simp only [holds, hPc] at hOwner
    rw [wake_of_waiting hPc]
    exact ⟨hOwner, by simp, by simp, by simp, by simp⟩
  · rwa [wake_of_ne hPc]

theorem Sound.call (h : l.Sound shape) (hOwner : l.owner = some .caller) : l.call.Sound shape :=
  h.wake.unlock (by simp [owner_wake, hOwner])

theorem Sound.stop (h : l.Sound shape) (hOwner : l.owner = some .stopper) : l.stop.Sound shape := by
  have hFree := h.wake.unlock (by simp [owner_wake, hOwner])
  refine ⟨hFree.owner, hFree.pauses, hFree.allowed, fun _ n hWorking => ?_, fun _ => pc_wake_ne⟩
  have hHolds : l.wake.owner = some .thread := h.wake.owner.mpr (by
    have hPc : l.wake.pc = .working n := hWorking
    rw [holds, hPc])
  rw [owner_wake, hOwner] at hHolds
  cases hHolds

theorem Sound.afterWork (h : l.Sound shape) {n : Nat} (hPc : l.pc = .working n) :
    (l.afterWork shape).Sound shape := by
  have hHolds : l.owner = some .thread := h.owner.mpr (by rw [holds, hPc])
  unfold StoppableLoop.afterWork
  split
  · exact ⟨by simp [holds, hHolds], by simp, by simp, by simp, by simp⟩
  · next hFirst =>
    have hEnded : l.ended = false := h.busy (by simpa using hFirst) n hPc
    exact ⟨by simp [holds], by simp, by simp, by simp, by simp [hEnded]⟩

theorem Sound.run (h : l.Sound shape) (hEnabled : l.enabled = true) (pause : Bool) :
    (l.run shape pause).Sound shape := by
  obtain ⟨pc, ended, owner⟩ := l
  cases pc with
  | absent | waiting | finished => cases hEnabled
  | created =>
    have hOwner : owner ≠ some .thread := fun hEq => by
      have hHolds := h.owner.mp hEq
      cases hHolds
    exact ⟨by simp [holds, StoppableLoop.run, hOwner], by simp [StoppableLoop.run],
      by simp [StoppableLoop.run], by simp [StoppableLoop.run], by simp [StoppableLoop.run]⟩
  | locking =>
    exact ⟨by simp [holds, StoppableLoop.run], by simp [StoppableLoop.run],
      by simp [StoppableLoop.run], by simp [StoppableLoop.run], by simp [StoppableLoop.run]⟩
  | testing =>
    have hHolds : owner = some .thread := h.owner.mpr rfl
    subst hHolds
    simp only [StoppableLoop.run]
    cases ended with
    | true => exact ⟨by simp [holds], by simp, by simp, by simp, by simp⟩
    | false =>
      cases hFirst : shape.waitsFirst with
      | true => exact ⟨by simp [holds], by simp, by simp, by simp, by simp⟩
      | false => exact ⟨by simp [holds], by simp, by simp, by simp, by simp⟩
  | woken =>
    simp only [StoppableLoop.run]
    cases hFirst : shape.waitsFirst with
    | true =>
      cases ended && !shape.drains <;>
        exact ⟨by simp [holds], by simp, by simp, by simp [hFirst], by simp⟩
    | false => exact ⟨by simp [holds], by simp, by simp, by simp, by simp⟩
  | working n =>
    cases n with
    | zero => exact h.afterWork rfl
    | succ n =>
      cases pause with
      | false => exact h.afterWork rfl
      | true =>
        have hAllowed : n + 1 ≤ shape.pauses := h.allowed (n + 1) rfl
        exact ⟨by simp [holds, StoppableLoop.run],
          by simp only [StoppableLoop.run]; rintro m ⟨rfl⟩; exact hAllowed,
          by simp [StoppableLoop.run], by simp [StoppableLoop.run], by simp [StoppableLoop.run]⟩
  | paused n =>
    have hPaused : n < shape.pauses := h.pauses n rfl
    -- a thread that works before it waits does not pause
    have hFirst : shape.waitsFirst ≠ false := fun hFalse => by
      rw [shape.attentive hFalse] at hPaused
      exact Nat.not_lt_zero n hPaused
    exact ⟨by simp [holds, StoppableLoop.run], by simp [StoppableLoop.run],
      by simp only [StoppableLoop.run]; rintro m ⟨rfl⟩; exact Nat.le_of_lt hPaused,
      fun hFalse => absurd hFalse hFirst, by simp [StoppableLoop.run]⟩
  | leaving =>
    exact ⟨by simp [holds, StoppableLoop.run], by simp [StoppableLoop.run],
      by simp [StoppableLoop.run], by simp [StoppableLoop.run], by simp [StoppableLoop.run]⟩

theorem rank_run (hEnabled : l.enabled = true) (pause : Bool) :
    (l.run shape pause).rank shape < l.rank shape := by
  obtain ⟨pc, ended, owner⟩ := l
  cases hFirst : shape.waitsFirst <;> cases pc with
  | absent | waiting | finished => cases hEnabled
  | created | locking | leaving => simp [run, rank, hFirst] <;> omega
  | testing => cases ended <;> simp [run, rank, hFirst] <;> omega
  | woken => cases hDrains : ended && !shape.drains <;> simp [run, rank, hFirst, hDrains] <;> omega
  | working n =>
    cases n <;> cases pause <;> simp [run, rank, afterWork, hFirst] <;> omega
  | paused n => simp [run, rank, hFirst]

theorem rank_wake_le : l.wake.rank shape ≤ l.rank shape + (5 + 2 * shape.pauses) := by
  by_cases hPc : l.pc = .waiting
  · rw [wake_of_waiting hPc]
    simp only [rank, hPc]
    split <;> omega
  · rw [wake_of_ne hPc]
    exact Nat.le_add_right _ _

/-- A thread that does not wait is gone, able to run, or kept from the lock by someone else. -/
theorem Sound.enabled_or_locked (h : l.Sound shape) (hPc : l.pc ≠ .waiting) (hGone : l.gone = false) :
    l.enabled = true ∨ l.owner = some .stopper ∨ l.owner = some .caller := by
  have hHolds := h.owner.mp
  obtain ⟨pc, ended, owner⟩ := l
  cases pc with
  | absent | finished => cases hGone
  | waiting => exact absurd rfl hPc
  | created | testing | working | leaving => exact .inl rfl
  | locking | woken | paused =>
    cases owner with
    | none => exact .inl rfl
    | some owner =>
      cases owner with
      | thread => cases hHolds rfl
      | stopper => exact .inr (.inl rfl)
      | caller => exact .inr (.inr rfl)

/-- What everyone but `stop` and the creation leaves of a thread. -/
structure Evolves (shape : LoopShape) (l l' : StoppableLoop) : Prop where
  absent : l'.pc = .absent ↔ l.pc = .absent
  started : l.started shape = true → l'.started shape = true
  ended : l'.ended = l.ended
  stopper : l'.owner = some .stopper ↔ l.owner = some .stopper
  gone : l.gone = true → l'.gone = true

theorem Evolves.of_same {l' : StoppableLoop} (hPc : l'.pc = l.pc) (hEnded : l'.ended = l.ended)
    (hOwner : l'.owner = some .stopper ↔ l.owner = some .stopper) : l.Evolves shape l' where
  absent := by rw [hPc]
  started := by simp only [StoppableLoop.started, hPc, imp_self]
  ended := hEnded
  stopper := hOwner
  gone := by simp only [StoppableLoop.gone, hPc, imp_self]

theorem Evolves.trans {l' l'' : StoppableLoop} (h : l.Evolves shape l') (h' : l'.Evolves shape l'') :
    l.Evolves shape l'' where
  absent := h'.absent.trans h.absent
  started hStarted := h'.started (h.started hStarted)
  ended := h'.ended.trans h.ended
  stopper := h'.stopper.trans h.stopper
  gone hGone := h'.gone (h.gone hGone)

theorem Evolves.wake : l.Evolves shape l.wake := by
  by_cases hPc : l.pc = .waiting
  · rw [wake_of_waiting hPc]
    exact ⟨by simp [hPc], by simp [StoppableLoop.started], rfl, .rfl, by simp [StoppableLoop.gone, hPc]⟩
  · rw [wake_of_ne hPc]
    exact .of_same rfl rfl .rfl

theorem Evolves.lockBy (hFree : l.owner = none) {owner : LoopOwner} (hOwner : owner ≠ .stopper) :
    l.Evolves shape (l.lockBy owner) :=
  .of_same rfl rfl (iff_of_false (fun hEq => hOwner (Option.some.inj hEq)) (by simp [hFree]))

theorem Evolves.unlock (hOwner : l.owner ≠ some .stopper) : l.Evolves shape l.unlock :=
  .of_same rfl rfl (iff_of_false (by simp [StoppableLoop.unlock]) hOwner)

theorem Evolves.call (hOwner : l.owner ≠ some .stopper) : l.Evolves shape l.call :=
  Evolves.wake.trans (.unlock (by rwa [owner_wake]))

theorem Evolves.of_started {l' : StoppableLoop} (hGone : l.gone = false)
    (hStarted : l'.started shape = true) (hEnded : l'.ended = l.ended)
    (hOwner : l'.owner = some .stopper ↔ l.owner = some .stopper) : l.Evolves shape l' where
  absent := iff_of_false (fun hPc => by simp [StoppableLoop.started, hPc] at hStarted)
    (fun hPc => by simp [StoppableLoop.gone, hPc] at hGone)
  started _ := hStarted
  ended := hEnded
  stopper := hOwner
  gone h := by rw [hGone] at h; cases h

theorem Evolves.run (h : l.Sound shape) (hEnabled : l.enabled = true) (pause : Bool) :
    l.Evolves shape (l.run shape pause) := by
  have hHolds := h.owner.mpr
  obtain ⟨pc, ended, owner⟩ := l
  cases pc with
  | absent | waiting | finished => cases hEnabled
  | created =>
    exact ⟨by simp [StoppableLoop.run], by simp [StoppableLoop.started], rfl, .rfl,
      by simp [StoppableLoop.gone]⟩
  | locking | paused =>
    have hFree : owner = none := Option.isNone_iff_eq_none.mp hEnabled
    subst hFree
    exact .of_started rfl rfl rfl (by simp [StoppableLoop.run])
  | woken =>
    have hFree : owner = none := Option.isNone_iff_eq_none.mp hEnabled
    subst hFree
    simp only [StoppableLoop.run]
    cases shape.waitsFirst with
    | true =>
      cases ended && !shape.drains <;> exact .of_started rfl rfl rfl (by simp)
    | false => exact .of_started rfl rfl rfl (by simp)
  | testing =>
    have hOwner := hHolds rfl
    subst hOwner
    simp only [StoppableLoop.run]
    cases ended with
    | true => exact .of_started rfl rfl rfl .rfl
    | false => cases shape.waitsFirst <;> exact .of_started rfl rfl rfl (by simp)
  | leaving =>
    have hOwner := hHolds rfl
    subst hOwner
    exact .of_started rfl rfl rfl (by simp [StoppableLoop.run])
  | working n =>
    have hOwner := hHolds rfl
    subst hOwner
    have hAfter : ∀ m, Evolves shape ⟨.working m, ended, some .thread⟩
        ((⟨.working m, ended, some .thread⟩ : StoppableLoop).afterWork shape) := by
      intro m
      unfold afterWork
      split <;> exact .of_started rfl rfl rfl (by simp)
    cases n with
    | zero => exact hAfter 0
    | succ n =>
      cases pause with
      | false => exact hAfter (n + 1)
      | true => exact .of_started rfl rfl rfl (by simp [StoppableLoop.run])

/-! ## What the stop leaves -/

theorem pc_wake_absent_iff : l.wake.pc = .absent ↔ l.pc = .absent := by
  unfold wake
  split <;> simp_all

theorem pc_stop_absent_iff : l.stop.pc = .absent ↔ l.pc = .absent := pc_wake_absent_iff

theorem gone_stop (h : l.gone = true) : l.stop.gone = true := by
  have hWake : l.wake = l := wake_of_ne fun hPc => by simp [gone, hPc] at h
  change l.wake.gone = true
  rwa [hWake]

theorem started_stop (h : l.started shape = true) : l.stop.started shape = true := by
  have hWake : l.Evolves shape l.wake := .wake
  exact hWake.started h

end StoppableLoop
