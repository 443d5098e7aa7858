import Mathlib.Logic.Function.Basic
import Gonggo.Library.TransitionSystem

/-! # One gonggo for a pid file

What `main` of main.c does in the child of `fork` to be the only one for its pid file, and to be found by
`gonggo --stop`, with any number of processes. A file that was removed lives on for those who have it open,
and a lock ends with its process.
-/

namespace Gonggo

abbrev Pid : Type := Nat

inductive LaunchPc
  | absent
  | forked
  | opened (inode : Nat)
  | locked (inode : Nat)
  | working (inode : Nat)
  | closed
  | exited
  deriving DecidableEq, Repr

namespace LaunchPc

/-- The file that the process has open. -/
def inode : LaunchPc → Option Nat
  | .opened i | .locked i | .working i => some i
  | _ => none

/-- The file that the process has locked. -/
def lockedInode : LaunchPc → Option Nat
  | .locked i | .working i => some i
  | _ => none

end LaunchPc

/-- `named` is the file that the name `pid_file` leads to, `content` the number that a stop would read, and
`opener` who opened, and emptied, the file last. -/
structure PidFile where
  named : Option Nat
  fresh : Nat
  content : Nat → Option Pid
  opener : Nat → Option Pid
  locks : Nat → Option Pid
  pc : Pid → LaunchPc

inductive LaunchEvent
  | fork (pid : Pid)
  | openFile (pid : Pid) (ok : Bool)
  | lockFile (pid : Pid)
  | write (pid : Pid) (ok : Bool)
  | close (pid : Pid)
  | remove (pid : Pid)
  | crash (pid : Pid)
  deriving DecidableEq

namespace PidFile

def initial : PidFile where
  named := none
  fresh := 0
  content _ := none
  opener _ := none
  locks _ := none
  pc _ := .absent

variable (s : PidFile)

def setPc (pid : Pid) (pc : LaunchPc) : PidFile := { s with pc := Function.update s.pc pid pc }

/-- The process is over, and with it its lock. -/
def exit (pid : Pid) : PidFile :=
  match (s.pc pid).lockedInode with
  | none => s.setPc pid .exited
  | some i => { s.setPc pid .exited with locks := Function.update s.locks i none }

def guard : LaunchEvent → Prop
  | .fork pid => s.pc pid = .absent
  | .openFile pid _ => s.pc pid = .forked
  | .lockFile pid => ∃ i ∈ (s.pc pid).inode, s.pc pid = .opened i
  | .write pid _ => ∃ i ∈ (s.pc pid).inode, s.pc pid = .locked i
  | .close pid => ∃ i ∈ (s.pc pid).inode, s.pc pid = .working i
  | .remove pid => s.pc pid = .closed
  | .crash pid => s.pc pid ≠ .absent ∧ s.pc pid ≠ .exited

instance (e : LaunchEvent) : Decidable (s.guard e) := by
  cases e <;> unfold guard <;> infer_instance

def effect : LaunchEvent → PidFile
  | .fork pid => s.setPc pid .forked
  | .openFile pid false => s.setPc pid .exited
  -- O_CREAT and O_TRUNC, before anybody asks for the lock
  | .openFile pid true =>
      match s.named with
      | some i =>
          { s.setPc pid (.opened i) with
            content := Function.update s.content i none
            opener := Function.update s.opener i (some pid) }
      | none =>
          { s.setPc pid (.opened s.fresh) with
            named := some s.fresh
            fresh := s.fresh + 1
            content := Function.update s.content s.fresh none
            opener := Function.update s.opener s.fresh (some pid) }
  | .lockFile pid =>
      match s.pc pid with
      | .opened i =>
          if s.locks i = none then
            { s.setPc pid (.locked i) with locks := Function.update s.locks i (some pid) }
          else s.setPc pid .exited
      | _ => s
  | .write pid false => s.exit pid
  | .write pid true =>
      match s.pc pid with
      | .locked i => { s.setPc pid (.working i) with content := Function.update s.content i (some pid) }
      | _ => s
  | .close pid =>
      match s.pc pid with
      | .working i => { s.setPc pid .closed with locks := Function.update s.locks i none }
      | _ => s
  -- the name is removed, whatever file it leads to by now
  | .remove pid => { s.setPc pid .exited with named := none }
  | .crash pid => s.exit pid

end PidFile

def pidFileSystem : TransitionSystem PidFile LaunchEvent where
  init s := s = .initial
  guard := PidFile.guard
  effect := PidFile.effect

instance (s : PidFile) (e : LaunchEvent) : Decidable (pidFileSystem.guard s e) :=
  inferInstanceAs (Decidable (s.guard e))

namespace PidFile

variable {s : PidFile}

/-- Nobody has the file open whose name is removed. -/
def IsQuiet (s : PidFile) : LaunchEvent → Prop
  | .remove _ => ∀ other i, (s.pc other).inode = some i → s.named ≠ some i
  | _ => True

/-- While one is at work, nobody else comes to open the file. -/
def IsAlone (s : PidFile) : LaunchEvent → Prop
  | .openFile _ _ => ∀ other i, s.pc other ≠ .working i
  | _ => True

/-- The number of the process is in the file, or another one has opened and emptied it since. -/
def Reads (s : PidFile) (pid : Pid) (i : Nat) : Prop :=
  s.content i = some pid ∨ s.content i = none ∧ ∃ other ≠ pid, s.opener i = some other

/-- Everybody has the named file open, and who has locked it owns its lock. -/
structure Guarded (s : PidFile) : Prop where
  opened : ∀ pid i, (s.pc pid).inode = some i → s.named = some i
  owner : ∀ pid i, (s.pc pid).lockedInode = some i → s.locks i = some pid
  written : ∀ pid i, s.pc pid = .working i → s.Reads pid i

theorem guarded_initial : Guarded initial where
  opened _ _ h := by cases h
  owner _ _ h := by cases h
  written _ _ h := by cases h

theorem setPc_pc (pid : Pid) (pc : LaunchPc) (other : Pid) :
    (s.setPc pid pc).pc other = if other = pid then pc else s.pc other := by
  simp [setPc, Function.update_apply]

theorem LaunchPc.inode_of_lockedInode {pc : LaunchPc} {i : Nat} (h : pc.lockedInode = some i) :
    pc.inode = some i := by
  cases pc <;> first | exact h | cases h

/-- A process that has nothing open any more, or not yet. -/
theorem Guarded.setPc (h : s.Guarded) (pid : Pid) {pc : LaunchPc} (hPc : pc.inode = none) :
    (s.setPc pid pc).Guarded := by
  have hLocked : pc.lockedInode = none := by cases pc <;> first | rfl | cases hPc
  constructor
  case opened =>
    intro other i hInode
    rw [setPc_pc] at hInode
    split at hInode
    · rw [hPc] at hInode; cases hInode
    · exact h.opened other i hInode
  case owner =>
    intro other i hInode
    rw [setPc_pc] at hInode
    split at hInode
    · rw [hLocked] at hInode; cases hInode
    · exact h.owner other i hInode
  case written =>
    intro other i hWorking
    rw [setPc_pc] at hWorking
    split at hWorking
    · rw [hWorking] at hPc; cases hPc
    · exact h.written other i hWorking

/-- Two who have locked the same file are one. -/
theorem Guarded.eq_of_locked (h : s.Guarded) {pid other : Pid} {i : Nat}
    (hPid : (s.pc pid).lockedInode = some i) (hOther : (s.pc other).lockedInode = some i) :
    other = pid :=
  Option.some.inj ((h.owner other i hOther).symm.trans (h.owner pid i hPid))

/-- The lock ends with its process. -/
theorem Guarded.unlock (h : s.Guarded) {pid : Pid} {i : Nat} (hLocked : (s.pc pid).lockedInode = some i)
    {pc : LaunchPc} (hPc : pc.inode = none) :
    ({ s.setPc pid pc with locks := Function.update s.locks i none } : PidFile).Guarded := by
  have hBase := h.setPc pid hPc
  refine ⟨hBase.opened, ?_, hBase.written⟩
  intro other j hOther
  have hOwner := hBase.owner other j hOther
  have hNe : j ≠ i := by
    rintro rfl
    have hSame : other = pid := Option.some.inj (hOwner.symm.trans (h.owner pid j hLocked))
    have hNone := LaunchPc.inode_of_lockedInode hOther
    simp [setPc_pc, hSame, hPc] at hNone
  exact (Function.update_of_ne hNe _ _).trans hOwner

theorem Guarded.exit (h : s.Guarded) (pid : Pid) : (s.exit pid).Guarded := by
  unfold PidFile.exit
  split
  · exact h.setPc pid rfl
  · next i hLocked => exact h.unlock hLocked rfl

/-- Whoever opens the file opens the one that the others have open, and empties it. -/
theorem Guarded.opens (h : s.Guarded) {t : PidFile} {pid : Pid} {i : Nat}
    (hPc : t.pc = Function.update s.pc pid (.opened i)) (hNamed : t.named = some i)
    (hContent : t.content = Function.update s.content i none)
    (hOpener : t.opener = Function.update s.opener i (some pid)) (hLocks : t.locks = s.locks)
    (hSame : ∀ other j, (s.pc other).inode = some j → j = i) : t.Guarded := by
  have hOther : ∀ other, t.pc other = if other = pid then .opened i else s.pc other := by
    intro other
    rw [hPc, Function.update_apply]
  constructor
  case opened =>
    intro other j hInode
    rw [hOther] at hInode
    split at hInode
    · rw [← hInode]
      exact hNamed
    · rw [hSame other j hInode]
      exact hNamed
  case owner =>
    intro other j hLocked
    rw [hOther] at hLocked
    split at hLocked
    · cases hLocked
    · rw [hLocks]
      exact h.owner other j hLocked
  case written =>
    intro other j hWorking
    rw [hOther] at hWorking
    split at hWorking
    · cases hWorking
    · next hNot =>
      obtain rfl := hSame other j (by rw [hWorking]; rfl)
      rw [Reads, hContent, hOpener, Function.update_self, Function.update_self]
      exact .inr ⟨rfl, pid, fun hEq => hNot hEq.symm, rfl⟩

/-- The process that finds the lock free is its owner. -/
theorem Guarded.takesLock (h : s.Guarded) {pid : Pid} {i : Nat} (hPc : s.pc pid = .opened i)
    (hFree : s.locks i = none) :
    ({ s.setPc pid (.locked i) with locks := Function.update s.locks i (some pid) } : PidFile).Guarded := by
  constructor
  case opened =>
    intro other j hInode
    simp only [setPc_pc] at hInode
    split at hInode
    · exact h.opened pid j (by rw [hPc]; exact hInode)
    · exact h.opened other j hInode
  case owner =>
    intro other j hLocked
    simp only [setPc_pc] at hLocked
    split at hLocked
    · next hEq =>
      obtain rfl : i = j := Option.some.inj hLocked
      rw [hEq]
      exact Function.update_self _ _ _
    · have hOwner := h.owner other j hLocked
      have hNe : j ≠ i := by
        rintro rfl
        rw [hFree] at hOwner
        cases hOwner
      exact (Function.update_of_ne hNe _ _).trans hOwner
  case written =>
    intro other j hWorking
    simp only [setPc_pc] at hWorking
    split at hWorking
    · cases hWorking
    · exact h.written other j hWorking

/-- The owner of the lock writes its number, which no other process at work can miss in its file. -/
theorem Guarded.writes (h : s.Guarded) {pid : Pid} {i : Nat} (hPc : s.pc pid = .locked i) :
    ({ s.setPc pid (.working i) with content := Function.update s.content i (some pid) } : PidFile).Guarded := by
  have hLocked : (s.pc pid).lockedInode = some i := by rw [hPc]; rfl
  constructor
  case opened =>
    intro other j hInode
    simp only [setPc_pc] at hInode
    split at hInode
    · exact h.opened pid j (by rw [hPc]; exact hInode)
    · exact h.opened other j hInode
  case owner =>
    intro other j hOther
    simp only [setPc_pc] at hOther
    split at hOther
    · next hEq => subst hEq; exact h.owner other j (hLocked.trans hOther)
    · exact h.owner other j hOther
  case written =>
    intro other j hWorking
    simp only [setPc_pc] at hWorking
    split at hWorking
    · next hEq =>
      obtain rfl : i = j := LaunchPc.working.inj hWorking
      rw [hEq]
      exact .inl (Function.update_self _ _ _)
    · next hNot =>
      have hNe : j ≠ i := by
        rintro rfl
        exact hNot (h.eq_of_locked hLocked (by rw [hWorking]; rfl))
      simpa [hNe, PidFile.setPc, Reads] using h.written other j hWorking

/-- The name goes when nobody has its file open. -/
theorem Guarded.removes (h : s.Guarded) {pid : Pid} (hQuiet : s.IsQuiet (.remove pid)) :
    ({ s.setPc pid .exited with named := none } : PidFile).Guarded := by
  have hBase : (s.setPc pid .exited).Guarded := h.setPc pid rfl
  refine ⟨fun other i hInode => ?_, hBase.owner, hBase.written⟩
  change ((s.setPc pid .exited).pc other).inode = some i at hInode
  rw [setPc_pc] at hInode
  split at hInode
  · cases hInode
  · exact absurd (h.opened other i hInode) (hQuiet other i hInode)

theorem Guarded.effect (h : s.Guarded) {e : LaunchEvent} (hGuard : s.guard e) (hQuiet : s.IsQuiet e) :
    (s.effect e).Guarded := by
  cases e with
  | fork pid => exact h.setPc pid rfl
  | openFile pid ok =>
    cases ok with
    | false => exact h.setPc pid rfl
    | true =>
      simp only [PidFile.effect]
      split
      · next i hNamed =>
        exact h.opens rfl hNamed rfl rfl rfl
          fun other j hInode => Option.some.inj ((h.opened other j hInode).symm.trans hNamed)
      · next hNamed =>
        refine h.opens rfl rfl rfl rfl rfl fun other j hInode => ?_
        have hSome := h.opened other j hInode
        rw [hNamed] at hSome
        cases hSome
  | lockFile pid =>
    obtain ⟨i, -, hPc⟩ := hGuard
    simp only [PidFile.effect, hPc]
    split
    · next hFree => exact h.takesLock hPc hFree
    · exact h.setPc pid rfl
  | write pid ok =>
    cases ok with
    | false => exact h.exit pid
    | true =>
      obtain ⟨i, -, hPc⟩ := hGuard
      simp only [PidFile.effect, hPc]
      exact h.writes hPc
  | close pid =>
    obtain ⟨i, -, hPc⟩ := hGuard
    simp only [PidFile.effect, hPc]
    exact h.unlock (by rw [hPc]; rfl) rfl
  | remove pid => exact h.removes hQuiet
  | crash pid => exact h.exit pid

theorem guarded_of_reachableWhen {cond : PidFile → LaunchEvent → Prop} (hCond : ∀ s e, cond s e → s.IsQuiet e)
    (h : pidFileSystem.ReachableWhen cond s) : s.Guarded :=
  h.invariant Guarded (by rintro _ rfl; exact guarded_initial)
    fun _ _ hGuarded hGuard hMeets => hGuarded.effect hGuard (hCond _ _ hMeets)

/-- As long as no name is removed of a file that somebody has open, a process at work is the only one, its
file is the named one, and a stop reads its number, or nothing once another start has opened the file. -/
theorem alone_of_reachable (h : pidFileSystem.ReachableWhen IsQuiet s) {pid : Pid} {i : Nat}
    (hWorking : s.pc pid = .working i) :
    s.named = some i ∧ (∀ other j, s.pc other = .working j → other = pid) ∧ s.Reads pid i := by
  have hGuarded := guarded_of_reachableWhen (fun _ _ hQuiet => hQuiet) h
  have hNamed := hGuarded.opened pid i (by rw [hWorking]; rfl)
  refine ⟨hNamed, fun other j hOther => ?_, hGuarded.written pid i hWorking⟩
  have hSame : j = i := Option.some.inj
    ((hGuarded.opened other j (by rw [hOther]; rfl)).symm.trans hNamed)
  exact hGuarded.eq_of_locked (by rw [hWorking]; rfl) (by rw [hOther, hSame]; rfl)

/-- A second start finds the lock taken, and has emptied the file before. -/
def secondStart : List LaunchEvent :=
  [.fork 1, .openFile 1 true, .lockFile 1, .write 1 true, .fork 2, .openFile 2 true, .lockFile 2]

theorem alone_of_reachable_secondStart :
    (pidFileSystem.run .initial secondStart).content 0 = none ∧
    (pidFileSystem.run .initial secondStart).named = some 0 ∧
    (pidFileSystem.run .initial secondStart).Reads 1 0 ∧
      ∀ other j, (pidFileSystem.run .initial secondStart).pc other = .working j → other = 1 := by
  have hAdmits : pidFileSystem.Admits IsQuiet .initial secondStart :=
    (show pidFileSystem.Admits (fun _ _ => True) .initial secondStart by decide).of_forall (by
      intro e hMem s
      simp only [secondStart, List.mem_cons, List.not_mem_nil, or_false] at hMem
      rcases hMem with rfl | rfl | rfl | rfl | rfl | rfl | rfl <;> trivial)
  obtain ⟨hNamed, hAlone, hReads⟩ := @alone_of_reachable _
    (TransitionSystem.ReachableWhen.run (.init rfl) secondStart hAdmits) 1 0 (by decide)
  exact ⟨by decide, hNamed, hReads, hAlone⟩

/-- Who works has its number in its file. -/
def Found (s : PidFile) : Prop := ∀ pid i, s.pc pid = .working i → s.content i = some pid

/-- A process that begins to work has written its number. -/
theorem Found.of_same (h : s.Found) {t : PidFile} (hContent : t.content = s.content)
    (hPc : ∀ pid i, t.pc pid = .working i → s.pc pid = .working i) : t.Found := by
  intro pid i hWorking
  rw [hContent]
  exact h pid i (hPc pid i hWorking)

theorem working_of_setPc {pid : Pid} {pc : LaunchPc} (hPc : pc.lockedInode = none) {other : Pid} {i : Nat}
    (hWorking : (s.setPc pid pc).pc other = .working i) : s.pc other = .working i := by
  rw [setPc_pc] at hWorking
  split at hWorking
  · rw [hWorking] at hPc
    cases hPc
  · exact hWorking

theorem Found.exit (h : s.Found) (pid : Pid) : (s.exit pid).Found := by
  unfold PidFile.exit
  split <;> exact h.of_same rfl fun _ _ => working_of_setPc rfl

theorem Found.effect (h : s.Found) (hGuarded : s.Guarded) {e : LaunchEvent} (hGuard : s.guard e)
    (hAlone : s.IsAlone e) : (s.effect e).Found := by
  cases e with
  | fork pid => exact h.of_same rfl fun _ _ => working_of_setPc rfl
  | openFile pid ok =>
    cases ok with
    | false => exact h.of_same rfl fun _ _ => working_of_setPc rfl
    | true =>
      -- nobody works whose file could be emptied
      intro other i hWorking
      have hOld : s.pc other = .working i := by
        simp only [PidFile.effect] at hWorking
        split at hWorking <;> exact working_of_setPc rfl hWorking
      exact absurd hOld (hAlone other i)
  | lockFile pid =>
    obtain ⟨i, -, hPc⟩ := hGuard
    simp only [PidFile.effect, hPc]
    split
    · refine h.of_same rfl fun other j hWorking => ?_
      simp only [setPc_pc] at hWorking
      split at hWorking
      · cases hWorking
      · exact hWorking
    · exact h.of_same rfl fun _ _ => working_of_setPc rfl
  | write pid ok =>
    cases ok with
    | false => exact h.exit pid
    | true =>
      obtain ⟨i, -, hPc⟩ := hGuard
      simp only [PidFile.effect, hPc]
      intro other j hWorking
      simp only [setPc_pc] at hWorking
      split at hWorking
      · next hEq =>
        obtain rfl : i = j := LaunchPc.working.inj hWorking
        rw [hEq]
        exact Function.update_self _ _ _
      · next hNot =>
        have hNe : j ≠ i := by
          rintro rfl
          exact hNot (hGuarded.eq_of_locked (by rw [hPc]; rfl) (by rw [hWorking]; rfl))
        exact (Function.update_of_ne hNe _ _).trans (h other j hWorking)
  | close pid =>
    obtain ⟨i, -, hPc⟩ := hGuard
    simp only [PidFile.effect, hPc]
    exact h.of_same rfl fun _ _ => working_of_setPc rfl
  | remove pid => exact h.of_same rfl fun _ _ => working_of_setPc rfl
  | crash pid => exact h.exit pid

/-- A stop finds the process at work while nobody else comes to open its file. -/
theorem found_of_reachable
    (h : pidFileSystem.ReachableWhen (fun s e => s.IsQuiet e ∧ s.IsAlone e) s) {pid : Pid} {i : Nat}
    (hWorking : s.pc pid = .working i) : s.named.bind s.content = some pid := by
  have hBase : ∀ s, pidFileSystem.ReachableWhen (fun s e => s.IsQuiet e ∧ s.IsAlone e) s → s.Guarded :=
    fun _ hReach => guarded_of_reachableWhen (fun _ _ hCond => hCond.1) hReach
  have hFound : s.Found := h.invariant_with hBase Found
    (by rintro _ rfl; intro _ _ hWorking; cases hWorking)
    fun _ _ hGuarded hFound hGuard hCond => hFound.effect hGuarded hGuard hCond.2
  rw [(hBase s h).opened pid i (by rw [hWorking]; rfl)]
  exact hFound pid i hWorking

/-- The file is removed when the next one has locked it, and a third starts with a new file. -/
theorem two_at_work :
    pidFileSystem.Admits (fun _ _ => True) .initial
      [.fork 1, .openFile 1 true, .lockFile 1, .write 1 true, .fork 2, .openFile 2 true, .close 1,
        .lockFile 2, .write 2 true, .remove 1, .fork 3, .openFile 3 true, .lockFile 3, .write 3 true] ∧
    (pidFileSystem.run .initial
      [.fork 1, .openFile 1 true, .lockFile 1, .write 1 true, .fork 2, .openFile 2 true, .close 1,
        .lockFile 2, .write 2 true, .remove 1, .fork 3, .openFile 3 true, .lockFile 3, .write 3 true]).pc 2 =
      .working 0 ∧
    (pidFileSystem.run .initial
      [.fork 1, .openFile 1 true, .lockFile 1, .write 1 true, .fork 2, .openFile 2 true, .close 1,
        .lockFile 2, .write 2 true, .remove 1, .fork 3, .openFile 3 true, .lockFile 3, .write 3 true]).pc 3 =
      .working 1 := by
  decide

end PidFile

end Gonggo
