import Gonggo.Define
import Gonggo.Library.HashTable
import Gonggo.Library.TransitionSystem
import Mathlib.Data.Fintype.Basic
import Mathlib.Logic.Function.Basic

/-! # The life of the proxies

proxy.c, the loops of proxyactivator.c, proxyterminator.c and proxyalive.c, and the shutdown in
work.c. Three threads call `proxy_thread_kill`: the activator, the terminator and the main thread.
Every activation that gets as far as its first context is numbered; the tables hold these numbers,
and an event of the terminator carries, beside the name, the number of the alive thread that queued
it. The number is not read by any step.
-/

namespace Gonggo

/-- The three threads, and tables, of a proxy in the order in which they are made and killed. -/
inductive ThreadKind
  | subscribe
  | channel
  | alive
  deriving DecidableEq, Repr

def ThreadKind.next : ThreadKind → Option ThreadKind
  | .subscribe => some .channel
  | .channel => some .alive
  | .alive => none

inductive Killer
  | activator
  | terminator
  | main
  deriving DecidableEq, Repr

instance : Fintype Killer where
  elems := {.activator, .terminator, .main}
  complete x := by cases x <;> decide

inductive LifecycleThread
  | killer (x : Killer)
  | alive (k : Nat)
  deriving DecidableEq, Repr

/-- A subscribe thread, a channel thread or a proxy process. -/
inductive ThreadPhase
  | absent
  | running
  | stopping
  | finished
  deriving DecidableEq, Repr

namespace ThreadPhase

def stop : ThreadPhase → ThreadPhase
  | running => stopping
  | phase => phase

def active : ThreadPhase → Bool
  | running | stopping => true
  | _ => false

end ThreadPhase

/-- The alive thread waits for the mutex of its proxy until the proxy is gone, and then reports. -/
inductive AlivePc
  | absent
  | waiting
  | terminatingSetting
  | awaking
  | notifying
  | finished
  deriving DecidableEq, Repr

namespace AlivePc

/-- The thread has found its proxy dead. -/
def dead : AlivePc → Bool
  | absent | waiting => false
  | _ => true

/-- The death is queued for the terminator. -/
def reported : AlivePc → Bool
  | notifying | finished => true
  | _ => false

/-- A join returns at once. -/
def ended : AlivePc → Bool
  | absent | finished => true
  | _ => false

end AlivePc

/-- The entries that a call of `proxy_thread_kill` found. -/
abbrev Found := ThreadKind → Option Nat

inductive KillPc
  | locking
  | getting (kind : ThreadKind) (found : Found)
  | joining (kind : ThreadKind) (found : Found)
  | removing (kind : ThreadKind) (found : Found)
  | unlocking

/-- What follows the lookup in one table. -/
def KillPc.afterGetting (kind : ThreadKind) (found : Found) : KillPc :=
  match kind.next with
  | some kind => .getting kind found
  | none => .joining .subscribe found

/-- What follows the join of one thread and the removal of its entry. -/
def KillPc.afterJoining (kind : ThreadKind) (found : Found) : KillPc :=
  match kind.next with
  | some kind => .joining kind found
  | none => .unlocking

structure KillCall where
  proxyName : ProxyName
  pc : KillPc

/-- `proxy_activator` and `proxy_activation`. An activation that fails has the contexts up to `last`;
`ending` says that the activator ends with it. -/
inductive ActivatorPc
  | idle
  | checking (proxyName : ProxyName)
  | killing (proxyName : ProxyName)
  | subscribeCreating (proxyName : ProxyName)
  | channelCreating (k : Nat)
  | aliveCreating (k : Nat)
  | dying
  | responding (k : Nat) (last : ThreadKind) (created : Bool)
  | stopping (k : Nat) (last : ThreadKind) (ending : Bool)
  | joining (kind : ThreadKind) (k : Nat) (last : ThreadKind) (ending : Bool)
  | setting (kind : ThreadKind) (k : Nat)
  | waking (k : Nat)
  | notifying (k : Nat)
  | ended
  deriving DecidableEq, Repr

inductive TerminatorPc
  | starting
  | waiting
  | draining
  | unsenting (proxyName : ProxyName) (k : Nat)
  | killing (proxyName : ProxyName) (k : Nat)
  deriving DecidableEq, Repr

/-- `proxy_thread_kill_all`. -/
inductive MainPc
  | ready
  | setting (names : List ProxyName)
  | killing (proxyName : ProxyName) (rest : List ProxyName)
  | finished
  deriving DecidableEq, Repr

/-- How the wait for the answer of an activated proxy ends. -/
inductive RespondOutcome
  | done
  | timeout
  | proxyDead
  | terminated
  deriving DecidableEq, Repr

/-- The threads and processes that only end, by number. -/
structure ProxyThreads where
  subscribe : Nat → ThreadPhase
  channel : Nat → ThreadPhase
  process : Nat → ThreadPhase

/-- The state; `linked` are the segments that can be opened under their names, `proxyName` and `count` are
of the numbered activations, and `handled` are the numbers whose events the terminator is done with. -/
structure ProxyLifecycle where
  killLock : Option Killer
  terminatorLock : Option LifecycleThread
  terminatingArr : List ProxyName
  queue : List (ProxyName × Nat)
  tables : ThreadKind → HashTable ProxyName Nat
  linked : ThreadKind → ProxyName → Bool
  kills : Killer → Option KillCall
  activator : ActivatorPc
  terminator : TerminatorPc
  main : MainPc
  alive : Nat → AlivePc
  threads : ProxyThreads
  count : Nat
  proxyName : Nat → ProxyName
  handled : Nat → Bool

/-- `request` posts an activation: the proxy has made its three segments, and from there to the answer it
waits. `activator` takes its next step, `ok` saying whether the mapping of the segments or a creation
succeeds. Its wait is told to end only after `proxy_thread_kill_all`. `kill` takes the next step of a
call of `proxy_thread_kill`. `exit` ends a subscribe or channel thread or, for the kind `alive`, the
proxy process. -/
inductive LifecycleEvent
  | request (proxyName : ProxyName)
  | activator (ok : Bool)
  | respond (outcome : RespondOutcome)
  | kill (x : Killer)
  | terminator
  | killAll (order : Traversal ProxyName)
  | main
  | alive (k : Nat)
  | exit (kind : ThreadKind) (k : Nat)

namespace ProxyLifecycle

def started : ProxyLifecycle where
  killLock := none
  terminatorLock := none
  terminatingArr := []
  queue := []
  tables _ := HashTable.empty
  linked _ _ := false
  kills _ := none
  activator := .idle
  terminator := .starting
  main := .ready
  alive _ := .absent
  threads := ⟨fun _ => .absent, fun _ => .absent, fun _ => .absent⟩
  count := 0
  proxyName _ := ""
  handled _ := false

variable (s : ProxyLifecycle)

/-! ## The terminating list -/

def proxyThreadTerminatingSet (proxyName : ProxyName) : ProxyLifecycle :=
  { s with
    terminatingArr :=
      if proxyName ∈ s.terminatingArr then s.terminatingArr else s.terminatingArr ++ [proxyName] }

def proxyThreadTerminatingDrop (proxyName : ProxyName) : ProxyLifecycle :=
  { s with terminatingArr := s.terminatingArr.erase proxyName }

def proxyThreadZombie (proxyName : ProxyName) : Bool := decide (proxyName ∈ s.terminatingArr)

/-! ## Killing a proxy -/

/-- `proxy_subscribe_stop`, `proxy_channel_stop` and `proxy_alive_stop`, which kills the process
unless its thread has found it dead. -/
def stop (threads : ProxyThreads) (kind : ThreadKind) (k : Nat) : ProxyThreads :=
  match kind with
  | .subscribe =>
      { threads with subscribe := Function.update threads.subscribe k (threads.subscribe k).stop }
  | .channel => { threads with channel := Function.update threads.channel k (threads.channel k).stop }
  | .alive =>
      if (s.alive k).dead then threads
      else { threads with process := Function.update threads.process k (threads.process k).stop }

/-- A join of the thread returns. -/
def joins (kind : ThreadKind) (k : Nat) : Bool :=
  match kind with
  | .subscribe => !(s.threads.subscribe k).active
  | .channel => !(s.threads.channel k).active
  | .alive => (s.alive k).ended

def stopFound (kind : ThreadKind) (hit : Option Nat) : ProxyThreads :=
  match hit with
  | some k => s.stop s.threads kind k
  | none => s.threads

def setKill (x : Killer) (call : Option KillCall) : ProxyLifecycle :=
  { s with kills := Function.update s.kills x call }

def tableSet (kind : ThreadKind) (table : HashTable ProxyName Nat) : ProxyLifecycle :=
  { s with tables := Function.update s.tables kind table }

/-- The destruction of a context unlinks the segment of its name, whoever has made it. -/
def unlinked (kind : ThreadKind) (proxyName : ProxyName) : ThreadKind → ProxyName → Bool :=
  Function.update s.linked kind (Function.update (s.linked kind) proxyName false)

/-- The removal of an entry destroys its context. -/
def tableRemove (kind : ThreadKind) (proxyName : ProxyName) : ProxyLifecycle :=
  { s.tableSet kind ((s.tables kind).remove proxyName) with
    linked :=
      if ((s.tables kind).lookup proxyName).isSome then s.unlinked kind proxyName else s.linked }

def killEnabled (call : KillCall) : Bool :=
  match call.pc with
  | .locking => s.killLock.isNone
  | .joining kind found => (found kind).all (s.joins kind)
  | _ => true

def killEffect (x : Killer) (call : KillCall) : ProxyLifecycle :=
  match call.pc with
  | .locking =>
      { s with killLock := some x }.setKill x
        (some { call with pc := .getting .subscribe fun _ => none })
  | .getting kind found =>
      { s with threads := s.stopFound kind ((s.tables kind).lookup call.proxyName) }.setKill x
        (some { call with
          pc := .afterGetting kind
            (Function.update found kind ((s.tables kind).lookup call.proxyName)) })
  | .joining kind found =>
      s.setKill x (some { call with
        pc := if (found kind).isSome then .removing kind found else .afterJoining kind found })
  | .removing kind found =>
      (s.tableRemove kind call.proxyName).setKill x
        (some { call with pc := .afterJoining kind found })
  | .unlocking => { s with killLock := none }.setKill x none

/-! ## The activator -/

/-- `proxy_channel_shm_get`, `proxy_subscribe_shm_get` and `proxy_alive_shm_get` find the segments. -/
def segmentsLinked (proxyName : ProxyName) : Bool :=
  s.linked .channel proxyName && s.linked .subscribe proxyName && s.linked .alive proxyName

/-- `proxy_activation` with `pthread_create` succeeding or not, then the three entries. The segments are
opened after the old threads are killed, whose contexts unlink them. -/
def activatorEffect (ok : Bool) : ProxyLifecycle :=
  match s.activator with
  | .checking proxyName =>
      if s.proxyThreadZombie proxyName then { s with activator := .dying }
      else
        { s with activator := .killing proxyName }.setKill .activator (some ⟨proxyName, .locking⟩)
  | .killing proxyName =>
      { s with
        activator := if ok && s.segmentsLinked proxyName then .subscribeCreating proxyName else .idle }
  | .subscribeCreating proxyName =>
      { s with
        count := s.count + 1
        proxyName := Function.update s.proxyName s.count proxyName
        threads :=
          { s.threads with
            process := Function.update s.threads.process s.count .running
            subscribe :=
              Function.update s.threads.subscribe s.count (if ok then .running else .absent) }
        activator := if ok then .channelCreating s.count else .responding s.count .subscribe false }
  | .channelCreating k =>
      { s with
        threads :=
          { s.threads with
            channel := Function.update s.threads.channel k (if ok then .running else .absent) }
        activator := if ok then .aliveCreating k else .responding k .channel false }
  | .aliveCreating k =>
      { s with
        alive := Function.update s.alive k (if ok then .waiting else .absent)
        activator := .responding k .alive ok }
  | .stopping k last ending =>
      let stopped := s.stop s.threads .subscribe k
      let stopped := if last = .subscribe then stopped else s.stop stopped .channel k
      { s with
        threads := if last = .alive then s.stop stopped .alive k else stopped
        activator := .joining .subscribe k last ending }
  | .joining kind k last ending =>
      { s with
        linked := s.unlinked kind (s.proxyName k)
        activator :=
          match if kind = last then none else kind.next with
          | some kind => .joining kind k last ending
          | none => if ending then .ended else .idle }
  | .setting kind k =>
      { s.tableSet kind (((s.tables kind).remove (s.proxyName k)).insert (s.proxyName k) k) with
        linked := (s.tableRemove kind (s.proxyName k)).linked
        activator :=
          match kind.next with
          | some kind => .setting kind k
          | none => .waking k }
  | .waking k => { s with activator := .notifying k }
  | .notifying _ => { s with activator := .idle }
  | .idle | .dying | .responding _ _ _ | .ended => s

def activatorEnabled : Bool :=
  match s.activator with
  | .idle | .dying | .responding _ _ _ | .ended => false
  | .killing _ => (s.kills .activator).isNone
  | .joining kind k _ _ => s.joins kind k
  | _ => true

/-- The wait for the proxy's answer ends. -/
def respond (outcome : RespondOutcome) : ProxyLifecycle :=
  { s with
    activator :=
      match s.activator with
      | .dying => if outcome = .terminated then .ended else .idle
      | .responding k last created =>
          if created ∧ outcome = .done then .setting .subscribe k
          else .stopping k last (decide (outcome = .terminated))
      | pc => pc }

def respondEnabled : Bool :=
  match s.activator with
  | .dying | .responding _ _ _ => true
  | _ => false

/-! ## The terminator, the main thread and the alive threads -/

def terminatorEffect : ProxyLifecycle :=
  match s.terminator with
  | .starting => { s with terminator := .waiting }
  | .waiting => { s with terminatorLock := some (.killer .terminator), terminator := .draining }
  | .draining =>
      match s.queue with
      | [] => { s with terminatorLock := none, terminator := .waiting }
      | (proxyName, k) :: rest => { s with queue := rest, terminator := .unsenting proxyName k }
  | .unsenting proxyName k =>
      { s with terminator := .killing proxyName k }.setKill .terminator (some ⟨proxyName, .locking⟩)
  | .killing proxyName k =>
      { s.proxyThreadTerminatingDrop proxyName with
        handled := Function.update s.handled k true
        terminator := .draining }

def terminatorEnabled : Bool :=
  match s.terminator with
  | .starting | .waiting => s.terminatorLock.isNone
  | .killing _ _ => (s.kills .terminator).isNone
  | _ => true

def mainEffect : ProxyLifecycle :=
  match s.main with
  | .setting [] => { s with main := .finished }
  | .setting (proxyName :: rest) =>
      { s.proxyThreadTerminatingSet proxyName with main := .killing proxyName rest }.setKill .main
        (some ⟨proxyName, .locking⟩)
  | .killing proxyName rest => { s.proxyThreadTerminatingDrop proxyName with main := .setting rest }
  | .ready | .finished => s

def mainEnabled : Bool :=
  match s.main with
  | .setting _ => true
  | .killing _ _ => (s.kills .main).isNone
  | .ready | .finished => false

def setAlive (k : Nat) (pc : AlivePc) : ProxyLifecycle :=
  { s with alive := Function.update s.alive k pc }

def aliveEffect (k : Nat) : ProxyLifecycle :=
  match s.alive k with
  | .absent | .finished => s
  | .waiting => s.setAlive k .terminatingSetting
  | .terminatingSetting => (s.proxyThreadTerminatingSet (s.proxyName k)).setAlive k .awaking
  | .awaking => { s with queue := s.queue ++ [(s.proxyName k, k)] }.setAlive k .notifying
  | .notifying => s.setAlive k .finished

def aliveEnabled (k : Nat) : Bool :=
  match s.alive k with
  | .absent | .finished => false
  | .waiting => decide (s.threads.process k = .finished)
  | .awaking => s.terminatorLock.isNone
  | .terminatingSetting | .notifying => true

def exit (kind : ThreadKind) (k : Nat) : ProxyLifecycle :=
  { s with
    threads :=
      match kind with
      | .subscribe =>
          { s.threads with subscribe := Function.update s.threads.subscribe k .finished }
      | .channel => { s.threads with channel := Function.update s.threads.channel k .finished }
      | .alive => { s.threads with process := Function.update s.threads.process k .finished } }

def exitEnabled (kind : ThreadKind) (k : Nat) : Bool :=
  match kind with
  | .subscribe => (s.threads.subscribe k).active
  | .channel => (s.threads.channel k).active
  | .alive => (s.threads.process k).active

end ProxyLifecycle

namespace LifecycleEvent

def enabled (s : ProxyLifecycle) : LifecycleEvent → Bool
  | .request proxyName => decide (s.activator = .idle ∧ 0 < proxyName.utf8ByteSize)
  | .activator _ => s.activatorEnabled
  | .respond outcome => s.respondEnabled && decide (outcome = .terminated → s.main = .finished)
  | .kill x => (s.kills x).any s.killEnabled
  | .terminator => s.terminatorEnabled
  | .killAll _ => decide (s.main = .ready)
  | .main => s.mainEnabled
  | .alive k => s.aliveEnabled k
  | .exit kind k => s.exitEnabled kind k

def guard (s : ProxyLifecycle) (e : LifecycleEvent) : Prop := e.enabled s = true

instance (s : ProxyLifecycle) (e : LifecycleEvent) : Decidable (e.guard s) :=
  inferInstanceAs (Decidable (_ = true))

def effect (s : ProxyLifecycle) : LifecycleEvent → ProxyLifecycle
  | .request proxyName =>
      { s with
        linked := fun kind => Function.update (s.linked kind) proxyName true
        activator := .checking proxyName }
  | .activator ok => s.activatorEffect ok
  | .respond outcome => s.respond outcome
  | .kill x =>
      match s.kills x with
      | some call => s.killEffect x call
      | none => s
  | .terminator => s.terminatorEffect
  | .killAll order => { s with main := .setting (order.visit (s.tables .alive).keys) }
  | .main => s.mainEffect
  | .alive k => s.aliveEffect k
  | .exit kind k => s.exit kind k

end LifecycleEvent

def proxyLifecycleSystem : TransitionSystem ProxyLifecycle LifecycleEvent where
  init s := s = .started
  guard := LifecycleEvent.guard
  effect := LifecycleEvent.effect

instance (s : ProxyLifecycle) (e : LifecycleEvent) : Decidable (proxyLifecycleSystem.guard s e) :=
  inferInstanceAs (Decidable (e.guard s))

end Gonggo
