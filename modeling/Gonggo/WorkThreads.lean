import Mathlib.Data.Fintype.Basic
import Gonggo.Library.StoppableLoop

/-! # The threads that work starts and stops

The function of work.c with the four threads that it creates, each a loop until it is told to stop: the
drain of dbresponddrain.c, the time-out of clienttimeout.c, the terminator of proxyterminator.c and the
activator of proxyactivator.c. What a thread does between two waits is one piece of work, with the two
waits of `proxy_activation` as its pauses, and `proxy_thread_kill_all` is one step. Others may hold these
up as long as they like: `proxy_thread_kill` waits for the locks of the tables and of the channel and for
the threads of the proxy, and the database, the web server and a connection take their time. The alive
threads call `proxy_terminator_awake`, and the proxies take the lock of the activator and signal it from
their own process.
-/

namespace Gonggo

inductive WorkThread
  | respondDrain
  | clientTimeout
  | proxyTerminator
  | proxyActivator
  deriving DecidableEq, Repr

namespace WorkThread

instance : Fintype WorkThread where
  elems := {.respondDrain, .clientTimeout, .proxyTerminator, .proxyActivator}
  complete thread := by cases thread <;> decide

/-- The activator alone sets its flag under the lock, the terminator alone empties its queue after the
stop. -/
def shape : WorkThread → LoopShape
  | .respondDrain | .clientTimeout =>
      { locksFirst := false, waitsFirst := false, drains := false, pauses := 0, attentive := fun _ => rfl }
  | .proxyTerminator =>
      { locksFirst := false, waitsFirst := true, drains := true, pauses := 0, attentive := fun _ => rfl }
  | .proxyActivator =>
      { locksFirst := true, waitsFirst := true, drains := false, pauses := 2, attentive := nofun }

/-- Others than `work` signal the condition. -/
def isCalled : WorkThread → Bool
  | .respondDrain | .clientTimeout => false
  | .proxyTerminator | .proxyActivator => true

end WorkThread

inductive WorkStep
  | dbEnsure
  | sigaction
  | tablesCreate
  | aliveMutexCreate
  | activatorContextInit
  | contextsInit
  | create (thread : WorkThread)
  | waitforStarted (thread : WorkThread)
  | aliveMutexLock
  | isstarted
  | serverStart
  | exitTest
  | pauseCall
  | paused
  | aliveMutexDie
  | killAll
  | stopLock (thread : WorkThread)
  | stop (thread : WorkThread)
  | join (thread : WorkThread)
  | contextsDestroy
  | tablesDestroy
  | serverStop
  deriving DecidableEq, Repr

/-- The values of error.h, and 0. -/
inductive WorkResult
  | ok
  | termhandler
  | start
  | dbinit
  deriving DecidableEq, Repr

namespace WorkStep

def cleanUp : List WorkStep := [.tablesDestroy, .serverStop]

def threadsStop : List WorkStep :=
  [.stopLock .proxyActivator, .stop .proxyActivator, .stopLock .respondDrain, .stop .respondDrain,
    .stopLock .clientTimeout, .stop .clientTimeout, .stopLock .proxyTerminator, .stop .proxyTerminator,
    .join .proxyActivator, .join .respondDrain, .join .clientTimeout, .join .proxyTerminator,
    .contextsDestroy]

/-- From the start of the server. -/
def serve : List WorkStep :=
  .serverStart :: .exitTest :: .aliveMutexDie :: .killAll :: (threadsStop ++ cleanUp)

/-- The threads are created from the drain to the activator, each up before the next. -/
def startThreads : List WorkStep :=
  [.create .respondDrain, .waitforStarted .respondDrain,
    .create .clientTimeout, .waitforStarted .clientTimeout,
    .create .proxyTerminator, .waitforStarted .proxyTerminator,
    .aliveMutexLock, .create .proxyActivator, .waitforStarted .proxyActivator]

def work : List WorkStep :=
  [.dbEnsure, .sigaction, .tablesCreate, .aliveMutexCreate, .activatorContextInit, .contextsInit] ++
    (startThreads ++ .isstarted :: serve)

/-- What is left to do after a step that went well or not, before `rest`. -/
def next (rest : List WorkStep) : WorkStep → Bool → List WorkStep
  | .dbEnsure, false | .sigaction, false | .aliveMutexCreate, false | .activatorContextInit, false =>
      cleanUp
  | .create .proxyActivator, false => .aliveMutexDie :: .isstarted :: serve
  | .create _, false => .isstarted :: serve
  | .isstarted, false => threadsStop ++ cleanUp
  | .serverStart, false => .aliveMutexDie :: (threadsStop ++ cleanUp)
  | .exitTest, false => .pauseCall :: rest
  | .pauseCall, _ => .paused :: rest
  | .paused, _ => .exitTest :: rest
  | _, _ => rest

/-- The step waits for the database, the threads of the proxies or the web server. -/
def callsOut : WorkStep → Bool
  | .dbEnsure | .killAll | .serverStart | .serverStop => true
  | _ => false

/-- What `work` returns when the step fails. -/
def failure : WorkStep → Option WorkResult
  | .dbEnsure => some .dbinit
  | .sigaction => some .termhandler
  | .aliveMutexCreate | .activatorContextInit | .isstarted | .serverStart => some .start
  | _ => none

def follow (ok : Bool) : List WorkStep → List WorkStep
  | [] => []
  | w :: rest => w.next rest ok

/-- The wait of `pause` is over. -/
def resume (todo : List WorkStep) : List WorkStep :=
  if todo.head? = some .paused then .exitTest :: todo.tail else todo

end WorkStep

inductive Resource
  | absent
  | made
  | destroyed
  deriving DecidableEq, Repr

def Resource.destroy : Resource → Resource
  | .absent => .absent
  | .made | .destroyed => .destroyed

inductive AliveOwner
  | work
  | proxy
  deriving DecidableEq, Repr

/-- Who can be held up: `work` itself, or one of its threads. -/
inductive WorkParty
  | work
  | thread (thread : WorkThread)
  deriving DecidableEq, Repr

/-- The tables are those between `tables:BEGIN` and `tables:END`, the contexts the locks and conditions of
the four threads. -/
structure Work where
  todo : List WorkStep
  threads : WorkThread → StoppableLoop
  tables : Resource
  contexts : Resource
  server : Resource
  aliveOwner : Option AliveOwner
  alive : Bool
  gonggoExit : Bool
  result : WorkResult
  held : WorkParty → Bool

namespace Work

def started : Work where
  todo := WorkStep.work
  threads _ := .absent
  tables := .absent
  contexts := .absent
  server := .absent
  aliveOwner := none
  alive := false
  gonggoExit := false
  result := .ok
  held _ := false

variable (s : Work)

def isstarted (thread : WorkThread) : Bool := (s.threads thread).started thread.shape

def setThread (thread : WorkThread) (l : StoppableLoop) : Work :=
  { s with threads := Function.update s.threads thread l }

/-- Whether the step goes well; `ok` is what the database or the system answers. -/
def outcome (ok : Bool) : WorkStep → Bool
  | .dbEnsure | .sigaction | .aliveMutexCreate | .activatorContextInit | .create _ | .serverStart => ok
  | .isstarted => decide (∀ thread, s.isstarted thread = true)
  | .exitTest => s.gonggoExit
  | _ => true

/-- What a step does that goes well. -/
def act : WorkStep → Work
  | .tablesCreate => { s with tables := .made }
  | .aliveMutexCreate => { s with aliveOwner := none, alive := true }
  | .contextsInit => { s with contexts := .made }
  | .create thread => s.setThread thread { s.threads thread with pc := .created }
  | .aliveMutexLock => { s with aliveOwner := some .work }
  | .serverStart => { s with server := .made }
  | .aliveMutexDie =>
      { s with alive := false, aliveOwner := if s.aliveOwner = some .work then none else s.aliveOwner }
  | .stopLock thread =>
      if s.isstarted thread then s.setThread thread ((s.threads thread).lockBy .stopper) else s
  | .stop thread => if s.isstarted thread then s.setThread thread (s.threads thread).stop else s
  | .contextsDestroy => { s with contexts := s.contexts.destroy }
  | .tablesDestroy => { s with tables := s.tables.destroy }
  | .serverStop => { s with server := s.server.destroy }
  | _ => s

/-- A step that fails takes the result, and tells everyone to end once there are threads. -/
def fail (w : WorkStep) : Work :=
  match w.failure with
  | none => s
  | some result =>
      { s with
        result := result
        gonggoExit := if w = .isstarted ∨ w = .serverStart then true else s.gonggoExit }

def enabled : WorkStep → Bool
  | .waitforStarted thread => s.isstarted thread
  | .aliveMutexLock => s.aliveOwner.isNone
  | .stopLock thread => !s.isstarted thread || (s.threads thread).owner.isNone
  | .join thread => !s.isstarted thread || decide ((s.threads thread).pc = .finished)
  | .paused => false
  | w => !(w.callsOut && s.held .work)

/-- The party is in a call or a piece of work, and is held up there. -/
def isHeldUp : WorkParty → Bool
  | .work => s.todo.head?.any WorkStep.callsOut && s.held .work
  | .thread thread => (s.threads thread).isWorking && s.held (.thread thread)

def step (ok : Bool) (w : WorkStep) : Work :=
  if s.outcome ok w then s.act w else s.fail w

end Work

/-- A thread is woken by its time-out, or for no reason. SIGTERM interrupts the wait of `pause`, not the
way to it. A party is held up, and let go on, at any time: by others, or by another party through the
locks of `proxy_thread_kill` and of the tables. -/
inductive WorkEvent
  | work (ok : Bool)
  | run (thread : WorkThread) (pause : Bool)
  | wake (thread : WorkThread)
  | lock (thread : WorkThread)
  | unlock (thread : WorkThread) (signals : Bool)
  | aliveLock
  | aliveUnlock
  | sigterm
  | hold (party : WorkParty)
  | release (party : WorkParty)

namespace WorkEvent

def guard (s : Work) : WorkEvent → Prop
  | .work _ => ∃ w ∈ s.todo.head?, s.enabled w = true
  | .run thread _ => (s.threads thread).enabled = true ∧ s.isHeldUp (.thread thread) = false
  | .wake _ => True
  | .lock thread =>
      thread.isCalled = true ∧ s.contexts = .made ∧ (s.threads thread).owner = none
  | .unlock thread _ => (s.threads thread).owner = some .caller
  | .aliveLock => s.aliveOwner = none
  | .aliveUnlock => s.aliveOwner = some .proxy
  | .sigterm => .sigaction ∉ s.todo
  | .hold _ | .release _ => True

instance (s : Work) (e : WorkEvent) : Decidable (e.guard s) := by
  cases e <;> unfold guard <;> infer_instance

def effect (s : Work) : WorkEvent → Work
  | .work ok =>
      match s.todo with
      | [] => s
      | w :: rest => { s.step ok w with todo := w.next rest (s.outcome ok w) }
  | .run thread pause => s.setThread thread ((s.threads thread).run thread.shape pause)
  | .wake thread => s.setThread thread (s.threads thread).wake
  | .lock thread => s.setThread thread ((s.threads thread).lockBy .caller)
  | .unlock thread signals =>
      s.setThread thread (if signals then (s.threads thread).call else (s.threads thread).unlock)
  | .aliveLock => { s with aliveOwner := some .proxy }
  | .aliveUnlock => { s with aliveOwner := none }
  | .sigterm => { s with gonggoExit := true, todo := WorkStep.resume s.todo }
  | .hold party => { s with held := Function.update s.held party true }
  | .release party => { s with held := Function.update s.held party false }

end WorkEvent

def workSystem : TransitionSystem Work WorkEvent where
  init s := s = .started
  guard := WorkEvent.guard
  effect := WorkEvent.effect

instance (s : Work) (e : WorkEvent) : Decidable (workSystem.guard s e) :=
  inferInstanceAs (Decidable (e.guard s))

end Gonggo
