import Gonggo.KillCalls

/-! # The ledger of the proxy threads

The life of the proxies with what it leaves out of `proxy_activator` and `proxy_thread_kill`: the
handles and contexts that the loop hands to every `proxy_activation`, the threads that `pthread_create`
has made and the handles that `pthread_join` was applied to. A `pthread_create` that fails leaves its
handle undefined.
-/

namespace Gonggo

/-- `t_subscribe_thread`, `t_channel_thread` and `t_alive_thread`, with `none` for an undefined value,
and whether `subscribe_ctx`, `channel_ctx` and `alive_ctx` point to a context. -/
structure ActivatorVars where
  handles : ThreadKind → Option Nat
  contexts : ThreadKind → Bool

namespace ActivatorVars

def clear (vars : ActivatorVars) : ActivatorVars := { vars with contexts := fun _ => false }

/-- A context is made, and `pthread_create` is called on it. -/
def create (vars : ActivatorVars) (kind : ThreadKind) (handle : Option Nat) : ActivatorVars where
  handles := Function.update vars.handles kind handle
  contexts := Function.update vars.contexts kind true

def destroy (vars : ActivatorVars) (kind : ThreadKind) : ActivatorVars :=
  { vars with contexts := Function.update vars.contexts kind false }

@[simp] theorem handles_create_self (vars : ActivatorVars) (kind : ThreadKind) (handle : Option Nat) :
    (vars.create kind handle).handles kind = handle :=
  Function.update_self ..

theorem handles_create_ne (vars : ActivatorVars) {kind other : ThreadKind} (h : other ≠ kind)
    (handle : Option Nat) : (vars.create kind handle).handles other = vars.handles other :=
  Function.update_of_ne h ..

@[simp] theorem contexts_create (vars : ActivatorVars) (kind other : ThreadKind) (handle : Option Nat) :
    (vars.create kind handle).contexts other = if other = kind then true else vars.contexts other :=
  Function.update_apply ..

@[simp] theorem contexts_destroy (vars : ActivatorVars) (kind other : ThreadKind) :
    (vars.destroy kind).contexts other = if other = kind then false else vars.contexts other :=
  Function.update_apply ..

end ActivatorVars

/-- Why a thread is joined: the activation is undone, or the proxy is killed. -/
inductive JoinCause
  | undoing (k : Nat)
  | killing (proxyName : ProxyName)

structure ThreadJoin where
  kind : ThreadKind
  handle : Option Nat
  cause : JoinCause

structure ThreadLedger where
  core : ProxyLifecycle
  vars : ActivatorVars
  created : List (ThreadKind × Nat)
  joins : List (ThreadKind × Option Nat)

/-- What the test or the creation of the step comes to. -/
def LifecycleEvent.ok : LifecycleEvent → Bool
  | .activator ok => ok
  | _ => false

namespace ProxyLifecycle

/-- The call of `pthread_create` that the step makes, for the activation that it numbers. -/
def creation (s : ProxyLifecycle) : LifecycleEvent → Option (ThreadKind × Nat)
  | .activator _ =>
      match s.activator with
      | .subscribeCreating _ => some (.subscribe, s.count)
      | .channelCreating k => some (.channel, k)
      | .aliveCreating k => some (.alive, k)
      | _ => none
  | _ => none

/-- `pthread_create` fails. -/
def FailsCreation (s : ProxyLifecycle) (e : LifecycleEvent) : Prop :=
  (s.creation e).isSome = true ∧ e.ok = false

instance (s : ProxyLifecycle) (e : LifecycleEvent) : Decidable (s.FailsCreation e) :=
  inferInstanceAs (Decidable (_ ∧ _))

end ProxyLifecycle

namespace ThreadLedger

def started : ThreadLedger where
  core := .started
  vars := ⟨fun _ => none, fun _ => false⟩
  created := []
  joins := []

variable (s : ThreadLedger)

/-- The call of `pthread_join` that the step makes. -/
def join : LifecycleEvent → Option ThreadJoin
  | .activator _ =>
      match s.core.activator with
      | .joining kind k _ _ =>
          if s.vars.contexts kind then some ⟨kind, s.vars.handles kind, .undoing k⟩ else none
      | _ => none
  | .kill x =>
      match s.core.kills x with
      | some ⟨proxyName, .joining kind found⟩ =>
          (found kind).map fun k => ⟨kind, some k, .killing proxyName⟩
      | _ => none
  | _ => none

/-- A call of `proxy_activation` begins with its three contexts set to `NULL`. -/
def varsEffect (e : LifecycleEvent) : ActivatorVars :=
  match e with
  | .activator ok =>
      match s.core.activator with
      | .checking _ => s.vars.clear
      | .subscribeCreating _ => s.vars.create .subscribe (if ok then some s.core.count else none)
      | .channelCreating k => s.vars.create .channel (if ok then some k else none)
      | .aliveCreating k => s.vars.create .alive (if ok then some k else none)
      | .joining kind _ _ _ => s.vars.destroy kind
      | _ => s.vars
  | _ => s.vars

/-- The thread that is joined has ended; a join of an undefined handle may return at any time. -/
def guard (e : LifecycleEvent) : Prop :=
  e.guard s.core ∧ (s.join e).all (fun join => join.handle.all (s.core.joins join.kind)) = true

def effect (e : LifecycleEvent) : ThreadLedger where
  core := e.effect s.core
  vars := s.varsEffect e
  created := s.created ++ (if e.ok then s.core.creation e else none).toList
  joins := s.joins ++ ((s.join e).map fun join => (join.kind, join.handle)).toList

end ThreadLedger

def threadLedgerSystem : TransitionSystem ThreadLedger LifecycleEvent where
  init s := s = .started
  guard := ThreadLedger.guard
  effect := ThreadLedger.effect

instance (s : ThreadLedger) (e : LifecycleEvent) : Decidable (threadLedgerSystem.guard s e) :=
  inferInstanceAs (Decidable (_ ∧ _))

/-- Without its books a run is one of the life of the proxies. -/
theorem reachable_core {cond : ThreadLedger → LifecycleEvent → Prop} {s : ThreadLedger}
    (h : threadLedgerSystem.ReachableWhen cond s) : proxyLifecycleSystem.Reachable s.core := by
  induction h with
  | init hInit =>
    obtain rfl := hInit
    exact .init rfl
  | step _ hGuard _ ih => exact ih.step hGuard.1 trivial

end Gonggo
