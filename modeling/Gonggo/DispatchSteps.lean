import Gonggo.ChannelDispatch
import Gonggo.ChannelRestart
import Gonggo.TableAction

/-! # What a step of the dispatch can do

The tables change by one action at a step, and few steps touch the channel thread, its sleep and the
registration of its context.
-/

namespace Gonggo

/-- The id whose envelope the caller has stored and that it is about to list. -/
def CallerPc.naming : CallerPc → Option Rid
  | .nameSetting rid _ => some rid
  | .dropListing _ _ _ rid _ _ _ => some rid
  | _ => none

namespace ChannelDispatch

variable {print : Printer} {proxyName : ProxyName} {s : ChannelDispatch}

theorem Orderly.fresh {e : DispatchEvent} (h : s.Orderly e) : s.Fresh e := by
  cases e with
  | caller n c => exact h
  | _ => trivial

theorem Orderly.signalled {e : DispatchEvent} (h : s.Orderly e) : e ≠ .spurious := by
  rintro rfl
  exact h

/-! ## The tables -/

def callerAction (print : Printer) (s : ChannelDispatch) (n : Nat) (c : CallerChoice) : TableAction :=
  match s.callers n with
  | .serviceSetting rid _ text => .store rid text
  | .nameSetting rid name => .list name rid
  | .serviceRemoving _ rid _ _ => .unstore rid
  | .nameDropping _ rid (name :: _) _ _ => .unlist name rid
  | .dropStoring _ _ (requestUuid :: _) _ _ => .store c.generated (requestDropText print requestUuid)
  | .dropListing _ name _ rid _ _ _ => .list name rid
  | _ => .none

def tableAction (print : Printer) (s : ChannelDispatch) : DispatchEvent → TableAction
  | .caller n c => s.callerAction print n c
  | .channel (.sent rid _) => .sent rid
  | .terminator => if s.terminator = .unsenting then .unsent else .none
  | .removeService rid => .unstore rid
  | .dropName name rid => .unlist name rid
  | _ => .none

/-- The tables and what was stored and listed, after an action. -/
structure ActsOn (proxyName : ProxyName) (s s' : ChannelDispatch) (action : TableAction) : Prop where
  services : s'.current.services = action.services s.current.services
  proxynames : s'.current.proxynames = action.proxynames proxyName s.current.proxynames
  stored : s'.history.stored = s.history.stored ++ action.stores
  inserted : s'.history.inserted = s.history.inserted ++ action.inserts

theorem ActsOn.none {s' : ChannelDispatch} (hServices : s'.current.services = s.current.services)
    (hProxynames : s'.current.proxynames = s.current.proxynames)
    (hStored : s'.history.stored = s.history.stored)
    (hInserted : s'.history.inserted = s.history.inserted) : ActsOn proxyName s s' .none :=
  ⟨hServices, hProxynames, by rw [hStored]; exact (List.append_nil _).symm,
    by rw [hInserted]; exact (List.append_nil _).symm⟩

theorem actsOn_removeService (s : ChannelDispatch) (rid : Rid) :
    ActsOn proxyName s (s.removeService rid) (.unstore rid) :=
  ⟨rfl, rfl, (List.append_nil _).symm, (List.append_nil _).symm⟩

theorem actsOn_dropName (s : ChannelDispatch) (name : ProxyName) (rid : Rid) :
    ActsOn proxyName s (s.dropName name rid) (.unlist name rid) :=
  ⟨rfl, rfl, (List.append_nil _).symm, (List.append_nil _).symm⟩

theorem actsOn_storeService (s : ChannelDispatch) (rid : Rid) (text : String) :
    ActsOn proxyName s (s.storeService rid text) (.store rid text) :=
  ⟨rfl, rfl, rfl, (List.append_nil _).symm⟩

theorem actsOn_listName (s : ChannelDispatch) (name : ProxyName) (rid : Rid) :
    ActsOn proxyName s (s.listName name rid) (.list name rid) :=
  ⟨rfl, rfl, (List.append_nil _).symm, rfl⟩

theorem ActsOn.setCaller {s' : ChannelDispatch} {action : TableAction}
    (h : ActsOn proxyName s s' action) (n : Nat) (pc : CallerPc) :
    ActsOn proxyName s (s'.setCaller n pc) action :=
  ⟨h.services, h.proxynames, h.stored, h.inserted⟩

theorem actsOn_callerEffect (s : ChannelDispatch) (n : Nat) (c : CallerChoice) :
    ActsOn proxyName s (s.callerEffect print proxyName n c) (s.callerAction print n c) := by
  cases hPc : s.callers n with
  | ready | connectionSetting | tableLocking | finding | waking | tableUnlocking | keysCopying
  | dropLocking | dropUnlocking | connectionRemoving =>
    simp only [callerEffect, callerAction, hPc]
    exact .none rfl rfl rfl rfl
  | serviceSetting rid name text =>
    simp only [callerEffect, callerAction, hPc]
    exact (actsOn_storeService s rid text).setCaller ..
  | nameSetting rid name =>
    simp only [callerEffect, callerAction, hPc]
    exact (actsOn_listName s name rid).setCaller ..
  | serviceRemoving conn rid rids grouped =>
    simp only [callerEffect, callerAction, hPc]
    exact (actsOn_removeService s rid).setCaller ..
  | dropListing conn name requestUuid rid rids listed todo =>
    simp only [callerEffect, callerAction, hPc]
    exact (actsOn_listName s name rid).setCaller ..
  | dropWaking conn name todo =>
    simp only [callerEffect, callerAction, hPc]
    split <;> exact .none rfl rfl rfl rfl
  | grouping conn rids grouped =>
    cases rids <;> simp only [callerEffect, callerAction, hPc] <;> exact .none rfl rfl rfl rfl
  | nameDropping conn rid names rids grouped =>
    cases names with
    | nil =>
      simp only [callerEffect, callerAction, hPc]
      exact .none rfl rfl rfl rfl
    | cons name names =>
      simp only [callerEffect, callerAction, hPc]
      exact (actsOn_dropName s name rid).setCaller ..
  | dropFinding conn todo =>
    cases todo with
    | nil =>
      simp only [callerEffect, callerAction, hPc]
      exact .none rfl rfl rfl rfl
    | cons target todo =>
      simp only [callerEffect, callerAction, hPc]
      split_ifs <;> exact .none rfl rfl rfl rfl
  | dropStoring conn name rids listed todo =>
    cases rids with
    | nil =>
      simp only [callerEffect, callerAction, hPc]
      exact .none rfl rfl rfl rfl
    | cons requestUuid rids =>
      simp only [callerEffect, callerAction, hPc]
      exact ⟨rfl, rfl, rfl, (List.append_nil _).symm⟩

theorem setCaller_self (s : ChannelDispatch) (n : Nat) (pc : CallerPc) :
    (s.setCaller n pc).callers n = pc :=
  Function.update_self ..

theorem setCaller_ne (s : ChannelDispatch) {n m : Nat} (pc : CallerPc) (h : m ≠ n) :
    (s.setCaller n pc).callers m = s.callers m :=
  Function.update_of_ne h ..

theorem callers_callerEffect_ne (s : ChannelDispatch) {n m : Nat} (c : CallerChoice) (h : m ≠ n) :
    (s.callerEffect print proxyName n c).callers m = s.callers m := by
  cases hPc : s.callers n with
  | ready => simp only [callerEffect, hPc]
  | grouping conn rids grouped =>
    cases rids <;> simp only [callerEffect, hPc] <;> exact setCaller_ne _ _ h
  | nameDropping conn rid names rids grouped =>
    cases names <;> simp only [callerEffect, hPc] <;> exact setCaller_ne _ _ h
  | dropFinding conn todo =>
    cases todo with
    | nil =>
      simp only [callerEffect, hPc]
      exact setCaller_ne _ _ h
    | cons target todo =>
      simp only [callerEffect, hPc]
      split_ifs <;> exact setCaller_ne _ _ h
  | dropStoring conn name rids listed todo =>
    cases rids <;> simp only [callerEffect, hPc] <;> exact setCaller_ne _ _ h
  | _ =>
    simp only [callerEffect, hPc]
    exact setCaller_ne _ _ h

theorem callers_effect_of_not_caller (s : ChannelDispatch) {e : DispatchEvent} {m : Nat}
    (h : ∀ n c, e = .caller n c → m ≠ n) :
    (s.effect print proxyName e).callers m = s.callers m ∨
      (∃ conn rid name text, e = .route m conn rid name text ∧
        (s.effect print proxyName e).callers m = .connectionSetting conn rid name text) ∨
      ∃ conn rids, e = .dropConn m conn ∧
        clientConnectionTableRequestDup s.connections conn = some rids ∧
        (s.effect print proxyName e).callers m = .grouping conn rids HashTable.empty := by
  cases e with
  | route n conn rid name text =>
    by_cases hEq : m = n
    · subst hEq
      exact .inr (.inl ⟨conn, rid, name, text, rfl, setCaller_self ..⟩)
    · exact .inl (setCaller_ne _ _ hEq)
  | dropConn n conn =>
    simp only [effect, dropConnStart]
    split
    · exact .inl rfl
    · rename_i rids hDup
      by_cases hEq : m = n
      · subst hEq
        exact .inr (.inr ⟨conn, rids, rfl, hDup, setCaller_self ..⟩)
      · exact .inl (setCaller_ne _ _ hEq)
  | caller n c => exact .inl (callers_callerEffect_ne s c (h n c rfl))
  | activator outcome pickIdle pickDispatcher pick =>
    simp only [effect, activatorEffect]
    split
    case h_4 => split <;> exact .inl rfl
    all_goals exact .inl rfl
  | terminator =>
    simp only [effect, terminatorEffect]
    split <;> exact .inl rfl
  | killer pickIdle pickDispatcher pick =>
    simp only [effect, killEffect]
    split
    · exact .inl rfl
    · split <;> exact .inl rfl
  | channel | proxy | activate | pick | removeService | dropName | spurious => exact .inl rfl

theorem naming_callerEffect {n : Nat} {c : CallerChoice} {rid : Rid}
    (hEnabled : s.callerEnabled proxyName n = true)
    (h : ((s.callerEffect print proxyName n c).callers n).naming = some rid) :
    rid ∈ (s.callerAction print n c).stores.map Prod.fst := by
  have hAt : ∀ {s' : ChannelDispatch} {pc : CallerPc}, pc.naming = none →
      ((s'.setCaller n pc).callers n).naming = some rid → False := by
    intro s' pc hNone hSome
    rw [setCaller_self, hNone] at hSome
    cases hSome
  cases hPc : s.callers n with
  | ready => simp [callerEnabled, hPc] at hEnabled
  | serviceSetting other name text =>
    simp only [callerEffect, callerAction, hPc] at h ⊢
    rw [setCaller_self] at h
    cases h
    exact List.mem_singleton_self _
  | finding name =>
    simp only [callerEffect, hPc] at h
    split at h <;> exact (hAt rfl h).elim
  | grouping conn rids grouped =>
    cases rids <;> simp only [callerEffect, hPc] at h <;> exact (hAt rfl h).elim
  | nameDropping conn other names rids grouped =>
    cases names <;> simp only [callerEffect, hPc] at h
    · exact (hAt rfl h).elim
    · split at h <;> exact (hAt rfl h).elim
  | dropFinding conn todo =>
    cases todo with
    | nil =>
      simp only [callerEffect, hPc] at h
      exact (hAt rfl h).elim
    | cons target todo =>
      simp only [callerEffect, hPc] at h
      split_ifs at h <;> exact (hAt rfl h).elim
  | dropStoring conn name rids listed todo =>
    cases rids with
    | nil =>
      simp only [callerEffect, hPc] at h
      exact (hAt rfl h).elim
    | cons requestUuid rids =>
      simp only [callerEffect, callerAction, hPc] at h ⊢
      rw [setCaller_self] at h
      cases h
      exact List.mem_singleton_self _
  | connectionSetting | nameSetting | tableLocking | waking | tableUnlocking | serviceRemoving
  | keysCopying | dropLocking | dropListing | dropWaking | dropUnlocking | connectionRemoving =>
    simp only [callerEffect, hPc] at h
    exact (hAt rfl h).elim

theorem naming_effect {e : DispatchEvent} (hGuard : s.guard proxyName e) {m : Nat} {rid : Rid}
    (h : ((s.effect print proxyName e).callers m).naming = some rid) :
    (s.callers m).naming = some rid ∨ rid ∈ (s.tableAction print e).stores.map Prod.fst := by
  by_cases hOwn : ∃ n c, e = .caller n c ∧ m = n
  · obtain ⟨n, c, rfl, rfl⟩ := hOwn
    exact .inr (naming_callerEffect hGuard h)
  · rcases @callers_effect_of_not_caller print proxyName s e m
      (fun n c hEq hSame => hOwn ⟨n, c, hEq, hSame⟩) with hSame | ⟨_, _, _, _, -, hNew⟩ |
      ⟨_, _, -, -, hNew⟩
    · exact .inl (hSame ▸ h)
    · rw [hNew] at h
      cases h
    · rw [hNew] at h
      cases h

theorem caller_of_inserts {e : DispatchEvent} {name : ProxyName} {rid : Rid}
    (h : (name, rid) ∈ (s.tableAction print e).inserts) :
    ∃ n c, e = .caller n c ∧ (s.callers n).naming = some rid := by
  cases e with
  | caller n c =>
    refine ⟨n, c, rfl, ?_⟩
    simp only [tableAction, callerAction] at h
    split at h <;> simp_all [TableAction.inserts, CallerPc.naming]
  | channel e => cases e <;> simp [tableAction, TableAction.inserts] at h
  | terminator =>
    simp only [tableAction] at h
    split at h <;> simp [TableAction.inserts] at h
  | _ => simp [tableAction, TableAction.inserts] at h

theorem not_mem_of_stores {e : DispatchEvent} (hFresh : s.Fresh e) {rid : Rid}
    (h : rid ∈ (s.tableAction print e).stores.map Prod.fst) : rid ∉ s.history.stored.map Prod.fst := by
  cases e with
  | caller n c =>
    simp only [tableAction, callerAction] at h
    simp only [Fresh, FreshStep] at hFresh
    split at h <;> simp_all [TableAction.stores]
  | channel e => cases e <;> simp [tableAction, TableAction.stores] at h
  | terminator =>
    simp only [tableAction] at h
    split at h <;> simp [TableAction.stores] at h
  | _ => simp [tableAction, TableAction.stores] at h

theorem not_mem_of_inserts {e : DispatchEvent} (hFresh : s.Fresh e) {name : ProxyName} {rid : Rid}
    (h : (name, rid) ∈ (s.tableAction print e).inserts) : rid ∉ s.history.inserted.map Prod.snd := by
  obtain ⟨n, c, rfl, hNaming⟩ := caller_of_inserts h
  simp only [Fresh, FreshStep] at hFresh
  cases hPc : s.callers n <;> simp_all [CallerPc.naming]

/-- What the channel thread leaves alone. -/
structure ChannelFrame (c c' : ProxyChannel) : Prop where
  services : c'.services = c.services
  workers : c'.workers = c.workers
  killer : c'.killer = c.killer
  registered : c'.registered = c.registered
  stop : c'.stop = c.stop

theorem channelEffect_frame (proxyName : ProxyName) (c : ProxyChannel) (e : ChannelEvent) :
    ChannelFrame c (c.channelEffect proxyName e) := by
  have hWait : ∀ outcome job created, ChannelFrame c (c.channelIdleWait outcome job created) := by
    intro outcome job created
    cases outcome with
    | proceed => cases job <;> cases created <;> exact ⟨rfl, rfl, rfl, rfl, rfl⟩
    | refused | sleep => exact ⟨rfl, rfl, rfl, rfl, rfl⟩
  cases e with
  | idleLock job created => exact hWait _ job created
  | idleRelock job created => exact hWait _ job created
  | answer rid pending =>
    simp only [ProxyChannel.channelEffect, ProxyChannel.channelAnswer]
    split_ifs <;> exact ⟨rfl, rfl, rfl, rfl, rfl⟩
  | _ => exact ⟨rfl, rfl, rfl, rfl, rfl⟩

theorem proxyEffect_frame (c : ProxyChannel) (e : ProxyEvent) :
    ChannelFrame c (c.proxyEffect e) ∧ (c.proxyEffect e).proxynames = c.proxynames ∧
      (c.proxyEffect e).channel = c.channel ∧ (c.proxyEffect e).wakeup = c.wakeup ∧
      (c.proxyEffect e).ctxLock = c.ctxLock := by
  cases e with
  | react fails pick =>
    simp only [ProxyChannel.proxyEffect, ProxyChannel.proxyReact]
    split <;> exact ⟨⟨rfl, rfl, rfl, rfl, rfl⟩, rfl, rfl, rfl, rfl⟩
  | _ => exact ⟨⟨rfl, rfl, rfl, rfl, rfl⟩, rfl, rfl, rfl, rfl⟩

theorem actsOn_activatorEffect (s : ChannelDispatch) (outcome : ActivationOutcome)
    (pickIdle pickDispatcher pick : Nat) :
    ActsOn proxyName s (s.activatorEffect outcome pickIdle pickDispatcher pick) .none := by
  unfold activatorEffect
  split
  case h_4 => split <;> exact .none rfl rfl rfl rfl
  all_goals exact .none rfl rfl rfl rfl

theorem actsOn_killEffect (s : ChannelDispatch) (turn : KillTurn) (pickIdle pickDispatcher pick : Nat) :
    ActsOn proxyName s (s.killEffect turn pickIdle pickDispatcher pick) .none := by
  unfold killEffect
  split <;> exact .none rfl rfl rfl rfl

theorem actsOn_effect (s : ChannelDispatch) (e : DispatchEvent) :
    ActsOn proxyName s (s.effect print proxyName e) (s.tableAction print e) := by
  cases e with
  | route | activate | pick => exact .none rfl rfl rfl rfl
  | dropConn n conn =>
    simp only [effect, dropConnStart]
    split <;> exact .none rfl rfl rfl rfl
  | caller n c => exact actsOn_callerEffect s n c
  | channel e =>
    have hServices := (channelEffect_frame proxyName s.current e).services
    by_cases hSent : ∃ rid pending, e = .sent rid pending
    · obtain ⟨rid, pending, rfl⟩ := hSent
      exact ⟨rfl, rfl, (List.append_nil _).symm, (List.append_nil _).symm⟩
    · have hNot : ∀ rid pending, e ≠ .sent rid pending := fun rid pending hEq =>
        hSent ⟨rid, pending, hEq⟩
      have hNone : s.tableAction print (.channel e) = .none := by
        cases e with
        | sent rid pending => exact absurd rfl (hNot rid pending)
        | _ => rfl
      rw [hNone]
      exact .none hServices (ProxyChannel.channelEffect_tables _ _ hNot) rfl rfl
  | proxy e =>
    obtain ⟨hFrame, hProxynames, -⟩ := proxyEffect_frame s.current e
    exact .none hFrame.services hProxynames rfl rfl
  | activator outcome pickIdle pickDispatcher pick => exact actsOn_activatorEffect ..
  | terminator =>
    simp only [effect, terminatorEffect, tableAction]
    cases s.terminator with
    | unsenting => exact ⟨rfl, rfl, (List.append_nil _).symm, (List.append_nil _).symm⟩
    | idle | waiting | killing | dropping => exact .none rfl rfl rfl rfl
  | killer pickIdle pickDispatcher pick =>
    simp only [effect]
    split
    · exact .none rfl rfl rfl rfl
    · exact actsOn_killEffect ..
  | removeService rid => exact actsOn_removeService s rid
  | dropName name rid => exact actsOn_dropName s name rid
  | spurious => exact .none rfl rfl rfl rfl

/-! ## The channel thread and the threads that start and end it -/

/-- The signal on the condition of the context, sent under its lock. -/
def Signals (c c' : ProxyChannel) : Prop :=
  c.ctxLock = none ∧ ∃ pick, c'.wakeup = c.wakeup.signal pick

/-- The channel is as it was, but for the tables, its registration, the terminate array and a signal. -/
structure CurrentFrame (c c' : ProxyChannel) : Prop where
  channel : c'.channel = c.channel
  shm : c'.shm = c.shm
  ctxLock : c'.ctxLock = c.ctxLock
  workers : c'.workers = c.workers
  killer : c'.killer = c.killer
  tableLock : c'.tableLock = c.tableLock
  wakeup : c'.wakeup = c.wakeup ∨ Signals c c'

/-- What the callers and the actions on the tables leave alone. -/
structure ThreadFrame (s s' : ChannelDispatch) : Prop extends CurrentFrame s.current s'.current where
  registered : s'.current.registered = s.current.registered
  activator : s'.activator = s.activator
  terminator : s'.terminator = s.terminator
  kill : s'.kill = s.kill
  handedOver : s'.history.handedOver = s.history.handedOver
  mark : s'.history.mark = s.history.mark
  drained : s'.history.drained = s.history.drained
  handled : s'.history.handled = s.history.handled

/-- All of these at once. -/
def threads (s : ChannelDispatch) :=
  (s.current.channel, s.current.shm, s.current.ctxLock, s.current.workers, s.current.killer,
    s.current.tableLock, s.current.registered, s.activator, s.terminator, s.kill,
    s.history.handedOver, s.history.mark, s.history.drained, s.history.handled)

theorem ThreadFrame.of_threads {s' : ChannelDispatch} (h : s'.threads = s.threads)
    (hWakeup : s'.current.wakeup = s.current.wakeup ∨ Signals s.current s'.current) :
    ThreadFrame s s' := by
  simp only [threads, Prod.mk.injEq] at h
  obtain ⟨h1, h2, h3, h4, h5, h6, h7, h8, h9, h10, h11, h12, h13, h14⟩ := h
  exact ⟨⟨h1, h2, h3, h4, h5, h6, hWakeup⟩, h7, h8, h9, h10, h11, h12, h13, h14⟩

theorem callerEffect_frame (s : ChannelDispatch) (n : Nat) (c : CallerChoice)
    (hEnabled : s.callerEnabled proxyName n = true) :
    ThreadFrame s (s.callerEffect print proxyName n c) := by
  cases hPc : s.callers n with
  | ready | connectionSetting | tableLocking | finding | tableUnlocking | keysCopying
  | dropLocking | dropUnlocking | connectionRemoving =>
    simp only [callerEffect, hPc]
    exact .of_threads rfl (.inl rfl)
  | serviceSetting | nameSetting | serviceRemoving | dropListing =>
    simp only [callerEffect, hPc]
    exact .of_threads rfl (.inl rfl)
  | waking =>
    simp only [callerEnabled, hPc, Option.isNone_iff_eq_none] at hEnabled
    simp only [callerEffect, hPc]
    exact .of_threads rfl (.inr ⟨hEnabled, c.pick, rfl⟩)
  | dropWaking conn name todo =>
    simp only [callerEnabled, hPc, Bool.or_eq_true, decide_eq_true_eq, Option.isNone_iff_eq_none] at hEnabled
    simp only [callerEffect, hPc]
    split
    · rename_i hName
      have hFree := hEnabled.resolve_left fun hNe => hNe hName
      exact .of_threads rfl (.inr ⟨hFree, c.pick, rfl⟩)
    · exact .of_threads rfl (.inl rfl)
  | grouping conn rids grouped =>
    cases rids <;> simp only [callerEffect, hPc] <;> exact .of_threads rfl (.inl rfl)
  | nameDropping conn rid names rids grouped =>
    cases names <;> simp only [callerEffect, hPc]
    · exact .of_threads rfl (.inl rfl)
    · exact .of_threads rfl (.inl rfl)
  | dropFinding conn todo =>
    cases todo with
    | nil =>
      simp only [callerEffect, hPc]
      exact .of_threads rfl (.inl rfl)
    | cons target todo =>
      simp only [callerEffect, hPc]
      split_ifs <;> exact .of_threads rfl (.inl rfl)
  | dropStoring conn name rids listed todo =>
    cases rids <;> simp only [callerEffect, hPc]
    · exact .of_threads rfl (.inl rfl)
    · exact .of_threads rfl (.inl rfl)

/-- What can become of the current channel. -/
inductive CurrentStep (proxyName : ProxyName) (c : ProxyChannel) : ProxyChannel → Prop
  | frame {c' : ProxyChannel} : CurrentFrame c c' → CurrentStep proxyName c c'
  | channel (e : ChannelEvent) : c.channelGuard e → CurrentStep proxyName c (c.channelEffect proxyName e)
  | proxy (e : ProxyEvent) : c.proxyGuard e → CurrentStep proxyName c (c.proxyEffect e)
  | stopSegment (pickIdle pickDispatcher : Nat) :
      CurrentStep proxyName c (c.stopSegment pickIdle pickDispatcher)
  | stopContext (pick : Nat) : c.ctxLock = none → CurrentStep proxyName c (c.stopContext pick)
  | restarted : CurrentStep proxyName c c.restarted

theorem CurrentFrame.refl (c : ProxyChannel) : CurrentFrame c c :=
  ⟨rfl, rfl, rfl, rfl, rfl, rfl, .inl rfl⟩

theorem CurrentFrame.wake {c : ProxyChannel} (hFree : c.ctxLock = none) (pick : Nat) :
    CurrentFrame c (c.wake pick) :=
  ⟨rfl, rfl, rfl, rfl, rfl, rfl, .inr ⟨hFree, pick, rfl⟩⟩

theorem currentStep_activatorEffect (hEnabled : s.activatorEnabled = true) (outcome : ActivationOutcome)
    (pickIdle pickDispatcher pick : Nat) : CurrentStep proxyName s.current
      (s.activatorEffect outcome pickIdle pickDispatcher pick).current := by
  have hQuiet : ∀ {c : ProxyChannel}, CurrentFrame s.current c → CurrentStep proxyName s.current c :=
    .frame
  cases hPc : s.activator with
  | idle | killing | waiting | responding | joining =>
    simp only [activatorEffect, hPc]
    exact hQuiet (.refl _)
  | creating =>
    simp only [activatorEffect, hPc]
    split
    · exact .restarted
    · exact hQuiet (.refl _)
  | arraySetting | registering =>
    simp only [activatorEffect, hPc]
    exact hQuiet ⟨rfl, rfl, rfl, rfl, rfl, rfl, .inl rfl⟩
  | waking | draining =>
    simp only [activatorEnabled, hPc, Option.isNone_iff_eq_none] at hEnabled
    simp only [activatorEffect, hPc]
    exact hQuiet (.wake hEnabled pick)
  | terminating =>
    simp only [activatorEffect, hPc]
    exact .stopSegment ..
  | stopping =>
    simp only [activatorEnabled, hPc, Option.isNone_iff_eq_none] at hEnabled
    simp only [activatorEffect, hPc]
    exact .stopContext pick hEnabled

theorem currentStep_killEffect {turn : KillTurn} (hTurn : s.kill = some turn)
    (hEnabled : s.killerEnabled = true) (pickIdle pickDispatcher pick : Nat) :
    CurrentStep proxyName s.current (s.killEffect turn pickIdle pickDispatcher pick).current := by
  cases hPc : turn.pc with
  | ready | tableLocking | finding | tableUnlocking | joining | killed =>
    simp only [killEffect, hPc]
    exact .frame (.refl _)
  | terminating =>
    simp only [killEffect, hPc]
    exact .stopSegment ..
  | stopping =>
    simp only [killerEnabled, hTurn, hPc, Option.isNone_iff_eq_none] at hEnabled
    simp only [killEffect, hPc]
    exact .stopContext pick hEnabled
  | removing =>
    simp only [killEffect, hPc]
    exact .frame ⟨rfl, rfl, rfl, rfl, rfl, rfl, .inl rfl⟩

theorem threadFrame_effect {e : DispatchEvent} (hGuard : s.guard proxyName e)
    (h : match e with
      | .route _ _ _ _ _ | .dropConn _ _ | .caller _ _ | .removeService _ | .dropName _ _ => True
      | _ => False) : ThreadFrame s (s.effect print proxyName e) := by
  cases e with
  | route | removeService | dropName => exact .of_threads rfl (.inl rfl)
  | dropConn n conn =>
    simp only [effect, dropConnStart]
    split <;> exact .of_threads rfl (.inl rfl)
  | caller n c => exact callerEffect_frame s n c hGuard
  | channel | proxy | activate | activator | pick | terminator | killer | spurious => exact h.elim

theorem currentStep_effect {e : DispatchEvent} (hGuard : s.guard proxyName e)
    (hSignalled : e ≠ .spurious) : CurrentStep proxyName s.current (s.effect print proxyName e).current := by
  cases e with
  | route | dropConn | caller | removeService | dropName =>
    exact .frame (threadFrame_effect hGuard trivial).toCurrentFrame
  | channel e => exact .channel e hGuard
  | proxy e => exact .proxy e hGuard
  | activate | pick => exact .frame (.refl _)
  | activator outcome pickIdle pickDispatcher pick => exact currentStep_activatorEffect hGuard ..
  | terminator =>
    simp only [effect, terminatorEffect]
    split <;> exact .frame ⟨rfl, rfl, rfl, rfl, rfl, rfl, .inl rfl⟩
  | killer pickIdle pickDispatcher pick =>
    simp only [effect]
    split
    · exact .frame (.refl _)
    · rename_i turn hTurn
      exact currentStep_killEffect hTurn hGuard ..
  | spurious => exact absurd rfl hSignalled

theorem channel_effect {e : DispatchEvent} (hGuard : s.guard proxyName e) :
    (s.effect print proxyName e).current.channel = s.current.channel ∨
      (s.effect print proxyName e).current.channel = .started ∨
      ∃ e', e = .channel e' ∧ s.current.channelGuard e' := by
  cases e with
  | spurious => exact .inl rfl
  | channel e => exact .inr (.inr ⟨e, rfl, hGuard⟩)
  | proxy e => exact .inl (proxyEffect_frame s.current e).2.2.1
  | activator outcome pickIdle pickDispatcher pick =>
    simp only [effect, activatorEffect]
    split
    case h_4 =>
      split
      · exact .inr (.inl rfl)
      · exact .inl rfl
    all_goals exact .inl rfl
  | terminator =>
    simp only [effect, terminatorEffect]
    split <;> exact .inl rfl
  | killer pickIdle pickDispatcher pick =>
    simp only [effect, killEffect]
    split
    · exact .inl rfl
    · split <;> exact .inl rfl
  | activate | pick => exact .inl rfl
  | route | dropConn | caller | removeService | dropName =>
    have hFrame : ThreadFrame s (s.effect print proxyName _) := threadFrame_effect hGuard trivial
    exact .inl hFrame.channel

/-- The request that the step hands over. -/
def handsOver (s : ChannelDispatch) : DispatchEvent → Option (Rid × String)
  | .channel e => s.current.handsOver e
  | _ => none

theorem handedOver_effect {e : DispatchEvent} (hGuard : s.guard proxyName e) :
    (s.effect print proxyName e).history.handedOver =
        s.history.handedOver ++ (s.handsOver e).toList ∧
      ((s.effect print proxyName e).history.mark = s.history.mark ∨
        (s.effect print proxyName e).history.mark = s.history.handedOver.length) := by
  have hNone : s.history.handedOver = s.history.handedOver ++ [] := (List.append_nil _).symm
  cases e with
  | spurious | activate | pick | proxy => exact ⟨hNone, .inl rfl⟩
  | channel e => exact ⟨rfl, .inl rfl⟩
  | activator outcome pickIdle pickDispatcher pick =>
    simp only [effect, activatorEffect]
    split
    case h_4 =>
      split
      · exact ⟨hNone, .inr rfl⟩
      · exact ⟨hNone, .inl rfl⟩
    all_goals exact ⟨hNone, .inl rfl⟩
  | terminator =>
    simp only [effect, terminatorEffect]
    split <;> exact ⟨hNone, .inl rfl⟩
  | killer pickIdle pickDispatcher pick =>
    simp only [effect, killEffect]
    split
    · exact ⟨hNone, .inl rfl⟩
    · split <;> exact ⟨hNone, .inl rfl⟩
  | route | dropConn | caller | removeService | dropName =>
    have hFrame : ThreadFrame s (s.effect print proxyName _) := threadFrame_effect hGuard trivial
    exact ⟨hFrame.handedOver.trans hNone, .inl hFrame.mark⟩

theorem mem_handedOverNow_effect {e : DispatchEvent} (hGuard : s.guard proxyName e) {rid : Rid}
    (h : rid ∈ (s.effect print proxyName e).handedOverNow.map Prod.fst) :
    rid ∈ s.handedOverNow.map Prod.fst ∨ ∃ text, s.handsOver e = some (rid, text) := by
  obtain ⟨hHandedOver, hMark⟩ := @handedOver_effect print proxyName s e hGuard
  have hAppend : rid ∈ (s.handedOverNow ++ (s.handsOver e).toList).map Prod.fst := by
    obtain ⟨entry, hMem, rfl⟩ := List.mem_map.mp h
    refine List.mem_map_of_mem ?_
    rw [handedOverNow, hHandedOver, List.drop_append] at hMem
    rcases List.mem_append.mp hMem with hOld | hNew
    · rcases hMark with hMark | hMark
      · rw [hMark] at hOld
        exact List.mem_append_left _ hOld
      · rw [hMark, List.drop_length] at hOld
        cases hOld
    · exact List.mem_append_right _ (List.mem_of_mem_drop hNew)
  rw [List.map_append, List.mem_append] at hAppend
  refine hAppend.imp_right fun hNew => ?_
  obtain ⟨⟨other, text⟩, hMem, rfl⟩ := List.mem_map.mp hNew
  exact ⟨text, Option.mem_toList.mp hMem⟩

end ChannelDispatch

end Gonggo
