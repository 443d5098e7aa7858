import Gonggo.DispatchOrder

/-! # What a step does to a closing connection

The requests of the connection on their way through `client_service_drop_conn`, and what the other
steps leave of them.
-/

namespace Gonggo

namespace CallerPc

/-- The requests of its connection that the caller has not done with. -/
def rids : CallerPc → List Rid
  | .grouping _ rids _ => rids
  | .serviceRemoving _ rid rids _ | .keysCopying _ rid rids _ | .nameDropping _ rid _ rids _ => rid :: rids
  | _ => []

/-- The requests whose proxy the caller has yet to look up. -/
def ungrouped : CallerPc → List Rid
  | .grouping _ rids _ | .serviceRemoving _ _ rids _ | .keysCopying _ _ rids _
  | .nameDropping _ _ _ rids _ => rids
  | _ => []

/-- The request whose envelope the caller is about to remove. -/
def removing : CallerPc → Option Rid
  | .serviceRemoving _ rid _ _ => some rid
  | _ => none

/-- The request and the drop request that names it, stored and about to be listed. -/
def dropping : CallerPc → Option (Rid × Rid)
  | .dropListing _ _ requestUuid rid _ _ _ => some (requestUuid, rid)
  | _ => none

def TargetOf (todo : List (ProxyName × List Rid)) (name : ProxyName) (rid : Rid) : Prop :=
  ∃ target ∈ todo, target.1 = name ∧ rid ∈ target.2

/-- The request is grouped under the proxy and no drop request is listed for it yet. -/
def Grouped (name : ProxyName) (rid : Rid) : CallerPc → Prop
  | .grouping _ _ grouped | .serviceRemoving _ _ _ grouped | .keysCopying _ _ _ grouped
  | .nameDropping _ _ _ _ grouped | .dropLocking _ grouped => ListedUnder grouped name rid
  | .dropFinding _ todo | .dropWaking _ _ todo => TargetOf todo name rid
  | .dropStoring _ other rids _ todo => TargetOf ((other, rids) :: todo) name rid
  | .dropListing _ other requestUuid _ rids _ todo =>
      TargetOf ((other, requestUuid :: rids) :: todo) name rid
  | _ => False

theorem ungrouped_sublist_rids (pc : CallerPc) : pc.ungrouped.Sublist pc.rids := by
  cases pc <;> simp [ungrouped, rids]

theorem closing_of_ungrouped {pc : CallerPc} {rid : Rid} (h : rid ∈ pc.ungrouped) :
    ∃ conn, pc.closing = some conn := by
  cases pc with
  | grouping conn | serviceRemoving conn | keysCopying conn | nameDropping conn => exact ⟨conn, rfl⟩
  | _ => cases h

theorem targetOf_cons {other name : ProxyName} {rids : List Rid} {todo : List (ProxyName × List Rid)}
    {rid : Rid} : TargetOf ((other, rids) :: todo) name rid ↔
      other = name ∧ rid ∈ rids ∨ TargetOf todo name rid := by
  simp [TargetOf]

theorem targetOf_groupedTargets {order : Traversal ProxyName} {grouped : ClientProxynameTable}
    {name : ProxyName} {rid : Rid} :
    TargetOf (groupedTargets order grouped) name rid ↔ ListedUnder grouped name rid := by
  unfold TargetOf groupedTargets
  constructor
  · rintro ⟨target, hTarget, rfl, hRid⟩
    obtain ⟨other, hOther, rfl⟩ := List.mem_map.mp hTarget
    cases hValue : grouped.lookup other with
    | none => simp [hValue] at hRid
    | some value => exact (listedUnder_of_lookup hValue rid).mpr (by simpa [hValue] using hRid)
  · intro hListed
    have hKey := (order.mem_visit_iff _ _).mpr (mem_keys_of_listedUnder hListed)
    obtain ⟨value, hValue, hMem⟩ := (listedUnder_iff ..).mp hListed
    exact ⟨_, List.mem_map_of_mem hKey, rfl, by simpa [hValue] using hMem⟩

end CallerPc

namespace ChannelDispatch

variable {print : Printer} {proxyName : ProxyName} {s s' : ChannelDispatch}

/-! ## Submissions and drop requests -/

def submits (s : ChannelDispatch) : DispatchEvent → List (Conn × Rid)
  | .caller n _ =>
      match s.callers n with
      | .connectionSetting conn rid _ _ => [(conn, rid)]
      | _ => []
  | _ => []

def drops (s : ChannelDispatch) : DispatchEvent → List (Rid × Rid)
  | .caller n c =>
      match s.callers n with
      | .dropStoring _ _ (requestUuid :: _) _ _ => [(requestUuid, c.generated)]
      | _ => []
  | _ => []

/-- What was submitted, and which drop requests were stored, after a step. -/
structure SubmitsOn (s s' : ChannelDispatch) (submitted : List (Conn × Rid)) (drops : List (Rid × Rid)) :
    Prop where
  submitted : s'.history.submitted = s.history.submitted ++ submitted
  drops : s'.history.drops = s.history.drops ++ drops

theorem SubmitsOn.none (hSubmitted : s'.history.submitted = s.history.submitted)
    (hDrops : s'.history.drops = s.history.drops) : SubmitsOn s s' [] [] :=
  ⟨hSubmitted.trans (List.append_nil _).symm, hDrops.trans (List.append_nil _).symm⟩

theorem submitsOn_callerEffect (s : ChannelDispatch) (n : Nat) (c : CallerChoice) :
    SubmitsOn s (s.callerEffect print proxyName n c) (s.submits (.caller n c))
      (s.drops (.caller n c)) := by
  cases hPc : s.callers n with
  | connectionSetting conn rid name text =>
    simp only [callerEffect, submits, ChannelDispatch.drops, hPc]
    exact ⟨rfl, (List.append_nil _).symm⟩
  | grouping conn rids grouped =>
    cases rids <;> simp only [callerEffect, submits, ChannelDispatch.drops, hPc] <;> exact .none rfl rfl
  | nameDropping conn rid names rids grouped =>
    cases names <;> simp only [callerEffect, submits, ChannelDispatch.drops, hPc] <;> exact .none rfl rfl
  | dropFinding conn todo =>
    cases todo with
    | nil =>
      simp only [callerEffect, submits, ChannelDispatch.drops, hPc]
      exact .none rfl rfl
    | cons target todo =>
      simp only [callerEffect, submits, ChannelDispatch.drops, hPc]
      split_ifs <;> exact .none rfl rfl
  | dropStoring conn name rids listed todo =>
    cases rids with
    | nil =>
      simp only [callerEffect, submits, ChannelDispatch.drops, hPc]
      exact .none rfl rfl
    | cons requestUuid rids =>
      simp only [callerEffect, submits, ChannelDispatch.drops, hPc]
      exact ⟨(List.append_nil _).symm, rfl⟩
  | _ =>
    simp only [callerEffect, submits, ChannelDispatch.drops, hPc]
    exact .none rfl rfl

theorem submitsOn_effect (s : ChannelDispatch) (e : DispatchEvent) :
    SubmitsOn s (s.effect print proxyName e) (s.submits e) (s.drops e) := by
  cases e with
  | caller n c => exact submitsOn_callerEffect s n c
  | dropConn n conn =>
    simp only [effect, dropConnStart]
    split <;> exact .none rfl rfl
  | activator outcome pickIdle pickDispatcher pick =>
    simp only [effect, activatorEffect]
    split
    case h_4 => split <;> exact .none rfl rfl
    all_goals exact .none rfl rfl
  | terminator =>
    simp only [effect, terminatorEffect]
    split <;> exact .none rfl rfl
  | killer pickIdle pickDispatcher pick =>
    simp only [effect, killEffect]
    split
    · exact .none rfl rfl
    · split <;> exact .none rfl rfl
  | route | channel | proxy | activate | pick | removeService | dropName | spurious => exact .none rfl rfl

/-! ## The callers -/

/-- The connections and what is kept for each closing caller. -/
def closings (s : ChannelDispatch) :=
  (s.connections, s.callers, s.history.begun, s.history.missed, s.history.owed)

theorem closings_effect {e : DispatchEvent}
    (h : match e with
      | .route _ _ _ _ _ | .dropConn _ _ | .caller _ _ => False
      | _ => True) : (s.effect print proxyName e).closings = s.closings := by
  cases e with
  | route | dropConn | caller => exact h.elim
  | activator outcome pickIdle pickDispatcher pick =>
    simp only [effect, activatorEffect]
    split
    case h_4 => split <;> rfl
    all_goals rfl
  | terminator =>
    simp only [effect, terminatorEffect]
    split <;> rfl
  | killer pickIdle pickDispatcher pick =>
    simp only [effect, killEffect]
    split
    · rfl
    · split <;> rfl
  | channel | proxy | activate | pick | removeService | dropName | spurious => rfl

/-- What a step of one caller leaves of the others. -/
structure OthersKept (n : Nat) (s s' : ChannelDispatch) : Prop where
  callers : ∀ m, m ≠ n → s'.callers m = s.callers m
  begun : ∀ m, m ≠ n → s'.history.begun m = s.history.begun m
  missed : ∀ m, m ≠ n → s'.history.missed m = s.history.missed m

theorem othersKept_callerEffect (s : ChannelDispatch) (n : Nat) (c : CallerChoice) :
    OthersKept n s (s.callerEffect print proxyName n c) := by
  refine ⟨fun m hNe => callers_callerEffect_ne s c hNe, fun m hNe => ?_, fun m hNe => ?_⟩
  · cases hPc : s.callers n with
    | grouping conn rids grouped => cases rids <;> simp only [callerEffect, hPc] <;> rfl
    | nameDropping conn rid names rids grouped => cases names <;> simp only [callerEffect, hPc] <;> rfl
    | dropFinding conn todo =>
      cases todo with
      | nil =>
        simp only [callerEffect, hPc]
        rfl
      | cons target todo =>
        simp only [callerEffect, hPc]
        split_ifs <;> rfl
    | dropStoring conn name rids listed todo => cases rids <;> simp only [callerEffect, hPc] <;> rfl
    | connectionRemoving conn =>
      simp only [callerEffect, hPc]
      exact Function.update_of_ne hNe ..
    | _ => simp only [callerEffect, hPc] <;> rfl
  · cases hPc : s.callers n with
    | grouping conn rids grouped => cases rids <;> simp only [callerEffect, hPc] <;> rfl
    | nameDropping conn rid names rids grouped => cases names <;> simp only [callerEffect, hPc] <;> rfl
    | dropFinding conn todo =>
      cases todo with
      | nil =>
        simp only [callerEffect, hPc]
        rfl
      | cons target todo =>
        simp only [callerEffect, hPc]
        split_ifs
        · rfl
        · exact Function.update_of_ne hNe ..
        · rfl
        · rfl
    | dropStoring conn name rids listed todo => cases rids <;> simp only [callerEffect, hPc] <;> rfl
    | connectionRemoving conn =>
      simp only [callerEffect, hPc]
      exact Function.update_of_ne hNe ..
    | _ => simp only [callerEffect, hPc] <;> rfl

theorem closing_callerEffect (s : ChannelDispatch) (n : Nat) (c : CallerChoice) :
    ((s.callerEffect print proxyName n c).callers n).closing = none ∨
      ((s.callerEffect print proxyName n c).callers n).closing = (s.callers n).closing := by
  cases hPc : s.callers n with
  | ready =>
    simp only [callerEffect, hPc]
    exact .inl rfl
  | finding name =>
    simp only [callerEffect, hPc, setCaller_self]
    split <;> exact .inl rfl
  | grouping conn rids grouped =>
    cases rids <;> simp only [callerEffect, hPc, setCaller_self] <;> exact .inr rfl
  | nameDropping conn rid names rids grouped =>
    cases names <;> simp only [callerEffect, hPc, setCaller_self]
    · exact .inr rfl
    · split <;> exact .inr rfl
  | dropFinding conn todo =>
    cases todo with
    | nil =>
      simp only [callerEffect, hPc, setCaller_self]
      exact .inr rfl
    | cons target todo =>
      simp only [callerEffect, hPc]
      split_ifs <;> simp only [setCaller_self] <;> exact .inr rfl
  | dropStoring conn name rids listed todo =>
    cases rids <;> simp only [callerEffect, hPc, setCaller_self] <;> exact .inr rfl
  | connectionSetting | serviceSetting | nameSetting | tableLocking | waking | tableUnlocking
  | connectionRemoving =>
    simp only [callerEffect, hPc, setCaller_self]
    exact .inl rfl
  | serviceRemoving | keysCopying | dropLocking | dropListing | dropWaking | dropUnlocking =>
    simp only [callerEffect, hPc, setCaller_self]
    exact .inr rfl

theorem listedIn_callerEffect {n : Nat} {c : CallerChoice} {conn : Conn} {rid : Rid}
    (h : ListedIn (s.callerEffect print proxyName n c).connections conn rid) :
    ListedIn s.connections conn rid ∨ (conn, rid) ∈ s.submits (.caller n c) := by
  cases hPc : s.callers n with
  | connectionSetting other submitted name text =>
    simp only [callerEffect, hPc] at h
    rcases (listedIn_clientConnectionTableSet ..).mp h with hOld | ⟨rfl, rfl⟩
    · exact .inl hOld
    · exact .inr (by simp [submits, hPc])
  | connectionRemoving other =>
    simp only [callerEffect, hPc] at h
    exact .inl ((listedIn_remove ..).mp h).2
  | grouping other rids grouped => cases rids <;> simp only [callerEffect, hPc] at h <;> exact .inl h
  | nameDropping other rid names rids grouped =>
    cases names <;> simp only [callerEffect, hPc] at h <;> exact .inl h
  | dropFinding other todo =>
    cases todo with
    | nil =>
      simp only [callerEffect, hPc] at h
      exact .inl h
    | cons target todo =>
      simp only [callerEffect, hPc] at h
      split_ifs at h <;> exact .inl h
  | dropStoring other name rids listed todo =>
    cases rids <;> simp only [callerEffect, hPc] at h <;> exact .inl h
  | _ =>
    simp only [callerEffect, hPc] at h
    exact .inl h

theorem owed_callerEffect {n : Nat} {c : CallerChoice} {rid : Rid}
    (h : rid ∈ (s.callerEffect print proxyName n c).history.owed) :
    rid ∈ s.history.owed ∨ (∃ conn, s.callers n = .connectionRemoving conn) ∧
      rid ∈ s.history.begun n ∧ rid ∈ s.handedOverNow.map Prod.fst := by
  cases hPc : s.callers n with
  | connectionRemoving conn =>
    simp only [callerEffect, hPc] at h
    refine (List.mem_append.mp h).imp_right fun hNew => ⟨⟨conn, rfl⟩, ?_⟩
    obtain ⟨hBegun, hNow⟩ := List.mem_filter.mp hNew
    exact ⟨hBegun, of_decide_eq_true hNow⟩
  | grouping conn rids grouped => cases rids <;> simp only [callerEffect, hPc] at h <;> exact .inl h
  | nameDropping conn other names rids grouped =>
    cases names <;> simp only [callerEffect, hPc] at h <;> exact .inl h
  | dropFinding conn todo =>
    cases todo with
    | nil =>
      simp only [callerEffect, hPc] at h
      exact .inl h
    | cons target todo =>
      simp only [callerEffect, hPc] at h
      split_ifs at h <;> exact .inl h
  | dropStoring conn name rids listed todo =>
    cases rids <;> simp only [callerEffect, hPc] at h <;> exact .inl h
  | _ =>
    simp only [callerEffect, hPc] at h
    exact .inl h

/-- Entries are taken off the table of the proxies by closing callers and by other threads. -/
theorem caller_of_unlist {e : DispatchEvent} {name : ProxyName} {rid : Rid}
    (h : s.tableAction print e = .unlist name rid) :
    e = .dropName name rid ∨ ∃ n c conn, e = .caller n c ∧ (s.callers n).closing = some conn ∧
      (s.callers n).rids = rid :: (s.callers n).ungrouped := by
  cases e with
  | caller n c =>
    refine .inr ⟨n, c, ?_⟩
    simp only [tableAction, callerAction] at h
    cases hPc : s.callers n with
    | nameDropping conn other names rids grouped =>
      cases names with
      | nil => simp [hPc] at h
      | cons other names =>
        simp only [hPc] at h
        cases h
        exact ⟨conn, rfl, rfl, rfl⟩
    | dropStoring conn other rids listed todo => cases rids <;> simp [hPc] at h
    | _ => simp [hPc] at h
  | channel e => cases e <;> cases h
  | terminator =>
    simp only [tableAction] at h
    split at h <;> cases h
  | dropName other dropped =>
    cases h
    exact .inl rfl
  | route | dropConn | proxy | activate | activator | pick | killer | removeService | spurious => cases h

theorem caller_of_drops {e : DispatchEvent} {rid drop : Rid} (h : (rid, drop) ∈ s.drops e) :
    ∃ n c conn name rids listed todo, e = .caller n c ∧
      s.callers n = .dropStoring conn name (rid :: rids) listed todo ∧ drop = c.generated := by
  cases e with
  | caller n c =>
    cases hPc : s.callers n with
    | dropStoring conn name rids listed todo =>
      cases rids with
      | nil => simp [drops, hPc] at h
      | cons requestUuid rids =>
        simp only [drops, hPc, List.mem_singleton, Prod.mk.injEq] at h
        obtain ⟨rfl, rfl⟩ := h
        exact ⟨n, c, conn, name, rids, listed, todo, rfl, hPc, rfl⟩
    | _ => simp [drops, hPc] at h
  | _ => cases h

theorem channel_of_sent {e : DispatchEvent} {rid : Rid} (h : s.tableAction print e = .sent rid) :
    ∃ pending, e = .channel (.sent rid pending) := by
  cases e with
  | caller n c =>
    simp only [tableAction, callerAction] at h
    split at h <;> cases h
  | channel e =>
    cases e with
    | sent other pending =>
      cases h
      exact ⟨pending, rfl⟩
    | _ => cases h
  | terminator =>
    simp only [tableAction] at h
    split at h <;> cases h
  | _ => cases h

end ChannelDispatch

namespace ChannelPc

/-- The request that the proxy has. -/
def handing : ChannelPc → Option Rid
  | .answering rid _ | .sending rid _ => some rid
  | _ => none

end ChannelPc

namespace ProxyChannel

variable {proxyName : ProxyName} {c : ProxyChannel}

theorem handing_channelIdleWait {outcome : IdleWait} {job : ChannelJob} {created : Bool} {rid : Rid}
    (h : (c.channelIdleWait outcome job created).channel.handing = some rid) :
    ∃ text pending, job = .request rid text pending ∧ outcome = .proceed ∧ created = true := by
  cases outcome with
  | proceed =>
    cases job with
    | stopRequest => cases h
    | request other text pending =>
      cases created with
      | false => cases h
      | true =>
        cases h
        exact ⟨text, pending, rfl, rfl, rfl⟩
  | refused => cases job <;> cases h
  | sleep => cases h

/-- The proxy has what it had or what this step hands over. -/
theorem handing_channelEffect {e : ChannelEvent} (hGuard : c.channelGuard e) {rid : Rid}
    (h : (c.channelEffect proxyName e).channel.handing = some rid) :
    c.channel.handing = some rid ∨ ∃ text, c.handsOver e = some (rid, text) := by
  cases e with
  | check =>
    simp only [channelEffect] at h
    split_ifs at h <;> cases h
  | take other pending =>
    simp only [channelEffect] at h
    split at h <;> cases h
  | idleLock job created =>
    obtain ⟨text, pending, rfl, hProceed, rfl⟩ := handing_channelIdleWait h
    exact .inr ⟨text, by simp [handsOver, hProceed]⟩
  | idleRelock job created =>
    obtain ⟨text, pending, rfl, hProceed, rfl⟩ := handing_channelIdleWait h
    exact .inr ⟨text, by simp [handsOver, hProceed]⟩
  | answer other pending =>
    rw [hGuard.1]
    simp only [channelEffect, channelAnswer] at h
    split_ifs at h <;> cases h
    exact .inl rfl
  | start | sleep | wake | sent | drop | leave | exit => cases h

end ProxyChannel

end Gonggo
