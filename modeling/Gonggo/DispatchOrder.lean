import Gonggo.DispatchInvariants

/-! # The order of the dispatch

What was handed over to an incarnation and what the channel thread may yet come to are, one after the
other, in the order in which the requests were listed.
-/

namespace Gonggo

/-- The requests of its snapshot that the channel thread has not done with. -/
def ChannelPc.unfinished : ChannelPc → List Rid
  | .exchanging pending => pending
  | .locking (.request rid _ pending) | .waiting (.request rid _ pending) => rid :: pending
  | .answering rid pending | .sending rid pending => rid :: pending
  | _ => []

/-- The request that the channel thread waits for the idle channel with. -/
def ChannelPc.inHand : ChannelPc → Option (Rid × String)
  | .locking (.request rid text _) | .waiting (.request rid text _) => some (rid, text)
  | _ => none

/-- The snapshot of a pass. -/
def unsentUnder (table : ClientProxynameTable) (proxyName : ProxyName) : List Rid :=
  ((pairsUnder table proxyName).filter fun entry => !entry.2).map Prod.fst

theorem clientProxynameTableRequestDup_eq_unsentUnder (table : ClientProxynameTable)
    (proxyName : ProxyName) :
    (clientProxynameTableRequestDup table proxyName true).getD [] = unsentUnder table proxyName := by
  cases hValue : table.lookup proxyName with
  | none => simp [clientProxynameTableRequestDup, unsentUnder, pairsUnder, hValue]
  | some value => simp [clientProxynameTableRequestDup, unsentUnder, pairsUnder, hValue]

theorem listedUnder_of_mem_unsentUnder {table : ClientProxynameTable} {proxyName : ProxyName} {rid : Rid}
    (h : rid ∈ unsentUnder table proxyName) : ListedUnder table proxyName rid := by
  obtain ⟨⟨other, sent⟩, hMem, rfl⟩ := List.mem_map.mp h
  exact ⟨sent, mem_pairsUnder.mp (List.mem_of_mem_filter hMem)⟩

theorem unsentUnder_clientProxynameTableRequestSent (table : ClientProxynameTable)
    (proxyName : ProxyName) (rid : Rid) :
    unsentUnder (clientProxynameTableRequestSent table proxyName rid) proxyName =
      (unsentUnder table proxyName).filter fun other => other ≠ rid := by
  unfold unsentUnder
  rw [pairsUnder_clientProxynameTableRequestSent, if_pos rfl]
  induction pairsUnder table proxyName with
  | nil => rfl
  | cons entry entries ih =>
    obtain ⟨other, sent⟩ := entry
    by_cases hEq : other = rid <;> cases sent <;> simp_all

namespace TableAction

def insertsUnder (proxyName : ProxyName) (action : TableAction) : List Rid :=
  (action.inserts.filter fun entry => entry.1 = proxyName).map Prod.snd

variable {proxyName : ProxyName}

theorem insertsUnder_list (name : ProxyName) (rid : Rid) :
    (list name rid).insertsUnder proxyName = if name = proxyName then [rid] else [] := by
  by_cases hName : name = proxyName <;> simp [insertsUnder, inserts, hName]

/-- Entries keep their order, and a new one is the last. -/
theorem map_fst_pairsUnder_proxynames (action : TableAction) (table : ClientProxynameTable) :
    ((pairsUnder (action.proxynames proxyName table) proxyName).map Prod.fst).Sublist
      ((pairsUnder table proxyName).map Prod.fst ++ action.insertsUnder proxyName) := by
  cases action with
  | list name rid =>
    rw [insertsUnder_list, proxynames, pairsUnder_clientProxynameTableSet]
    split
    · rename_i hNew
      rw [if_pos hNew.1.symm, List.map_append]
      exact .refl _
    · exact List.sublist_append_left ..
  | unlist name rid =>
    rw [proxynames, pairsUnder_clientProxynameTableDrop]
    split
    · exact (List.filter_sublist.map _).trans (List.sublist_append_left ..)
    · exact List.sublist_append_left ..
  | sent rid =>
    rw [proxynames, pairsUnder_clientProxynameTableRequestSent, if_pos rfl, List.map_map]
    refine .trans ?_ (List.sublist_append_left ..)
    have hSame : ∀ entry : Rid × Bool,
        (if entry.1 = rid then (entry.1, true) else entry).1 = entry.1 := by
      intro entry
      split <;> rfl
    exact (List.map_congr_left fun entry _ => hSame entry) ▸ .refl _
  | unsent =>
    rw [proxynames, pairsUnder_clientProxynameTableRequestUnsent, if_pos rfl, List.map_map]
    exact List.sublist_append_left ..
  | none | store | unstore => exact List.sublist_append_left ..

theorem unsentUnder_proxynames {action : TableAction} (table : ClientProxynameTable)
    (hUnsent : action ≠ .unsent) :
    (unsentUnder (action.proxynames proxyName table) proxyName).Sublist
      (unsentUnder table proxyName ++ action.insertsUnder proxyName) := by
  cases action with
  | list name rid =>
    rw [insertsUnder_list, proxynames, unsentUnder, pairsUnder_clientProxynameTableSet]
    split
    · rename_i hNew
      rw [if_pos hNew.1.symm, List.filter_append, List.map_append]
      exact .refl _
    · exact List.sublist_append_left ..
  | unlist name rid =>
    rw [proxynames, unsentUnder, pairsUnder_clientProxynameTableDrop]
    split
    · exact ((List.filter_sublist.filter _).map _).trans (List.sublist_append_left ..)
    · exact List.sublist_append_left ..
  | sent rid =>
    rw [proxynames, unsentUnder_clientProxynameTableRequestSent]
    exact List.filter_sublist.trans (List.sublist_append_left ..)
  | unsent => exact absurd rfl hUnsent
  | none | store | unstore => exact List.sublist_append_left ..

end TableAction

theorem filter_sublist_filter {rids : List Rid} {p q : Rid → Bool}
    (h : ∀ rid ∈ rids, p rid = true → q rid = true) : (rids.filter p).Sublist (rids.filter q) := by
  have hBoth : rids.filter p = (rids.filter q).filter p := by
    rw [List.filter_filter]
    apply List.filter_congr
    intro rid hMem
    cases hP : p rid with
    | false => rfl
    | true => rw [h rid hMem hP, Bool.true_and]
  rw [hBoth]
  exact List.filter_sublist

namespace ProxyChannel

variable (proxyName : ProxyName) (c : ProxyChannel)

/-- The envelope of the request is still in the table. -/
def serviced (rid : Rid) : Bool := (c.services.lookup rid).isSome

/-- The requests of `pending` and then those listed since, apart from the ones that were `seen`. -/
def coming (seen pending : List Rid) : List Rid :=
  pending.filter c.serviced ++
    (unsentUnder c.proxynames proxyName).filter fun rid => c.serviced rid && !seen.contains rid

/-- What the channel thread may yet hand over. -/
def ahead : List Rid :=
  match c.channel with
  | .exchanging pending => c.coming proxyName pending pending
  | .locking (.request rid _ pending) | .waiting (.request rid _ pending) =>
      rid :: c.coming proxyName (rid :: pending) pending
  | .answering rid pending | .sending rid pending => c.coming proxyName (rid :: pending) pending
  | .started | .checking | .asleep => c.coming proxyName [] []
  | _ => []

variable {proxyName : ProxyName} {c c' : ProxyChannel}

theorem coming_unsentUnder (c : ProxyChannel) :
    c.coming proxyName (unsentUnder c.proxynames proxyName) (unsentUnder c.proxynames proxyName) =
      c.coming proxyName [] [] := by
  have hNone : (unsentUnder c.proxynames proxyName).filter (fun rid =>
      c.serviced rid && !(unsentUnder c.proxynames proxyName).contains rid) = [] := by
    rw [List.filter_eq_nil_iff]
    intro rid hMem
    simp [hMem]
  rw [coming, hNone, List.append_nil]
  simp [coming]

/-- A request without envelope is passed over in the snapshot and in the table alike. -/
theorem coming_unserviced {rid : Rid} (h : c.services.lookup rid = none) (pending : List Rid) :
    c.coming proxyName (rid :: pending) (rid :: pending) = c.coming proxyName pending pending := by
  have hNot : c.serviced rid = false := by simp [serviced, h]
  unfold coming
  rw [List.filter_cons_of_neg (by simp [hNot])]
  congr 1
  apply List.filter_congr
  intro other _
  by_cases hEq : other = rid
  · simp [hEq, hNot]
  · simp [hEq]

theorem coming_serviced {rid : Rid} {text : String} (h : c.services.lookup rid = some text)
    (pending : List Rid) : c.coming proxyName (rid :: pending) (rid :: pending) =
      rid :: c.coming proxyName (rid :: pending) pending := by
  unfold coming
  rw [List.filter_cons_of_pos (by simp [serviced, h]), List.cons_append]

/-- Once its flag is set, a request need not be remembered. -/
theorem coming_sent (hServices : c'.services = c.services) {rid : Rid}
    (hProxynames : c'.proxynames = clientProxynameTableRequestSent c.proxynames proxyName rid)
    (pending : List Rid) :
    c'.coming proxyName pending pending = c.coming proxyName (rid :: pending) pending := by
  unfold coming serviced
  rw [hServices, hProxynames, unsentUnder_clientProxynameTableRequestSent, List.filter_filter]
  congr 1
  apply List.filter_congr
  intro other _
  by_cases hEq : other = rid <;> simp [hEq, Bool.and_comm]

theorem coming_of_action {action : TableAction} (hServices : c'.services = action.services c.services)
    (hProxynames : c'.proxynames = action.proxynames proxyName c.proxynames) (hUnsent : action ≠ .unsent)
    {seen pending : List Rid}
    (hStores : ∀ rid ∈ action.stores.map Prod.fst,
      rid ∉ pending ∧ ¬ ListedUnder c.proxynames proxyName rid) :
    (c'.coming proxyName seen pending).Sublist
      (c.coming proxyName seen pending ++ action.insertsUnder proxyName) := by
  have hServiced : ∀ rid, rid ∉ action.stores.map Prod.fst → c'.serviced rid = true →
      c.serviced rid = true := by
    intro rid hNot hNew
    rw [serviced, hServices] at hNew
    obtain ⟨text, hText⟩ := Option.isSome_iff_exists.mp hNew
    rcases TableAction.lookup_services hText with hOld | hStored
    · rw [serviced, hOld]
      rfl
    · exact absurd (List.mem_map_of_mem hStored) hNot
  have hPending : (pending.filter c'.serviced).Sublist (pending.filter c.serviced) :=
    filter_sublist_filter fun rid hMem => hServiced rid fun hStored => (hStores rid hStored).1 hMem
  have hUnseen : ((unsentUnder c.proxynames proxyName).filter fun rid =>
      c'.serviced rid && !seen.contains rid).Sublist
      ((unsentUnder c.proxynames proxyName).filter fun rid => c.serviced rid && !seen.contains rid) := by
    apply filter_sublist_filter
    intro rid hMem hNew
    rw [Bool.and_eq_true_iff] at hNew ⊢
    refine ⟨hServiced rid (fun hStored => ?_) hNew.1, hNew.2⟩
    exact (hStores rid hStored).2 (listedUnder_of_mem_unsentUnder hMem)
  have hTable : (unsentUnder c'.proxynames proxyName).Sublist
      (unsentUnder c.proxynames proxyName ++ action.insertsUnder proxyName) := by
    rw [hProxynames]
    exact TableAction.unsentUnder_proxynames c.proxynames hUnsent
  have hKept := hTable.filter fun rid => c'.serviced rid && !seen.contains rid
  rw [List.filter_append] at hKept
  unfold coming
  rw [List.append_assoc]
  exact hPending.append (hKept.trans (hUnseen.append List.filter_sublist))

theorem ahead_of_action {action : TableAction} (hServices : c'.services = action.services c.services)
    (hProxynames : c'.proxynames = action.proxynames proxyName c.proxynames) (hUnsent : action ≠ .unsent)
    (hChannel : c'.channel = c.channel)
    (hStores : ∀ rid ∈ action.stores.map Prod.fst,
      rid ∉ c.channel.unfinished ∧ ¬ ListedUnder c.proxynames proxyName rid) :
    (c'.ahead proxyName).Sublist (c.ahead proxyName ++ action.insertsUnder proxyName) := by
  have hComing : ∀ seen pending, (∀ rid ∈ pending, rid ∈ c.channel.unfinished) →
      (c'.coming proxyName seen pending).Sublist
        (c.coming proxyName seen pending ++ action.insertsUnder proxyName) := fun seen pending hSub =>
    coming_of_action hServices hProxynames hUnsent fun rid hStored =>
      ⟨fun hMem => (hStores rid hStored).1 (hSub rid hMem), (hStores rid hStored).2⟩
  unfold ahead
  rw [hChannel]
  cases hPc : c.channel with
  | exchanging pending => exact hComing pending pending fun rid hMem => by rwa [hPc]
  | locking job | waiting job =>
    cases job with
    | stopRequest => exact List.nil_sublist _
    | request rid text pending =>
      refine (hComing (rid :: pending) pending fun other hMem => ?_).cons_cons rid
      rw [hPc]
      exact List.mem_cons_of_mem rid hMem
  | answering rid pending | sending rid pending =>
    refine hComing (rid :: pending) pending fun other hMem => ?_
    rw [hPc]
    exact List.mem_cons_of_mem rid hMem
  | started | checking | asleep => exact hComing [] [] (by simp)
  | dropping | leaving | exiting | finished => exact List.nil_sublist _

/-! ## The channel thread -/

theorem inHand_of_handsOver {e : ChannelEvent} (hGuard : c.channelGuard e) {entry : Rid × String}
    (h : c.handsOver e = some entry) : c.channel.inHand = some entry := by
  cases e with
  | idleLock job created | idleRelock job created =>
    cases job with
    | stopRequest => cases h
    | request rid text pending =>
      cases created with
      | false => cases h
      | true =>
        simp only [handsOver] at h
        split_ifs at h
        rw [hGuard.1]
        exact h
  | _ => cases h

/-- What is handed over is the first of what was to come. -/
theorem ahead_channelIdleWait {outcome : IdleWait} {job : ChannelJob}
    (hPc : c.channel = .locking job ∨ c.channel = .waiting job) :
    ((match job with
      | .request rid _ _ => if outcome = .proceed then [rid] else []
      | .stopRequest => []) ++ (c.channelIdleWait outcome job true).ahead proxyName).Sublist
      (c.ahead proxyName) := by
  cases job with
  | stopRequest => cases outcome <;> exact List.nil_sublist _
  | request rid text pending =>
    have hAhead : c.ahead proxyName = rid :: c.coming proxyName (rid :: pending) pending := by
      rcases hPc with hPc | hPc <;> simp [ahead, hPc]
    rw [hAhead]
    cases outcome with
    | proceed => exact .refl _
    | refused => exact List.nil_sublist _
    | sleep => exact .refl _

theorem ahead_channelEffect (hAnswered : ChannelDispatch.RequestAnswered c) {e : ChannelEvent}
    (hGuard : c.channelGuard e)
    (hCreated : ∀ job created, e = .idleLock job created ∨ e = .idleRelock job created → created = true) :
    ((c.handsOver e).toList.map Prod.fst ++ (c.channelEffect proxyName e).ahead proxyName).Sublist
      (c.ahead proxyName) := by
  cases e with
  | start =>
    have hAhead : c.ahead proxyName = c.coming proxyName [] [] := by simp [ahead, hGuard.1]
    rw [hAhead]
    exact .refl _
  | check =>
    have hAhead : c.ahead proxyName = c.coming proxyName [] [] := by
      simp [ahead, show c.channel = .checking from hGuard]
    rw [hAhead, ← coming_unsentUnder, ← clientProxynameTableRequestDup_eq_unsentUnder]
    simp only [channelEffect]
    split_ifs
    · exact List.nil_sublist _
    · exact List.nil_sublist _
    · exact .refl _
  | take rid pending =>
    have hAhead : c.ahead proxyName = c.coming proxyName (rid :: pending) (rid :: pending) := by
      simp [ahead, show c.channel = .exchanging (rid :: pending) from hGuard]
    rw [hAhead]
    simp only [channelEffect, clientServiceTableDup]
    cases hText : c.services.lookup rid with
    | some text =>
      rw [coming_serviced hText]
      exact .refl _
    | none =>
      rw [coming_unserviced hText]
      exact .refl _
  | sleep =>
    have hAhead : c.ahead proxyName = c.coming proxyName [] [] := by
      simp [ahead, show c.channel = .exchanging [] from hGuard]
    rw [hAhead]
    exact .refl _
  | wake =>
    have hAhead : c.ahead proxyName = c.coming proxyName [] [] := by simp [ahead, hGuard.1]
    rw [hAhead]
    exact .refl _
  | idleLock job created =>
    obtain rfl := hCreated job created (.inl rfl)
    have hWait := @ahead_channelIdleWait proxyName c c.shm.idleWaitLocked job (.inl hGuard.1)
    cases job with
    | stopRequest => exact hWait
    | request rid text pending =>
      rw [handsOver, apply_ite Option.toList, apply_ite (List.map Prod.fst)]
      exact hWait
  | idleRelock job created =>
    obtain rfl := hCreated job created (.inr rfl)
    have hWait := @ahead_channelIdleWait proxyName c c.shm.idleWaitWoken job (.inr hGuard.1)
    cases job with
    | stopRequest => exact hWait
    | request rid text pending =>
      rw [handsOver, apply_ite Option.toList, apply_ite (List.map Prod.fst)]
      exact hWait
  | answer rid pending =>
    obtain ⟨hPc, hWoken, -⟩ := hGuard
    have hAhead : c.ahead proxyName = c.coming proxyName (rid :: pending) pending := by
      simp [ahead, hPc]
    have hState := hAnswered.woken (by rw [hPc]; rfl) hWoken
    rw [hAhead]
    simp only [channelEffect, channelAnswer]
    split_ifs with hEnded hDone
    · exact List.nil_sublist _
    · exact .refl _
    · rcases hState with hState | hState | hState
      · exact absurd (.inl hState) hDone
      · exact absurd (.inr hState) hDone
      · exact absurd (.inr hState) hEnded
  | sent rid pending =>
    have hAhead : c.ahead proxyName = c.coming proxyName (rid :: pending) pending := by
      simp [ahead, show c.channel = .sending rid pending from hGuard]
    have hSame : (c.channelEffect proxyName (.sent rid pending)).coming proxyName pending pending =
        c.coming proxyName (rid :: pending) pending :=
      @coming_sent proxyName c (c.channelEffect proxyName (.sent rid pending)) rfl rid rfl pending
    rw [hAhead, ← hSame]
    exact .refl _
  | drop | leave | exit => exact List.nil_sublist _

theorem unfinished_channelIdleWait {outcome : IdleWait} {job : ChannelJob} {created : Bool} {rid : Rid}
    (hPc : c.channel = .locking job ∨ c.channel = .waiting job)
    (h : rid ∈ (c.channelIdleWait outcome job created).channel.unfinished) :
    rid ∈ c.channel.unfinished := by
  cases job with
  | stopRequest => cases outcome <;> cases h
  | request other text pending =>
    have hOld : c.channel.unfinished = other :: pending := by
      rcases hPc with hPc | hPc <;> rw [hPc] <;> rfl
    rw [hOld]
    cases outcome with
    | proceed =>
      cases created with
      | true => exact h
      | false => exact List.mem_cons_of_mem _ h
    | refused => cases h
    | sleep => exact h

theorem unfinished_channelEffect {e : ChannelEvent} (hGuard : c.channelGuard e) {rid : Rid}
    (h : rid ∈ (c.channelEffect proxyName e).channel.unfinished) :
    rid ∈ c.channel.unfinished ∨ ListedUnder c.proxynames proxyName rid := by
  cases e with
  | check =>
    simp only [channelEffect] at h
    split_ifs at h
    · cases h
    · cases h
    · rw [clientProxynameTableRequestDup_eq_unsentUnder] at h
      exact .inr (listedUnder_of_mem_unsentUnder h)
  | take other pending =>
    rw [show c.channel = .exchanging (other :: pending) from hGuard]
    simp only [channelEffect] at h
    split at h
    · exact .inl h
    · exact .inl (List.mem_cons_of_mem _ h)
  | idleLock job created => exact .inl (unfinished_channelIdleWait (.inl hGuard.1) h)
  | idleRelock job created => exact .inl (unfinished_channelIdleWait (.inr hGuard.1) h)
  | answer other pending =>
    rw [hGuard.1]
    simp only [channelEffect, channelAnswer] at h
    split_ifs at h
    · cases h
    · exact .inl h
    · exact .inl (List.mem_cons_of_mem _ h)
  | sent other pending =>
    rw [show c.channel = .sending other pending from hGuard]
    exact .inl (List.mem_cons_of_mem _ h)
  | start | sleep | wake | drop | leave | exit => cases h

theorem inHand_channelEffect {e : ChannelEvent} (hGuard : c.channelGuard e) {entry : Rid × String}
    (h : (c.channelEffect proxyName e).channel.inHand = some entry) :
    c.channel.inHand = some entry ∨ c.services.lookup entry.1 = some entry.2 := by
  cases e with
  | check =>
    simp only [channelEffect] at h
    split_ifs at h <;> cases h
  | take rid pending =>
    simp only [channelEffect, clientServiceTableDup] at h
    cases hText : c.services.lookup rid with
    | some text =>
      rw [hText] at h
      cases h
      exact .inr hText
    | none =>
      rw [hText] at h
      cases h
  | idleLock job created | idleRelock job created =>
    simp only [channelEffect, channelIdleWait] at h
    refine .inl ?_
    rw [hGuard.1]
    cases job with
    | stopRequest => split at h <;> cases h
    | request rid text pending =>
      split at h
      · cases created <;> cases h
      · cases h
      · exact h
  | answer rid pending =>
    simp only [channelEffect, channelAnswer] at h
    split_ifs at h <;> cases h
  | start | sleep | wake | sent | drop | leave | exit => cases h

end ProxyChannel

namespace ChannelDispatch

variable {print : Printer} {proxyName : ProxyName} {s s' : ChannelDispatch}

/-- The requests listed under the proxy, in the order in which they were. -/
def insertedUnder (proxyName : ProxyName) (s : ChannelDispatch) : List Rid :=
  (s.history.inserted.filter fun entry => entry.1 = proxyName).map Prod.snd

/-- What was handed over and what is about to be are envelopes stored for their requests. -/
structure Enveloped (s : ChannelDispatch) : Prop where
  handedOver : ∀ entry ∈ s.history.handedOver, entry ∈ s.history.stored
  inHand : ∀ entry, s.current.channel.inHand = some entry → entry ∈ s.history.stored

theorem Enveloped.effect (h : s.Enveloped) (hRecorded : s.Recorded) {e : DispatchEvent}
    (hGuard : s.guard proxyName e) : (s.effect print proxyName e).Enveloped := by
  have hActs : ActsOn proxyName s (s.effect print proxyName e) (s.tableAction print e) :=
    actsOn_effect s e
  have hStored : ∀ entry ∈ s.history.stored, entry ∈ (s.effect print proxyName e).history.stored := by
    intro entry hMem
    rw [hActs.stored]
    exact List.mem_append_left _ hMem
  constructor
  · intro entry hMem
    rw [(handedOver_effect hGuard).1] at hMem
    rcases List.mem_append.mp hMem with hOld | hNew
    · exact hStored entry (h.handedOver entry hOld)
    · cases e with
      | channel e =>
        have hEntry := ProxyChannel.inHand_of_handsOver hGuard (Option.mem_toList.mp hNew)
        exact hStored entry (h.inHand entry hEntry)
      | _ => cases hNew
  · rintro ⟨rid, text⟩ hSome
    rcases @channel_effect print proxyName s e hGuard with hSame | hStarted | ⟨e, rfl, hChannel⟩
    · rw [hSame] at hSome
      exact hStored _ (h.inHand _ hSome)
    · rw [hStarted] at hSome
      cases hSome
    · rcases ProxyChannel.inHand_channelEffect hChannel hSome with hOld | hText
      · exact hStored _ (h.inHand _ hOld)
      · exact hStored _ (hRecorded.services rid text hText)

theorem enveloped_started : ChannelDispatch.started.Enveloped where
  handedOver entry hMem := by cases hMem
  inHand entry hSome := by cases hSome

/-- Until the terminator takes up the proxy, what was handed over and what is to come are in the order
of the listing. -/
structure InOrder (proxyName : ProxyName) (s : ChannelDispatch) : Prop where
  listed : ((pairsUnder s.current.proxynames proxyName).map Prod.fst).Sublist
    (s.insertedUnder proxyName)
  unfinished : ∀ rid ∈ s.current.channel.unfinished, rid ∈ s.history.inserted.map Prod.snd
  mark : s.history.mark ≤ s.history.handedOver.length
  unhandled : s.history.handled = false → s.terminator = .idle
  order : s.history.handled = false →
    (s.handedOverNow.map Prod.fst ++ s.current.ahead proxyName).Sublist (s.insertedUnder proxyName)

namespace InOrder

theorem of_action (h : s.InOrder proxyName) (hRecorded : s.Recorded) {action : TableAction}
    (hActs : ActsOn proxyName s s' action) (hChannel : s'.current.channel = s.current.channel)
    (hHandedOver : s'.history.handedOver = s.history.handedOver)
    (hMark : s'.history.mark = s.history.mark)
    (hNew : ∀ rid ∈ action.stores.map Prod.fst, rid ∉ s.history.stored.map Prod.fst)
    (hUnsent : s'.history.handled = false → action ≠ .unsent)
    (hHandled : s'.history.handled = false → s.history.handled = false ∧
      (s.terminator = .idle → s'.terminator = .idle)) : s'.InOrder proxyName := by
  have hInserted : s'.insertedUnder proxyName =
      s.insertedUnder proxyName ++ action.insertsUnder proxyName := by
    rw [insertedUnder, hActs.inserted, List.filter_append, List.map_append]
    rfl
  constructor
  · rw [hInserted, hActs.proxynames]
    exact (TableAction.map_fst_pairsUnder_proxynames ..).trans (h.listed.append (.refl _))
  · intro rid hMem
    rw [hChannel] at hMem
    rw [hActs.inserted, List.map_append]
    exact List.mem_append_left _ (h.unfinished rid hMem)
  · rw [hMark, hHandedOver]
    exact h.mark
  · intro hNot
    obtain ⟨hOld, hIdle⟩ := hHandled hNot
    exact hIdle (h.unhandled hOld)
  · intro hNot
    have hAhead := ProxyChannel.ahead_of_action hActs.services hActs.proxynames (hUnsent hNot) hChannel
      fun rid hStores => by
        refine ⟨fun hMem => ?_, fun hListed => ?_⟩
        · obtain ⟨⟨name, other⟩, hInsert, rfl⟩ := List.mem_map.mp (h.unfinished rid hMem)
          exact hNew other hStores (hRecorded.inserted name other hInsert)
        · exact hNew rid hStores (hRecorded.inserted _ rid (hRecorded.listed _ rid hListed))
    have hOrder := h.order (hHandled hNot).1
    rw [handedOverNow, hMark, hHandedOver, hInserted]
    refine (List.Sublist.append (.refl _) hAhead).trans ?_
    rw [← List.append_assoc]
    exact hOrder.append (.refl _)

theorem of_quiet (h : s.InOrder proxyName) (hRecorded : s.Recorded) (hActs : ActsOn proxyName s s' .none)
    (hChannel : s'.current.channel = s.current.channel)
    (hHandedOver : s'.history.handedOver = s.history.handedOver)
    (hMark : s'.history.mark = s.history.mark)
    (hHandled : s'.history.handled = false → s.history.handled = false ∧
      (s.terminator = .idle → s'.terminator = .idle)) : s'.InOrder proxyName :=
  h.of_action hRecorded hActs hChannel hHandedOver hMark (by simp [TableAction.stores])
    (fun _ hEq => by cases hEq) hHandled

theorem channel (h : s.InOrder proxyName) (hInv : s.Invariant) {e : ChannelEvent}
    (hGuard : s.current.channelGuard e) (hOrderly : s.Orderly (.channel e)) :
    (s.effect print proxyName (.channel e)).InOrder proxyName := by
  have hActs : ActsOn proxyName s (s.effect print proxyName (.channel e))
      (s.tableAction print (.channel e)) := actsOn_effect s (.channel e)
  have hQuiet : (s.tableAction print (.channel e)).insertsUnder proxyName = [] := by cases e <;> rfl
  have hCreated : ∀ job created, e = .idleLock job created ∨ e = .idleRelock job created →
      created = true := by
    rintro job created (rfl | rfl) <;> exact hOrderly
  constructor
  · have hListed := @TableAction.map_fst_pairsUnder_proxynames proxyName
      (s.tableAction print (.channel e)) s.current.proxynames
    rw [hQuiet, List.append_nil, ← hActs.proxynames] at hListed
    exact hListed.trans h.listed
  · intro rid hMem
    rcases ProxyChannel.unfinished_channelEffect hGuard hMem with hOld | hListed
    · exact h.unfinished rid hOld
    · exact List.mem_map_of_mem (hInv.recorded.listed proxyName rid hListed)
  · exact h.mark.trans (by simp [effect])
  · exact h.unhandled
  · intro hNot
    have hAhead := @ProxyChannel.ahead_channelEffect proxyName _ hInv.answered e hGuard hCreated
    refine .trans ?_ (h.order hNot)
    simp only [handedOverNow, effect]
    rw [List.drop_append_of_le_length h.mark, List.map_append, List.append_assoc]
    exact List.Sublist.append (.refl _) hAhead

theorem restarted (h : s.InOrder proxyName) (hCurrent : s'.current = s.current.restarted)
    (hHistory : s'.history.inserted = s.history.inserted ∧
      s'.history.handedOver = s.history.handedOver ∧ s'.history.mark = s.history.handedOver.length)
    (hUnhandled : s'.history.handled = false → s'.terminator = .idle) : s'.InOrder proxyName := by
  obtain ⟨hInserted, hHandedOver, hMark⟩ := hHistory
  have hUnder : s'.insertedUnder proxyName = s.insertedUnder proxyName := by
    rw [insertedUnder, hInserted]
    rfl
  constructor
  · rw [hUnder, hCurrent]
    exact h.listed
  · rw [hCurrent]
    exact fun rid hMem => by cases hMem
  · rw [hMark, hHandedOver]
  · exact hUnhandled
  · intro _
    have hNone : s'.handedOverNow = [] := by
      rw [handedOverNow, hMark, hHandedOver, List.drop_length]
    have hAhead : s'.current.ahead proxyName =
        (unsentUnder s.current.proxynames proxyName).filter fun rid => s.current.serviced rid && true := by
      rw [hCurrent]
      rfl
    rw [hNone, hUnder, hAhead]
    exact (List.filter_sublist.trans (List.filter_sublist.map _)).trans h.listed

theorem activator (h : s.InOrder proxyName) (hRecorded : s.Recorded) (outcome : ActivationOutcome)
    (pickIdle pickDispatcher pick : Nat) :
    (s.activatorEffect outcome pickIdle pickDispatcher pick).InOrder proxyName := by
  have hActs : ActsOn proxyName s (s.activatorEffect outcome pickIdle pickDispatcher pick) .none :=
    actsOn_activatorEffect ..
  cases hPc : s.activator with
  | creating =>
    simp only [activatorEffect, hPc] at hActs ⊢
    split
    · refine h.restarted rfl ⟨rfl, rfl, rfl⟩ fun hNot => ?_
      simpa using hNot
    · exact h.of_quiet hRecorded (.none rfl rfl rfl rfl) rfl rfl rfl fun hNot => ⟨hNot, id⟩
  | _ =>
    simp only [activatorEffect, hPc] at hActs ⊢
    exact h.of_quiet hRecorded hActs rfl rfl rfl fun hNot => ⟨hNot, id⟩

theorem terminator (h : s.InOrder proxyName) (print : Printer) (hRecorded : s.Recorded)
    (hEnabled : s.terminatorEnabled = true) : (s.terminatorEffect proxyName).InOrder proxyName := by
  have hActs : ActsOn proxyName s (s.terminatorEffect proxyName) (s.tableAction print .terminator) :=
    actsOn_effect s .terminator
  have hBusy : s.terminator ≠ .idle := by
    intro hPc
    simp [terminatorEnabled, hPc] at hEnabled
  have hHandled : (s.terminatorEffect proxyName).history = s.history := by
    unfold terminatorEffect
    split <;> rfl
  have hNever : (s.terminatorEffect proxyName).history.handled = false → False := by
    rw [hHandled]
    exact fun hNot => hBusy (h.unhandled hNot)
  refine h.of_action hRecorded hActs ?_ (by rw [hHandled]) (by rw [hHandled]) ?_
    (fun hNot => (hNever hNot).elim) fun hNot => (hNever hNot).elim
  · unfold terminatorEffect
    split <;> rfl
  · simp only [tableAction]
    split <;> simp [TableAction.stores]

theorem killer (h : s.InOrder proxyName) (hInv : s.Invariant) {turn : KillTurn}
    (hTurn : s.kill = some turn) (pickIdle pickDispatcher pick : Nat) :
    (s.killEffect turn pickIdle pickDispatcher pick).InOrder proxyName := by
  have hActs : ActsOn proxyName s (s.killEffect turn pickIdle pickDispatcher pick) .none :=
    actsOn_killEffect ..
  cases hPc : turn.pc with
  | killed =>
    simp only [killEffect, hPc] at hActs ⊢
    refine h.of_quiet hInv.recorded hActs rfl rfl rfl fun hNot => ⟨hNot, fun hIdle => ?_⟩
    cases hBy : turn.byTerminator with
    | true =>
      rw [hInv.incarnated.terminator turn hTurn hBy] at hIdle
      cases hIdle
    | false => simpa [killLeave, hBy] using hIdle
  | _ =>
    simp only [killEffect, hPc] at hActs ⊢
    exact h.of_quiet hInv.recorded hActs rfl rfl rfl fun hNot => ⟨hNot, id⟩

theorem effect (h : s.InOrder proxyName) (hInv : s.Invariant) {e : DispatchEvent}
    (hGuard : s.guard proxyName e) (hOrderly : s.Orderly e) :
    (s.effect print proxyName e).InOrder proxyName := by
  have hActs : ActsOn proxyName s (s.effect print proxyName e) (s.tableAction print e) :=
    actsOn_effect s e
  have hNew : ∀ rid ∈ (s.tableAction print e).stores.map Prod.fst,
      rid ∉ s.history.stored.map Prod.fst := fun rid => not_mem_of_stores hOrderly.fresh
  cases e with
  | route | dropConn | caller | removeService | dropName =>
    have hFrame : ThreadFrame s (s.effect print proxyName _) := threadFrame_effect hGuard trivial
    refine h.of_action hInv.recorded hActs hFrame.channel hFrame.handedOver hFrame.mark hNew
      (fun _ => ?_) fun hNot => ⟨hFrame.handled ▸ hNot, fun hIdle => hFrame.terminator.trans hIdle⟩
    simp only [tableAction, callerAction]
    first
    | split <;> simp
    | simp
  | channel e => exact h.channel hInv hGuard hOrderly
  | proxy e =>
    exact h.of_quiet hInv.recorded hActs (proxyEffect_frame s.current e).2.2.1 rfl rfl
      fun hNot => ⟨hNot, id⟩
  | activate => exact h.of_quiet hInv.recorded hActs rfl rfl rfl fun hNot => ⟨hNot, id⟩
  | pick => exact h.of_quiet hInv.recorded hActs rfl rfl rfl fun hNot => by cases hNot
  | activator outcome pickIdle pickDispatcher pick => exact h.activator hInv.recorded outcome ..
  | terminator => exact h.terminator print hInv.recorded hGuard
  | killer pickIdle pickDispatcher pick =>
    simp only [ChannelDispatch.effect]
    split
    · exact h
    · rename_i turn hTurn
      exact h.killer hInv hTurn ..
  | spurious => exact hOrderly.elim

end InOrder

theorem inOrder_of_reachable
    (h : (channelDispatchSystem print proxyName).ReachableWhen (fun s e => s.Orderly e) s) :
    s.Invariant ∧ s.Enveloped ∧ s.InOrder proxyName := by
  refine h.invariant (fun s => s.Invariant ∧ s.Enveloped ∧ s.InOrder proxyName) ?_ ?_
  · rintro s rfl
    refine ⟨invariant_started, enveloped_started, List.nil_sublist _, ?_, le_refl _, fun _ => rfl, ?_⟩
    · exact fun rid hMem => by cases hMem
    · exact fun _ => List.nil_sublist _
  · rintro s e ⟨hInv, hEnveloped, hOrder⟩ hGuard hOrderly
    exact ⟨hInv.effect hGuard hOrderly, hEnveloped.effect hInv.recorded hGuard,
      hOrder.effect hInv hGuard hOrderly⟩

/-- What a running incarnation was handed over: each request once, with the envelope stored for it,
in the order of the listing. -/
structure DispatchedInOrder (proxyName : ProxyName) (s : ChannelDispatch) : Prop where
  once : (s.handedOverNow.map Prod.fst).Nodup
  stored : ∀ entry ∈ s.handedOverNow, entry ∈ s.history.stored
  storedOnce : (s.history.stored.map Prod.fst).Nodup
  ordered : (s.handedOverNow.map Prod.fst).Sublist (s.insertedUnder proxyName)

/-- The dispatch is in order until the terminator takes up the proxy. -/
theorem dispatchedInOrder
    (hReach : (channelDispatchSystem print proxyName).ReachableWhen (fun s e => s.Orderly e) s)
    (hHandled : s.history.handled = false) : s.DispatchedInOrder proxyName := by
  obtain ⟨hInv, hEnveloped, hOrder⟩ := inOrder_of_reachable hReach
  have hOrdered : (s.handedOverNow.map Prod.fst).Sublist (s.insertedUnder proxyName) :=
    (List.sublist_append_left ..).trans (hOrder.order hHandled)
  have hUnder : (s.insertedUnder proxyName).Nodup :=
    hInv.recorded.insertedOnce.sublist (List.filter_sublist.map _)
  exact
    { once := hUnder.sublist hOrdered
      stored := fun entry hMem => hEnveloped.handedOver entry (List.mem_of_mem_drop hMem)
      storedOnce := hInv.recorded.storedOnce
      ordered := hOrdered }

/-- Two requests listed in a row and handed over in one pass. -/
def samplePass : List DispatchEvent :=
  List.flatten
    [sampleActivation, sampleReaction, sampleListing 0 2 "r1" "weather" "today",
      sampleListing 1 3 "r2" "weather" "tomorrow",
      [.channel .start, .channel .check, .channel (.take "r1" ["r2"]),
        .channel (.idleLock (.request "r1" "today" ["r2"]) true)], sampleReaction,
      [.channel (.answer "r1" ["r2"]), .channel (.sent "r1" ["r2"])], sampleReaction,
      [.channel (.take "r2" []), .channel (.idleLock (.request "r2" "tomorrow" []) true)]]

set_option maxRecDepth 4000 in
theorem dispatchedInOrder_samplePass :
    ((channelDispatchSystem printUnformatted "weather").run .started samplePass).handedOverNow =
        [("r1", "today"), ("r2", "tomorrow")] ∧
      ((channelDispatchSystem printUnformatted "weather").run .started
        samplePass).DispatchedInOrder "weather" := by
  have hReach : (channelDispatchSystem printUnformatted "weather").ReachableWhen (fun s e => s.Orderly e)
      ((channelDispatchSystem printUnformatted "weather").run .started samplePass) :=
    .run (.init rfl) samplePass (by decide)
  exact ⟨rfl, dispatchedInOrder hReach rfl⟩

end ChannelDispatch

end Gonggo
