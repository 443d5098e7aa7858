import Gonggo.Library.TransitionSystem
import Gonggo.RequestLedger

/-! # Runs of the request store

Any sequence of the operations on the request store, each completed before the next. A run keeps
the ids that were submitted by clients and the ids that were generated for drop requests. In runs
whose ids are fresh and whose answers with removal come from the proxy the request went to, the
store represents a ledger, so its four tables agree.
-/

namespace Gonggo

structure StoreRun where
  dispatcher : Dispatcher
  submitted : List (Conn × Rid)
  generated : List Rid

namespace StoreRun

def store (s : StoreRun) : RequestStore := s.dispatcher.store

/-- Every id that a request was acknowledged or a drop request created under. -/
def used (s : StoreRun) : List Rid := s.submitted.map Prod.snd ++ s.generated

end StoreRun

inductive StoreEvent
  | route (ctx : RouteContext) (uri data : String) (conn : Conn)
  | dropConn (ctx : DropConnContext) (conn : Conn)
  | answer (ctx : SubscribeContext) (proxyName : ProxyName) (posted : SubscribeAnswer)
  | timeoutPass (ctx : TimeoutContext)
  | requestSent (proxyName : ProxyName) (rid : Rid)
  | requestUnsent (proxyName : ProxyName)

def Dispatcher.withStore (d : Dispatcher) (store : RequestStore) : Dispatcher :=
  { d with store := store }

@[simp] theorem Dispatcher.store_withStore (d : Dispatcher) (store : RequestStore) :
    (d.withStore store).store = store := rfl

def RequestStore.withProxynames (store : RequestStore) (proxynames : ClientProxynameTable) :
    RequestStore :=
  { store with proxynames := proxynames }

/-- The ids that an answer is fanned out to. -/
def answeredRids (json : JsonLibrary) (answer : SubscribeAnswer) : List Rid :=
  match parsedAnswer json answer with
  | some (items, _, _) => items.filterMap CJson.valuestring
  | none => []

/-- The id is in none of the four tables. -/
structure RequestStore.Absent (store : RequestStore) (rid : Rid) : Prop where
  requests : store.requests.lookup rid = none
  connections : ∀ conn, ¬ ListedIn store.connections conn rid
  services : store.services.lookup rid = none
  proxynames : ∀ proxyName, ¬ ListedUnder store.proxynames proxyName rid

namespace StoreEvent

/-- An exchange is a step unless it faults on a missing id. -/
def guard (s : StoreRun) : StoreEvent → Prop
  | .answer ctx proxyName posted =>
      (proxySubscribeExchange ctx s.dispatcher proxyName posted).isSome = true
  | _ => True

def effect (s : StoreRun) : StoreEvent → StoreRun
  | .route ctx uri data conn =>
      { s with
        dispatcher := clientServiceRoute ctx s.dispatcher uri data conn
        submitted := s.submitted ++ ((clientServiceRoutedRid ctx uri data).map (conn, ·)).toList }
  | .dropConn ctx conn =>
      { s with
        dispatcher := s.dispatcher.withStore (clientServiceDropConn ctx s.store conn)
        generated := s.generated ++ dropConnDrawn ctx s.store conn }
  | .answer ctx proxyName posted =>
      { s with
        dispatcher := ((proxySubscribeExchange ctx s.dispatcher proxyName posted).map
          Prod.snd).getD s.dispatcher }
  | .timeoutPass ctx => { s with dispatcher := clientTimeoutPass ctx s.dispatcher }
  | .requestSent proxyName rid =>
      { s with
        dispatcher := s.dispatcher.withStore (s.store.withProxynames
          (clientProxynameTableRequestSent s.store.proxynames proxyName rid)) }
  | .requestUnsent proxyName =>
      { s with
        dispatcher := s.dispatcher.withStore (s.store.withProxynames
          (clientProxynameTableRequestUnsent s.store.proxynames proxyName)) }

/-- Ids are new, and an answer with removal is for requests of that proxy or for unknown ids. -/
def Fresh (s : StoreRun) : StoreEvent → Prop
  | .route ctx uri data _ => ∀ rid, clientServiceRoutedRid ctx uri data = some rid → rid ∉ s.used
  | .dropConn ctx conn =>
      (dropConnDrawn ctx s.store conn).Nodup ∧ ∀ rid ∈ dropConnDrawn ctx s.store conn, rid ∉ s.used
  | .answer ctx proxyName posted =>
      posted.removeRequest = true → ∀ rid ∈ answeredRids ctx.json posted,
        ListedUnder s.store.proxynames proxyName rid ∨ s.store.Absent rid
  | _ => True

end StoreEvent

def storeSystem : TransitionSystem StoreRun StoreEvent where
  init s := s = ⟨Dispatcher.empty, [], []⟩
  guard := StoreEvent.guard
  effect := StoreEvent.effect

/-! ## Loops over the ledger -/

/-- The second ledger has dropped entries of the first and changed none. -/
def Ledger.Within (ledger' ledger : Ledger) : Prop := ∀ rid, ledger' rid = none ∨ ledger' rid = ledger rid

theorem Ledger.Within.refl (ledger : Ledger) : ledger.Within ledger := fun _ => .inr rfl

theorem Ledger.Within.trans {first second third : Ledger} (h : third.Within second)
    (h' : second.Within first) : third.Within first := by
  intro rid
  rcases h rid with hNone | hEq
  · exact .inl hNone
  · rw [hEq]
    exact h' rid

theorem Ledger.forget_within (ledger : Ledger) (rid : Rid) : (ledger.forget rid).Within ledger := by
  intro other
  rw [Ledger.forget_apply]
  split
  · exact .inl rfl
  · exact .inr rfl

namespace RequestStore

variable {ledger : Ledger}

theorem Represents.absent_iff {store : RequestStore} (h : store.Represents ledger) (rid : Rid) :
    store.Absent rid ↔ ledger rid = none := by
  constructor
  · intro hAbsent
    by_contra hSome
    obtain ⟨text, hText⟩ := (h.services rid).mpr hSome
    rw [hAbsent.services] at hText
    cases hText
  · intro hNone
    have hOwner := Ledger.owner_eq_none hNone
    refine ⟨?_, ?_, ?_, ?_⟩
    · simpa [hOwner] using h.requests rid
    · intro conn hListed
      rw [h.connections, hOwner] at hListed
      cases hListed
    · apply Option.eq_none_iff_forall_ne_some.mpr
      exact fun text hText => (h.services rid).mp ⟨text, hText⟩ hNone
    · intro proxyName hListed
      rw [h.proxynames, Ledger.proxyName_eq_none hNone] at hListed
      cases hListed

theorem Represents.reply {d d' : Dispatcher} {json : JsonLibrary} {proxyName : ProxyName} {rid : Rid}
    {headers : CJson} {payload : Option CJson} {removeRequest : Bool} {now : Time}
    (h : d.store.Represents ledger)
    (hOwn : removeRequest = true → ledger.proxyName rid = some proxyName ∨ ledger rid = none)
    (hReply : proxySubscribeReply json d proxyName (some rid) headers payload removeRequest now =
      some d') : ∃ ledger', d'.store.Represents ledger' ∧ ledger'.Within ledger := by
  rw [proxySubscribeReply, Option.some.injEq] at hReply
  subst hReply
  rw [store_clientServiceReply]
  cases removeRequest with
  | false => exact ⟨ledger, h.answerKeep proxyName rid now, .refl ledger⟩
  | true => exact ⟨_, h.answerRemove proxyName rid now (hOwn rfl), ledger.forget_within rid⟩

theorem Represents.fanOut {d d' : Dispatcher} {ctx : SubscribeContext} {proxyName : ProxyName}
    {headers : CJson} {payload : Option CJson} {removeRequest : Bool} {sent : Nat} {items : List CJson}
    (h : d.store.Represents ledger)
    (hOwn : removeRequest = true → ∀ rid ∈ items.filterMap CJson.valuestring,
      ledger.proxyName rid = some proxyName ∨ ledger rid = none)
    (hOut : proxySubscribeFanOut ctx proxyName headers payload removeRequest d sent items = some d') :
    ∃ ledger', d'.store.Represents ledger' ∧ ledger'.Within ledger := by
  induction items generalizing d ledger sent with
  | nil =>
    rw [proxySubscribeFanOut, Option.some.injEq] at hOut
    subst hOut
    exact ⟨ledger, h, .refl ledger⟩
  | cons item rest ih =>
    rw [proxySubscribeFanOut] at hOut
    cases hRid : item.valuestring with
    | none => simp [hRid, proxySubscribeReply] at hOut
    | some rid =>
      rw [hRid] at hOut
      rw [List.filterMap_cons_some hRid] at hOwn
      cases hReply : proxySubscribeReply ctx.json d proxyName (some rid) headers payload removeRequest
          (ctx.clock sent) with
      | none => simp [hReply] at hOut
      | some next =>
        simp only [hReply] at hOut
        obtain ⟨ledger₁, hNext, hWithin⟩ :=
          h.reply (fun hRemove => hOwn hRemove rid List.mem_cons_self) hReply
        have hRest : removeRequest = true → ∀ other ∈ rest.filterMap CJson.valuestring,
            ledger₁.proxyName other = some proxyName ∨ ledger₁ other = none := by
          intro hRemove other hOther
          rcases hWithin other with hNone | hEq
          · exact .inr hNone
          · rw [Ledger.proxyName, hEq]
            exact hOwn hRemove other (List.mem_cons_of_mem _ hOther)
        obtain ⟨ledger₂, hDone, hWithin'⟩ := ih hNext hRest hOut
        exact ⟨ledger₂, hDone, hWithin'.trans hWithin⟩

theorem Represents.purgeCleared {d : Dispatcher} (h : d.store.Represents ledger)
    (ctx : SubscribeContext) (cleared : Option (Option Rid)) :
    ∃ ledger', (purgeCleared ctx d cleared).store.Represents ledger' ∧ ledger'.Within ledger := by
  unfold Gonggo.purgeCleared
  cases cleared.join with
  | none => exact ⟨ledger, h, .refl ledger⟩
  | some rid => exact ⟨_, h.purge ctx.purgeOrder rid, ledger.forget_within rid⟩

theorem Represents.exchange {d d' : Dispatcher} {ctx : SubscribeContext} {proxyName : ProxyName}
    {answer : SubscribeAnswer} {state : ProxySubscribeState} (h : d.store.Represents ledger)
    (hOwn : answer.removeRequest = true → ∀ rid ∈ answeredRids ctx.json answer,
      ListedUnder d.store.proxynames proxyName rid ∨ d.store.Absent rid)
    (hExchange : proxySubscribeExchange ctx d proxyName answer = some (state, d')) :
    ∃ ledger', d'.store.Represents ledger' ∧ ledger'.Within ledger := by
  unfold proxySubscribeExchange at hExchange
  unfold answeredRids at hOwn
  cases hParsed : parsedAnswer ctx.json answer with
  | none =>
    simp only [hParsed, Option.some.injEq, Prod.mk.injEq] at hExchange
    obtain ⟨-, rfl⟩ := hExchange
    exact ⟨ledger, h, .refl ledger⟩
  | some parsed =>
    obtain ⟨items, headers, payload⟩ := parsed
    simp only [hParsed, Option.map_eq_some_iff, Prod.mk.injEq] at hExchange hOwn
    obtain ⟨_, hOut, -, rfl⟩ := hExchange
    obtain ⟨ledger₁, hPurged, hWithin⟩ := h.purgeCleared ctx (clearedRid headers payload)
    have hStill : answer.removeRequest = true → ∀ rid ∈ items.filterMap CJson.valuestring,
        ledger₁.proxyName rid = some proxyName ∨ ledger₁ rid = none := by
      intro hRemove rid hRid
      rcases hWithin rid with hNone | hEq
      · exact .inr hNone
      · rw [Ledger.proxyName, hEq]
        exact (hOwn hRemove rid hRid).imp (h.proxynames proxyName rid).mp (h.absent_iff rid).mp
    obtain ⟨ledger₂, hDone, hWithin'⟩ := hPurged.fanOut hStill hOut
    exact ⟨ledger₂, hDone, hWithin'.trans hWithin⟩

theorem Represents.timeoutPass {d : Dispatcher} (h : d.store.Represents ledger) (ctx : TimeoutContext) :
    ∃ ledger', (clientTimeoutPass ctx d).store.Represents ledger' ∧ ledger'.Within ledger := by
  unfold clientTimeoutPass
  generalize clientRequestTableExpired d.store.requests ctx.expiredOrder ctx.now = expired
  induction expired generalizing d ledger with
  | nil => exact ⟨ledger, h, .refl ledger⟩
  | cons rid rest ih =>
    obtain ⟨ledger', hRest, hWithin⟩ := ih (h.timeoutRequest ctx rid)
    exact ⟨ledger', hRest, hWithin.trans (ledger.forget_within rid)⟩

end RequestStore

/-! ## The ledger of a run -/

/-- The store represents a ledger of ids that were used in the run. -/
def StoreRun.Ledgered (s : StoreRun) : Prop :=
  ∃ ledger, s.store.Represents ledger ∧ ∀ rid, ledger rid ≠ none → rid ∈ s.used

theorem StoreRun.ledgered_of_within {s s' : StoreRun} {ledger : Ledger}
    (hUsed : ∀ rid, ledger rid ≠ none → rid ∈ s.used) (hKept : s'.used = s.used)
    (h : ∃ ledger', s'.store.Represents ledger' ∧ ledger'.Within ledger) : s'.Ledgered := by
  obtain ⟨ledger', hRep, hWithin⟩ := h
  refine ⟨ledger', hRep, fun rid hRid => ?_⟩
  rw [hKept]
  rcases hWithin rid with hNone | hEq
  · exact absurd hNone hRid
  · exact hUsed rid (hEq ▸ hRid)

theorem StoreRun.Ledgered.route {s : StoreRun} (h : s.Ledgered) (ctx : RouteContext)
    (uri data : String) (conn : Conn) (hFresh : (StoreEvent.route ctx uri data conn).Fresh s) :
    ((StoreEvent.route ctx uri data conn).effect s).Ledgered := by
  obtain ⟨ledger, hRep, hUsed⟩ := h
  cases hRid : clientServiceRoutedRid ctx uri data with
  | none =>
    refine ⟨ledger, ?_, fun rid hSome => ?_⟩
    · show (clientServiceRoute ctx s.dispatcher uri data conn).store.Represents ledger
      rwa [store_clientServiceRoute_of_none hRid]
    · simpa [StoreEvent.effect, StoreRun.used, hRid] using hUsed rid hSome
  | some rid =>
    obtain ⟨proxyName, serviceName, payload, timeout, hStore⟩ :=
      store_clientServiceRoute_of_some hRid s.dispatcher conn
    have hNone : ledger rid = none := by
      by_contra hSome
      exact hFresh rid hRid (hUsed rid hSome)
    refine ⟨ledger.record rid ⟨some conn, proxyName⟩, ?_, fun other hOther => ?_⟩
    · show (clientServiceRoute ctx s.dispatcher uri data conn).store.Represents _
      rw [hStore]
      exact hRep.saveRequest _ _ _ _ _ _ _ _ hNone
    · rw [Ledger.record_apply] at hOther
      by_cases hEq : other = rid
      · simp [StoreEvent.effect, StoreRun.used, hRid, hEq]
      · rw [if_neg hEq] at hOther
        have hMem := hUsed other hOther
        simp only [StoreRun.used, List.mem_append] at hMem
        simp only [StoreEvent.effect, StoreRun.used, List.map_append, List.mem_append]
        exact hMem.imp_left .inl

theorem StoreRun.Ledgered.dropConn {s : StoreRun} (h : s.Ledgered) (ctx : DropConnContext)
    (conn : Conn) (hFresh : (StoreEvent.dropConn ctx conn).Fresh s) :
    ((StoreEvent.dropConn ctx conn).effect s).Ledgered := by
  obtain ⟨ledger, hRep, hUsed⟩ := h
  obtain ⟨hNodup, hNew⟩ := hFresh
  have hNone : ∀ rid ∈ dropConnDrawn ctx s.store conn, ledger rid = none := by
    intro rid hRid
    by_contra hSome
    exact hNew rid hRid (hUsed rid hSome)
  obtain ⟨ledger', hRep', hKeys⟩ := hRep.dropConn ctx conn hNodup hNone
  refine ⟨ledger', hRep', fun rid hRid => ?_⟩
  have hUsed' : rid ∈ s.used ++ dropConnDrawn ctx s.store conn :=
    List.mem_append.mpr ((hKeys rid hRid).imp_left (hUsed rid))
  simpa [StoreEvent.effect, StoreRun.used, or_assoc] using hUsed'

theorem StoreRun.Ledgered.effect {s : StoreRun} (h : s.Ledgered) (e : StoreEvent)
    (hGuard : e.guard s) (hFresh : e.Fresh s) : (e.effect s).Ledgered := by
  cases e with
  | route ctx uri data conn => exact h.route ctx uri data conn hFresh
  | dropConn ctx conn => exact h.dropConn ctx conn hFresh
  | answer ctx proxyName posted =>
    obtain ⟨ledger, hRep, hUsed⟩ := h
    obtain ⟨⟨state, d'⟩, hExchange⟩ := Option.isSome_iff_exists.mp hGuard
    refine ledgered_of_within hUsed rfl ?_
    show ∃ ledger', RequestStore.Represents (((proxySubscribeExchange ctx s.dispatcher proxyName
      posted).map Prod.snd).getD s.dispatcher).store ledger' ∧ _
    rw [hExchange]
    exact hRep.exchange hFresh hExchange
  | timeoutPass ctx =>
    obtain ⟨ledger, hRep, hUsed⟩ := h
    exact ledgered_of_within hUsed rfl (hRep.timeoutPass ctx)
  | requestSent proxyName rid =>
    obtain ⟨ledger, hRep, hUsed⟩ := h
    exact ⟨ledger, hRep.ofListedUnder (listedUnder_clientProxynameTableRequestSent _ _ · _ ·), hUsed⟩
  | requestUnsent proxyName =>
    obtain ⟨ledger, hRep, hUsed⟩ := h
    exact ⟨ledger, hRep.ofListedUnder (listedUnder_clientProxynameTableRequestUnsent _ _), hUsed⟩

theorem ledgered_of_reachable {s : StoreRun} (h : storeSystem.ReachableWhen (fun s e => e.Fresh s) s) :
    s.Ledgered := by
  refine h.invariant _ ?_ fun s e hs hGuard hFresh => hs.effect e hGuard hFresh
  rintro s rfl
  exact ⟨_, RequestStore.represents_empty, fun _ hSome => absurd rfl hSome⟩

/-- What the four tables say about one another. -/
structure RequestStore.Agreement (store : RequestStore) : Prop where
  requests_iff : ∀ rid, (∃ ctx, store.requests.lookup rid = some ctx) ↔
    ∃! conn, ListedIn store.connections conn rid
  owner : ∀ rid conn, ListedIn store.connections conn rid ↔
    ∃ ctx, store.requests.lookup rid = some ctx ∧ ctx.conn = conn
  service : ∀ rid ctx, store.requests.lookup rid = some ctx →
    ∃ text, store.services.lookup rid = some text
  proxynames_iff : ∀ rid, (∃ text, store.services.lookup rid = some text) ↔
    ∃ proxyName, ListedUnder store.proxynames proxyName rid
  proxyname_unique : ∀ rid m n, ListedUnder store.proxynames m rid →
    ListedUnder store.proxynames n rid → m = n

theorem RequestStore.Represents.agreement {store : RequestStore} {ledger : Ledger}
    (h : store.Represents ledger) : store.Agreement := by
  have hOwner : ∀ rid conn, ListedIn store.connections conn rid ↔
      ∃ ctx, store.requests.lookup rid = some ctx ∧ ctx.conn = conn := by
    intro rid conn
    rw [h.connections, ← h.requests, Option.map_eq_some_iff]
  refine ⟨fun rid => ⟨?_, ?_⟩, hOwner, ?_, ?_, h.unique⟩
  · rintro ⟨ctx, hCtx⟩
    refine ⟨ctx.conn, (hOwner rid ctx.conn).mpr ⟨ctx, hCtx, rfl⟩, fun conn hListed => ?_⟩
    obtain ⟨ctx', hCtx', rfl⟩ := (hOwner rid conn).mp hListed
    rw [hCtx, Option.some.injEq] at hCtx'
    rw [hCtx']
  · rintro ⟨conn, hListed, -⟩
    obtain ⟨ctx, hCtx, -⟩ := (hOwner rid conn).mp hListed
    exact ⟨ctx, hCtx⟩
  · intro rid ctx hCtx
    apply (h.services rid).mpr
    intro hNone
    have hConn := h.requests rid
    rw [hCtx, Ledger.owner_eq_none hNone] at hConn
    cases hConn
  · intro rid
    rw [h.services]
    simp only [h.proxynames]
    rw [← Option.isSome_iff_exists, Ledger.proxyName, Option.isSome_map, Option.isSome_iff_ne_none]

/-- The tables of the request store agree after every run of completed operations. -/
theorem requestStore_agreement {s : StoreRun}
    (h : storeSystem.ReachableWhen (fun s e => e.Fresh s) s) : s.store.Agreement := by
  obtain ⟨ledger, hRep, -⟩ := ledgered_of_reachable h
  exact hRep.agreement

/-- A client sends two requests, the first is handed to the proxy, and the connection closes. -/
def sampleRun : List StoreEvent :=
  [.route (sampleRouteContext (sampleRequest "r1" "weather" "today") 100) "/gonggo"
      (printUnformatted (sampleRequest "r1" "weather" "today")) 1,
    .route (sampleRouteContext (sampleRequest "r2" "weather" "today") 101) "/gonggo"
      (printUnformatted (sampleRequest "r2" "weather" "today")) 2,
    .requestSent "weather" "r1",
    .dropConn (sampleDropConnContext "u") 1]

theorem sampleRun_admitted :
    storeSystem.Admits (fun s e => e.Fresh s) ⟨Dispatcher.empty, [], []⟩ sampleRun := by
  refine ⟨trivial, ?_, trivial, ?_, trivial, trivial, trivial, ?_, trivial⟩
  · intro rid _
    exact List.not_mem_nil
  · intro rid hRid
    have hRouted : clientServiceRoutedRid (sampleRouteContext (sampleRequest "r2" "weather" "today") 101)
        "/gonggo" (printUnformatted (sampleRequest "r2" "weather" "today")) = some "r2" := by decide
    rw [hRouted, Option.some.injEq] at hRid
    subst hRid
    decide
  · unfold StoreEvent.Fresh
    decide

theorem requestStore_agreement_sampleRun :
    (storeSystem.run ⟨Dispatcher.empty, [], []⟩ sampleRun).store.services.keys = ["u0", "r2"] ∧
      (storeSystem.run ⟨Dispatcher.empty, [], []⟩ sampleRun).store.Agreement :=
  ⟨by decide, requestStore_agreement (.run (.init rfl) sampleRun sampleRun_admitted)⟩

end Gonggo
